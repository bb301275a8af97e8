import GhostProtocol.Client.UserId
import GhostProtocol.Server.Handler

/-!
# The user check

The client sends the 16 bytes its user id parses to, and the server looks up
the lower-case hexadecimal text of the bytes it receives.  A configured id
that is not spelled in that form is therefore never found, even when client
and server are configured with the same text.
-/

namespace GhostProtocol
namespace Session

open Foundation Common

/-- The server accepts a client that sends the bytes of the user id, whatever
follows and in whatever segments it arrives. -/
def PassesUserCheck
    (config : ServerConfig)
    (userId : UserId) : Prop :=
  ∀ (world : Server.World) (rest : Bytes),
    world.client.unread = userId.toList ++ rest →
    ∃ client, (Server.authorizeUser (.ofConfig config)).exec world =
      (.ok userId, { world with client })

/-- The check is a look-up of the hexadecimal text of the id. -/
theorem passesUserCheck_iff_hexEncode
    (config : ServerConfig)
    (userId : UserId) :
    PassesUserCheck config userId ↔
      Server.hexEncode userId.toList ∈ config.allowedUsers := by
  rw [← List.mem_toFinset]
  constructor
  · intro passes
    obtain ⟨client, accepted⟩ := passes
      (.start (Stream.ofSegments [userId.toList])) [] rfl
    rcases Server.authorizeUser_cases (.ofConfig config)
        (.start (Stream.ofSegments [userId.toList])) with
      ⟨fault, after, refused⟩ | ⟨other, after, ran, allowed, _⟩
    · rw [refused] at accepted
      cases accepted
    · rw [ran] at accepted
      obtain ⟨sameId, -⟩ := Prod.mk.inj accepted
      rw [← Except.ok.inj sameId]
      exact allowed
  · intro allowed world rest unread
    have known : Server.hexEncode userId.toList ∈
        (Server.ServerState.ofConfig config).allowedUsers := allowed
    obtain ⟨client, accepted, _⟩ := Server.authorizeUser_of_append known unread
    exact ⟨client, accepted⟩

/-- A client whose user id is spelled `spelling` passes exactly when the
canonical spelling is on the list of the server. -/
theorem passesUserCheck_iff
    {spelling : String}
    {userId : UserId}
    (parsed : Client.parseUserId spelling = .ok userId)
    (config : ServerConfig) :
    PassesUserCheck config userId ↔
      Client.canonicalSpelling spelling ∈ config.allowedUsers := by
  rw [passesUserCheck_iff_hexEncode, ← Client.hexEncode_of_parseUserId parsed]
  rfl

/-- The id of an upper-case UUID. -/
theorem passesUserCheck_iff_upperCase :
    PassesUserCheck
        { ServerConfig.default with
          allowedUsers := ["0000000a00000000000000000000000b"] }
        ⟨[0, 0, 0, 10, 0, 0, 0, 0, 0, 0, 0, 0, 0, 0, 0, 11], rfl⟩ ↔
      Client.canonicalSpelling "0000000A-0000-0000-0000-00000000000B" ∈
        ["0000000a00000000000000000000000b"] :=
  passesUserCheck_iff rfl _

/-- The same upper-case UUID in both configurations is refused. -/
theorem upperCase_not_passesUserCheck :
    ¬ ∀ (spelling : String) (userId : UserId) (config : ServerConfig),
      Client.parseUserId spelling = .ok userId →
      spelling ∈ config.allowedUsers →
      PassesUserCheck config userId := by
  intro complete
  have passes := complete "0000000A-0000-0000-0000-00000000000B"
    ⟨[0, 0, 0, 10, 0, 0, 0, 0, 0, 0, 0, 0, 0, 0, 0, 11], rfl⟩
    { ServerConfig.default with
      allowedUsers := ["0000000A-0000-0000-0000-00000000000B"] }
    rfl List.mem_cons_self
  have found := (passesUserCheck_iff_hexEncode _ _).mp passes
  revert found
  decide

end Session
end GhostProtocol
