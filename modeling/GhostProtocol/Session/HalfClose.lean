import GhostProtocol.Client.Tunnel
import GhostProtocol.Crypto.Standard
import GhostProtocol.Relay.Frames
import GhostProtocol.Server.Handler

/-!
# Half-closed tunnels

Both ends of a tunnel join their two loops by a select, so the first end of a
stream completes the relay.  A relay that completes has lost nothing when it
notices the end of one input only after the other direction has ended; in any
other order the opposite direction is cut off.
-/

namespace GhostProtocol
namespace Session

open Foundation Foundation.AsyncTask Common Crypto Relay

/-- Both inputs of a relay have ended, and everything read from either has been
written: the payloads of the frames received, and frames that deliver the
plain input. -/
structure Complete
    (cipher : GhostCipher)
    (frames : List (Bytes × GhostFrame))
    (input : Bytes)
    (receiver : TaskState ReceivePoint)
    (sender : TaskState SendPoint) : Prop where
  receiverClosed : receiver.closed = true
  receiverDrained : receiver.unread = []
  senderClosed : sender.closed = true
  senderDrained : sender.unread = []
  received : receiver.written = frames.flatMap fun entry => entry.2.payload
  sent : deliver cipher sender.written = input

/-- Two loops that have ended after runs without I/O errors are complete. -/
theorem complete_of_ended
    (sealing : Sealing)
    (lawful : sealing.cipher.aead.Lawful)
    {draws : sealing.Draws}
    {arrived input : Bytes}
    {frames : List (Bytes × GhostFrame)}
    (framed : Framed sealing.cipher arrived frames)
    {arrivedClosed inputClosed : Bool}
    {receiveEvents sendEvents : List Event}
    {receiver : TaskState ReceivePoint}
    {sender : TaskState SendPoint}
    (receiveClean : Event.fail ∉ receiveEvents)
    (sendClean : Event.fail ∉ sendEvents)
    (received : Run.run (step (receiveLoop sealing.cipher))
      (TaskState.start .length arrived arrivedClosed) receiveEvents =
        some receiver)
    (sent : Run.run (step (sendLoop sealing draws))
      (TaskState.start (.read 0) input inputClosed) sendEvents = some sender)
    (receiverEnded : Ended (receiveLoop sealing.cipher) receiver)
    (senderEnded : Ended (sendLoop sealing draws) sender) :
    Complete sealing.cipher frames input receiver sender where
  receiverClosed := receiverEnded.1
  receiverDrained := receiverEnded.2.1
  senderClosed := senderEnded.1
  senderDrained := senderEnded.2.1
  received := by
    rw [← framed.deliver]
    exact written_of_settled (receiveLoop_predicts sealing.cipher)
      receiveClean received receiverEnded.2
  sent := (deliver_written_of_run lawful sent).2 sendClean senderEnded.2

/-- Every relay of the server that completes, in a run whose steps meet
`guard` and in which every frame received opens, has lost nothing. -/
def ServerCompletes
    (config : ServerConfig)
    (session : Server.Session)
    (draws : (Server.sealingOf config session).Draws)
    (guard : Server.RelayState → JoinedEvent → Prop) : Prop :=
  ∀ (fromClient fromTarget : Bytes) (frames : List (Bytes × GhostFrame))
    (clientClosed targetClosed : Bool) (events : List JoinedEvent)
    (final : Server.RelayState),
    Framed session.cipher fromClient frames →
    Run.Guarded (Server.relayStep config session draws) guard
      (Server.relayStart fromClient fromTarget clientClosed targetClosed)
      events →
    Run.run (Server.relayStep config session draws)
        (Server.relayStart fromClient fromTarget clientClosed targetClosed)
        events = some final →
    final.isFinished (Server.upload session)
      (Server.download config session draws) = true →
    Complete session.cipher frames fromTarget final.left final.right

/-- Every relay of the client that completes, in a run whose steps meet
`guard` and in which every frame received opens, has lost nothing. -/
def ClientCompletes
    (sealing : Sealing)
    (draws : sealing.Draws)
    (guard : Client.RelayState → JoinedEvent → Prop) : Prop :=
  ∀ (application fromServer : Bytes) (frames : List (Bytes × GhostFrame))
    (applicationClosed serverClosed : Bool) (events : List JoinedEvent)
    (final : Client.RelayState),
    Framed sealing.cipher fromServer frames →
    Run.Guarded (Client.relayStep sealing draws) guard
      (Client.relayStart application fromServer applicationClosed serverClosed)
      events →
    Run.run (Client.relayStep sealing draws)
        (Client.relayStart application fromServer applicationClosed
          serverClosed) events = some final →
    final.isFinished (Client.upload sealing draws)
      (Client.download sealing) = true →
    Complete sealing.cipher frames application final.right final.left

/-- A relay that completes has lost nothing, if no operation fails and it
notices the end of one input only after the other direction has ended. -/
theorem relays_complete
    (config : ServerConfig)
    (session : Server.Session)
    (sessionLawful : session.cipher.aead.Lawful)
    (serverDraws : (Server.sealingOf config session).Draws)
    (sealing : Sealing)
    (sealingLawful : sealing.cipher.aead.Lawful)
    (clientDraws : sealing.Draws) :
    ServerCompletes config session serverDraws
        (EofLast (Server.upload session)
          (Server.download config session serverDraws)) ∧
      ClientCompletes sealing clientDraws
        (EofLast (Client.upload sealing clientDraws)
          (Client.download sealing)) := by
  constructor
  · intro fromClient fromTarget frames clientClosed targetClosed events final
      framed guarded reached finished
    have clean := Run.forall_of_guarded (fun _ _ guard => guard.1)
      guarded reached
    obtain ⟨leftRun, rightRun⟩ := runs_of_run_stepSelect reached
    obtain ⟨leftEnded, rightEnded⟩ := ended_of_run
      (receiveLoop_finishesAtEof session.cipher)
      (sendLoop_finishesAtEof sessionLawful serverDraws)
      (receiving_start framed clientClosed) trivial rfl guarded reached
      finished
    exact complete_of_ended (Server.sealingOf config session) sessionLawful
      framed (not_mem_filterMap_ofLeft clean)
      (not_mem_filterMap_ofRight clean) leftRun rightRun leftEnded rightEnded
  · intro application fromServer frames applicationClosed serverClosed events
      final framed guarded reached finished
    have clean := Run.forall_of_guarded (fun _ _ guard => guard.1)
      guarded reached
    obtain ⟨leftRun, rightRun⟩ := runs_of_run_stepSelect reached
    obtain ⟨leftEnded, rightEnded⟩ := ended_of_run
      (sendLoop_finishesAtEof sealingLawful clientDraws)
      (receiveLoop_finishesAtEof sealing.cipher) trivial
      (receiving_start framed serverClosed) rfl guarded reached finished
    exact complete_of_ended sealing sealingLawful framed
      (not_mem_filterMap_ofRight clean) (not_mem_filterMap_ofLeft clean)
      rightRun leftRun rightEnded leftEnded

/-- A session of the default user. -/
def defaultSession : Server.Session where
  userId := ⟨[0, 0, 0, 0, 0, 0, 0, 0, 0, 0, 0, 0, 0, 0, 0, 1], rfl⟩
  cipher := Server.cipherOf Provider.standard
    ⟨[0, 0, 0, 0, 0, 0, 0, 0, 0, 0, 0, 0, 0, 0, 0, 1], rfl⟩
  frame := GhostFrame.new
    ⟨[0, 0, 0, 0, 0, 0, 0, 0, 0, 0, 0, 0, 0, 0, 0, 1], rfl⟩
    (.ipV4 { ip := ⟨[1, 1, 1, 1], rfl⟩, port := 443 }) []
  address := .v4 { ip := ⟨[1, 1, 1, 1], rfl⟩, port := 443 }

/-- Draws of nothing but zeros. -/
def zeroDraws (maxPaddingLen : Nat) : Nat → Draw maxPaddingLen :=
  fun _ =>
    { nonce := ⟨List.replicate 12 0, rfl⟩
      padding := ⟨[], Nat.zero_le _⟩ }

/-- Reading and sending a byte takes a sending loop to the end of its input. -/
theorem exists_run_byte
    {sealing : Sealing}
    (lawful : sealing.cipher.aead.Lawful)
    (draws : sealing.Draws) :
    ∃ events sender, (∀ event ∈ events, event ≠ .fail ∧ event ≠ .eof) ∧
      Run.run (step (sendLoop sealing draws))
        (TaskState.start (.read 0) [7] true) events = some sender ∧
      Ended (sendLoop sealing draws) sender ∧
      (sendLoop sealing draws sender.point).isFinished = false := by
  have fit : ∀ chunk ∈ [([7] : Bytes)],
      chunk ≠ [] ∧ chunk.length ≤ READ_BUF_LEN := by
    decide
  obtain ⟨events, clean, goesOn, sent⟩ :=
    run_send_chunks lawful draws 0 fit [] true []
  exact ⟨events, _, fun event member =>
    ⟨fun same => clean (same ▸ member), fun same => goesOn (same ▸ member)⟩,
    sent, ⟨rfl, rfl, trivial⟩, rfl⟩

/-- The events of a task that only reads and sends meet the guard on the left,
whatever the state is. -/
theorem eofLast_of_left
    {LeftPoint RightPoint : Type}
    {leftProgram : LeftPoint → Await LeftPoint}
    {rightProgram : RightPoint → Await RightPoint}
    {events : List Event}
    (clean : ∀ event ∈ events, event ≠ .fail ∧ event ≠ .eof) :
    ∀ event ∈ events.map JoinedEvent.left, ∀ state,
      EofLast leftProgram rightProgram state event := by
  intro event member state
  obtain ⟨own, isOwn, rfl⟩ := List.mem_map.mp member
  refine ⟨(clean own isOwn).1, fun same => ?_, JoinedEvent.noConfusion⟩
  exact absurd (JoinedEvent.left.inj same) (clean own isOwn).2

/-- The right side of `eofLast_of_left`. -/
theorem eofLast_of_right
    {LeftPoint RightPoint : Type}
    {leftProgram : LeftPoint → Await LeftPoint}
    {rightProgram : RightPoint → Await RightPoint}
    {events : List Event}
    (clean : ∀ event ∈ events, event ≠ .fail ∧ event ≠ .eof) :
    ∀ event ∈ events.map JoinedEvent.right, ∀ state,
      EofLast leftProgram rightProgram state event := by
  intro event member state
  obtain ⟨own, isOwn, rfl⟩ := List.mem_map.mp member
  refine ⟨(clean own isOwn).1, JoinedEvent.noConfusion, fun same => ?_⟩
  exact absurd (JoinedEvent.right.inj same) (clean own isOwn).2

/-- Two relays, one whose target and one whose application sends a byte, before
both of their inputs end. -/
theorem relays_complete_closed :
    ∃ serverSender clientSender : TaskState SendPoint,
      Complete defaultSession.cipher [] [7]
          ((TaskState.start .length [] true).goto .stopped) serverSender ∧
        Complete defaultSession.cipher [] [7]
          ((TaskState.start .length [] true).goto .stopped) clientSender := by
  let draws : (Server.sealingOf ServerConfig.default defaultSession).Draws :=
    zeroDraws _
  have both := relays_complete ServerConfig.default defaultSession
    Provider.standard_lawful draws
    (Server.sealingOf ServerConfig.default defaultSession)
    Provider.standard_lawful draws
  have framed : Framed defaultSession.cipher [] [] :=
    ⟨fun entry member => (List.not_mem_nil member).elim, [], cutShort_nil, rfl⟩
  obtain ⟨events, sender, clean, sent, ended, running⟩ :=
    exists_run_byte Provider.standard_lawful draws
  refine ⟨sender, sender, ?_, ?_⟩
  · have lifted : Run.run (Server.relayStep _ defaultSession draws)
        (Server.relayStart [] [7] true true) (events.map .right) =
          some ⟨TaskState.start .length [] true, sender⟩ :=
      run_stepSelect_right rfl sent
    have last : Server.relayStep _ defaultSession draws
        ⟨TaskState.start .length [] true, sender⟩ (.left .eof) =
          some ⟨(TaskState.start .length [] true).goto .stopped, sender⟩ := by
      refine if_neg fun finished => ?_
      exact Bool.false_ne_true (running.symm.trans finished)
    refine both.1 [] [7] [] true true (events.map .right ++ [.left .eof]) _
      framed (.append (eofLast_of_right clean) lifted ⟨⟨?_, ?_, ?_⟩, ?_⟩)
      ((Run.run_append_eq_some ..).mpr ⟨_, lifted,
        (Run.run_cons_eq_some ..).mpr ⟨_, last, rfl⟩⟩) rfl
    · exact Event.noConfusion
    · exact fun _ => ended
    · exact JoinedEvent.noConfusion
    · exact fun _ _ => trivial
  · have lifted : Run.run (Client.relayStep _ draws)
        (Client.relayStart [7] [] true true) (events.map .left) =
          some ⟨sender, TaskState.start .length [] true⟩ :=
      run_stepSelect_left rfl sent
    have last : Client.relayStep _ draws
        ⟨sender, TaskState.start .length [] true⟩ (.right .eof) =
          some ⟨sender, (TaskState.start .length [] true).goto .stopped⟩ := by
      refine if_neg fun finished => ?_
      rw [Joined.isFinished, Bool.or_eq_true] at finished
      rcases finished with finished | finished
      · exact Bool.false_ne_true (running.symm.trans finished)
      · cases finished
    refine both.2 [7] [] [] true true (events.map .left ++ [.right .eof]) _
      framed (.append (eofLast_of_left clean) lifted ⟨⟨?_, ?_, ?_⟩, ?_⟩)
      ((Run.run_append_eq_some ..).mpr ⟨_, lifted,
        (Run.run_cons_eq_some ..).mpr ⟨_, last, rfl⟩⟩) ?_
    · exact Event.noConfusion
    · exact JoinedEvent.noConfusion
    · exact fun _ => ended
    · exact fun _ _ => trivial
    · rw [Joined.isFinished, Bool.or_eq_true]
      exact .inr rfl

/-- A client that has sent everything cuts off the answer of the target. -/
theorem not_serverCompletes :
    ¬ ServerCompletes ServerConfig.default defaultSession (zeroDraws _)
      fun _ event => event.event ≠ .fail := by
  intro completes
  have framed : Framed defaultSession.cipher [] [] :=
    ⟨fun entry member => (List.not_mem_nil member).elim, [], cutShort_nil, rfl⟩
  have guarded : Run.Guarded
      (Server.relayStep ServerConfig.default defaultSession (zeroDraws _))
      (fun _ event => event.event ≠ .fail)
      (Server.relayStart [] [7] true false) [.left .eof] :=
    ⟨Event.noConfusion, fun _ _ => trivial⟩
  have complete := completes [] [7] [] true false [.left .eof] _ framed
    guarded rfl rfl
  cases complete.senderClosed

end Session
end GhostProtocol
