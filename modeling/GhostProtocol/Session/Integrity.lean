import GhostProtocol.Relay.Frames
import GhostProtocol.Session.Delivery
import GhostProtocol.Session.HalfClose
import Mathlib.Data.Set.Basic

/-!
# Integrity on an active network

An attacker who cannot forge ciphertexts still chooses which sealed frames
arrive, in what order and how often.  Both ends act on the frames that arrive
and bind no position to them, so what an end writes consists of payloads
sealed under the key of the user, in the order of arrival.  It is a prefix of
the stream of this session when the frames of this session arrive in order.
-/

namespace GhostProtocol
namespace Session

open Foundation Foundation.AsyncTask Common Crypto Relay

/-- A frame that some end of a tunnel has sealed with a cipher, in whichever
session and direction. -/
structure SealedFrame (cipher : GhostCipher) where
  sealing : Sealing
  sameCipher : sealing.cipher = cipher
  draw : Draw sealing.maxPaddingLen.toNat
  target : TargetAddr
  wire : target.IsWire
  payload : Bytes
  fits : payload.length ≤ READ_BUF_LEN
  blob : Bytes
  sealed : sealing.sealFrame draw target payload = .ok blob

/-- The receiver finds the payload in a sealed frame, and its length fits 16
bits. -/
theorem SealedFrame.opens
    {cipher : GhostCipher}
    (lawful : cipher.aead.Lawful)
    (record : SealedFrame cipher) :
    record.blob.length < 65536 ∧
      ∃ frame, openFrame cipher record.blob = some frame ∧
        frame.payload = record.payload := by
  obtain ⟨sealing, rfl, draw, target, wire, payload, fits, blob, sealed⟩ :=
    record
  obtain ⟨encrypted, same, short, opened⟩ :=
    sealing.sealFrame_spec lawful draw wire fits
  rw [sealed] at same
  obtain rfl := Except.ok.inj same
  exact ⟨short, _, opened, sealing.frame_payload _ _ _⟩

/-- The cipher is ideal on what has arrived: a frame decrypts only if it is one
of the sealed frames of the log. -/
def NoForgery
    {cipher : GhostCipher}
    (log : Set (SealedFrame cipher))
    (arrived : Bytes) : Prop :=
  ∀ (blobs : List Bytes) (blob rest plaintext : Bytes),
    (∀ earlier ∈ blobs, earlier.length < 65536) → blob.length < 65536 →
    arrived = blobs.flatMap frameBytes ++ (frameBytes blob ++ rest) →
    cipher.decrypt blob = .ok plaintext →
    ∃ record ∈ log, record.blob = blob

/-- What has been written consists of payloads of the log, in the order in
which their frames stand in front of what has arrived. -/
def Authentic
    {cipher : GhostCipher}
    (log : Set (SealedFrame cipher))
    (arrived written : Bytes) : Prop :=
  ∃ records : List (SealedFrame cipher),
    (∀ record ∈ records, record ∈ log) ∧
      records.flatMap (fun record => frameBytes record.blob) <+: arrived ∧
      written <+: records.flatMap SealedFrame.payload

/-- Frames on an ideal cipher that open are sealed frames of the log. -/
theorem exists_records
    {cipher : GhostCipher}
    (lawful : cipher.aead.Lawful)
    {log : Set (SealedFrame cipher)}
    {arrived : Bytes}
    (ideal : NoForgery log arrived)
    (earlier : List Bytes)
    (earlierFit : ∀ blob ∈ earlier, blob.length < 65536)
    {frames : List (Bytes × GhostFrame)}
    (opens : ∀ entry ∈ frames, entry.1.length < 65536 ∧
      openFrame cipher entry.1 = some entry.2)
    {rest : Bytes}
    (bytes : arrived = earlier.flatMap frameBytes ++
      (frames.flatMap (fun entry => frameBytes entry.1) ++ rest)) :
    ∃ records : List (SealedFrame cipher),
      (∀ record ∈ records, record ∈ log) ∧
        records.flatMap (fun record => frameBytes record.blob) =
          frames.flatMap (fun entry => frameBytes entry.1) ∧
        records.flatMap SealedFrame.payload =
          frames.flatMap fun entry => entry.2.payload := by
  induction frames generalizing earlier with
  | nil =>
      refine ⟨[], ?_, rfl, rfl⟩
      intro record member
      cases member
  | cons entry frames inductionHypothesis =>
      obtain ⟨fits, opened⟩ := opens entry List.mem_cons_self
      obtain ⟨plaintext, decrypted, _⟩ := openFrame_eq_some opened
      rw [List.flatMap_cons, List.append_assoc] at bytes
      obtain ⟨record, logged, same⟩ :=
        ideal earlier entry.1 _ plaintext earlierFit fits bytes decrypted
      obtain ⟨_, frame, recordOpened, payload⟩ := record.opens lawful
      rw [same, opened] at recordOpened
      obtain rfl := Option.some.inj recordOpened
      obtain ⟨records, allLogged, blobs, payloads⟩ :=
        inductionHypothesis (earlier ++ [entry.1])
          (by
            intro blob member
            rcases List.mem_append.mp member with old | new
            · exact earlierFit blob old
            · rw [List.mem_singleton.mp new]
              exact fits)
          (fun other member => opens other (List.mem_cons_of_mem entry member))
          (by
            rw [bytes, List.flatMap_append, List.flatMap_singleton,
              List.append_assoc])
      refine ⟨record :: records, ?_, ?_, ?_⟩
      · intro other member
        rcases List.mem_cons.mp member with rfl | member
        · exact logged
        · exact allLogged other member
      · rw [List.flatMap_cons, List.flatMap_cons, blobs, same]
      · rw [List.flatMap_cons, List.flatMap_cons, payloads, payload]

/-- A receiving loop on an ideal cipher writes payloads of the log. -/
theorem authentic_of_run
    {cipher : GhostCipher}
    (lawful : cipher.aead.Lawful)
    {log : Set (SealedFrame cipher)}
    {arrived : Bytes}
    (ideal : NoForgery log arrived)
    {closed : Bool}
    {events : List Event}
    {receiver : TaskState ReceivePoint}
    (received : Run.run (step (receiveLoop cipher))
      (TaskState.start .length arrived closed) events = some receiver) :
    Authentic log arrived receiver.written := by
  obtain ⟨frames, rest, opens, bytes, delivered⟩ :=
    deliver_eq_frames cipher arrived
  obtain ⟨records, logged, blobs, payloads⟩ := exists_records lawful ideal []
    (fun blob member => (List.not_mem_nil member).elim) opens bytes
  refine ⟨records, logged, ?_, ?_⟩
  · rw [blobs, bytes]
    exact List.prefix_append _ _
  · have soFar := written_prefix_of_run (receiveLoop_predicts cipher) received
    rw [payloads, ← delivered]
    exact (List.prefix_append _ _).trans soFar

/-- Every rearrangement of sealed frames of the log leaves the cipher ideal. -/
theorem noForgery_of_records
    {cipher : GhostCipher}
    (lawful : cipher.aead.Lawful)
    {log : Set (SealedFrame cipher)}
    (records : List (SealedFrame cipher))
    (logged : ∀ record ∈ records, record ∈ log) :
    NoForgery log (records.flatMap fun record => frameBytes record.blob) := by
  intro blobs blob rest plaintext blobsFit fits arrived _
  induction records generalizing blobs with
  | nil =>
      cases blobs with
      | nil => cases arrived
      | cons first others => cases arrived
  | cons record records inductionHypothesis =>
      obtain ⟨recordFits, _⟩ := record.opens lawful
      rw [List.flatMap_cons] at arrived
      cases blobs with
      | nil =>
          obtain ⟨same, _⟩ := frameBytes_append_inj recordFits fits arrived
          exact ⟨record, logged record List.mem_cons_self, same⟩
      | cons first others =>
          rw [List.flatMap_cons, List.append_assoc] at arrived
          obtain ⟨_, following⟩ := frameBytes_append_inj recordFits
            (blobsFit first List.mem_cons_self) arrived
          exact inductionHypothesis
            (fun other member =>
              logged other (List.mem_cons_of_mem record member))
            others
            (fun other member =>
              blobsFit other (List.mem_cons_of_mem first member))
            following

/-- Any payload can be sealed. -/
theorem exists_sealedFrame
    (sealing : Sealing)
    (lawful : sealing.cipher.aead.Lawful)
    (draw : Draw sealing.maxPaddingLen.toNat)
    {payload : Bytes}
    (fits : payload.length ≤ READ_BUF_LEN) :
    ∃ record : SealedFrame sealing.cipher, record.payload = payload := by
  obtain ⟨blob, sealed, _, _⟩ := sealing.sealFrame_spec lawful draw
    (show TargetAddr.IsWire .none from trivial) fits
  exact ⟨{
    sealing
    sameCipher := rfl
    draw
    target := .none
    wire := trivial
    payload
    fits
    blob
    sealed }, rfl⟩

/-- Sealed frames open to frames with their payloads. -/
theorem exists_frames
    {cipher : GhostCipher}
    (lawful : cipher.aead.Lawful)
    (records : List (SealedFrame cipher)) :
    ∃ frames : List (Bytes × GhostFrame),
      (∀ entry ∈ frames, entry.1.length < 65536 ∧
        openFrame cipher entry.1 = some entry.2) ∧
      frames.flatMap (fun entry => frameBytes entry.1) =
        records.flatMap (fun record => frameBytes record.blob) ∧
      frames.flatMap (fun entry => entry.2.payload) =
        records.flatMap SealedFrame.payload := by
  induction records with
  | nil =>
      refine ⟨[], ?_, rfl, rfl⟩
      intro entry member
      cases member
  | cons record records inductionHypothesis =>
      obtain ⟨fits, frame, opened, payload⟩ := record.opens lawful
      obtain ⟨frames, opens, bytes, payloads⟩ := inductionHypothesis
      refine ⟨(record.blob, frame) :: frames, ?_, ?_, ?_⟩
      · intro entry member
        rcases List.mem_cons.mp member with rfl | member
        · exact ⟨fits, opened⟩
        · exact opens entry member
      · rw [List.flatMap_cons, List.flatMap_cons, bytes]
      · rw [List.flatMap_cons, List.flatMap_cons, payloads, payload]

/-- Whatever pieces the client sends, the network can deliver any sealed frames
in their place, and the server writes the payloads of these. -/
theorem exists_rearranged
    (sealing : Sealing)
    (lawful : sealing.cipher.aead.Lawful)
    {config : ServerConfig}
    {session : Server.Session}
    (shared : session.cipher = sealing.cipher)
    (clientDraws : sealing.Draws)
    (serverDraws : (Server.sealingOf config session).Draws)
    {chunks : List Bytes}
    (fit : ∀ chunk ∈ chunks, chunk ≠ [] ∧ chunk.length ≤ READ_BUF_LEN)
    (records : List (SealedFrame sealing.cipher))
    (fromTarget : Bytes) :
    ∃ relays : Relays sealing config session chunks.flatten fromTarget,
      relays.client.left.written = sentBytes sealing clientDraws 0 chunks ∧
        relays.fromClient =
          records.flatMap (fun record => frameBytes record.blob) ∧
        relays.fromServer = [] ∧
        relays.server.left.written = records.flatMap SealedFrame.payload := by
  obtain ⟨sendEvents, _, -, sent⟩ :=
    run_send_chunks lawful clientDraws 0 fit [] false []
  obtain ⟨frames, opens, bytes, payloads⟩ := exists_frames lawful records
  obtain ⟨receiveEvents, _, received⟩ := run_receive_frames opens [] false []
  rw [List.append_nil, ← shared] at received
  rw [List.append_nil] at sent
  generalize frames.flatMap (fun entry => frameBytes entry.1) = arrived
    at received bytes
  refine ⟨{
    clientDraws
    serverDraws
    fromClient := arrived
    fromServer := []
    applicationClosed := false
    targetClosed := false
    clientClosed := false
    serverClosed := false
    clientEvents := sendEvents.map .left
    serverEvents := receiveEvents.map .left
    client := _
    server := _
    clientRun := run_stepSelect_left rfl sent
    serverRun := run_stepSelect_left rfl received },
    List.nil_append _, bytes, rfl, (List.nil_append _).trans payloads⟩

/-- On an active network each end writes payloads sealed under the key of the
user, in the order in which they arrive, and a prefix of the stream of this
session if a prefix of its frames arrives. -/
theorem relays_authentic
    {sealing : Sealing}
    (lawful : sealing.cipher.aead.Lawful)
    {config : ServerConfig}
    {session : Server.Session}
    (shared : session.cipher = sealing.cipher)
    {application fromTarget : Bytes}
    (relays : Relays sealing config session application fromTarget)
    (log : Set (SealedFrame sealing.cipher))
    (clientIdeal : NoForgery log relays.fromClient)
    (serverIdeal : NoForgery log relays.fromServer) :
    Authentic log relays.fromClient relays.server.left.written ∧
      Authentic log relays.fromServer relays.client.right.written ∧
      (relays.fromClient <+: relays.client.left.written →
        relays.server.left.written <+: application) ∧
      (relays.fromServer <+: relays.server.right.written →
        relays.client.right.written <+: fromTarget) := by
  obtain ⟨clientSends, clientReceives⟩ :=
    runs_of_run_stepSelect relays.clientRun
  obtain ⟨serverReceives, serverSends⟩ :=
    runs_of_run_stepSelect relays.serverRun
  rw [Server.upload, shared] at serverReceives
  have serverLawful :
      (Server.sealingOf config session).cipher.aead.Lawful := by
    change session.cipher.aead.Lawful
    rw [shared]
    exact lawful
  have clientReceives' := clientReceives
  rw [Client.download, ← shared] at clientReceives'
  refine ⟨authentic_of_run lawful clientIdeal serverReceives,
    authentic_of_run lawful serverIdeal clientReceives, ?_, ?_⟩
  · intro arrives
    exact (received_of_sent lawful clientSends serverReceives arrives).1
  · intro arrives
    exact (received_of_sent serverLawful serverSends clientReceives'
      arrives).1

/-- A frame of the session that arrives twice is written twice. -/
theorem relays_authentic_replayed :
    ∃ (log : Set (SealedFrame defaultSession.cipher))
      (relays : Relays
        (Server.sealingOf ServerConfig.default defaultSession)
        ServerConfig.default defaultSession [[1]].flatten []),
      relays.server.left.written = [1, 1] ∧
        Authentic log relays.fromClient relays.server.left.written := by
  obtain ⟨record, payload⟩ := exists_sealedFrame
    (Server.sealingOf ServerConfig.default defaultSession)
    Provider.standard_lawful (zeroDraws _ 0)
    (show [1].length ≤ READ_BUF_LEN by decide)
  obtain ⟨relays, _, arrived, nothing, written⟩ := exists_rearranged
    (Server.sealingOf ServerConfig.default defaultSession)
    Provider.standard_lawful
    (rfl : defaultSession.cipher =
      (Server.sealingOf ServerConfig.default defaultSession).cipher)
    (zeroDraws _) (zeroDraws _)
    (show ∀ chunk ∈ [[1]], chunk ≠ [] ∧ chunk.length ≤ READ_BUF_LEN by decide)
    [record, record] []
  refine ⟨{record}, relays, ?_, ?_⟩
  · rw [written, List.flatMap_cons, List.flatMap_cons, payload]
    rfl
  · refine (relays_authentic Provider.standard_lawful rfl relays {record}
      ?_ ?_).1
    · rw [arrived]
      refine noForgery_of_records Provider.standard_lawful _ ?_
      intro other member
      rcases List.mem_cons.mp member with rfl | member
      · rfl
      · exact List.mem_singleton.mp member
    · rw [nothing]
      refine noForgery_of_records Provider.standard_lawful [] ?_
      intro other member
      cases member

/-- Not every rearrangement of sealed frames leaves a prefix of the stream. -/
theorem not_prefix_of_rearranged :
    ¬ ∀ (application : Bytes)
      (relays : Relays
        (Server.sealingOf ServerConfig.default defaultSession)
        ServerConfig.default defaultSession application [])
      (records : List (SealedFrame defaultSession.cipher)),
      relays.fromClient =
          records.flatMap (fun record => frameBytes record.blob) →
        relays.server.left.written <+: application := by
  intro isPrefix
  obtain ⟨record, payload⟩ := exists_sealedFrame
    (Server.sealingOf ServerConfig.default defaultSession)
    Provider.standard_lawful (zeroDraws _ 0)
    (show [1].length ≤ READ_BUF_LEN by decide)
  obtain ⟨relays, _, arrived, _, written⟩ := exists_rearranged
    (Server.sealingOf ServerConfig.default defaultSession)
    Provider.standard_lawful
    (rfl : defaultSession.cipher =
      (Server.sealingOf ServerConfig.default defaultSession).cipher)
    (zeroDraws _) (zeroDraws _)
    (show ∀ chunk ∈ [[1]], chunk ≠ [] ∧ chunk.length ≤ READ_BUF_LEN by decide)
    [record, record] []
  have short := (isPrefix _ relays [record, record] arrived).length_le
  rw [written, List.flatMap_cons, List.flatMap_cons, payload] at short
  revert short
  decide

end Session
end GhostProtocol
