import GhostProtocol.Client.Handshake

/-!
# What the local proxy answers

Whatever an application sends, the proxy answers with a refusal of its methods,
with the chosen method and a refusal of its command, or with the chosen method
and a success, or with a front of one of them when the connection fails.  It
reports the success before the tunnel is opened, and nothing else of the
handshake is ever written.
-/

namespace GhostProtocol
namespace Client

open Foundation Common

/-- No method of the application is acceptable. -/
def noMethod : Bytes :=
  [0x05, 0xFF]

/-- The method without authentication is chosen. -/
def methodChosen : Bytes :=
  [0x05, 0x00]

/-- The command of the application is not supported. -/
def commandRefused : Bytes :=
  socks5Reply 0x07 (.domain "0.0.0.0" 0)

/-- Filling the buffer writes nothing. -/
theorem writes_readInto (count : Nat) :
    Writes (readInto count) [] := by
  unfold readInto
  split_ifs
  · exact writes_nil_of_keeps (Program.keeps_failWith _ _)
  · exact writes_readExact count

/-- Reading the requested address writes nothing. -/
theorem writes_readTarget (atyp : UInt8) :
    Writes (readTarget atyp) [] := by
  unfold readTarget
  split_ifs
  · exact (writes_readInto 6).bind fun _ => writes_pure _
  · refine (writes_readInto 1).bind fun buf => ?_
    simp only
    split_ifs
    · exact writes_liftOutcome_error _ _
    · refine (writes_readInto _).bind fun name => ?_
      split
      · exact writes_liftOutcome_error _ _
      · exact writes_pure _
  · exact (writes_readInto 18).bind fun _ => writes_pure _
  · exact writes_liftOutcome_error _ _

/-- Once the method is chosen, the proxy refuses the command or reports
success. -/
theorem answers_serveRequest :
    Answers serveRequest [commandRefused] successReply := by
  unfold serveRequest
  refine .after (writes_readInto 4) fun buf =>
    answers_ite (answers_bail _ _ _) (answers_ite ?_ ?_)
  · exact answers_refusal List.mem_cons_self _ _
  · have granted := (writes_readTarget (buf.getD 3 0)).bind fun target =>
      (writes_writeAll successReply).bind fun _ => writes_pure target
    rw [List.nil_append, List.append_nil] at granted
    exact granted.answers _

/-- Every answer of the proxy in the handshake with an application. -/
theorem answers_handleSocks5Client :
    Answers handleSocks5Client [noMethod, methodChosen ++ commandRefused]
      (methodChosen ++ successReply) := by
  unfold handleSocks5Client
  refine .after (writes_readInto 2) fun buf =>
    answers_ite (answers_bail _ _ _) ?_
  refine .after ?_ fun methods => answers_ite
    (answers_refusal List.mem_cons_self _ _) ?_
  · split_ifs
    · exact writes_readInto _
    · exact writes_pure _
  · refine Answers.mono (Answers.bind (writes_writeAll methodChosen) fun _ =>
      answers_serveRequest) ?_
    exact List.subset_cons_self _ _

end Client
end GhostProtocol
