import GhostProtocol.Foundation.Run

/-!
# The connection service of the app

The service runs on one event loop, so what happens between two awaits happens
at once.  A call that awaits something resumes later, whatever other calls and
timers have done by then, and so does a tick of the status poller that awaits
its reply after its timer was cancelled.
-/

namespace GhostProtocol
namespace Flutter

open Foundation

/-- The status of the connection. -/
inductive VpnStatus
  | disconnected
  | connecting
  | connected
  | error
  deriving DecidableEq, Repr

/-- What the service publishes. -/
structure ProxyState where
  status : VpnStatus := .disconnected
  statusText : String := "Disconnected"
  bytesIn : Nat := 0
  bytesOut : Nat := 0
  connectionTime : Option Int := none

/-- Where a call of the service awaits something.  The first await of a call
depends on whether it has to initialize the library itself. -/
inductive AwaitPoint
  | connectInit (initializing : Bool)
  | prepare
  | startRelizProxy
  | start
  | undoStart
  | disconnectInit (initializing : Bool)
  | stop
  | stopProxy
  | returned
  | threw
  deriving DecidableEq, Repr

/-- How an awaited operation completes. -/
inductive Reply
  | done
  | granted (answer : Bool)
  | code (rc : Int)
  | threw
  deriving DecidableEq, Repr

/-- The state of the service, with the number of status replies awaited and the
calls made so far.  The flag `disconnected` says that a disconnect has completed
and no connect has begun since; no code reads it. -/
structure ProxyService where
  state : ProxyState
  statusPoller : Bool
  sessionTimer : Bool
  connectedAt : Option Int
  rustInitialized : Bool
  polls : Nat
  calls : List AwaitPoint
  disconnected : Bool

namespace ProxyService

/-- A service that has not been called yet. -/
def new (rustInitialized : Bool) : ProxyService where
  state := {}
  statusPoller := false
  sessionTimer := false
  connectedAt := none
  rustInitialized
  polls := 0
  calls := []
  disconnected := false

/-- Publish a state. -/
def update (self : ProxyService) (newState : ProxyState) : ProxyService :=
  { self with state := newState }

/-- The status of a code. -/
def mapStatus (code : Int) : VpnStatus :=
  if code = 1 then .connecting
  else if code = 2 then .connected
  else if code = 3 then .error
  else .disconnected

/-- The text of a status. -/
def statusText : VpnStatus → String
  | .connecting => "Connecting..."
  | .connected => "Connected"
  | .error => "Error"
  | .disconnected => "Disconnected"

/-- Start the status poller, in the place of an earlier one. -/
def startStatusPolling (self : ProxyService) : ProxyService :=
  { self with statusPoller := true }

/-- Stop the status poller. -/
def stopStatusPolling (self : ProxyService) : ProxyService :=
  { self with statusPoller := false }

/-- Start the session timer, in the place of an earlier one. -/
def startSessionTimer (self : ProxyService) (now : Int) : ProxyService :=
  { self with connectedAt := some now, sessionTimer := true }

/-- Stop the session timer. -/
def stopSessionTimer (self : ProxyService) : ProxyService :=
  { self with sessionTimer := false, connectedAt := none }

/-- A tick of the status poller gets its reply. -/
def pollReply (self : ProxyService) (code now : Int) : ProxyService :=
  let status := mapStatus code
  let self :=
    if status = .connected ∧ self.state.status ≠ .connected
    then self.startSessionTimer now
    else self
  let self := if status ≠ .connected then self.stopSessionTimer else self
  let self := self.update
    { self.state with status, statusText := statusText status }
  if status = .disconnected ∨ status = .error then self.stopStatusPolling
  else self

/-- A tick of the session timer. -/
def sessionTick (self : ProxyService) (now : Int) : ProxyService :=
  match self.connectedAt with
  | none => self
  | some connectedAt =>
      if self.state.status = .connected then
        self.update
          { self.state with connectionTime := some (now - connectedAt) }
      else self

/-- The library is initialized. -/
def initialized (self : ProxyService) (initializing : Bool) : ProxyService :=
  { self with rustInitialized := self.rustInitialized || initializing }

/-- The end of a disconnect. -/
def disconnectDone (self : ProxyService) : ProxyService :=
  let self := self.stopStatusPolling.stopSessionTimer.update
    { status := .disconnected, statusText := "Disconnected" }
  { self with disconnected := true }

/-- A call goes on with what it awaited, up to its next await. -/
def resume
    (self : ProxyService) :
    AwaitPoint → Reply → Option (ProxyService × AwaitPoint)
  | .connectInit initializing, .done =>
      let self := self.initialized initializing
      some (self.update { self.state with
        status := .connecting, statusText := "Connecting..." }, .prepare)
  | .connectInit true, .threw => some (self, .threw)
  | .prepare, .granted true => some (self, .startRelizProxy)
  | .prepare, .granted false =>
      some (self.update
        { status := .error, statusText := "VPN permission denied" }, .returned)
  | .prepare, .threw => some (self, .threw)
  | .startRelizProxy, .code rc =>
      if rc ≠ 0 then
        some (self.update { self.state with
          status := .error
          statusText := "Proxy error (code " ++ toString rc ++ ")" }, .returned)
      else some (self, .start)
  | .startRelizProxy, .threw => some (self, .threw)
  | .start, .done => some (self.startStatusPolling, .returned)
  | .start, .threw => some (self, .undoStart)
  | .undoStart, .code _ =>
      some (self.update { self.state with
        status := .error, statusText := "VPN start failed" }, .returned)
  | .undoStart, .threw => some (self, .threw)
  | .disconnectInit initializing, .done =>
      some (self.initialized initializing, .stop)
  | .disconnectInit true, .threw => some (self, .threw)
  | .stop, .done => some (self, .stopProxy)
  | .stop, .threw => some (self, .stopProxy)
  | .stopProxy, .code _ => some (self.disconnectDone, .returned)
  | .stopProxy, .threw => some (self, .threw)
  | _, _ => none

/-- What happens next. -/
inductive Label
  /-- A connect begins. -/
  | connect
  /-- A disconnect begins. -/
  | disconnect
  /-- What a call awaits completes. -/
  | resume (call : Nat) (reply : Reply)
  /-- A tick of the status poller asks for the status. -/
  | statusTick
  /-- One of the ticks that have asked gets its reply. -/
  | status (code now : Int)
  /-- One of the ticks that have asked fails. -/
  | statusFails
  /-- A tick of the session timer. -/
  | sessionTick (now : Int)
  deriving DecidableEq, Repr

/-- One event of the service. -/
def step (self : ProxyService) : Label → Option ProxyService
  | .connect => some {
      self with
      calls := self.calls ++ [.connectInit (!self.rustInitialized)]
      disconnected := false }
  | .disconnect => some {
      self with
      calls := self.calls ++ [.disconnectInit (!self.rustInitialized)] }
  | .resume call reply =>
      match self.calls[call]? with
      | none => none
      | some point =>
          match self.resume point reply with
          | none => none
          | some (next, after) =>
              some { next with calls := next.calls.set call after }
  | .statusTick =>
      if self.statusPoller then some { self with polls := self.polls + 1 }
      else none
  | .status code now =>
      if 0 < self.polls then
        some ({ self with polls := self.polls - 1 }.pollReply code now)
      else none
  | .statusFails =>
      if 0 < self.polls then some { self with polls := self.polls - 1 }
      else none
  | .sessionTick now =>
      if self.sessionTimer then some (self.sessionTick now) else none

/-- What a call does when it goes on: it only moves to another await, or makes
one of the changes that stand between two awaits. -/
inductive Resumed (self : ProxyService) :
    AwaitPoint → Reply → ProxyService → Prop
  | moved {point reply} : Resumed self point reply self
  | connecting (initializing : Bool) :
      Resumed self (.connectInit initializing) .done
        ((self.initialized initializing).update
          { (self.initialized initializing).state with
            status := .connecting, statusText := "Connecting..." })
  | denied :
      Resumed self .prepare (.granted false)
        (self.update
          { status := .error, statusText := "VPN permission denied" })
  | proxyFailed {rc : Int} (failed : rc ≠ 0) :
      Resumed self .startRelizProxy (.code rc)
        (self.update { self.state with
          status := .error
          statusText := "Proxy error (code " ++ toString rc ++ ")" })
  | started : Resumed self .start .done self.startStatusPolling
  | startFailed (rc : Int) :
      Resumed self .undoStart (.code rc)
        (self.update { self.state with
          status := .error, statusText := "VPN start failed" })
  | initialized (initializing : Bool) :
      Resumed self (.disconnectInit initializing) .done
        (self.initialized initializing)
  | disconnected (rc : Int) :
      Resumed self .stopProxy (.code rc) self.disconnectDone

/-- A call that goes on does one of the listed things. -/
theorem resumed_of_resume
    {self next : ProxyService}
    {point after : AwaitPoint}
    {reply : Reply}
    (resumed : self.resume point reply = some (next, after)) :
    Resumed self point reply next := by
  have moved : ∀ {point reply target},
      some (self, target) = some (next, after) →
        Resumed self point reply next := by
    intro point reply target equal
    obtain ⟨rfl, -⟩ := Prod.mk.inj (Option.some.inj equal)
    exact .moved
  cases point with
  | connectInit initializing =>
      cases reply with
      | done =>
          obtain ⟨rfl, -⟩ := Prod.mk.inj (Option.some.inj resumed)
          exact .connecting initializing
      | threw => cases initializing with
          | false => cases resumed
          | true => exact moved resumed
      | _ => cases initializing <;> cases resumed
  | prepare =>
      cases reply with
      | granted answer => cases answer with
          | false =>
              obtain ⟨rfl, -⟩ := Prod.mk.inj (Option.some.inj resumed)
              exact .denied
          | true => exact moved resumed
      | threw => exact moved resumed
      | _ => cases resumed
  | startRelizProxy =>
      cases reply with
      | code rc =>
          rw [resume] at resumed
          split_ifs at resumed with failed
          · obtain ⟨rfl, -⟩ := Prod.mk.inj (Option.some.inj resumed)
            exact .proxyFailed failed
          · exact moved resumed
      | threw => exact moved resumed
      | _ => cases resumed
  | start =>
      cases reply with
      | done =>
          obtain ⟨rfl, -⟩ := Prod.mk.inj (Option.some.inj resumed)
          exact .started
      | threw => exact moved resumed
      | _ => cases resumed
  | undoStart =>
      cases reply with
      | code rc =>
          obtain ⟨rfl, -⟩ := Prod.mk.inj (Option.some.inj resumed)
          exact .startFailed rc
      | threw => exact moved resumed
      | _ => cases resumed
  | disconnectInit initializing =>
      cases reply with
      | done =>
          obtain ⟨rfl, -⟩ := Prod.mk.inj (Option.some.inj resumed)
          exact .initialized initializing
      | threw => cases initializing with
          | false => cases resumed
          | true => exact moved resumed
      | _ => cases initializing <;> cases resumed
  | stop =>
      cases reply with
      | done => exact moved resumed
      | threw => exact moved resumed
      | _ => cases resumed
  | stopProxy =>
      cases reply with
      | code rc =>
          obtain ⟨rfl, -⟩ := Prod.mk.inj (Option.some.inj resumed)
          exact .disconnected rc
      | threw => exact moved resumed
      | _ => cases resumed
  | returned => cases resumed
  | threw => cases resumed

end ProxyService
end Flutter
end GhostProtocol
