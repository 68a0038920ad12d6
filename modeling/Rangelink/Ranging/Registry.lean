import Rangelink.Context
import Rangelink.Ranging.Event
import Rangelink.Ranging.Reason

/-! # Session registry

The registry knows which client opened the session under a handle and on which
executor that client is to be told. Only the report that a session is open
depends on the phase of the session; all other reports are passed on while the
handle is registered, and reports for other handles are dropped.
-/
namespace Rangelink

/-- The right to command one session, shared by all copies that a client makes. A session has
ended once its lease has. -/
structure Session where
  handle : Handle
  lease : Nat
  deriving DecidableEq, Repr

inductive Notice where
  | opened (session : Session)
  | openFailed (reason : CloseReason) (params : Params)
  | started (params : Params)
  | startFailed (reason : CloseReason) (params : Params)
  | reconfigured (params : Params)
  | reconfigureFailed (reason : CloseReason) (params : Params)
  | stopped
  | stopFailed (reason : CloseReason) (params : Params)
  | closed (reason : CloseReason) (params : Params)
  | report (report : Report)
  deriving DecidableEq

inductive SessionPhase where
  | requested
  | idle
  | active
  deriving DecidableEq, Repr

structure Delivery (κ ε : Type) where
  executor : ε
  client : κ
  notice : Notice
  deriving DecidableEq

/-- `lease` is there once the session was handed to its client. -/
structure SessionEntry (κ ε : Type) where
  client : κ
  executor : ε
  phase : SessionPhase := .requested
  lease : Option Nat := none
  deriving DecidableEq

/-- Clients are of type `κ` and executors of type `ε`. Leases are numbered as they are issued;
`ended` are those under which no command is taken any more. -/
structure Registry (κ ε : Type) where
  sessions : SortedMap Handle (SessionEntry κ ε) := .empty
  issued : Nat := 0
  ended : SortedSet Nat := .empty
  deriving DecidableEq

namespace SessionEntry
variable {κ ε : Type}

def delivery (e : SessionEntry κ ε) (notice : Notice) : Delivery κ ε := ⟨e.executor, e.client, notice⟩

end SessionEntry

namespace Registry
variable {κ ε : Type}

def count (r : Registry κ ε) : Nat := r.sessions.size

def isRegistered (h : Handle) (r : Registry κ ε) : Bool := r.sessions.contains h

def phase? (h : Handle) (r : Registry κ ε) : Option SessionPhase := (r.sessions.get? h).map (·.phase)

def isClosed (s : Session) (r : Registry κ ε) : Bool := r.ended.contains s.lease

def endLease (lease : Nat) (r : Registry κ ε) : Registry κ ε := { r with ended := r.ended.insert lease }

def setPhase (h : Handle) (phase : SessionPhase) (r : Registry κ ε) : Registry κ ε :=
  { r with sessions := r.sessions.modify h fun e => { e with phase } }

def remove (h : Handle) (r : Registry κ ε) : Registry κ ε :=
  { r with sessions := r.sessions.erase h }

/-- Registers the client of a new session. If the handle is taken, the newcomer is told that its
session is closed, and the session that holds the handle is left alone. -/
def enter (h : Handle) (client : κ) (executor : ε) (r : Registry κ ε) :
    Registry κ ε × Option (Delivery κ ε) :=
  if r.isRegistered h then (r, some ⟨executor, client, .closed .unknown .empty⟩)
  else ({ r with sessions := r.sessions.insert h { client, executor } }, none)

/-- Takes in the adapter's answer to a request for a session; a refusal is passed back. -/
def openSession (answer : Except Failure Handle) (client : κ) (executor : ε) (r : Registry κ ε) :
    Except Failure (Option (Delivery κ ε)) × Registry κ ε :=
  match answer with
  | .error e => (.error e, r)
  | .ok h =>
    let (r, delivery) := r.enter h client executor
    (.ok delivery, r)

/-- Hands a session that was requested to its client, under a new lease. -/
def onOpened (h : Handle) (r : Registry κ ε) : Registry κ ε × Option (Delivery κ ε) :=
  match r.sessions.get? h with
  | none => (r, none)
  | some e =>
    if e.phase = .requested then
      ({ r with
          sessions := r.sessions.insert h { e with phase := .idle, lease := some r.issued }
          issued := r.issued + 1 },
        some (e.delivery (.opened ⟨h, r.issued⟩)))
    else (r, none)

/-- Passes a notice on to the client of a registered session, with a change of the registry. -/
def passOn (h : Handle) (notice : Notice)
    (change : SessionEntry κ ε → Registry κ ε → Registry κ ε) (r : Registry κ ε) :
    Registry κ ε × Option (Delivery κ ε) :=
  match r.sessions.get? h with
  | none => (r, none)
  | some e => (change e r, some (e.delivery notice))

def onOpenFailed (h : Handle) (code : Int32) (params : Params) :
    Registry κ ε → Registry κ ε × Option (Delivery κ ε) :=
  passOn h (.openFailed (.ofCode code) params) fun _ r => r.remove h

def onStarted (h : Handle) (params : Params) :
    Registry κ ε → Registry κ ε × Option (Delivery κ ε) :=
  passOn h (.started params) fun _ r => r.setPhase h .active

def onStartFailed (h : Handle) (code : Int32) (params : Params) :
    Registry κ ε → Registry κ ε × Option (Delivery κ ε) :=
  passOn h (.startFailed (.ofCode code) params) fun _ r => r

def onReconfigured (h : Handle) (params : Params) :
    Registry κ ε → Registry κ ε × Option (Delivery κ ε) :=
  passOn h (.reconfigured params) fun _ r => r

def onReconfigureFailed (h : Handle) (code : Int32) (params : Params) :
    Registry κ ε → Registry κ ε × Option (Delivery κ ε) :=
  passOn h (.reconfigureFailed (.ofCode code) params) fun _ r => r

def onStopped (h : Handle) : Registry κ ε → Registry κ ε × Option (Delivery κ ε) :=
  passOn h .stopped fun _ r => r.setPhase h .idle

def onStopFailed (h : Handle) (code : Int32) (params : Params) :
    Registry κ ε → Registry κ ε × Option (Delivery κ ε) :=
  passOn h (.stopFailed (.ofCode code) params) fun _ r => r

/-- The end of a session ends the lease that its client was handed. -/
def onClosed (h : Handle) (code : Int32) (params : Params) :
    Registry κ ε → Registry κ ε × Option (Delivery κ ε) :=
  passOn h (.closed (.ofCode code) params) fun e r =>
    match e.lease with
    | some lease => (r.remove h).endLease lease
    | none => r.remove h

def onResult (h : Handle) (batch : Report) :
    Registry κ ε → Registry κ ε × Option (Delivery κ ε) :=
  passOn h (.report batch) fun _ r => r

def handle (h : Handle) : Occurrence → Registry κ ε → Registry κ ε × Option (Delivery κ ε)
  | .opened => onOpened h
  | .openFailed code params => onOpenFailed h code params
  | .started params => onStarted h params
  | .startFailed code params => onStartFailed h code params
  | .reconfigured params => onReconfigured h params
  | .reconfigureFailed code params => onReconfigureFailed h code params
  | .stopped => onStopped h
  | .stopFailed code params => onStopFailed h code params
  | .closed code params => onClosed h code params
  | .result batch => onResult h batch

def receive (event : RangingEvent) (r : Registry κ ε) : Registry κ ε × Option (Delivery κ ε) :=
  r.handle event.handle event.occurrence

def describe (s : Session) (r : Registry κ ε) : String :=
  "RangingSession \x7b handle: SessionHandle(" ++ Text.int32Text s.handle.number ++ "), closed: " ++
    (if r.isClosed s then "true" else "false") ++ ", .. \x7d"

end Registry

end Rangelink
