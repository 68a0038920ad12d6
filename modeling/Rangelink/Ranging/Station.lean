import Rangelink.Attempt
import Rangelink.Ranging.Adapter
import Rangelink.Ranging.Registry
import Rangelink.Refusals

/-! # Ranging station

A session registry together with the adapter that it commands, which stands
behind queues of refusals. Clients open sessions here and command them.
-/
namespace Rangelink

inductive AdapterVerb where
  | openSession
  | start
  | reconfigure
  | stop
  | close
  deriving DecidableEq, Repr

instance : StrictOrder AdapterVerb :=
  .comap AdapterVerb.ctorIdx fun a b h => by
    rw [← AdapterVerb.ofNat_ctorIdx a, h, AdapterVerb.ofNat_ctorIdx b]

def SessionCommand.verb : SessionCommand → AdapterVerb
  | .start _ => .start
  | .reconfigure _ => .reconfigure
  | .stop => .stop
  | .close => .close

namespace Registry
variable {κ ε : Type}

/-- The lease of a session ends with the first close that the adapter takes. -/
def afterCommand (s : Session) (c : SessionCommand) (r : Registry κ ε) : Registry κ ε :=
  match c with
  | .close => r.endLease s.lease
  | _ => r

/-- A client's command, put to an adapter of any kind. Once the session is closed nothing reaches
the adapter. -/
def command {α : Type} (instruct : Handle → SessionCommand → α → Outcome × α) (s : Session)
    (c : SessionCommand) (r : Registry κ ε) (adapter : α) : Outcome × Registry κ ε × α :=
  if r.isClosed s then (.error (.sessionClosed s.handle), r, adapter)
  else
    match instruct s.handle c adapter with
    | (.ok (), adapter) => (.ok (), r.afterCommand s c, adapter)
    | (.error e, adapter) => (.error e, r, adapter)

end Registry

structure Station (κ ε : Type) where
  context : Context
  registry : Registry κ ε := {}
  adapter : Adapter := {}
  refusals : Refusals AdapterVerb := {}
  deriving DecidableEq

namespace Station
variable {κ ε : Type}

/-- Asks the adapter for a session; a refused call does not reach it. -/
def requestSession (params : Params) (st : Station κ ε) : Except Failure Handle × Station κ ε :=
  match st.refusals.next .openSession with
  | (some reason, refusals) => (.error (.remote reason), { st with refusals })
  | (none, refusals) =>
    let (answer, adapter) := st.adapter.openSession params
    (answer, { st with refusals, adapter })

/-- Commands the adapter; a refused command does not reach it. -/
def instruct (handle : Handle) (c : SessionCommand) (st : Station κ ε) : Outcome × Station κ ε :=
  match st.refusals.next c.verb with
  | (some reason, refusals) => (.error (.remote reason), { st with refusals })
  | (none, refusals) => (.ok (), { st with refusals, adapter := st.adapter.command handle c })

def openSession (caller : ThreadId) (params : Params) (executor : ε) (client : κ)
    (st : Station κ ε) : Except Refusal (Option (Delivery κ ε)) × Station κ ε :=
  st.context.guarded caller
    (fun st =>
      let (answer, st) := st.requestSession params
      let (outcome, registry) := st.registry.openSession answer client executor
      (outcome, { st with registry }))
    st

/-- Has the registry take in a report of the adapter, on the thread that owns it. -/
def notified (caller : ThreadId)
    (take : Registry κ ε → Registry κ ε × Option (Delivery κ ε)) (st : Station κ ε) :
    Except Refusal (Option (Delivery κ ε)) × Station κ ε :=
  st.context.guarded caller
    (fun st =>
      let (registry, delivery) := take st.registry
      (.ok delivery, { st with registry }))
    st

def onOpened (caller : ThreadId) (h : Handle) :
    Station κ ε → Except Refusal (Option (Delivery κ ε)) × Station κ ε :=
  notified caller (Registry.onOpened h)

def onOpenFailed (caller : ThreadId) (h : Handle) (code : Int32) (params : Params) :
    Station κ ε → Except Refusal (Option (Delivery κ ε)) × Station κ ε :=
  notified caller (Registry.onOpenFailed h code params)

def onStarted (caller : ThreadId) (h : Handle) (params : Params) :
    Station κ ε → Except Refusal (Option (Delivery κ ε)) × Station κ ε :=
  notified caller (Registry.onStarted h params)

def onStartFailed (caller : ThreadId) (h : Handle) (code : Int32) (params : Params) :
    Station κ ε → Except Refusal (Option (Delivery κ ε)) × Station κ ε :=
  notified caller (Registry.onStartFailed h code params)

def onReconfigured (caller : ThreadId) (h : Handle) (params : Params) :
    Station κ ε → Except Refusal (Option (Delivery κ ε)) × Station κ ε :=
  notified caller (Registry.onReconfigured h params)

def onReconfigureFailed (caller : ThreadId) (h : Handle) (code : Int32) (params : Params) :
    Station κ ε → Except Refusal (Option (Delivery κ ε)) × Station κ ε :=
  notified caller (Registry.onReconfigureFailed h code params)

def onStopped (caller : ThreadId) (h : Handle) :
    Station κ ε → Except Refusal (Option (Delivery κ ε)) × Station κ ε :=
  notified caller (Registry.onStopped h)

def onStopFailed (caller : ThreadId) (h : Handle) (code : Int32) (params : Params) :
    Station κ ε → Except Refusal (Option (Delivery κ ε)) × Station κ ε :=
  notified caller (Registry.onStopFailed h code params)

def onClosed (caller : ThreadId) (h : Handle) (code : Int32) (params : Params) :
    Station κ ε → Except Refusal (Option (Delivery κ ε)) × Station κ ε :=
  notified caller (Registry.onClosed h code params)

def onResult (caller : ThreadId) (h : Handle) (batch : Report) :
    Station κ ε → Except Refusal (Option (Delivery κ ε)) × Station κ ε :=
  notified caller (Registry.onResult h batch)

/-- Takes a report in by the handler for what it reports. -/
def receive (caller : ThreadId) (event : RangingEvent) (st : Station κ ε) :
    Except Refusal (Option (Delivery κ ε)) × Station κ ε :=
  match event.occurrence with
  | .opened => st.onOpened caller event.handle
  | .openFailed code params => st.onOpenFailed caller event.handle code params
  | .started params => st.onStarted caller event.handle params
  | .startFailed code params => st.onStartFailed caller event.handle code params
  | .reconfigured params => st.onReconfigured caller event.handle params
  | .reconfigureFailed code params => st.onReconfigureFailed caller event.handle code params
  | .stopped => st.onStopped caller event.handle
  | .stopFailed code params => st.onStopFailed caller event.handle code params
  | .closed code params => st.onClosed caller event.handle code params
  | .result batch => st.onResult caller event.handle batch

theorem receive_eq_notified (caller : ThreadId) (event : RangingEvent) (st : Station κ ε) :
    st.receive caller event = st.notified caller (·.receive event) := by
  unfold receive Registry.receive
  cases event.occurrence <;> rfl

/-- A client's command on its session. -/
def command (s : Session) (c : SessionCommand) (st : Station κ ε) : Outcome × Station κ ε :=
  let (outcome, registry, st) := st.registry.command instruct s c st
  (outcome, { st with registry })

def collect (limit : Option Nat) (st : Station κ ε) : List RangingEvent × Station κ ε :=
  let (events, adapter) := st.adapter.collect limit
  (events, { st with adapter })

end Station

end Rangelink
