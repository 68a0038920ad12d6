import Rangelink.Failure
import Rangelink.Ranging.Event
import Rangelink.Ranging.Reason

/-! # Ranging adapter

An in-process adapter. It records every command and, when it has an outbox,
reports there what a real adapter would report back. Handles come from a script
first and then from a counter.
-/
namespace Rangelink

inductive SessionCommand where
  | start (params : Params)
  | reconfigure (params : Params)
  | stop
  | close
  deriving DecidableEq

inductive AdapterCall where
  | openSession (params : Params)
  | command (handle : Handle) (command : SessionCommand)
  deriving DecidableEq

/-- `outbox` holds the events not yet collected, if anybody collects them. -/
structure Adapter where
  scripted : List Handle := []
  nextHandle : Int32 := 1
  openRefusal : Option String := none
  calls : List AdapterCall := []
  outbox : Option (List RangingEvent) := none
  reportsPerStart : Nat := 0
  deriving DecidableEq

namespace Adapter

def silent : Adapter := {}

def reporting (reportsPerStart : Nat) : Adapter := { outbox := some [], reportsPerStart }

def script (handles : List Handle) (a : Adapter) : Adapter :=
  { a with scripted := a.scripted ++ handles }

def refuseNextOpen (reason : String) (a : Adapter) : Adapter := { a with openRefusal := some reason }

def dropOutbox (a : Adapter) : Adapter := { a with outbox := none }

def openCount (a : Adapter) : Nat :=
  a.calls.countP fun
    | .openSession _ => true
    | .command _ _ => false

def record (call : AdapterCall) (a : Adapter) : Adapter := { a with calls := a.calls ++ [call] }

def push (events : List RangingEvent) (a : Adapter) : Adapter :=
  { a with outbox := a.outbox.map (· ++ events) }

/-- The report with a number in the sequence that follows a start. -/
def reportOf (handle : Handle) (sequence : Nat) : Report :=
  [{ peer := handle.number.toUInt32.toUInt16 * 0x0101
     status := .success
     distance := some (.ofQuarters (4 + sequence))
     azimuth := some (.ofInt (sequence - 10))
     elevation := none
     nanos := UInt64.ofNat ((sequence + 1) * 200000000) }]

/-- What a real adapter reports back after a command. -/
def response (reportsPerStart : Nat) (handle : Handle) : SessionCommand → List RangingEvent
  | .start params =>
    ⟨handle, .started params⟩ ::
      (List.range reportsPerStart).map fun i => ⟨handle, .result (reportOf handle i)⟩
  | .reconfigure params => [⟨handle, .reconfigured params⟩]
  | .stop => [⟨handle, .stopped⟩]
  | .close => [⟨handle, .closed ChangeReason.localApi.code .empty⟩]

def takeHandle (a : Adapter) : Handle × Adapter :=
  match a.scripted with
  | h :: rest => (h, { a with scripted := rest })
  | [] => (⟨a.nextHandle⟩, { a with nextHandle := a.nextHandle + 1 })

/-- Opens a session, unless a refusal is pending. A refused call uses no handle up. -/
def openSession (params : Params) (a : Adapter) : Except Failure Handle × Adapter :=
  let a := a.record (.openSession params)
  match a.openRefusal with
  | some reason => (.error (.remote reason), { a with openRefusal := none })
  | none =>
    let (handle, a) := a.takeHandle
    (.ok handle, a.push [⟨handle, .opened⟩])

def command (handle : Handle) (c : SessionCommand) (a : Adapter) : Adapter :=
  (a.record (.command handle c)).push (response a.reportsPerStart handle c)

/-- The oldest events of the outbox, at most as many as asked for, and the adapter without them. -/
def collect (limit : Option Nat) (a : Adapter) : List RangingEvent × Adapter :=
  match a.outbox with
  | none => ([], a)
  | some events =>
    let count := limit.getD events.length
    (events.take count, { a with outbox := some (events.drop count) })

end Adapter

end Rangelink
