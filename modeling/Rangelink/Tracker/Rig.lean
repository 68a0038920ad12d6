import Rangelink.Executor
import Rangelink.Tracker

/-! # Tracker rig

A tracker wired to a connectivity service, a queued executor and an owner that
keeps all it is told. Every run of a tracker is a list of commands to a rig.
-/
namespace Rangelink

/-- The identifier an event or a withdrawal is meant for. -/
inductive Addressee where
  | callback (id : CallbackId)
  | route
  deriving DecidableEq, Repr

/-- Route selection stands for its identifier, or for the zero identifier where there is none. -/
def Addressee.resolve (route : Option CallbackId) : Addressee → CallbackId
  | .callback id => id
  | .route => route.getD (.foreign .zero)

/-- `told` is what the owner heard so far. -/
structure TrackerRig where
  tracker : Tracker
  service : Service
  executor : Executor Notification := {}
  told : List Notification := []

namespace TrackerRig

inductive Command where
  | event (caller : ThreadId) (addressee : Addressee) (event : NetworkEvent)
  | update (caller : ThreadId) (snapshot : Snapshot)
  | teardown (caller : ThreadId)
  | run
  | refuse (verb : ServiceVerb) (entries : List (Option String))
  | drop (id : Addressee)

inductive Reply where
  | outcome (outcome : Except Refusal Unit)
  | ran (jobs : Nat)

/-- Starts a tracker whose owner is told through `executor`. Service and executor are handed back,
as there is no rig if the start fails. -/
def start (caller : ThreadId) (context : Context) (group : Uuid) (snapshot : Snapshot)
    (required : SortedSet Capability) (service : Service)
    (executor : Executor Notification := {}) :
    Except Refusal TrackerRig × Service × Executor Notification :=
  let (started, service) := Tracker.start caller context group snapshot required service
  (started.map fun tracker => { tracker, service, executor }, service, executor)

/-- Queues a notification for the owner. -/
def notify (n : Option Notification) (rig : TrackerRig) : TrackerRig :=
  match n with
  | none => rig
  | some n => { rig with executor := rig.executor.submit (.single n) }

def deliver (caller : ThreadId) (id : CallbackId) (event : NetworkEvent) (rig : TrackerRig) :
    Except Refusal Unit × TrackerRig :=
  match rig.tracker.receive caller id event with
  | (.ok n, tracker) => (.ok (), { rig with tracker }.notify n)
  | (.error e, tracker) => (.error e, { rig with tracker })

/-- Runs the queued jobs; each tells the owner one notification. -/
def run (rig : TrackerRig) : Nat × TrackerRig :=
  let drained := rig.executor.drain fun _ => false
  (drained.ran.length,
    { rig with executor := ⟨drained.left⟩, told := rig.told ++ drained.ran })

def step (command : Command) (rig : TrackerRig) : Reply × TrackerRig :=
  match command with
  | .event caller addressee event =>
    let (outcome, rig) := rig.deliver caller (addressee.resolve rig.tracker.route) event
    (.outcome outcome, rig)
  | .update caller snapshot =>
    let (outcome, tracker, service) := rig.tracker.update caller snapshot rig.service
    (.outcome outcome, { rig with tracker, service })
  | .teardown caller =>
    let (outcome, tracker, service) := rig.tracker.teardown caller rig.service
    (.outcome outcome, { rig with tracker, service })
  | .run =>
    let (jobs, rig) := rig.run
    (.ran jobs, rig)
  | .refuse verb entries =>
    (.outcome (.ok ()),
      { rig with service.refusals := rig.service.refusals.append verb entries })
  | .drop id =>
    let (outcome, provider) :=
      rig.service.provider.withdraw (id.resolve rig.tracker.route)
    (.outcome (outcome.mapError .failed), { rig with service.provider := provider })

end TrackerRig

end Rangelink
