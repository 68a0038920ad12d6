import Rangelink.Scenario
import Rangelink.Subscription
import Rangelink.Text.Quoted

/-! # Configuration of the daemon

The settings of a run and what follows from them: the snapshots of the group, the
required capabilities and the scenario.
-/
namespace Rangelink

/-- A group, its subscriptions at the start and after the update halfway, and the sizes of the
run. Without a resubscription the group stays as it is. -/
structure Config where
  group : Uuid := .zero
  subscriptions : List Int32 := [1, 2]
  resubscribe : List Int32 := []
  requiredNames : List String := ["internet"]
  sessions : UInt64 := 2
  reports : UInt64 := 5
  steps : UInt64 := 40
  seed : Option UInt64 := none
  eventIntervalMs : UInt64 := 50
  deriving DecidableEq

namespace Config

def snapshotOf (ids : List Int32) (c : Config) : Snapshot := .ofGroup c.group (ids.map (⟨·⟩))

def initialSnapshot (c : Config) : Snapshot := c.snapshotOf c.subscriptions

def resubscribeSnapshot? (c : Config) : Option Snapshot :=
  if c.resubscribe.isEmpty then none else some (c.snapshotOf c.resubscribe)

/-- Reads capability names; the first that is none is reported. -/
def readCapabilities : List String → Except String (SortedSet Capability)
  | [] => .ok .empty
  | name :: rest =>
    match Capability.ofName? name with
    | none => .error ("unknown capability " ++ Text.quoted name)
    | some c => (readCapabilities rest).map (·.insert c)

def required (c : Config) : Except String (SortedSet Capability) := readCapabilities c.requiredNames

def scenario (c : Config) : ScenarioConfig :=
  { ScenarioConfig.flapping c.steps.toNat with seed := c.seed }

end Config

end Rangelink
