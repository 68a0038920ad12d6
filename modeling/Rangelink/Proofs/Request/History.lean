import Rangelink.Proofs.History
import Rangelink.Proofs.Request.Builder

/-! # Requests read off the steps of their builder

Each part of a builder is what the last step that wrote it made it. Building reads
these parts and, for the one deduction that can be settled, the whole history.
-/
namespace Rangelink

namespace SortedSet
variable {α : Type} [StrictOrder α] [DecidableEq α]

theorem contains_insert (a b : α) (s : SortedSet α) :
    (s.insert a).contains b = (if a = b then some true else none).getD (s.contains b) := by
  rw [Bool.eq_iff_iff]
  by_cases h : a = b
  · simp [h]
  · simp [h, Ne.symm h]

theorem contains_erase (a b : α) (s : SortedSet α) :
    (s.erase a).contains b = (if a = b then some false else none).getD (s.contains b) := by
  rw [Bool.eq_iff_iff]
  by_cases h : a = b
  · simp [h]
  · simp [h, Ne.symm h]

end SortedSet

theorem Capabilities.isRestricted_iff {cs : Capabilities} :
    cs.isRestricted = true ↔
      (∃ c, cs.has c = true ∧ c.isRestricted = true) ∧
        ∀ c, cs.has c = true → c.isUnrestricted = false := by
  simp [isRestricted, has, SortedSet.any, SortedSet.mem_def]

namespace RequestBuilder
variable {b : RequestBuilder} {steps : List Step}

namespace Step

/-- Whether the step makes a capability wanted, if it concerns that. -/
def wants? (c : Capability) : Step → Option Bool
  | .require d => if d = c then some true else none
  | .release d | .forbid d => if d = c then some false else none
  | .clear => some false
  | .replace cs => some (cs.has c)
  | .addTransport _ | .removeTransport _ | .setUp _ | .setDown _ | .specifyText _
  | .specify _ => none

/-- Whether the step makes a capability unwanted, if it concerns that. -/
def forbids? (c : Capability) : Step → Option Bool
  | .forbid d => if d = c then some true else none
  | .require d | .release d => if d = c then some false else none
  | .clear => some false
  | .replace cs => some (cs.hasUnwanted c)
  | .addTransport _ | .removeTransport _ | .setUp _ | .setDown _ | .specifyText _
  | .specify _ => none

def names? (t : Transport) : Step → Option Bool
  | .addTransport u => if u = t then some true else none
  | .removeTransport u => if u = t then some false else none
  | .clear => some false
  | .replace cs => some (cs.hasTransport t)
  | .require _ | .release _ | .forbid _ | .setUp _ | .setDown _ | .specifyText _
  | .specify _ => none

/-- A specifier for all networks is refused and writes nothing. -/
def specifier? : Step → Option (Option Specifier)
  | .specifyText text => some (readSpecifier text)
  | .specify .matchAll => none
  | .specify s => some (some s)
  | .clear => some none
  | .replace cs => some cs.specifier
  | .require _ | .release _ | .forbid _ | .addTransport _ | .removeTransport _ | .setUp _
  | .setDown _ => none

def up? : Step → Option UInt32
  | .setUp kbps => some kbps
  | .clear => some 0
  | .replace cs => some cs.up
  | .require _ | .release _ | .forbid _ | .addTransport _ | .removeTransport _ | .setDown _
  | .specifyText _ | .specify _ => none

def down? : Step → Option UInt32
  | .setDown kbps => some kbps
  | .clear => some 0
  | .replace cs => some cs.down
  | .require _ | .release _ | .forbid _ | .addTransport _ | .removeTransport _ | .setUp _
  | .specifyText _ | .specify _ => none

end Step

section Steps
variable (b : RequestBuilder) (step : Step)

theorem has_advance (c : Capability) :
    (b.advance step).capabilities.has c = (step.wants? c).getD (b.capabilities.has c) := by
  cases step with
  | require d => exact SortedSet.contains_insert d c _
  | release d => exact SortedSet.contains_erase d c _
  | forbid d => exact SortedSet.contains_erase d c _
  | specify s => cases s <;> rfl
  | clear => rfl
  | replace cs => rfl
  | addTransport t => rfl
  | removeTransport t => rfl
  | setUp kbps => rfl
  | setDown kbps => rfl
  | specifyText text => rfl

theorem hasUnwanted_advance (c : Capability) :
    (b.advance step).capabilities.hasUnwanted c =
      (step.forbids? c).getD (b.capabilities.hasUnwanted c) := by
  cases step with
  | require d => exact SortedSet.contains_erase d c _
  | release d => exact SortedSet.contains_erase d c _
  | forbid d => exact SortedSet.contains_insert d c _
  | specify s => cases s <;> rfl
  | clear => rfl
  | replace cs => rfl
  | addTransport t => rfl
  | removeTransport t => rfl
  | setUp kbps => rfl
  | setDown kbps => rfl
  | specifyText text => rfl

theorem hasTransport_advance (t : Transport) :
    (b.advance step).capabilities.hasTransport t =
      (step.names? t).getD (b.capabilities.hasTransport t) := by
  cases step with
  | addTransport u => exact SortedSet.contains_insert u t _
  | removeTransport u => exact SortedSet.contains_erase u t _
  | specify s => cases s <;> rfl
  | require d => rfl
  | release d => rfl
  | forbid d => rfl
  | clear => rfl
  | replace cs => rfl
  | setUp kbps => rfl
  | setDown kbps => rfl
  | specifyText text => rfl

/-- The parts of a builder that are written as a whole. -/
theorem settings_advance :
    (b.advance step).capabilities.specifier = step.specifier?.getD b.capabilities.specifier ∧
      (b.advance step).capabilities.up = step.up?.getD b.capabilities.up ∧
      (b.advance step).capabilities.down = step.down?.getD b.capabilities.down := by
  cases step with
  | specify s => cases s <;> exact ⟨rfl, rfl, rfl⟩
  | addTransport u => exact ⟨rfl, rfl, rfl⟩
  | removeTransport u => exact ⟨rfl, rfl, rfl⟩
  | require d => exact ⟨rfl, rfl, rfl⟩
  | release d => exact ⟨rfl, rfl, rfl⟩
  | forbid d => exact ⟨rfl, rfl, rfl⟩
  | clear => exact ⟨rfl, rfl, rfl⟩
  | replace cs => exact ⟨rfl, rfl, rfl⟩
  | setUp kbps => exact ⟨rfl, rfl, rfl⟩
  | setDown kbps => exact ⟨rfl, rfl, rfl⟩
  | specifyText text => exact ⟨rfl, rfl, rfl⟩

end Steps

section Building

/-- Marking and deduction concern capabilities alone. -/
theorem settings_build (b : RequestBuilder) :
    b.build.capabilities.transports = b.capabilities.transports ∧
      b.build.capabilities.specifier = b.capabilities.specifier ∧
      b.build.capabilities.up = b.capabilities.up ∧
      b.build.capabilities.down = b.capabilities.down := by
  rw [capabilities_build]
  unfold Capabilities.markRestricted
  split <;> split <;> exact ⟨rfl, rfl, rfl, rfl⟩

theorem has_build (b : RequestBuilder) (c : Capability) :
    b.build.capabilities.has c = true ↔
      b.capabilities.has c = true ∧
          ¬ (b.capabilities.isRestricted = true ∧ c = .notRestricted) ∨
        b.addsNotVcnManaged = true ∧ c = .notVcnManaged := by
  have hmarked : b.capabilities.markRestricted.has c = true ↔
      b.capabilities.has c = true ∧
        ¬ (b.capabilities.isRestricted = true ∧ c = .notRestricted) := by
    simp only [Capabilities.has, SortedSet.contains_eq_true]
    exact Capabilities.mem_wanted_markRestricted
  rw [capabilities_build, ← hmarked]
  by_cases h : b.addsNotVcnManaged = true
  · simp [h, Capabilities.has, or_comm]
  · simp [h]

theorem hasUnwanted_build (b : RequestBuilder) (c : Capability) :
    b.build.capabilities.hasUnwanted c = true ↔
      b.capabilities.hasUnwanted c = true ∧
        ¬ (b.addsNotVcnManaged = true ∧ c = .notVcnManaged) := by
  rw [capabilities_build]
  by_cases h : b.addsNotVcnManaged = true
  · simp [h, Capabilities.hasUnwanted]
  · simp [h, Capabilities.hasUnwanted]

end Building

section Histories

/-- Whether the last step that concerns a capability made it wanted. -/
def wantedBy (steps : List Step) (c : Capability) : Bool :=
  lastWritten (Step.wants? c) (decide (c ∈ Capability.defaults)) steps

def forbiddenBy (steps : List Step) (c : Capability) : Bool :=
  lastWritten (Step.forbids? c) false steps

/-- A service that needs a restricted network is wanted, and nothing that keeps it open. -/
def IsRestrictedBy (steps : List Step) : Prop :=
  (∃ c, wantedBy steps c = true ∧ c.isRestricted = true) ∧
    ∀ c, wantedBy steps c = true → c.isUnrestricted = false

/-- No step of the whole history settled the deduction, and a carrier-managed network could serve all
that is wanted. -/
def IsDeducedBy (steps : List Step) : Prop :=
  (∀ step ∈ steps, step.settles = false) ∧ ∀ c, wantedBy steps c = true → c.isVcnSupported = true

/-- A part of a new builder with its first value is after any steps what was written last. -/
theorem read_after {β : Type} {write? : Step → Option β} {first : β} (part : RequestBuilder → β)
    (h : ∀ b step, part (b.advance step) = (write? step).getD (part b)) (hnew : part new = first)
    (steps : List Step) : part (after steps) = lastWritten write? first steps := by
  rw [← hnew]
  exact foldl_eq_lastWritten h steps new

variable (steps : List Step)

theorem has_after (c : Capability) : (after steps).capabilities.has c = wantedBy steps c := by
  apply read_after (fun b => b.capabilities.has c) (fun b step => has_advance b step c)
  cases c <;> rfl

theorem hasUnwanted_after (c : Capability) :
    (after steps).capabilities.hasUnwanted c = forbiddenBy steps c := by
  apply read_after (fun b => b.capabilities.hasUnwanted c)
    (fun b step => hasUnwanted_advance b step c)
  cases c <;> rfl

theorem isRestricted_after :
    (after steps).capabilities.isRestricted = true ↔ IsRestrictedBy steps := by
  simp only [Capabilities.isRestricted_iff, has_after]
  rfl

theorem addsNotVcnManaged_iff : (after steps).addsNotVcnManaged = true ↔ IsDeducedBy steps := by
  have hwanted : ∀ c, c ∈ (after steps).capabilities.wanted ↔ wantedBy steps c = true := by
    intro c
    rw [← has_after]
    exact SortedSet.contains_eq_true.symm
  simp only [addsNotVcnManaged_after, hwanted]
  rfl

/-- All that a request says, read off the steps that it was built with. -/
structure BuiltFrom (steps : List Step) (request : Request) : Prop where
  wanted : ∀ c, request.capabilities.has c = true ↔
    wantedBy steps c = true ∧ ¬ (IsRestrictedBy steps ∧ c = .notRestricted) ∨
      IsDeducedBy steps ∧ c = .notVcnManaged
  unwanted : ∀ c, request.capabilities.hasUnwanted c = true ↔
    forbiddenBy steps c = true ∧ ¬ (IsDeducedBy steps ∧ c = .notVcnManaged)
  transports : ∀ t, request.capabilities.hasTransport t = lastWritten (Step.names? t) false steps
  specifier : request.capabilities.specifier = lastWritten Step.specifier? none steps
  up : request.capabilities.up = lastWritten Step.up? 0 steps
  down : request.capabilities.down = lastWritten Step.down? 0 steps
  kind : request.kind = .unassigned
  matchAll : request.capabilities.specifier = some .matchAll →
    ∃ earlier cs later, steps = earlier ++ .replace cs :: later ∧ cs.specifier = some .matchAll ∧
      ∀ step ∈ later, step.specifier? = none

theorem kind_build (b : RequestBuilder) : b.build.kind = .unassigned := by
  simp only [build]
  split <;> rfl

/-- No text stands for all networks. -/
theorem readSpecifier_ne_matchAll (text : String) : readSpecifier text ≠ some .matchAll := by
  unfold readSpecifier
  split
  · simp
  · split <;> simp

theorem specifier?_eq_matchAll {step : Step} (h : step.specifier? = some (some .matchAll)) :
    ∃ cs, step = .replace cs ∧ cs.specifier = some .matchAll := by
  cases step with
  | replace cs => exact ⟨cs, rfl, Option.some.inj h⟩
  | specifyText text => exact absurd (Option.some.inj h) (readSpecifier_ne_matchAll text)
  | specify s => cases s <;> cases h
  | clear => cases h
  | require d => cases h
  | release d => cases h
  | forbid d => cases h
  | addTransport t => cases h
  | removeTransport t => cases h
  | setUp kbps => cases h
  | setDown kbps => cases h

/-- A built request is what the history of its steps says: marked and deduced from what was last
wanted, and otherwise as last written. -/
theorem built_from_history : BuiltFrom steps (after steps).build := by
  obtain ⟨htransports, hspecifier, hup, hdown⟩ := settings_build (after steps)
  have hspecified : (after steps).capabilities.specifier = lastWritten Step.specifier? none steps :=
    read_after (fun b => b.capabilities.specifier) (fun b step => (settings_advance b step).1) rfl
      steps
  refine ⟨?_, ?_, ?_, ?_, ?_, ?_, kind_build _, ?_⟩
  · intro c
    rw [has_build, has_after, isRestricted_after, addsNotVcnManaged_iff]
  · intro c
    rw [hasUnwanted_build, hasUnwanted_after, addsNotVcnManaged_iff]
  · intro t
    rw [Capabilities.hasTransport, htransports]
    exact read_after (fun b => b.capabilities.hasTransport t)
      (fun b step => hasTransport_advance b step t) (by cases t <;> rfl) steps
  · rw [hspecifier, hspecified]
  · rw [hup]
    exact read_after (fun b => b.capabilities.up) (fun b step => (settings_advance b step).2.1) rfl
      steps
  · rw [hdown]
    exact read_after (fun b => b.capabilities.down) (fun b step => (settings_advance b step).2.2) rfl
      steps
  · intro hall
    rw [hspecifier, hspecified] at hall
    obtain ⟨earlier, step, later, hsplit, hstep, hlater⟩ := exists_of_lastWritten hall (by simp)
    obtain ⟨cs, rfl, hcs⟩ := specifier?_eq_matchAll hstep
    exact ⟨earlier, cs, later, hsplit, hcs, hlater⟩

-- A whole set takes the earlier steps back, but not that one of them settled the deduction.
example :
    let replaced := Step.replace (Capabilities.made [.require .internet])
    (after [.release .notVcnManaged, replaced]).build.capabilities.wanted.toList = [.internet] ∧
      (after [replaced]).build.capabilities.has .notVcnManaged = true := by decide

end Histories

end RequestBuilder

end Rangelink
