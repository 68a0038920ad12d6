import Rangelink.Proofs.Capabilities
import Rangelink.Request.Builder

/-! # What a built request forbids

A built request forbids what its builder forbids, but for one capability: as long
as the builder still deduces, it asks for a network that is not carrier-managed
even where its steps forbade that.
-/
namespace Rangelink.RequestBuilder
variable {b : RequestBuilder} {c : Capability} {steps : List Step}

def after (steps : List Step) : RequestBuilder := steps.foldl advance new

/-- The steps after which a builder does not deduce any more. -/
def Step.settles : Step → Bool
  | .require c | .release c => c == .notVcnManaged
  | .clear => true
  | .forbid _ | .replace _ | .addTransport _ | .removeTransport _ | .setUp _ | .setDown _
  | .specifyText _ | .specify _ => false

/-- Whether building adds `notVcnManaged`. -/
def addsNotVcnManaged (b : RequestBuilder) : Bool :=
  b.deduces && b.capabilities.wanted.all Capability.isVcnSupported

theorem deduces_advance (b : RequestBuilder) (step : Step) :
    (b.advance step).deduces = (b.deduces && !step.settles) := by
  cases step with
  | require c => rfl
  | release c => rfl
  | clear => exact (Bool.and_false _).symm
  | specify s => cases s <;> exact (Bool.and_true _).symm
  | forbid c => exact (Bool.and_true _).symm
  | replace cs => exact (Bool.and_true _).symm
  | addTransport t => exact (Bool.and_true _).symm
  | removeTransport t => exact (Bool.and_true _).symm
  | setUp kbps => exact (Bool.and_true _).symm
  | setDown kbps => exact (Bool.and_true _).symm
  | specifyText text => exact (Bool.and_true _).symm

theorem deduces_after (steps : List Step) : (after steps).deduces = !steps.any Step.settles := by
  have run : ∀ (steps : List Step) (b : RequestBuilder),
      (steps.foldl advance b).deduces = (b.deduces && !steps.any Step.settles) := by
    intro steps
    induction steps with
    | nil => intro b; exact (Bool.and_true _).symm
    | cons step rest ih =>
      intro b
      rw [List.foldl_cons, ih, deduces_advance, List.any_cons, Bool.not_or, Bool.and_assoc]
  exact run steps new

theorem coherent_new : new.capabilities.Coherent :=
  Capabilities.coherent_made (Capability.defaults.map .require)

theorem coherent_advance (h : b.capabilities.Coherent) {step : Step}
    (hset : ∀ cs, step = .replace cs → cs.Coherent) : (b.advance step).capabilities.Coherent := by
  cases step with
  | require c => exact h.require c
  | release c => exact h.release c
  | forbid c => exact h.forbid c
  | clear => exact Capabilities.coherent_empty
  | replace cs => exact hset cs rfl
  | specify s => cases s <;> exact h
  | addTransport t => exact h
  | removeTransport t => exact h
  | setUp kbps => exact h
  | setDown kbps => exact h
  | specifyText text => exact h

theorem coherent_after (hsets : ∀ cs, .replace cs ∈ steps → cs.Coherent) :
    (after steps).capabilities.Coherent := by
  have run : ∀ (steps : List Step) (b : RequestBuilder), b.capabilities.Coherent →
      (∀ cs, .replace cs ∈ steps → cs.Coherent) →
      (steps.foldl advance b).capabilities.Coherent := by
    intro steps
    induction steps with
    | nil => intro b h _; exact h
    | cons step rest ih =>
      intro b h hsets
      refine ih _ (coherent_advance h ?_) ?_
      · rintro cs rfl
        exact hsets cs List.mem_cons_self
      · intro cs hcs
        exact hsets cs (List.mem_cons_of_mem _ hcs)
  exact run steps new coherent_new hsets

/-- Marking takes no more than a capability that a carrier-managed network can serve. -/
theorem all_isVcnSupported_markRestricted (cs : Capabilities) :
    cs.markRestricted.wanted.all Capability.isVcnSupported =
      cs.wanted.all Capability.isVcnSupported := by
  refine Bool.eq_iff_iff.mpr ?_
  simp only [SortedSet.all, List.all_eq_true, ← SortedSet.mem_def]
  constructor
  · intro h c hc
    by_cases hr : c = .notRestricted
    · rw [hr]
      rfl
    · exact h c (Capabilities.mem_wanted_markRestricted.mpr ⟨hc, fun hmarked => hr hmarked.2⟩)
  · intro h c hc
    exact h c (Capabilities.mem_wanted_markRestricted.mp hc).1

theorem capabilities_build (b : RequestBuilder) :
    b.build.capabilities =
      if b.addsNotVcnManaged then b.capabilities.markRestricted.require .notVcnManaged
      else b.capabilities.markRestricted := by
  unfold build addsNotVcnManaged
  simp only [all_isVcnSupported_markRestricted]
  split <;> rfl

theorem coherent_build (h : b.capabilities.Coherent) : b.build.capabilities.Coherent := by
  rw [capabilities_build]
  split
  · exact h.markRestricted.require _
  · exact h.markRestricted

theorem addsNotVcnManaged_after (steps : List Step) :
    (after steps).addsNotVcnManaged = true ↔
      (∀ step ∈ steps, step.settles = false) ∧
        ∀ w ∈ (after steps).capabilities.wanted, w.isVcnSupported = true := by
  rw [addsNotVcnManaged, deduces_after]
  simp [SortedSet.all, SortedSet.mem_def]

/-- A builder hands every capability on as unwanted that it holds as unwanted, with one exception:
`notVcnManaged` comes out wanted if no step has settled it and a carrier-managed network could
serve all that is wanted. -/
theorem forbidden_unless_deduced (hsets : ∀ cs, .replace cs ∈ steps → cs.Coherent)
    (hc : c ∈ (after steps).capabilities.unwanted) :
    ((c = .notVcnManaged → (∃ step ∈ steps, step.settles = true) ∨
          ∃ w ∈ (after steps).capabilities.wanted, w.isVcnSupported = false) →
        (after steps).build.capabilities.hasUnwanted c = true ∧
          (after steps).build.capabilities.has c = false) ∧
      ((∀ step ∈ steps, step.settles = false) →
        (∀ w ∈ (after steps).capabilities.wanted, w.isVcnSupported = true) → c = .notVcnManaged →
        (after steps).build.capabilities.hasUnwanted c = false ∧
          (after steps).build.capabilities.has c = true) := by
  have hmarked := (coherent_after hsets).markRestricted
  have hu : c ∈ (after steps).capabilities.markRestricted.unwanted := by
    rwa [Capabilities.unwanted_markRestricted]
  have hw : c ∉ (after steps).capabilities.markRestricted.wanted := fun hw => hmarked c hw hu
  rw [capabilities_build]
  constructor
  · intro hkeeps
    by_cases hadds : (after steps).addsNotVcnManaged = true
    · have hne : c ≠ .notVcnManaged := by
        intro hvcn
        obtain ⟨hsettles, hsupported⟩ := (addsNotVcnManaged_after steps).mp hadds
        rcases hkeeps hvcn with ⟨step, hstep, hs⟩ | ⟨w, hwanted, hs⟩
        · rw [hsettles step hstep] at hs
          cases hs
        · rw [hsupported w hwanted] at hs
          cases hs
      simp [hadds, Capabilities.hasUnwanted, Capabilities.has, SortedSet.contains, hc, hw, hne]
    · simp [hadds, Capabilities.hasUnwanted, Capabilities.has, SortedSet.contains, hc, hw]
  · intro hsettles hsupported hvcn
    have hadds := (addsNotVcnManaged_after steps).mpr ⟨hsettles, hsupported⟩
    subst hvcn
    simp [hadds, Capabilities.hasUnwanted, Capabilities.has, SortedSet.contains]

/-- A request for a multimedia service keeps the mark that it was given with a whole set. -/
theorem forbidden_unless_deduced_mms :
    let steps : List Step :=
      [.replace (Capabilities.made [.forbid .notVcnManaged, .require .internet]), .require .mms]
    (∀ cs, .replace cs ∈ steps → cs.Coherent) ∧
      Capability.notVcnManaged ∈ (after steps).capabilities.unwanted ∧
      (after steps).build.capabilities.hasUnwanted .notVcnManaged = true ∧
      (after steps).build.capabilities.has .notVcnManaged = false := by
  intro steps
  have hsets : ∀ cs, .replace cs ∈ steps → cs.Coherent := by
    intro cs hcs
    rcases List.mem_cons.mp hcs with heq | hcs
    · rw [Step.replace.inj heq]
      exact Capabilities.coherent_made _
    · exact absurd (List.mem_singleton.mp hcs) (by simp)
  have hc : Capability.notVcnManaged ∈ (after steps).capabilities.unwanted := by decide
  have hmms : Capability.mms ∈ (after steps).capabilities.wanted := by decide
  exact ⟨hsets, hc,
    (forbidden_unless_deduced hsets hc).1 fun _ => Or.inr ⟨.mms, hmms, rfl⟩⟩

/-- Forbidden in the first step of a new builder, `notVcnManaged` comes out wanted. -/
theorem forbidden_comes_out_wanted :
    (after [.forbid .notVcnManaged]).capabilities.hasUnwanted .notVcnManaged = true ∧
      (after [.forbid .notVcnManaged]).build.capabilities.hasUnwanted .notVcnManaged = false ∧
      (after [.forbid .notVcnManaged]).build.capabilities.has .notVcnManaged = true := by
  decide

end Rangelink.RequestBuilder
