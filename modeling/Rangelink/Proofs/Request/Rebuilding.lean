import Rangelink.Proofs.Request.History
import Rangelink.Proofs.Request.Template

/-! # Building again

What a builder has built can be handed back to it: marking and deduction have
then nothing left to do. A new builder that is given the same set can differ by
one capability, and only if the first builder had been told not to deduce it.
-/
namespace Rangelink.RequestBuilder
variable {b : RequestBuilder} {c : Capability} {steps : List Step}

theorem mem_wanted_build :
    c ∈ b.build.capabilities.wanted ↔
      c ∈ b.capabilities.wanted ∧ ¬ (b.capabilities.isRestricted = true ∧ c = .notRestricted) ∨
        b.addsNotVcnManaged = true ∧ c = .notVcnManaged := by
  simpa [Capabilities.has] using has_build b c

/-- Neither `notRestricted` nor `notVcnManaged` has a say in whether a set is restricted. -/
theorem isRestricted_build (b : RequestBuilder) :
    b.build.capabilities.isRestricted = b.capabilities.isRestricted := by
  have hclass : ∀ c : Capability, c.isRestricted = true ∨ c.isUnrestricted = true →
      (b.build.capabilities.has c = true ↔ b.capabilities.has c = true) := by
    intro c hc
    have hr : c ≠ .notRestricted := by
      rintro rfl
      simp [Capability.isRestricted, Capability.isUnrestricted] at hc
    have hv : c ≠ .notVcnManaged := by
      rintro rfl
      simp [Capability.isRestricted, Capability.isUnrestricted] at hc
    simp [has_build, hr, hv]
  rw [Bool.eq_iff_iff, Capabilities.isRestricted_iff, Capabilities.isRestricted_iff]
  apply and_congr
  · apply exists_congr
    intro c
    apply and_congr_left
    intro hc
    exact hclass c (Or.inl hc)
  · apply forall_congr'
    intro c
    cases hu : c.isUnrestricted with
    | false => simp
    | true => simp [hclass c (Or.inr hu)]

/-- A built set is marked for good. -/
theorem markRestricted_build (b : RequestBuilder) :
    b.build.capabilities.markRestricted = b.build.capabilities := by
  by_cases h : b.capabilities.isRestricted = true
  · apply Capabilities.markRestricted_of_not_mem
    simp [mem_wanted_build, h]
  · unfold Capabilities.markRestricted
    rw [isRestricted_build, if_neg h]

/-- A set to which `notVcnManaged` was added invites no further deduction. -/
theorem all_isVcnSupported_build (b : RequestBuilder) :
    b.build.capabilities.wanted.all Capability.isVcnSupported =
      (b.capabilities.wanted.all Capability.isVcnSupported && !b.addsNotVcnManaged) := by
  by_cases h : b.addsNotVcnManaged = true
  · have hnot : ¬ b.build.capabilities.wanted.all Capability.isVcnSupported = true := by
      intro hall
      have hc : Capability.notVcnManaged ∈ b.build.capabilities.wanted :=
        mem_wanted_build.mpr (Or.inr ⟨h, rfl⟩)
      exact absurd (List.all_eq_true.mp hall _ hc) (by decide)
    simp [h, hnot]
  · rw [capabilities_build, if_neg h, all_isVcnSupported_markRestricted]
    simp [h]

theorem build_eq (b : RequestBuilder) : b.build = { capabilities := b.build.capabilities } :=
  congrArg (Request.mk b.build.capabilities) (kind_build b)

/-- Building from a built set adds `notVcnManaged` at most. -/
theorem build_replace_build (b other : RequestBuilder) :
    (other.advance (.replace b.build.capabilities)).build =
      if other.deduces && b.build.capabilities.wanted.all Capability.isVcnSupported then
        { b.build with capabilities := b.build.capabilities.require .notVcnManaged }
      else b.build := by
  have hcapabilities : (other.advance (.replace b.build.capabilities)).build.capabilities =
      if other.deduces && b.build.capabilities.wanted.all Capability.isVcnSupported then
        b.build.capabilities.require .notVcnManaged
      else b.build.capabilities := by
    rw [capabilities_build]
    simp only [advance, RequestBuilder.apply, addsNotVcnManaged, markRestricted_build]
  rw [build_eq (other.advance _), hcapabilities]
  split
  · simp only [kind_build]
  · exact (build_eq b).symm

/-- What a builder could deduce from its own set it has deduced already. -/
theorem deduces_nothing_more (b : RequestBuilder) :
    (b.deduces && b.build.capabilities.wanted.all Capability.isVcnSupported) = false := by
  rw [all_isVcnSupported_build, addsNotVcnManaged]
  cases b.deduces with
  | false => rfl
  | true => simp

theorem exists_settles_iff :
    (∃ step ∈ steps, step.settles = true) ↔ (after steps).deduces = false := by
  simp [deduces_after]

theorem all_isVcnSupported_iff {cs : Capabilities} :
    cs.wanted.all Capability.isVcnSupported = true ↔
      ∀ c, cs.has c = true → c.isVcnSupported = true := by
  simp [SortedSet.all, Capabilities.has, SortedSet.mem_def]

/-- What a builder has built it builds again from it. A new builder builds the same from it, unless
the first was told not to deduce `notVcnManaged` and wants nothing that speaks against it: then this
is wanted in addition. -/
theorem rebuilt_alike (steps : List Step) :
    let built := (after steps).build
    let again := ((after steps).advance (.replace built.capabilities)).build
    let afresh := (after [.replace built.capabilities]).build
    again = built ∧
      (afresh ≠ built ↔
        (∃ step ∈ steps, step.settles = true) ∧
          ∀ c, built.capabilities.has c = true → c.isVcnSupported = true) ∧
      (afresh ≠ built →
        built.capabilities.has .notVcnManaged = false ∧
          afresh = { built with capabilities := built.capabilities.require .notVcnManaged }) := by
  intro built again afresh
  have hagain : again = built := by
    have h := build_replace_build (after steps) (after steps)
    rwa [deduces_nothing_more, if_neg Bool.false_ne_true] at h
  have hafresh : afresh = if built.capabilities.wanted.all Capability.isVcnSupported then
        { built with capabilities := built.capabilities.require .notVcnManaged }
      else built := build_replace_build (after steps) new
  refine ⟨hagain, ?_⟩
  by_cases hall : built.capabilities.wanted.all Capability.isVcnSupported = true
  · rw [if_pos hall] at hafresh
    have hsupported := all_isVcnSupported_iff.mp hall
    have hlacks : built.capabilities.has .notVcnManaged = false := by
      rw [← Bool.not_eq_true]
      intro h
      exact absurd (hsupported _ h) (by decide)
    have hdiffers : afresh ≠ built := by
      intro h
      have hwants : afresh.capabilities.has .notVcnManaged = true := by
        simp [hafresh, Capabilities.has]
      rw [h, hlacks] at hwants
      cases hwants
    have hsettled : (after steps).deduces = false := by
      have h := deduces_nothing_more (after steps)
      rwa [hall, Bool.and_true] at h
    exact ⟨⟨fun _ => ⟨exists_settles_iff.mpr hsettled, hsupported⟩, fun _ => hdiffers⟩,
      fun _ => ⟨hlacks, hafresh⟩⟩
  · rw [if_neg hall] at hafresh
    refine ⟨⟨fun h => absurd hafresh h, ?_⟩, fun h => absurd hafresh h⟩
    rintro ⟨-, hsupported⟩
    exact absurd (all_isVcnSupported_iff.mpr hsupported) hall

/-- A cleared builder hands on that `notVcnManaged` is forbidden, also when it builds from its own
set again. A new builder wants it in the same set. -/
theorem rebuilt_alike_cleared :
    let steps : List Step := [.clear, .require .internet, .forbid .notVcnManaged]
    let built := (after steps).build
    let afresh := (after [.replace built.capabilities]).build
    ((after steps).advance (.replace built.capabilities)).build = built ∧
      built.capabilities.hasUnwanted .notVcnManaged = true ∧
      afresh ≠ built ∧
      afresh = { built with capabilities := built.capabilities.require .notVcnManaged } := by
  intro steps built afresh
  obtain ⟨hagain, hdiffers, hmore⟩ := rebuilt_alike steps
  have hsupported : ∀ c, built.capabilities.has c = true → c.isVcnSupported = true :=
    all_isVcnSupported_iff.mp (by decide)
  have hne : afresh ≠ built := hdiffers.mpr ⟨⟨.clear, by decide, rfl⟩, hsupported⟩
  exact ⟨hagain, by decide, hne, (hmore hne).2⟩

end Rangelink.RequestBuilder
