import Rangelink.Proofs.Capabilities

/-! # Templates that follow from each other

A template follows from another if every network that meets the other meets it
too. That is decided part by part, since for each part in which it asks for more
there is a network that meets the other template and lacks just this.
-/
namespace Rangelink.Capabilities
variable {t₁ t₂ cs network : Capabilities} {c : Capability} {s offered : Option Specifier}

/-- Every network that meets the first template meets the second. -/
def Entails (t₁ t₂ : Capabilities) : Prop :=
  ∀ edits, t₁.accepts (made edits) = true → t₂.accepts (made edits) = true

/-- The first template asks in each part for at least what the second asks for. -/
structure Narrows (t₁ t₂ : Capabilities) : Prop where
  wanted : t₂.wanted.subset t₁.wanted = true
  unwanted : t₂.unwanted.subset t₁.unwanted = true
  transports : t₂.transports.isEmpty = true ∨
    t₁.transports.isEmpty = false ∧ t₁.transports.subset t₂.transports = true
  specifier : t₂.specifier = none ∨ t₂.specifier = some .matchAll ∨ t₂.specifier = t₁.specifier
  up : t₂.up ≤ t₁.up
  down : t₂.down ≤ t₁.down

instance (t₁ t₂ : Capabilities) : Decidable (Narrows t₁ t₂) :=
  decidable_of_iff
    (t₂.wanted.subset t₁.wanted = true ∧ t₂.unwanted.subset t₁.unwanted = true ∧
      (t₂.transports.isEmpty = true ∨
        t₁.transports.isEmpty = false ∧ t₁.transports.subset t₂.transports = true) ∧
      (t₂.specifier = none ∨ t₂.specifier = some .matchAll ∨ t₂.specifier = t₁.specifier) ∧
      t₂.up ≤ t₁.up ∧ t₂.down ≤ t₁.down)
    ⟨fun ⟨wanted, unwanted, transports, specifier, up, down⟩ =>
      ⟨wanted, unwanted, transports, specifier, up, down⟩,
     fun h => ⟨h.wanted, h.unwanted, h.transports, h.specifier, h.up, h.down⟩⟩

section Parts

theorem specifierAccepts_iff :
    specifierAccepts s offered = true ↔ s = none ∨ s = some .matchAll ∨ s = offered := by
  match s with
  | none => simp [specifierAccepts]
  | some .matchAll => simp [specifierAccepts]
  | some (.telephony sub) => simp [specifierAccepts, Eq.comm (a := offered)]
  | some (.text value) => simp [specifierAccepts, Eq.comm (a := offered)]

theorem isEmpty_transports_iff :
    cs.transports.isEmpty = false ↔ ∃ t, t ∈ cs.transports :=
  List.isEmpty_eq_false_iff_exists_mem

theorem hasTransport_iff {t : Transport} : cs.hasTransport t = true ↔ t ∈ cs.transports :=
  SortedSet.contains_eq_true

end Parts

/-- Whatever meets a template meets every template that asks for no more. -/
theorem Narrows.accepts (h : Narrows t₁ t₂) (ha : t₁.accepts network = true) :
    t₂.accepts network = true := by
  obtain ⟨hw, hu, ht, hs, hup, hdown⟩ := accepts_iff.mp ha
  refine accepts_iff.mpr ⟨?_, ?_, ?_, ?_, ?_, ?_⟩
  · intro c hc
    exact hw c (SortedSet.subset_eq_true.mp h.wanted c hc)
  · intro c hc
    exact hu c (SortedSet.subset_eq_true.mp h.unwanted c hc)
  · rcases h.transports with hnone | ⟨hsome, hsub⟩
    · exact Or.inl hnone
    · rcases ht with hnone | ⟨t, ht, hhas⟩
      · rw [hsome] at hnone
        cases hnone
      · exact Or.inr ⟨t, SortedSet.subset_eq_true.mp hsub t ht, hhas⟩
  · rcases h.specifier with hnone | hall | hsame
    · exact specifierAccepts_iff.mpr (Or.inl hnone)
    · exact specifierAccepts_iff.mpr (Or.inr (Or.inl hall))
    · rw [hsame]
      exact hs
  · exact UInt32.le_trans h.up hup
  · exact UInt32.le_trans h.down hdown

section Networks

/-- A set that wants nothing it forbids meets itself. -/
theorem Coherent.accepts_self (h : cs.Coherent) : cs.accepts cs = true := by
  refine accepts_iff.mpr ⟨?_, ?_, ?_, ?_, UInt32.le_refl _, UInt32.le_refl _⟩
  · intro c hc
    exact SortedSet.contains_eq_true.mpr hc
  · intro c hc
    rw [has, ← Bool.not_eq_true, SortedSet.contains_eq_true]
    intro hw
    exact h c hw hc
  · cases he : cs.transports.isEmpty with
    | true => exact Or.inl rfl
    | false =>
      obtain ⟨t, ht⟩ := isEmpty_transports_iff.mp he
      exact Or.inr ⟨t, ht, hasTransport_iff.mpr ht⟩
  · exact specifierAccepts_iff.mpr (Or.inr (Or.inr rfl))

/-- It is still met by a network that has one more capability, if that is not forbidden. -/
theorem Coherent.accepts_require (h : cs.Coherent) (hc : c ∉ cs.unwanted) :
    cs.accepts (cs.require c) = true := by
  obtain ⟨hw, hu, ht, hs, hup, hdown⟩ := accepts_iff.mp h.accepts_self
  refine accepts_iff.mpr ⟨?_, ?_, ht, hs, hup, hdown⟩
  · intro d hd
    rw [has, SortedSet.contains_eq_true, mem_wanted_require]
    exact Or.inr hd
  · intro d hd
    rw [has, ← Bool.not_eq_true, SortedSet.contains_eq_true, mem_wanted_require]
    rintro (rfl | hwanted)
    · exact hc hd
    · exact h d hwanted hd

theorem made_require (edits : List Edit) (c : Capability) :
    made (edits ++ [.require c]) = (made edits).require c := by
  rw [made, List.foldl_append]
  rfl

/-- A network without these transports. -/
def withoutTransports (ts : List Transport) (cs : Capabilities) : Capabilities :=
  ts.foldl (fun cs t => cs.removeTransport t) cs

theorem made_withoutTransports (edits : List Edit) (ts : List Transport) :
    made (edits ++ ts.map .removeTransport) = (made edits).withoutTransports ts := by
  rw [made, List.foldl_append, List.foldl_map]
  rfl

theorem withoutTransports_keeps (ts : List Transport) (cs : Capabilities) :
    ∃ transports, cs.withoutTransports ts = { cs with transports } ∧
      ∀ t, t ∈ transports ↔ t ∈ cs.transports ∧ t ∉ ts := by
  induction ts generalizing cs with
  | nil => exact ⟨cs.transports, rfl, by simp⟩
  | cons u rest ih =>
    obtain ⟨transports, hrest, hmem⟩ := ih (cs.removeTransport u)
    refine ⟨transports, hrest, ?_⟩
    intro t
    rw [hmem, removeTransport, SortedSet.mem_erase, List.mem_cons, not_or, and_assoc]

/-- It is still met by a network that has some of its transports, if not all of them. -/
theorem Coherent.accepts_withoutTransports (h : cs.Coherent) {ts : List Transport} {t : Transport}
    (ht : t ∈ cs.transports) (hts : t ∉ ts) : cs.accepts (cs.withoutTransports ts) = true := by
  obtain ⟨transports, hkeeps, hmem⟩ := withoutTransports_keeps ts cs
  obtain ⟨hw, hu, -, hs, hup, hdown⟩ := accepts_iff.mp h.accepts_self
  rw [hkeeps]
  refine accepts_iff.mpr ⟨hw, hu, Or.inr ⟨t, ht, ?_⟩, hs, hup, hdown⟩
  exact hasTransport_iff.mpr ((hmem t).mpr ⟨ht, hts⟩)

end Networks

section Converse
variable {edits : List Edit}

/-- A capability that the first template lets pass may not be forbidden by the second. -/
theorem Entails.unwanted (h : Entails (made edits) t₂) (hc : c ∈ t₂.unwanted) :
    c ∈ (made edits).unwanted := by
  refine Decidable.byContradiction fun hnot => ?_
  have hnetwork := h (edits ++ [.require c])
  rw [made_require] at hnetwork
  obtain ⟨-, hunwanted, -⟩ :=
    accepts_iff.mp (hnetwork ((coherent_made edits).accepts_require hnot))
  have hlacks := hunwanted c hc
  simp [has, SortedSet.contains] at hlacks

/-- A transport that alone would do for the first template is named by the second, if any is. -/
theorem Entails.transports (h : Entails (made edits) t₂) (hsome : t₂.transports.isEmpty = false)
    {t : Transport} (ht : t ∈ (made edits).transports) : t ∈ t₂.transports := by
  refine Decidable.byContradiction fun hnot => ?_
  -- The network has all transports of the first template but the ones that the second names.
  have hnetwork := h (edits ++ t₂.transports.toList.map .removeTransport)
  rw [made_withoutTransports] at hnetwork
  have hmet := hnetwork ((coherent_made edits).accepts_withoutTransports ht hnot)
  obtain ⟨transports, hkeeps, hmem⟩ := withoutTransports_keeps t₂.transports.toList (made edits)
  rw [hkeeps] at hmet
  obtain ⟨-, -, hnone | ⟨u, hu, hhas⟩, -⟩ := accepts_iff.mp hmet
  · rw [hsome] at hnone
    cases hnone
  · exact ((hmem u).mp (hasTransport_iff.mp hhas)).2 hu

/-- A template that follows from another asks for no more in any part. Each part is read off a network
that meets the other template and has nothing to spare in that part. -/
theorem Entails.narrows (h : Entails (made edits) t₂) : Narrows (made edits) t₂ := by
  obtain ⟨hwanted, -, htransports, hspecifier, hup, hdown⟩ :=
    accepts_iff.mp (h edits (coherent_made edits).accepts_self)
  refine ⟨?_, ?_, ?_, specifierAccepts_iff.mp hspecifier, hup, hdown⟩
  · rw [SortedSet.subset_eq_true]
    intro c hc
    exact SortedSet.contains_eq_true.mp (hwanted c hc)
  · rw [SortedSet.subset_eq_true]
    intro c hc
    exact h.unwanted hc
  · cases hsome : t₂.transports.isEmpty with
    | true => exact Or.inl rfl
    | false =>
      obtain ⟨t, -, hhas⟩ := htransports.resolve_left (by simp [hsome])
      refine Or.inr ⟨isEmpty_transports_iff.mpr ⟨t, hasTransport_iff.mp hhas⟩, ?_⟩
      rw [SortedSet.subset_eq_true]
      intro u hu
      exact h.transports hsome hu

end Converse

/-- One template follows from another just if it asks for no more in any part. Every template is met
by some network, itself. To follow from each other is thus an order on templates, while to be met by
each other is not transitive. -/
theorem entailment_by_parts :
    (∀ e₁ e₂, Entails (made e₁) (made e₂) ↔ Narrows (made e₁) (made e₂)) ∧
      (∀ e, (made e).accepts (made e) = true) ∧
      (∀ e, Entails (made e) (made e)) ∧
      (∀ e₁ e₂ e₃, Entails (made e₁) (made e₂) → Entails (made e₂) (made e₃) →
        Entails (made e₁) (made e₃)) ∧
      ∃ e₁ e₂ e₃, (made e₁).accepts (made e₂) = true ∧ (made e₂).accepts (made e₃) = true ∧
        (made e₁).accepts (made e₃) = false := by
  refine ⟨?_, ?_, ?_, ?_, ?_⟩
  · intro e₁ e₂
    exact ⟨Entails.narrows, fun h edits => h.accepts⟩
  · intro e
    exact (coherent_made e).accepts_self
  · intro e edits h
    exact h
  · intro e₁ e₂ e₃ h₁₂ h₂₃ edits h
    exact h₂₃ edits (h₁₂ edits h)
  · refine ⟨[.addTransport .wifi], [.addTransport .wifi, .addTransport .cellular],
      [.addTransport .cellular], ?_⟩
    decide

/-- Whatever serves as fast Wi-Fi serves as a slow link of either kind, and not the other way round. -/
theorem entailment_by_parts_wifi :
    let fast := [.addTransport .wifi, .require .internet, .setDown 5000]
    let any := [.addTransport .wifi, .addTransport .cellular, .specify (some .matchAll), .setDown 64]
    Entails (made fast) (made any) ∧ ¬ Entails (made any) (made fast) := by
  intro fast any
  constructor
  · exact (entailment_by_parts.1 fast any).mpr (by decide)
  · intro h
    exact absurd ((entailment_by_parts.1 any fast).mp h) (by decide)

end Rangelink.Capabilities
