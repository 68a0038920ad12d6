import Rangelink.Capabilities

/-! # Wanted and unwanted apart

Every edit keeps the wanted capabilities of a set apart from the unwanted ones,
so that no set made by edits both wants and forbids a capability.
-/
namespace Rangelink.Capabilities
variable {cs network : Capabilities} {c d : Capability}

/-- A template takes a network by all of its parts at once. -/
theorem accepts_iff :
    cs.accepts network = true ↔
      (∀ c ∈ cs.wanted, network.has c = true) ∧ (∀ c ∈ cs.unwanted, network.has c = false) ∧
        (cs.transports.isEmpty = true ∨ ∃ t ∈ cs.transports, network.hasTransport t = true) ∧
        specifierAccepts cs.specifier network.specifier = true ∧
        cs.up ≤ network.up ∧ cs.down ≤ network.down := by
  have htransports : cs.transports.disjoint network.transports = false ↔
      ∃ t ∈ cs.transports, network.hasTransport t = true := by
    rw [← Bool.not_eq_true, SortedSet.disjoint_eq_true]
    simp [hasTransport, SortedSet.contains]
  unfold accepts
  simp only [Bool.and_eq_true, Bool.or_eq_true, Bool.not_eq_true', decide_eq_true_eq, and_assoc,
    SortedSet.subset_eq_true, SortedSet.disjoint_eq_true, htransports]
  simp [has, SortedSet.contains]

@[simp] theorem mem_wanted_require : d ∈ (cs.require c).wanted ↔ d = c ∨ d ∈ cs.wanted :=
  SortedSet.mem_insert

@[simp] theorem mem_unwanted_require : d ∈ (cs.require c).unwanted ↔ d ∈ cs.unwanted ∧ d ≠ c :=
  SortedSet.mem_erase

@[simp] theorem mem_wanted_forbid : d ∈ (cs.forbid c).wanted ↔ d ∈ cs.wanted ∧ d ≠ c :=
  SortedSet.mem_erase

@[simp] theorem mem_unwanted_forbid : d ∈ (cs.forbid c).unwanted ↔ d = c ∨ d ∈ cs.unwanted :=
  SortedSet.mem_insert

@[simp] theorem mem_wanted_release : d ∈ (cs.release c).wanted ↔ d ∈ cs.wanted ∧ d ≠ c :=
  SortedSet.mem_erase

@[simp] theorem mem_unwanted_release : d ∈ (cs.release c).unwanted ↔ d ∈ cs.unwanted ∧ d ≠ c :=
  SortedSet.mem_erase

theorem mem_wanted_markRestricted :
    d ∈ cs.markRestricted.wanted ↔ d ∈ cs.wanted ∧ ¬ (cs.isRestricted = true ∧ d = .notRestricted) := by
  unfold markRestricted
  by_cases h : cs.isRestricted = true <;> simp [h]

@[simp] theorem unwanted_markRestricted (cs : Capabilities) :
    cs.markRestricted.unwanted = cs.unwanted := by
  unfold markRestricted
  split <;> rfl

/-- No capability is both wanted and unwanted. -/
def Coherent (cs : Capabilities) : Prop := ∀ c ∈ cs.wanted, c ∉ cs.unwanted

theorem coherent_empty : Coherent {} := by
  intro c hc
  exact absurd hc SortedSet.not_mem_empty

theorem Coherent.require (h : cs.Coherent) (c : Capability) : (cs.require c).Coherent := by
  intro d hd hu
  obtain ⟨hu, hne⟩ := mem_unwanted_require.mp hu
  have hw : d ∈ cs.wanted := (mem_wanted_require.mp hd).resolve_left hne
  exact h d hw hu

theorem Coherent.forbid (h : cs.Coherent) (c : Capability) : (cs.forbid c).Coherent := by
  intro d hd hu
  obtain ⟨hw, hne⟩ := mem_wanted_forbid.mp hd
  have hold : d ∈ cs.unwanted := (mem_unwanted_forbid.mp hu).resolve_left hne
  exact h d hw hold

theorem Coherent.release (h : cs.Coherent) (c : Capability) : (cs.release c).Coherent := by
  intro d hd hu
  exact h d (mem_wanted_release.mp hd).1 (mem_unwanted_release.mp hu).1

theorem Coherent.markRestricted (h : cs.Coherent) : cs.markRestricted.Coherent := by
  intro d hd hu
  rw [unwanted_markRestricted] at hu
  exact h d (mem_wanted_markRestricted.mp hd).1 hu

theorem Coherent.edit (h : cs.Coherent) (e : Edit) : (Capabilities.edit e cs).Coherent := by
  cases e with
  | require c => exact h.require c
  | forbid c => exact h.forbid c
  | release c => exact h.release c
  | clear => exact coherent_empty
  | markRestricted => exact h.markRestricted
  | addTransport t => exact h
  | removeTransport t => exact h
  | specify s => exact h
  | setUp kbps => exact h
  | setDown kbps => exact h

def made (edits : List Edit) : Capabilities := edits.foldl (fun cs e => cs.edit e) {}

theorem coherent_made (edits : List Edit) : (made edits).Coherent := by
  have run : ∀ (edits : List Edit) (cs : Capabilities), cs.Coherent →
      (edits.foldl (fun cs e => Capabilities.edit e cs) cs).Coherent := by
    intro edits
    induction edits with
    | nil => intro cs h; exact h
    | cons e rest ih => intro cs h; exact ih _ (h.edit e)
  exact run edits {} coherent_empty

end Rangelink.Capabilities
