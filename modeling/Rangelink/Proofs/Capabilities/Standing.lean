import Rangelink.Proofs.Capabilities
import Rangelink.Proofs.History

/-! # The standing of a capability

In a set made by edits a capability stands as the last edit that concerns it left
it. What a set answers when it is read determines it, so that sets with the same
standings are equal, whatever edits led to them.
-/
namespace Rangelink

namespace SortedSet
variable {α : Type} [StrictOrder α] [DecidableEq α] {a b : α}
variable {p q : Prop} [Decidable p] [Decidable q]

/-- Makes an element a member or not. -/
def put (p : Prop) [Decidable p] (a : α) (s : SortedSet α) : SortedSet α :=
  if p then s.insert a else s.erase a

theorem mem_put {s : SortedSet α} : b ∈ s.put p a ↔ if b = a then p else b ∈ s := by
  unfold put
  by_cases hp : p
  · by_cases hb : b = a <;> simp [hp, hb]
  · by_cases hb : b = a <;> simp [hp, hb]

theorem put_comm (h : a ≠ b) (s : SortedSet α) : (s.put p a).put q b = (s.put q b).put p a := by
  ext c
  simp only [mem_put]
  by_cases ha : c = a
  · simp [ha, h]
  · simp [ha]

/-- A set is what it answers when it is asked for its members. -/
theorem ext_contains {s t : SortedSet α} (h : ∀ a, s.contains a = t.contains a) : s = t := by
  ext a
  rw [← contains_eq_true, h, contains_eq_true]

end SortedSet

/-- How a set of capabilities takes one of them. -/
inductive Standing where
  | wanted
  | unwanted
  | absent
  deriving DecidableEq, Repr

namespace Capabilities
variable {cs cs₁ cs₂ : Capabilities} {c d : Capability} {e e₁ e₂ : Edit} {edits : List Edit}

section Reading

def standing (cs : Capabilities) (c : Capability) : Standing :=
  if cs.has c then .wanted else if cs.hasUnwanted c then .unwanted else .absent

theorem has_iff_standing : cs.has c = true ↔ cs.standing c = .wanted := by
  unfold standing
  by_cases hw : cs.has c = true
  · simp [hw]
  · by_cases hu : cs.hasUnwanted c = true <;> simp [hw, hu]

theorem Coherent.hasUnwanted_iff_standing (h : cs.Coherent) :
    cs.hasUnwanted c = true ↔ cs.standing c = .unwanted := by
  unfold standing
  by_cases hw : cs.has c = true
  · have hu : ¬ cs.hasUnwanted c = true := by
      simpa [hasUnwanted] using h c (by simpa [has] using hw)
    simp [hw, hu]
  · by_cases hu : cs.hasUnwanted c = true <;> simp [hw, hu]

/-- Two sets answer alike whatever is asked of them. -/
structure ReadAlike (cs₁ cs₂ : Capabilities) : Prop where
  has : ∀ c, cs₁.has c = cs₂.has c
  hasUnwanted : ∀ c, cs₁.hasUnwanted c = cs₂.hasUnwanted c
  hasTransport : ∀ t, cs₁.hasTransport t = cs₂.hasTransport t
  specifier : cs₁.specifier = cs₂.specifier
  up : cs₁.up = cs₂.up
  down : cs₁.down = cs₂.down

theorem eq_iff_readAlike : cs₁ = cs₂ ↔ ReadAlike cs₁ cs₂ := by
  constructor
  · rintro rfl
    exact ⟨fun _ => rfl, fun _ => rfl, fun _ => rfl, rfl, rfl, rfl⟩
  · rintro ⟨hwanted, hunwanted, htransports, hspecifier, hup, hdown⟩
    have hw : cs₁.wanted = cs₂.wanted := SortedSet.ext_contains hwanted
    have hu : cs₁.unwanted = cs₂.unwanted := SortedSet.ext_contains hunwanted
    have ht : cs₁.transports = cs₂.transports := SortedSet.ext_contains htransports
    cases cs₁
    cases cs₂
    simp_all

end Reading

section Marking

/-- Gives a capability a standing. -/
def mark (c : Capability) (s : Standing) (cs : Capabilities) : Capabilities :=
  { cs with wanted := cs.wanted.put (s = .wanted) c, unwanted := cs.unwanted.put (s = .unwanted) c }

theorem standing_mark (s : Standing) (cs : Capabilities) :
    (cs.mark c s).standing d = if c = d then s else cs.standing d := by
  by_cases h : c = d
  · cases s <;> simp [standing, has, hasUnwanted, SortedSet.contains, mark, SortedSet.mem_put, h]
  · simp [standing, has, hasUnwanted, SortedSet.contains, mark, SortedSet.mem_put, h, Ne.symm h]

/-- To give two capabilities their standings takes no order. -/
theorem mark_comm (h : c ≠ d) (s₁ s₂ : Standing) (cs : Capabilities) :
    (cs.mark c s₁).mark d s₂ = (cs.mark d s₂).mark c s₁ := by
  simp only [mark, SortedSet.put_comm h]

end Marking

section Edits

/-- The capability that an edit gives a standing by name. -/
def Edit.capability? : Edit → Option Capability
  | .require c | .forbid c | .release c => some c
  | .addTransport _ | .removeTransport _ | .specify _ | .setUp _ | .setDown _ | .clear
  | .markRestricted => none

/-- The standing that an edit gives a capability, if it concerns that. -/
def Edit.standing? (c : Capability) : Edit → Option Standing
  | .require d => if d = c then some .wanted else none
  | .forbid d => if d = c then some .unwanted else none
  | .release d => if d = c then some .absent else none
  | .clear => some .absent
  | .addTransport _ | .removeTransport _ | .specify _ | .setUp _ | .setDown _
  | .markRestricted => none

/-- An edit of one capability does no more than give it a standing. -/
theorem exists_mark (h : e.capability? = some c) :
    ∃ s, (∀ cs, edit e cs = cs.mark c s) ∧ ∀ d, e.standing? d = if c = d then some s else none := by
  cases e with
  | require d =>
    cases h
    exact ⟨.wanted, fun _ => rfl, fun _ => rfl⟩
  | forbid d =>
    cases h
    exact ⟨.unwanted, fun _ => rfl, fun _ => rfl⟩
  | release d =>
    cases h
    exact ⟨.absent, fun _ => rfl, fun _ => rfl⟩
  | addTransport t => cases h
  | removeTransport t => cases h
  | specify s => cases h
  | setUp kbps => cases h
  | setDown kbps => cases h
  | clear => cases h
  | markRestricted => cases h

/-- Edits of different capabilities can be made in either order. -/
theorem edit_comm (h₁ : e₁.capability? = some c) (h₂ : e₂.capability? = some d) (hne : c ≠ d)
    (cs : Capabilities) : edit e₂ (edit e₁ cs) = edit e₁ (edit e₂ cs) := by
  obtain ⟨s₁, hmark₁, -⟩ := exists_mark h₁
  obtain ⟨s₂, hmark₂, -⟩ := exists_mark h₂
  simp only [hmark₁, hmark₂]
  exact mark_comm hne s₁ s₂ cs

theorem standing_edit (h : e ≠ .markRestricted) (cs : Capabilities) (c : Capability) :
    (edit e cs).standing c = (e.standing? c).getD (cs.standing c) := by
  cases hc : e.capability? with
  | some d =>
    obtain ⟨s, hmark, hstanding⟩ := exists_mark hc
    rw [hmark, hstanding, standing_mark]
    split <;> rfl
  | none =>
    cases e with
    | require d => cases hc
    | forbid d => cases hc
    | release d => cases hc
    | markRestricted => exact absurd rfl h
    | clear => rfl
    | addTransport t => rfl
    | removeTransport t => rfl
    | specify s => rfl
    | setUp kbps => rfl
    | setDown kbps => rfl

/-- The standing that a capability has been left with by the edits of a history. -/
def standingAfter (edits : List Edit) (c : Capability) : Standing :=
  lastWritten (Edit.standing? c) .absent edits

/-- Without marking, each capability stands as the last edit that concerns it left it. -/
theorem standing_made (h : .markRestricted ∉ edits) (c : Capability) :
    (made edits).standing c = standingAfter edits c := by
  apply foldl_eq_lastWritten_of_mem (fun cs : Capabilities => cs.standing c)
  intro cs e he
  apply standing_edit
  rintro rfl
  exact h he

end Edits

end Capabilities

end Rangelink
