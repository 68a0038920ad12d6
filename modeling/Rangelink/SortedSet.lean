import Rangelink.Order

/-! # Finite sets as ascending lists

A set is the strictly ascending list of its members, so two sets are equal as
soon as they have the same members.
-/
namespace Rangelink
open StrictOrder

/-- Finite set, listed in strictly ascending order. -/
structure SortedSet (α : Type) [StrictOrder α] where
  toList : List α := []
  ascending : toList.Pairwise (fun a b => precedes a b = true) := by simp
  deriving DecidableEq

namespace SortedSet
variable {α : Type} [StrictOrder α]

instance : Membership α (SortedSet α) := ⟨fun s a => a ∈ s.toList⟩

instance [DecidableEq α] (a : α) (s : SortedSet α) : Decidable (a ∈ s) :=
  inferInstanceAs (Decidable (a ∈ s.toList))

theorem mem_def {a : α} {s : SortedSet α} : a ∈ s ↔ a ∈ s.toList := Iff.rfl

def place (a : α) : List α → List α
  | [] => [a]
  | b :: rest =>
    if precedes a b then a :: b :: rest
    else if precedes b a then b :: place a rest
    else b :: rest

theorem mem_place {a c : α} {xs : List α} : c ∈ place a xs ↔ c = a ∨ c ∈ xs := by
  induction xs with
  | nil => simp [place]
  | cons b rest ih =>
    rw [place]
    split
    · simp
    · split
      · simp only [List.mem_cons, ih]; grind
      · rename_i h₁ h₂
        have hab : a = b := eq_of_not_precedes (by simpa using h₁) (by simpa using h₂)
        simp [hab]

theorem place_ascending (a : α) {xs : List α}
    (h : xs.Pairwise (fun a b => precedes a b = true)) :
    (place a xs).Pairwise (fun a b => precedes a b = true) := by
  induction xs with
  | nil => simp [place]
  | cons b rest ih =>
    obtain ⟨hb, hr⟩ := List.pairwise_cons.mp h
    rw [place]
    split
    · rename_i hab
      refine List.pairwise_cons.mpr ⟨fun c hc => ?_, h⟩
      rcases List.mem_cons.mp hc with rfl | hc
      · exact hab
      · exact precedes_trans hab (hb c hc)
    · split
      · rename_i hba
        refine List.pairwise_cons.mpr ⟨fun c hc => ?_, ih hr⟩
        rcases mem_place.mp hc with rfl | hc
        · exact hba
        · exact hb c hc
      · exact h

def empty : SortedSet α := {}

def insert (a : α) (s : SortedSet α) : SortedSet α := ⟨place a s.toList, place_ascending a s.ascending⟩

def ofList (xs : List α) : SortedSet α := xs.foldl (fun s a => s.insert a) empty

def size (s : SortedSet α) : Nat := s.toList.length

def isEmpty (s : SortedSet α) : Bool := s.toList.isEmpty

def any (s : SortedSet α) (p : α → Bool) : Bool := s.toList.any p

def all (s : SortedSet α) (p : α → Bool) : Bool := s.toList.all p

section Removal
variable [DecidableEq α]

def contains (s : SortedSet α) (a : α) : Bool := decide (a ∈ s)

def erase (a : α) (s : SortedSet α) : SortedSet α :=
  ⟨s.toList.filter (fun b => !decide (b = a)), s.ascending.filter _⟩

def difference (s t : SortedSet α) : SortedSet α :=
  ⟨s.toList.filter (fun a => !t.contains a), s.ascending.filter _⟩

def subset (s t : SortedSet α) : Bool := s.all t.contains

def disjoint (s t : SortedSet α) : Bool := s.all (fun a => !t.contains a)

@[simp] theorem contains_eq_true {s : SortedSet α} {a : α} : s.contains a = true ↔ a ∈ s := by
  simp [contains]

@[simp] theorem mem_erase {a b : α} {s : SortedSet α} : b ∈ s.erase a ↔ b ∈ s ∧ b ≠ a := by
  simp [erase, mem_def]

@[simp] theorem mem_difference {a : α} {s t : SortedSet α} :
    a ∈ s.difference t ↔ a ∈ s ∧ a ∉ t := by
  simp [difference, mem_def, contains]

theorem subset_eq_true {s t : SortedSet α} : s.subset t = true ↔ ∀ a ∈ s, a ∈ t := by
  simp [subset, all, mem_def, contains]

theorem disjoint_eq_true {s t : SortedSet α} : s.disjoint t = true ↔ ∀ a ∈ s, a ∉ t := by
  simp [disjoint, all, mem_def, contains]

end Removal

@[simp] theorem not_mem_empty {a : α} : a ∉ (empty : SortedSet α) := by simp [mem_def, empty]

@[simp] theorem mem_insert {a b : α} {s : SortedSet α} : b ∈ s.insert a ↔ b = a ∨ b ∈ s := by
  simp [mem_def, insert, mem_place]

theorem mem_foldl_insert {a : α} {xs : List α} {s : SortedSet α} :
    a ∈ xs.foldl (fun s a => s.insert a) s ↔ a ∈ xs ∨ a ∈ s := by
  induction xs generalizing s with
  | nil => simp
  | cons b xs ih => simp only [List.foldl_cons, ih, mem_insert, List.mem_cons]; grind

@[simp] theorem mem_ofList {a : α} {xs : List α} : a ∈ ofList xs ↔ a ∈ xs := by
  simp [ofList, mem_foldl_insert]

private theorem members_ext {xs ys : List α}
    (hx : xs.Pairwise (fun a b => precedes a b = true))
    (hy : ys.Pairwise (fun a b => precedes a b = true))
    (h : ∀ a, a ∈ xs ↔ a ∈ ys) : xs = ys := by
  induction xs generalizing ys with
  | nil =>
    cases ys with
    | nil => rfl
    | cons b ys => exact absurd ((h b).mpr (by simp)) (by simp)
  | cons a xs ih =>
    cases ys with
    | nil => exact absurd ((h a).mp (by simp)) (by simp)
    | cons b ys =>
      obtain ⟨ha, hxs⟩ := List.pairwise_cons.mp hx
      obtain ⟨hb, hys⟩ := List.pairwise_cons.mp hy
      have hab : a = b := by
        rcases List.mem_cons.mp ((h a).mp (by simp)) with e | hm
        · exact e
        · rcases List.mem_cons.mp ((h b).mpr (by simp)) with e | hm'
          · exact e.symm
          · exact absurd (ha b hm') (by simp [precedes_asymm (hb a hm)])
      subst hab
      congr 1
      refine ih hxs hys fun c => ⟨fun hc => ?_, fun hc => ?_⟩
      · exact (List.mem_cons.mp ((h c).mp (List.mem_cons_of_mem _ hc))).resolve_left
          (ne_of_precedes (ha c hc)).symm
      · exact (List.mem_cons.mp ((h c).mpr (List.mem_cons_of_mem _ hc))).resolve_left
          (ne_of_precedes (hb c hc)).symm

/-- Sets with the same members are equal. -/
@[ext] theorem ext {s t : SortedSet α} (h : ∀ a, a ∈ s ↔ a ∈ t) : s = t := by
  cases s; cases t
  simp only [mk.injEq]
  exact members_ext (by assumption) (by assumption) h

end SortedSet

end Rangelink
