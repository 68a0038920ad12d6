import Rangelink.SortedMap

/-! # Entries of a table as a collection

Up to order, an insertion under a new key adds one entry and an erasure takes
one away. The keys change in the same way. What a collection holds determines how
it is listed.
-/
namespace Rangelink
open StrictOrder

theorem SortedSet.size_difference_self {α : Type} [StrictOrder α] [DecidableEq α]
    (s : SortedSet α) : (s.difference s).size = 0 := by
  have hempty : s.difference s = .empty := by
    ext a
    simp
  rw [hempty]
  rfl

theorem SortedSet.nodup_toList {α : Type} [StrictOrder α] (s : SortedSet α) : s.toList.Nodup :=
  s.ascending.imp ne_of_precedes

/-- The listing of a set is the only one that ascends and has just its members. -/
theorem SortedSet.eq_toList_iff {α : Type} [StrictOrder α] {xs : List α} {s : SortedSet α} :
    xs = s.toList ↔ xs.Pairwise (fun a b => precedes a b = true) ∧ ∀ a, a ∈ xs ↔ a ∈ s := by
  constructor
  · rintro rfl
    exact ⟨s.ascending, fun a => mem_def⟩
  · rintro ⟨hascending, hmem⟩
    have heq : (⟨xs, hascending⟩ : SortedSet α) = s := by
      ext a
      exact hmem a
    rw [← heq]

namespace SortedMap
variable {κ β : Type} [StrictOrder κ]

theorem nodup_entries (m : SortedMap κ β) : m.entries.Nodup := by
  refine m.ascending.imp ?_
  intro e f h he
  exact ne_of_precedes h (by rw [he])

@[simp] theorem size_keys (m : SortedMap κ β) : m.keys.size = m.size := by
  simp [keys, size, SortedSet.size]

theorem place_last {k : κ} {xs : List (κ × β)} (v : β) (h : ∀ e ∈ xs, precedes e.1 k = true) :
    place k v xs = xs ++ [(k, v)] := by
  induction xs with
  | nil => rfl
  | cons e rest ih =>
    obtain ⟨he, hrest⟩ := List.forall_mem_cons.mp h
    simp only [place, precedes_asymm he, he, ih hrest]
    rfl

/-- A key after all others is listed last. -/
theorem entries_insert_last {k : κ} {m : SortedMap κ β} (v : β)
    (h : ∀ e ∈ m.entries, precedes e.1 k = true) : (m.insert k v).entries = m.entries ++ [(k, v)] :=
  place_last v h

variable [DecidableEq κ]

theorem get?_eq_none_of_not_mem {m : SortedMap κ β} {k : κ} (h : k ∉ m.keys) : m.get? k = none := by
  cases hv : m.get? k with
  | none => rfl
  | some v => exact absurd (mem_keys.mpr ⟨v, hv⟩) h

theorem keys_insert (k : κ) (v : β) (m : SortedMap κ β) : (m.insert k v).keys = m.keys.insert k := by
  ext k'
  rw [mem_keys, SortedSet.mem_insert, mem_keys, get?_insert]
  by_cases h : k = k'
  · simp [h]
  · simp [h, Ne.symm h]

theorem keys_erase (k : κ) (m : SortedMap κ β) : (m.erase k).keys = m.keys.erase k := by
  ext k'
  rw [mem_keys, SortedSet.mem_erase, mem_keys, get?_erase]
  by_cases h : k = k'
  · simp [h]
  · simp [h, Ne.symm h]

theorem erase_of_get?_eq_none {k : κ} {m : SortedMap κ β} (h : m.get? k = none) : m.erase k = m := by
  ext1 k'
  rw [get?_erase]
  split
  · rename_i hk
    rw [← hk, h]
  · rfl

theorem insert_of_get?_eq_some {k : κ} {v : β} {m : SortedMap κ β} (h : m.get? k = some v) :
    m.insert k v = m := by
  ext1 k'
  rw [get?_insert]
  split
  · rename_i hk
    rw [← hk, h]
  · rfl

theorem insert_comm {k k' : κ} (h : k ≠ k') (v v' : β) (m : SortedMap κ β) :
    (m.insert k v).insert k' v' = (m.insert k' v').insert k v := by
  ext1 key
  simp only [get?_insert]
  by_cases hk : k = key
  · have hk' : k' ≠ key := by
      rintro rfl
      exact h hk
    rw [if_pos hk, if_pos hk, if_neg hk']
  · rw [if_neg hk, if_neg hk]

/-- The listing of a table is the only one that ascends and has just what is found in it. -/
theorem eq_entries_iff {xs : List (κ × β)} {m : SortedMap κ β} :
    xs = m.entries ↔
      xs.Pairwise (fun a b => precedes a.1 b.1 = true) ∧
        ∀ k v, (k, v) ∈ xs ↔ m.get? k = some v := by
  constructor
  · rintro rfl
    exact ⟨m.ascending, fun k v => mem_entries_iff⟩
  · rintro ⟨hascending, hmem⟩
    have heq : (⟨xs, hascending⟩ : SortedMap κ β) = m := by
      ext1 k
      apply Option.ext
      intro v
      rw [← hmem, ← mem_entries_iff]
    rw [← heq]

theorem modify_of_get?_eq_some {k : κ} {v : β} {m : SortedMap κ β} (h : m.get? k = some v)
    (f : β → β) : m.modify k f = m.insert k (f v) := by
  simp only [modify, h]

theorem entries_erase_perm {k : κ} {v : β} {m : SortedMap κ β} (h : m.get? k = some v) :
    m.entries.Perm ((k, v) :: (m.erase k).entries) := by
  have hgone : (k, v) ∉ (m.erase k).entries := by simp [mem_entries_iff, get?_erase]
  refine (List.perm_ext_iff_of_nodup (nodup_entries m)
    (List.nodup_cons.mpr ⟨hgone, nodup_entries _⟩)).mpr ?_
  rintro ⟨k', v'⟩
  rw [mem_entries_iff, List.mem_cons, mem_entries_iff, get?_erase]
  by_cases hk : k = k'
  · subst hk
    simp [h, eq_comm]
  · simp [hk, Ne.symm hk]

/-- An insertion replaces what was held under its key, if anything was. -/
theorem entries_insert_perm_erase (k : κ) (v : β) (m : SortedMap κ β) :
    (m.insert k v).entries.Perm ((k, v) :: (m.erase k).entries) := by
  have hrest : (m.insert k v).erase k = m.erase k := by
    ext1 k'
    rw [get?_erase, get?_erase]
    split
    · rfl
    · rename_i hk
      rw [get?_insert_of_ne hk]
  rw [← hrest]
  exact entries_erase_perm (get?_insert_self k v m)

theorem entries_insert_perm {k : κ} {m : SortedMap κ β} (v : β) (h : m.get? k = none) :
    (m.insert k v).entries.Perm ((k, v) :: m.entries) := by
  have hinsert := entries_insert_perm_erase k v m
  rwa [erase_of_get?_eq_none h] at hinsert

end SortedMap

end Rangelink
