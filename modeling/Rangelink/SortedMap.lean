import Rangelink.SortedSet

/-! # Finite maps as ascending tables

A map is a table of key and value, strictly ascending in the key. A key occurs
once, and two maps are equal as soon as they agree on every key.
-/
namespace Rangelink
open StrictOrder

/-- Finite map, listed in strictly ascending order of its keys. -/
structure SortedMap (κ β : Type) [StrictOrder κ] where
  entries : List (κ × β) := []
  ascending : entries.Pairwise (fun a b => precedes a.1 b.1 = true) := by simp
  deriving DecidableEq

namespace SortedMap
variable {κ β : Type} [StrictOrder κ]

def place (k : κ) (v : β) : List (κ × β) → List (κ × β)
  | [] => [(k, v)]
  | e :: rest =>
    if precedes k e.1 then (k, v) :: e :: rest
    else if precedes e.1 k then e :: place k v rest
    else (k, v) :: rest

theorem mem_place {k : κ} {v : β} {xs : List (κ × β)} {e : κ × β} (h : e ∈ place k v xs) :
    e = (k, v) ∨ e ∈ xs := by
  induction xs with
  | nil => simpa [place] using h
  | cons f rest ih =>
    rw [place] at h
    split at h
    · simpa using h
    · split at h
      · rcases List.mem_cons.mp h with rfl | h
        · simp
        · rcases ih h with rfl | h <;> simp_all
      · rcases List.mem_cons.mp h with rfl | h
        · simp
        · simp [h]

theorem place_ascending (k : κ) (v : β) {xs : List (κ × β)}
    (h : xs.Pairwise (fun a b => precedes a.1 b.1 = true)) :
    (place k v xs).Pairwise (fun a b => precedes a.1 b.1 = true) := by
  induction xs with
  | nil => simp [place]
  | cons e rest ih =>
    obtain ⟨he, hr⟩ := List.pairwise_cons.mp h
    rw [place]
    split
    · rename_i hk
      refine List.pairwise_cons.mpr ⟨fun f hf => ?_, h⟩
      rcases List.mem_cons.mp hf with rfl | hf
      · exact hk
      · exact precedes_trans hk (he f hf)
    · split
      · rename_i hk
        refine List.pairwise_cons.mpr ⟨fun f hf => ?_, ih hr⟩
        rcases mem_place hf with rfl | hf
        · exact hk
        · exact he f hf
      · rename_i h₁ h₂
        have hk : k = e.1 := eq_of_not_precedes (by simpa using h₁) (by simpa using h₂)
        exact List.pairwise_cons.mpr ⟨fun f hf => hk ▸ he f hf, hr⟩

def empty : SortedMap κ β := {}

def insert (k : κ) (v : β) (m : SortedMap κ β) : SortedMap κ β :=
  ⟨place k v m.entries, place_ascending k v m.ascending⟩

def ofList (xs : List (κ × β)) : SortedMap κ β := xs.foldl (fun m e => m.insert e.1 e.2) empty

def size (m : SortedMap κ β) : Nat := m.entries.length

def values (m : SortedMap κ β) : List β := m.entries.map Prod.snd

def keys (m : SortedMap κ β) : SortedSet κ :=
  ⟨m.entries.map Prod.fst, List.pairwise_map.mpr m.ascending⟩

section Lookup
variable [DecidableEq κ]

def get? (m : SortedMap κ β) (k : κ) : Option β :=
  (m.entries.find? fun e => decide (e.1 = k)).map Prod.snd

def contains (m : SortedMap κ β) (k : κ) : Bool := (m.get? k).isSome

def erase (k : κ) (m : SortedMap κ β) : SortedMap κ β :=
  ⟨m.entries.filter (fun e => !decide (e.1 = k)), m.ascending.filter _⟩

def modify (k : κ) (f : β → β) (m : SortedMap κ β) : SortedMap κ β :=
  match m.get? k with
  | some v => m.insert k (f v)
  | none => m

theorem get?_empty (k : κ) : (empty : SortedMap κ β).get? k = none := rfl

private theorem find?_place (k k' : κ) (v : β) (xs : List (κ × β)) :
    ((place k v xs).find? fun e => decide (e.1 = k')).map Prod.snd =
      if k = k' then some v else (xs.find? fun e => decide (e.1 = k')).map Prod.snd := by
  induction xs with
  | nil => by_cases h : k = k' <;> simp [place, h]
  | cons e rest ih =>
    rw [place]
    split
    · by_cases h : k = k' <;> simp [h]
    · split
      · rename_i hk
        by_cases he : e.1 = k'
        · have : k ≠ k' := fun h => (ne_of_precedes hk) (he.trans h.symm)
          simp [he, this]
        · simpa [he] using ih
      · rename_i h₁ h₂
        have hk : k = e.1 := eq_of_not_precedes (by simpa using h₁) (by simpa using h₂)
        by_cases h : k = k' <;> simp [h, ← hk]

/-- A look-up sees the last insertion under its key. -/
theorem get?_insert (k k' : κ) (v : β) (m : SortedMap κ β) :
    (m.insert k v).get? k' = if k = k' then some v else m.get? k' :=
  find?_place k k' v m.entries

@[simp] theorem get?_insert_self (k : κ) (v : β) (m : SortedMap κ β) :
    (m.insert k v).get? k = some v := by simp [get?_insert]

theorem get?_insert_of_ne {k k' : κ} (h : k ≠ k') (v : β) (m : SortedMap κ β) :
    (m.insert k v).get? k' = m.get? k' := by simp [get?_insert, h]

theorem get?_erase (k k' : κ) (m : SortedMap κ β) :
    (m.erase k).get? k' = if k = k' then none else m.get? k' := by
  simp only [get?, erase, List.find?_filter]
  by_cases h : k = k'
  · subst h; simp
  · simp only [h, if_false]
    congr 2
    funext e
    by_cases he : e.1 = k' <;> simp [he, Ne.symm h]

theorem mem_entries_iff {m : SortedMap κ β} {k : κ} {v : β} :
    (k, v) ∈ m.entries ↔ m.get? k = some v := by
  obtain ⟨xs, h⟩ := m
  simp only [get?]
  induction xs with
  | nil => simp
  | cons e rest ih =>
    obtain ⟨he, hr⟩ := List.pairwise_cons.mp h
    by_cases hk : e.1 = k
    · subst hk
      simp only [List.mem_cons, List.find?_cons, decide_true, Option.map_some, Option.some.injEq]
      refine ⟨fun hm => ?_, fun hv => Or.inl (by rw [← hv])⟩
      rcases hm with hm | hm
      · rw [← hm]
      · exact absurd (he _ hm) (by simp [precedes_irrefl])
    · have : (k, v) ≠ e := fun h => hk (by rw [← h])
      simpa [hk, this] using ih hr

@[simp] theorem mem_keys {m : SortedMap κ β} {k : κ} : k ∈ m.keys ↔ ∃ v, m.get? k = some v := by
  simp only [SortedSet.mem_def, keys, List.mem_map]
  constructor
  · rintro ⟨⟨k', v⟩, h, rfl⟩
    exact ⟨v, mem_entries_iff.mp h⟩
  · rintro ⟨v, h⟩
    exact ⟨(k, v), mem_entries_iff.mpr h, rfl⟩

omit [DecidableEq κ] in
private theorem entries_ext {xs ys : List (κ × β)}
    (hx : xs.Pairwise (fun a b => precedes a.1 b.1 = true))
    (hy : ys.Pairwise (fun a b => precedes a.1 b.1 = true))
    (h : ∀ e, e ∈ xs ↔ e ∈ ys) : xs = ys := by
  induction xs generalizing ys with
  | nil =>
    cases ys with
    | nil => rfl
    | cons b ys => exact absurd ((h b).mpr (by simp)) (by simp)
  | cons a xs ih =>
    cases ys with
    | nil => exact absurd ((h a).mp (by simp)) (by simp)
    | cons b ys =>
      obtain ⟨ha, hxs⟩ := List.pairwise_cons.mp hx
      obtain ⟨hb, hys⟩ := List.pairwise_cons.mp hy
      have hab : a = b := by
        rcases List.mem_cons.mp ((h a).mp (by simp)) with e | hm
        · exact e
        · rcases List.mem_cons.mp ((h b).mpr (by simp)) with e | hm'
          · exact e.symm
          · exact absurd (ha b hm') (by simp [precedes_asymm (hb a hm)])
      subst hab
      congr 1
      refine ih hxs hys fun c => ⟨fun hc => ?_, fun hc => ?_⟩
      · refine (List.mem_cons.mp ((h c).mp (List.mem_cons_of_mem _ hc))).resolve_left fun e => ?_
        exact ne_of_precedes (ha c hc) (by rw [e])
      · refine (List.mem_cons.mp ((h c).mpr (List.mem_cons_of_mem _ hc))).resolve_left fun e => ?_
        exact ne_of_precedes (hb c hc) (by rw [e])

/-- Maps that agree on every key are equal. -/
@[ext] theorem ext {m n : SortedMap κ β} (h : ∀ k, m.get? k = n.get? k) : m = n := by
  have he : m.entries = n.entries :=
    entries_ext m.ascending n.ascending fun ⟨k, v⟩ => by simp [mem_entries_iff, h k]
  cases m; cases n
  simpa using he

end Lookup

end SortedMap

end Rangelink
