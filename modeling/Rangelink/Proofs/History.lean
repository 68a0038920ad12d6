import Mathlib.Data.List.Basic
import Mathlib.Data.List.Induction

/-! # Histories

A history is a list that grows at its end. What it says of the present is often
that something happened and that nothing after it undid that, or what was written
last. Where events of different kinds do not depend on each other, how they
interleave leaves no trace.
-/
namespace Rangelink

theorem exists_split_concat {α : Type} {p q : α → Prop} {history : List α} {last : α} :
    (∃ before x later, history ++ [last] = before ++ x :: later ∧ p x ∧ ∀ y ∈ later, q y) ↔
      p last ∨
        ((∃ before x later, history = before ++ x :: later ∧ p x ∧ ∀ y ∈ later, q y) ∧ q last) := by
  constructor
  · rintro ⟨before, x, later, hsplit, hx, hlater⟩
    rcases List.eq_nil_or_concat' later with rfl | ⟨later, y, rfl⟩
    · left
      obtain ⟨-, hlast⟩ := List.append_inj' hsplit rfl
      rw [List.singleton_inj.mp hlast]
      exact hx
    · right
      rw [← List.cons_append, ← List.append_assoc] at hsplit
      obtain ⟨hhistory, hlast⟩ := List.append_inj' hsplit rfl
      obtain ⟨hlater, hy⟩ := List.forall_mem_append.mp hlater
      refine ⟨⟨before, x, later, hhistory, hx, hlater⟩, ?_⟩
      rw [List.singleton_inj.mp hlast]
      exact List.forall_mem_singleton.mp hy
  · rintro (hlast | ⟨⟨before, x, later, rfl, hx, hlater⟩, hlast⟩)
    · exact ⟨history, last, [], rfl, hlast, List.forall_mem_nil _⟩
    · refine ⟨before, x, later ++ [last], by simp, hx, ?_⟩
      exact List.forall_mem_append.mpr ⟨hlater, List.forall_mem_singleton.mpr hlast⟩

theorem not_exists_split_nil {α : Type} {p q : α → Prop} :
    ¬ ∃ before x later, ([] : List α) = before ++ x :: later ∧ p x ∧ ∀ y ∈ later, q y := by
  rintro ⟨before, x, later, hsplit, -⟩
  simp at hsplit

/-- What holds of every event and its past holds of the last event and of all before it. -/
theorem forall_split_concat {α : Type} {P : List α → α → Prop} {history : List α} {last : α} :
    (∀ before x later, history ++ [last] = before ++ x :: later → P before x) ↔
      (∀ before x later, history = before ++ x :: later → P before x) ∧ P history last := by
  constructor
  · intro h
    refine ⟨?_, h history last [] rfl⟩
    rintro before x later rfl
    apply h before x (later ++ [last])
    simp
  · rintro ⟨hrest, hlast⟩ before x later hsplit
    rcases List.eq_nil_or_concat' later with rfl | ⟨later, y, rfl⟩
    · obtain ⟨rfl, heq⟩ := List.append_inj' hsplit rfl
      rw [← List.singleton_inj.mp heq]
      exact hlast
    · rw [← List.cons_append, ← List.append_assoc] at hsplit
      obtain ⟨hhistory, -⟩ := List.append_inj' hsplit rfl
      exact hrest before x later hhistory

section LastWritten
variable {σ α β : Type} {write? : α → Option β}

/-- What a history wrote last, or what was there before it. -/
def lastWritten (write? : α → Option β) (before : β) (history : List α) : β :=
  ((history.filterMap write?).getLast?).getD before

theorem getLast?_filterMap_concat (write? : α → Option β) (history : List α) (x : α) :
    ((history ++ [x]).filterMap write?).getLast? =
      (write? x).or (history.filterMap write?).getLast? := by
  rw [List.filterMap_append, List.getLast?_append]
  cases h : write? x <;> simp [h]

theorem lastWritten_concat (write? : α → Option β) (before : β) (history : List α) (x : α) :
    lastWritten write? before (history ++ [x]) =
      (write? x).getD (lastWritten write? before history) := by
  rw [lastWritten, getLast?_filterMap_concat]
  cases write? x <;> rfl

/-- What every step writes or leaves alone is after a run what was written last. -/
theorem foldl_eq_lastWritten_of_mem {step : σ → α → σ} (view : σ → β) {history : List α}
    (h : ∀ s, ∀ a ∈ history, view (step s a) = (write? a).getD (view s)) (s : σ) :
    view (history.foldl step s) = lastWritten write? (view s) history := by
  induction history using List.reverseRecOn with
  | nil => rfl
  | append_singleton history a ih =>
    obtain ⟨hrest, hlast⟩ : (∀ s, ∀ x ∈ history, view (step s x) = (write? x).getD (view s)) ∧
        ∀ s, view (step s a) = (write? a).getD (view s) := by
      constructor
      · intro s x hx
        exact h s x (List.mem_append_left _ hx)
      · intro s
        exact h s a List.mem_concat_self
    rw [List.foldl_concat, hlast, ih hrest, lastWritten_concat]

theorem foldl_eq_lastWritten {step : σ → α → σ} {view : σ → β}
    (h : ∀ s a, view (step s a) = (write? a).getD (view s)) (history : List α) (s : σ) :
    view (history.foldl step s) = lastWritten write? (view s) history :=
  foldl_eq_lastWritten_of_mem view (fun s a _ => h s a) s

/-- What was not there before was written by a step that no later one overwrote. -/
theorem exists_of_lastWritten {before b : β} {history : List α}
    (h : lastWritten write? before history = b) (hne : before ≠ b) :
    ∃ earlier a later, history = earlier ++ a :: later ∧ write? a = some b ∧
      ∀ x ∈ later, write? x = none := by
  induction history using List.reverseRecOn with
  | nil => exact absurd h hne
  | append_singleton history a ih =>
    rw [exists_split_concat]
    rw [lastWritten_concat] at h
    cases ha : write? a with
    | some b' =>
      rw [ha] at h
      exact Or.inl (congrArg some h)
    | none =>
      rw [ha] at h
      exact Or.inr ⟨ih h, rfl⟩

end LastWritten

section Interleaving
variable {σ α κ : Type} {step : σ → α → σ} {kind : α → κ}

/-- An event comes to the same before and after events of other kinds. -/
theorem foldl_step_comm (comm : ∀ s a b, kind a ≠ kind b → step (step s a) b = step (step s b) a)
    {a : α} {before : List α} (h : ∀ b ∈ before, kind b ≠ kind a) (s : σ) :
    before.foldl step (step s a) = step (before.foldl step s) a := by
  induction before generalizing s with
  | nil => rfl
  | cons b rest ih =>
    obtain ⟨hb, hrest⟩ := List.forall_mem_cons.mp h
    rw [List.foldl_cons, List.foldl_cons, comm s a b hb.symm, ih hrest]

variable [DecidableEq κ]

/-- Two histories of the same events, kind by kind, lead to the same state if events of different
kinds can be taken in either order. -/
theorem foldl_eq_of_interleaved
    (comm : ∀ s a b, kind a ≠ kind b → step (step s a) b = step (step s b) a) {xs ys : List α}
    (same : ∀ k, xs.filter (fun a => kind a = k) = ys.filter (fun a => kind a = k)) (s : σ) :
    xs.foldl step s = ys.foldl step s := by
  induction xs generalizing ys s with
  | nil =>
    cases ys with
    | nil => rfl
    | cons b ys => simpa using same (kind b)
  | cons a xs ih =>
    -- the first event of the kind of `a` in the other history is `a` itself
    have hfirst := same (kind a)
    rw [List.filter_cons_of_pos (by simp)] at hfirst
    obtain ⟨before, later, rfl, hbefore, -, -⟩ := List.filter_eq_cons_iff.mp hfirst.symm
    have hpast : ∀ b ∈ before, kind b ≠ kind a := by
      intro b hb
      simpa using hbefore b hb
    have hrest : ∀ k, xs.filter (fun a => kind a = k) =
        (before ++ later).filter (fun a => kind a = k) := by
      intro k
      have hk := same k
      rw [List.filter_append] at hk ⊢
      by_cases ha : kind a = k
      · have hnone : before.filter (fun b => kind b = k) = [] := by
          rw [List.filter_eq_nil_iff]
          intro b hb
          simpa [← ha] using hpast b hb
        rw [List.filter_cons_of_pos (by simpa using ha), List.filter_cons_of_pos (by simpa using ha),
          hnone] at hk
        rw [hnone]
        exact List.tail_eq_of_cons_eq hk
      · rwa [List.filter_cons_of_neg (by simpa using ha),
          List.filter_cons_of_neg (by simpa using ha)] at hk
    calc (a :: xs).foldl step s
        _ = (before ++ later).foldl step (step s a) := ih hrest (step s a)
        _ = later.foldl step (before.foldl step (step s a)) := List.foldl_append
        _ = later.foldl step (step (before.foldl step s) a) := by rw [foldl_step_comm comm hpast]
        _ = (before ++ a :: later).foldl step s := by rw [List.foldl_append, List.foldl_cons]

end Interleaving

end Rangelink
