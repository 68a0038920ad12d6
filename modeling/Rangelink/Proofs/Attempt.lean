import Rangelink.Attempt

/-! # What sequences of attempts preserve

A property of the state, which may depend on the calls still to come, holds after
a sequence of attempts if every attempt keeps it. A failure that is answered is
the failure of one of the attempts.
-/
namespace Rangelink

theorem firstFailure_eq_error {now later : Outcome} {e : Failure}
    (h : firstFailure now later = .error e) : now = .error e ∨ later = .error e := by
  cases now with
  | ok _ => exact Or.inr h
  | error e' => exact Or.inl h

variable {α σ : Type} {step : α → σ → Outcome × σ} {P : List α → σ → Prop}

theorem attemptEach_cons {a : α} {rest : List α} {s s' : σ} {now : Outcome}
    (h : step a s = (now, s')) :
    attemptEach step (a :: rest) s =
      (firstFailure now (attemptEach step rest s').1, (attemptEach step rest s').2) := by
  rw [attemptEach, h]

theorem attemptEach_keeps (next : ∀ a rest s, P (a :: rest) s → P rest (step a s).2) {as : List α}
    {s : σ} (h : P as s) : P [] (attemptEach step as s).2 := by
  induction as generalizing s with
  | nil => exact h
  | cons a rest ih => exact ih (next a rest s h)

theorem attemptEach_failure (next : ∀ a rest s, P (a :: rest) s → P rest (step a s).2)
    {as : List α} {s : σ} (h : P as s) {e : Failure} (he : (attemptEach step as s).1 = .error e) :
    ∃ a rest s', P (a :: rest) s' ∧ (step a s').1 = .error e := by
  induction as generalizing s with
  | nil => cases he
  | cons a rest ih =>
    simp only [attemptEach] at he
    cases hnow : (step a s).1 with
    | ok _ =>
      rw [hnow] at he
      exact ih (next a rest s h) he
    | error e' =>
      rw [hnow] at he
      exact ⟨a, rest, s, h, hnow.trans he⟩

theorem attemptUntilFailure_keeps (next : ∀ a rest s, P (a :: rest) s → P rest (step a s).2)
    {as : List α} {s s' : σ} (h : P as s) (hs : attemptUntilFailure step as s = (.ok (), s')) :
    P [] s' := by
  induction as generalizing s with
  | nil =>
    cases hs
    exact h
  | cons a rest ih =>
    have hnow := next a rest s h
    rw [attemptUntilFailure] at hs
    split at hs
    · rename_i s₁ hstep
      rw [hstep] at hnow
      exact ih hnow hs
    · cases hs

theorem attemptUntilFailure_append (as bs : List α) (s : σ) :
    attemptUntilFailure step (as ++ bs) s =
      match attemptUntilFailure step as s with
      | (.ok (), s) => attemptUntilFailure step bs s
      | (.error e, s) => (.error e, s) := by
  induction as generalizing s with
  | nil => rfl
  | cons a rest ih =>
    rw [List.cons_append, attemptUntilFailure, attemptUntilFailure]
    rcases step a s with ⟨_ | _, s'⟩
    · rfl
    · exact ih s'

theorem attemptUntilFailure_map {β : Type} (f : β → α) (bs : List β) (s : σ) :
    attemptUntilFailure step (bs.map f) s = attemptUntilFailure (fun b => step (f b)) bs s := by
  induction bs generalizing s with
  | nil => rfl
  | cons b rest ih =>
    rw [List.map_cons, attemptUntilFailure, attemptUntilFailure]
    rcases step (f b) s with ⟨_ | _, s'⟩
    · rfl
    · exact ih s'

/-- Either all calls succeed, or they end with the first that fails; `Q` says what the calls that
succeeded have done. -/
theorem attemptUntilFailure_cases {Q : List α → σ → Prop} {as : List α} {s : σ} (start : Q [] s)
    (next : ∀ before a rest s s', as = before ++ a :: rest → Q before s →
      step a s = (.ok (), s') → Q (before ++ [a]) s') :
    (∃ s', attemptUntilFailure step as s = (.ok (), s') ∧ Q as s') ∨
      ∃ before a rest s₁ e s', as = before ++ a :: rest ∧ Q before s₁ ∧
        step a s₁ = (.error e, s') ∧ attemptUntilFailure step as s = (.error e, s') := by
  induction as generalizing Q s with
  | nil => exact Or.inl ⟨s, rfl, start⟩
  | cons a rest ih =>
    rw [attemptUntilFailure]
    rcases ha : step a s with ⟨e | ⟨⟩, s₁⟩
    · exact Or.inr ⟨[], a, rest, s, e, s₁, rfl, start, ha, rfl⟩
    · have hfirst : Q [a] s₁ := next [] a rest s s₁ rfl start ha
      rcases ih (Q := fun before => Q (a :: before)) hfirst (by
        intro before b later s₂ s₃ hsplit hq hb
        exact next (a :: before) b later s₂ s₃ (by rw [hsplit, List.cons_append]) hq hb) with
        ⟨s', hall, hq⟩ | ⟨before, b, later, s₂, e, s', hsplit, hq, hb, hfails⟩
      · exact Or.inl ⟨s', hall, hq⟩
      · have hsplit' : a :: rest = (a :: before) ++ b :: later := by rw [hsplit, List.cons_append]
        exact Or.inr ⟨a :: before, b, later, s₂, e, s', hsplit', hq, hb, hfails⟩

end Rangelink
