import Mathlib.Data.List.Chain
import Rangelink.Proofs.RouteSelection.Step

/-! # What the owner is told

The record that the owner heard of last is the payload of the last notification.
It is the complete record of the tracked network whenever there is one, and no
record is told twice in a row.
-/
namespace Rangelink.RouteSelection

/-- The owner is told of a complete record that it has not heard of last. -/
def IsNews (s : RouteSelection) (r : NetworkRecord) : Prop :=
  s.candidate = some r ∧ s.current ≠ some r

/-- What the owner heard of last is not out of date. -/
structure UpToDate (s : RouteSelection) : Prop where
  complete : ∀ r, s.candidate = some r → s.current = some r
  untracked : s.tracked = none → s.current = none

section Steps
variable {s : RouteSelection} {e : NetworkEvent} {r : NetworkRecord}

theorem announce_cases (s : RouteSelection) :
    (s.announce = (s, none) ∧ ∀ r, ¬ s.IsNews r) ∨
      ∃ r, s.IsNews r ∧ s.announce = ({ s with current := some r }, some (some r)) := by
  unfold announce IsNews
  cases hc : s.candidate with
  | none =>
    left
    simp
  | some r =>
    by_cases hr : s.current = some r
    · left
      simp [hr]
    · right
      exact ⟨r, ⟨rfl, hr⟩, if_neg hr⟩

theorem announce_eq_some_iff {n : Notification} :
    s.announce.2 = some n ↔ ∃ r, n = some r ∧ s.IsNews r := by
  rcases s.announce_cases with ⟨ha, hnone⟩ | ⟨r, hr, ha⟩
  · rw [ha]
    constructor
    · intro h
      cases h
    · rintro ⟨r, -, hr⟩
      exact absurd hr (hnone r)
  · rw [ha]
    constructor
    · intro h
      exact ⟨r, (Option.some.inj h).symm, hr⟩
    · rintro ⟨r', rfl, hr'⟩
      rw [Option.some.inj (hr.1.symm.trans hr'.1)]

theorem candidate_announce (s : RouteSelection) : s.announce.1.candidate = s.candidate := by
  obtain ⟨current, hc⟩ := s.announce_fst
  rw [hc]
  rfl

theorem current_announce (s : RouteSelection) :
    s.announce.1.current = s.announce.2.getD s.current := by
  rcases s.announce_cases with ⟨ha, -⟩ | ⟨r, -, ha⟩ <;> simp [ha]

theorem announce_complete (h : s.announce.1.candidate = some r) :
    s.announce.1.current = some r := by
  rw [candidate_announce] at h
  rcases s.announce_cases with ⟨ha, hnone⟩ | ⟨r', hr', ha⟩
  · rw [ha]
    by_contra hr
    exact hnone r ⟨h, hr⟩
  · rw [ha, ← h, hr'.1]

theorem current_apply (s : RouteSelection) (e : NetworkEvent) :
    (s.apply e).1.current = (s.apply e).2.getD s.current := by
  obtain ⟨n, change⟩ := e
  rcases change.coming_going_or_report with rfl | rfl | hr
  · show (s.track n).current = s.current
    unfold track
    split <;> rfl
  · show (s.lose n).1.current = (s.lose n).2.getD s.current
    unfold lose
    split <;> rfl
  · rw [apply_report (e := ⟨n, change⟩) hr, update]
    split
    · rw [current_announce, current_note]
    · rfl

theorem UpToDate.apply (h : s.UpToDate) (e : NetworkEvent) : (s.apply e).1.UpToDate := by
  obtain ⟨n, change⟩ := e
  rcases change.coming_going_or_report with rfl | rfl | hr
  · show (s.track n).UpToDate
    unfold track
    split
    · exact h
    · constructor
      · intro r hr
        cases hr
      · intro hn
        cases hn
  · show (s.lose n).1.UpToDate
    unfold lose
    split
    · constructor
      · intro r hr
        cases hr
      · intro _
        rfl
    · exact h
  · rw [apply_report (e := ⟨n, change⟩) hr]
    by_cases ht : s.tracked = some n
    · have htracked := s.tracked_update n change
      rw [ht] at htracked
      constructor
      · rw [update, if_pos ht]
        intro r hr
        exact announce_complete hr
      · intro hn
        rw [htracked] at hn
        cases hn
    · rw [update, if_neg ht]
      exact h

/-- The withdrawal of a selection is told with the loss of the tracked network, or of any network
while none is tracked. -/
theorem apply_eq_withdrawn_iff :
    (s.apply e).2 = some none ↔
      e.change = .lost ∧ (s.tracked = some e.network ∨ s.tracked = none) := by
  obtain ⟨n, change⟩ := e
  rcases change.coming_going_or_report with rfl | rfl | hr
  · constructor
    · intro h
      cases h
    · rintro ⟨h, -⟩
      cases h
  · show (s.lose n).2 = some none ↔ _
    unfold lose
    split <;> simp [*]
  · have hlost : change ≠ .lost := by
      rintro rfl
      cases hr
    rw [apply_report (e := ⟨n, change⟩) hr, update]
    split
    · rw [announce_eq_some_iff]
      simp [hlost]
    · simp [hlost]

/-- A record is told with a report about the tracked network that makes it complete and new. -/
theorem apply_eq_selected_iff :
    (s.apply e).2 = some (some r) ↔
      e.change.isReport = true ∧ s.tracked = some e.network ∧
        (s.apply e).1.candidate = some r ∧ s.current ≠ some r := by
  obtain ⟨n, change⟩ := e
  rcases change.coming_going_or_report with rfl | rfl | hr
  · constructor
    · intro h
      cases h
    · rintro ⟨h, -⟩
      cases h
  · constructor
    · intro h
      have hnone : (s.lose n).2 ≠ some (some r) := by
        unfold lose
        split <;> simp
      exact absurd h hnone
    · rintro ⟨h, -⟩
      cases h
  · rw [apply_report (e := ⟨n, change⟩) hr, update]
    split
    · rename_i ht
      rw [announce_eq_some_iff, candidate_announce]
      simp only [IsNews, current_note]
      constructor
      · rintro ⟨r', hr', hnews⟩
        cases hr'
        exact ⟨hr, ht, hnews⟩
      · rintro ⟨-, -, hnews⟩
        exact ⟨r, rfl, hnews⟩
    · rename_i ht
      constructor
      · intro h
        cases h
      · rintro ⟨-, h, -⟩
        exact absurd h ht

end Steps

section Runs

theorem upToDate_after (events : List NetworkEvent) : (after events {}).UpToDate := by
  induction events using List.reverseRecOn with
  | nil =>
    constructor
    · intro r hr
      cases hr
    · intro _
      rfl
  | append_singleton events e ih =>
    rw [after_append, after_singleton]
    exact ih.apply e

theorem current_after (events : List NetworkEvent) :
    (after events {}).current = (notifications events {}).getLast?.join := by
  induction events using List.reverseRecOn with
  | nil => rfl
  | append_singleton events e ih =>
    rw [after_append, after_singleton, current_apply, notifications_concat, List.getLast?_append, ih]
    cases ((after events {}).apply e).2 <;> rfl

theorem notifications_chain (events : List NetworkEvent) :
    (notifications events {}).IsChain fun a b => a = b → a = none := by
  induction events using List.reverseRecOn with
  | nil => exact List.isChain_nil
  | append_singleton events e ih =>
    rw [notifications_concat]
    have hcurrent := current_after events
    cases ht : ((after events {}).apply e).2 with
    | none => simpa using ih
    | some b =>
      refine List.isChain_append.mpr ⟨ih, List.isChain_singleton b, ?_⟩
      intro a ha b' hb' hab
      cases hb'
      rw [Option.mem_def.mp ha, Option.join_some] at hcurrent
      subst hab
      cases a with
      | none => rfl
      | some r => exact absurd hcurrent (apply_eq_selected_iff.mp ht).2.2.2

/-- At every point of every history, the owner heard last of the record that is complete, of none if
no network is tracked, and of nothing that it had just heard. -/
theorem told_without_delay_or_repetition (events : List NetworkEvent) :
    (after events {}).current = (notifications events {}).getLast?.join ∧
      (∀ r, (after events {}).candidate = some r → (after events {}).current = some r) ∧
      ((after events {}).tracked = none → (after events {}).current = none) ∧
      ((notifications events {}).IsChain fun a b => a = b → a = none) ∧
      ∀ e,
        (((after events {}).apply e).2 = some none ↔
          e.change = .lost ∧
            ((after events {}).tracked = some e.network ∨ (after events {}).tracked = none)) ∧
        ∀ r, ((after events {}).apply e).2 = some (some r) ↔
          e.change.isReport = true ∧ (after events {}).tracked = some e.network ∧
            ((after events {}).apply e).1.candidate = some r ∧
            (after events {}).current ≠ some r := by
  have htold := upToDate_after events
  refine ⟨current_after events, htold.complete, htold.untracked, notifications_chain events, ?_⟩
  intro e
  refine ⟨apply_eq_withdrawn_iff, ?_⟩
  intro r
  exact apply_eq_selected_iff

/-- A report that changes nothing is not told, and the loss of a network that was never selected is
told as often as it happens. -/
theorem told_without_delay_or_repetition_losses :
    let selected : List NetworkEvent :=
      [⟨⟨1⟩, .available⟩, ⟨⟨1⟩, .capabilities {}⟩, ⟨⟨1⟩, .link {}⟩, ⟨⟨1⟩, .blocked false⟩,
        ⟨⟨1⟩, .blocked false⟩]
    let lost : List NetworkEvent := selected ++ [⟨⟨1⟩, .lost⟩, ⟨⟨2⟩, .lost⟩]
    (after selected {}).current = some ⟨⟨1⟩, {}, {}, false⟩ ∧ (after lost {}).current = none ∧
      notifications lost {} = [some ⟨⟨1⟩, {}, {}, false⟩, none, none] := by
  intro selected lost
  obtain ⟨-, hcomplete, -⟩ := told_without_delay_or_repetition selected
  obtain ⟨-, -, huntracked, -⟩ := told_without_delay_or_repetition lost
  exact ⟨hcomplete _ rfl, huntracked rfl, rfl⟩

end Runs

end Rangelink.RouteSelection
