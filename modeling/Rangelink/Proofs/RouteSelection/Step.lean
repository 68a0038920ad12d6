import Mathlib.Data.List.Induction
import Rangelink.Scenario

/-! # What one event does to a route selection

A report goes into the record under construction and is announced; the network
that is tracked changes with an event of availability or loss only. Histories
grow at their end, so statements about them are proved from the end.
-/
namespace Rangelink

/-- Reports tell something of a network, other than its coming and going. -/
def NetworkChange.isReport : NetworkChange → Bool
  | .available | .lost => false
  | .capabilities _ | .link _ | .blocked _ | .suspended | .resumed => true

theorem NetworkChange.coming_going_or_report (change : NetworkChange) :
    change = .available ∨ change = .lost ∨ change.isReport = true := by
  cases change <;> simp [isReport]

namespace RouteSelection

def after (events : List NetworkEvent) (s : RouteSelection) : RouteSelection :=
  events.foldl (fun s e => (s.apply e).1) s

/-- What the owner is told in the course of a history, in order. -/
def notifications (events : List NetworkEvent) (s : RouteSelection) : List Notification :=
  (replay 0 s events).map Prod.snd

theorem after_append (events more : List NetworkEvent) (s : RouteSelection) :
    s.after (events ++ more) = (s.after events).after more := by
  simp [after]

@[simp] theorem after_singleton (e : NetworkEvent) (s : RouteSelection) :
    s.after [e] = (s.apply e).1 := rfl

theorem replay_cons (place : Nat) (s : RouteSelection) (e : NetworkEvent)
    (rest : List NetworkEvent) :
    replay place s (e :: rest) =
      (s.apply e).2.toList.map (fun n => (place, n)) ++ replay (place + 1) (s.apply e).1 rest := by
  rw [replay]
  rcases s.apply e with ⟨s', _ | n⟩ <;> rfl

/-- A history goes on from the place and the state that its first part has come to. -/
theorem replay_append (place : Nat) (s : RouteSelection) (events more : List NetworkEvent) :
    replay place s (events ++ more) =
      replay place s events ++ replay (place + events.length) (s.after events) more := by
  induction events generalizing place s with
  | nil => rfl
  | cons e rest ih =>
    have hplace : place + 1 + rest.length = place + (rest.length + 1) := by omega
    rw [List.cons_append, replay_cons, replay_cons, ih, List.append_assoc, hplace]
    rfl

theorem map_replay (place : Nat) (s : RouteSelection) (events : List NetworkEvent) :
    (replay place s events).map Prod.snd = s.notifications events := by
  unfold notifications
  induction events generalizing place s with
  | nil => rfl
  | cons e rest ih =>
    rw [replay_cons, replay_cons, List.map_append, List.map_append, ih, ih (0 + 1)]
    simp [Function.comp_def]

theorem notifications_cons (e : NetworkEvent) (rest : List NetworkEvent) (s : RouteSelection) :
    s.notifications (e :: rest) =
      (s.apply e).2.toList ++ (s.apply e).1.notifications rest := by
  rw [notifications, replay_cons, List.map_append, map_replay]
  simp [Function.comp_def]

theorem notifications_append (events more : List NetworkEvent) (s : RouteSelection) :
    s.notifications (events ++ more) =
      s.notifications events ++ (s.after events).notifications more := by
  rw [notifications, replay_append, List.map_append, map_replay, map_replay]

theorem notifications_concat (events : List NetworkEvent) (e : NetworkEvent) (s : RouteSelection) :
    s.notifications (events ++ [e]) =
      s.notifications events ++ ((s.after events).apply e).2.toList := by
  rw [notifications_append, notifications_cons]
  simp [notifications, replay]

@[simp] theorem tracked_modifyDraft {f : NetworkRecord.Draft → NetworkRecord.Draft}
    (hf : ∀ d, (f d).network = d.network) (s : RouteSelection) :
    (s.modifyDraft f).tracked = s.tracked := by
  unfold tracked modifyDraft
  cases s.inProgress with
  | none => rfl
  | some d => simp [hf]

theorem tracked_refresh (s : RouteSelection) : s.refresh.tracked = s.tracked := by
  unfold refresh
  split
  · rfl
  · refine tracked_modifyDraft ?_ s
    intro d
    rfl

theorem tracked_note (change : NetworkChange) (s : RouteSelection) :
    (s.note change).tracked = s.tracked := by
  cases change with
  | available => rfl
  | lost => rfl
  | capabilities cs => exact tracked_refresh { s with genuine := some cs, suspension := none }
  | suspended => exact tracked_refresh { s with suspension := some .suspended }
  | resumed => exact tracked_refresh { s with suspension := some .resumed }
  | link link =>
    refine tracked_modifyDraft ?_ s
    intro d
    rfl
  | blocked blocked =>
    refine tracked_modifyDraft ?_ s
    intro d
    rfl

theorem current_refresh (s : RouteSelection) : s.refresh.current = s.current := by
  unfold refresh
  split <;> rfl

theorem current_note (change : NetworkChange) (s : RouteSelection) :
    (s.note change).current = s.current := by
  cases change with
  | available => rfl
  | lost => rfl
  | capabilities cs => exact current_refresh { s with genuine := some cs, suspension := none }
  | suspended => exact current_refresh { s with suspension := some .suspended }
  | resumed => exact current_refresh { s with suspension := some .resumed }
  | link link => rfl
  | blocked blocked => rfl

theorem announce_fst (s : RouteSelection) :
    ∃ current, s.announce.1 = { s with current } := by
  unfold announce
  split
  · exact ⟨s.current, rfl⟩
  · split
    · exact ⟨s.current, rfl⟩
    · exact ⟨_, rfl⟩

theorem tracked_track (n : NetworkId) (s : RouteSelection) : (s.track n).tracked = some n := by
  unfold track
  split
  · rename_i h
    exact h
  · rfl

theorem tracked_lose (n : NetworkId) (s : RouteSelection) :
    (s.lose n).1.tracked = if s.tracked = some n then none else s.tracked := by
  unfold lose
  split
  · rename_i h
    rcases h with h | h
    · rw [if_pos h]
      rfl
    · rw [h, ite_self]
      rfl
  · rename_i h
    rw [if_neg fun hn => h (Or.inl hn)]

theorem tracked_update (n : NetworkId) (change : NetworkChange) (s : RouteSelection) :
    (s.update n change).1.tracked = s.tracked := by
  unfold update
  split
  · obtain ⟨current, hc⟩ := (s.note change).announce_fst
    rw [hc]
    exact tracked_note change s
  · rfl

theorem apply_report {e : NetworkEvent} (h : e.change.isReport = true) (s : RouteSelection) :
    s.apply e = s.update e.network e.change := by
  obtain ⟨n, change⟩ := e
  cases change <;> first | rfl | cases h

end RouteSelection

end Rangelink
