import Rangelink.Proofs.Tracker.Run
import Rangelink.Proofs.Tracker.Updating

/-! # Identifiers of callbacks

An identifier is drawn for every request, and none is drawn twice. So what a tracker
has on record is distinct at all times, and what is left to be drawn is neither on
record nor active, whichever calls are refused.
-/
namespace Rangelink
open scoped List

namespace Filings
variable {f : Filings} {next : Nat} {sub : SubscriptionId}

/-- Wi-Fi and route selection are on record, no identifier is on record twice, and none of those from
`next` on is on record. -/
structure Numbered (next : Nat) (f : Filings) : Prop where
  wifi : ∃ id, f.wifi = some id
  route : ∃ id, f.route = some id
  distinct : f.ids.Nodup
  below : ∀ place, .serial place ∈ f.ids → place < next

theorem Numbered.erase (h : f.Numbered next) (sub : SubscriptionId) :
    { f with cells := f.cells.erase sub }.Numbered next := by
  have hless : { f with cells := f.cells.erase sub }.ids.Sublist f.ids := by
    have hcells : (f.cells.erase sub).values.Sublist f.cells.values := List.filter_sublist.map _
    exact (hcells.append_left _).append_right _
  refine ⟨h.wifi, h.route, h.distinct.sublist hless, ?_⟩
  intro place hplace
  exact h.below place (hless.subset hplace)

theorem Numbered.mono (h : f.Numbered next) {next' : Nat} (hle : next ≤ next') :
    f.Numbered next' :=
  ⟨h.wifi, h.route, h.distinct, fun place hplace => Nat.lt_of_lt_of_le (h.below place hplace) hle⟩

theorem Numbered.insert (h : f.Numbered next) (sub : SubscriptionId) :
    { f with cells := f.cells.insert sub (.serial next) }.Numbered (next + 1) := by
  -- The new entry replaces the one of the subscription, if there is any.
  have hfiled : { f with cells := f.cells.insert sub (.serial next) }.filed .empty ~
      cellFiling .empty (sub, .serial next) ::
        { f with cells := f.cells.erase sub }.filed .empty :=
    filed_perm_of_cells .empty rfl rfl
      (SortedMap.entries_insert_perm_erase sub (.serial next) f.cells)
  have hids := hfiled.map Filing.id
  rw [List.map_cons, Tracker.ids_eq, Tracker.ids_eq] at hids
  have hrest := h.erase sub
  refine ⟨h.wifi, h.route, ?_, ?_⟩
  · rw [hids.nodup_iff, List.nodup_cons]
    refine ⟨?_, hrest.distinct⟩
    intro hmem
    exact Nat.lt_irrefl next (hrest.below next hmem)
  · intro place hplace
    rcases List.mem_cons.mp (hids.mem_iff.mp hplace) with heq | hplace
    · rw [CallbackId.serial.inj heq]
      exact Nat.lt_succ_self next
    · exact Nat.lt_succ_of_lt (hrest.below place hplace)

end Filings

namespace Tracker
variable {s : Tracker × Service}

/-- The tracker is not torn down, and no identifier that is left to be drawn is on record. -/
def Numbered (s : Tracker × Service) : Prop :=
  ∃ f, s.1.filings = some f ∧ f.Numbered s.2.drawn

theorem Numbered.enlist (h : Numbered s) (sub : SubscriptionId) : Numbered (enlist sub s).2 := by
  obtain ⟨t, service⟩ := s
  obtain ⟨f, hf, hnumbered⟩ := h
  rcases he : Tracker.enlist sub (t, service) with ⟨outcome, t', service'⟩
  obtain ⟨-, hdrawn, -, ⟨-, -, rfl⟩ | ⟨-, rfl⟩⟩ := enlist_leaves he
  · exact ⟨f, hf, hdrawn ▸ hnumbered.mono (Nat.le_succ _)⟩
  · exact ⟨_, filings_join hf sub _, hdrawn ▸ hnumbered.insert sub⟩

theorem Numbered.dismiss (h : Numbered s) (sub : SubscriptionId) : Numbered (dismiss sub s).2 := by
  obtain ⟨t, service⟩ := s
  obtain ⟨f, hf, hnumbered⟩ := h
  rcases hd : Tracker.dismiss sub (t, service) with ⟨outcome, t', service'⟩
  obtain ⟨-, hdrawn, ⟨-, hs', -⟩ | ⟨-, -, -, ⟨-, -, rfl⟩ | ⟨-, rfl⟩⟩⟩ := dismiss_leaves hd
  · cases hs'
    exact ⟨_, filings_leave hf sub, hnumbered.erase sub⟩
  · exact ⟨f, hf, hdrawn ▸ hnumbered⟩
  · exact ⟨_, filings_leave hf sub, hdrawn ▸ hnumbered.erase sub⟩

theorem Numbered.reconcile (h : Numbered s) (wanted : SubscriptionIds) :
    Numbered (reconcile wanted s).2 := by
  let P := fun (_ : List SubscriptionId) (s : Tracker × Service) => Numbered s
  have hleft : P []
      (attemptEach Tracker.dismiss (s.1.subscriptions.difference wanted).toList s).2 :=
    attemptEach_keeps (P := P) (fun sub _ _ h => h.dismiss sub) h
  exact attemptEach_keeps (P := P) (fun sub _ _ h => h.enlist sub) hleft

theorem Numbered.update {t : Tracker} {service : Service} (h : Numbered (t, service))
    (caller : ThreadId) (snapshot : Snapshot) : Numbered (t.update caller snapshot service).2 := by
  by_cases hc : caller = t.context.owner
  · subst hc
    obtain ⟨f, hf, hnumbered⟩ := h
    rw [update_owner hf]
    exact Numbered.reconcile (s := (t, service)) ⟨f, hf, hnumbered⟩ _
  · rw [Tracker.update, Context.guarded_of_ne hc]
    exact h

theorem Numbered.unspent (h : Numbered s) (sound : s.2.Sound) : Unspent s := by
  obtain ⟨f, hf, hnumbered⟩ := h
  refine ⟨sound, ?_⟩
  rw [recordedIds, hf]
  exact hnumbered.below

end Tracker

namespace TrackerRig
open Tracker (Ledger Numbered Unspent)

section Runs
variable {rig : TrackerRig}

/-- Every command keeps the numbers on record apart, or ends the tracker. -/
theorem step_numbered (h : rig.tracker.filings = none ∨ Numbered (rig.tracker, rig.service))
    (command : Command) :
    (rig.step command).2.tracker.filings = none ∨
      Numbered ((rig.step command).2.tracker, (rig.step command).2.service) := by
  rcases h with h | h
  · exact Or.inl (step_tornDown h command)
  · cases command with
    | event caller addressee event =>
      obtain ⟨⟨selection, htracker⟩, hservice, -⟩ :=
        deliver_frame caller (addressee.resolve rig.tracker.route) event rig
      simp only [step, htracker, hservice]
      exact Or.inr h
    | update caller snapshot => exact Or.inr (h.update caller snapshot)
    | teardown caller =>
      by_cases hc : caller = rig.tracker.context.owner
      · obtain ⟨f, hf, -⟩ := h
        left
        rw [hc, step_teardown hf]
      · simp only [step, Tracker.teardown, Context.guarded_of_ne hc]
        exact Or.inr h
    | run => exact Or.inr h
    | refuse verb entries => exact Or.inr h
    | drop id => exact Or.inr h

theorem after_numbered (h : rig.tracker.filings = none ∨ Numbered (rig.tracker, rig.service))
    (commands : List Command) :
    (rig.after commands).tracker.filings = none ∨
      Numbered ((rig.after commands).tracker, (rig.after commands).service) := by
  induction commands generalizing rig with
  | nil => exact h
  | cons command rest ih => exact ih (step_numbered h command)

/-- Every command leaves the identifiers that are yet to be drawn unused at the provider. -/
theorem step_sound (sound : rig.service.Sound) (command : Command) :
    (rig.step command).2.service.Sound := by
  cases command with
  | event caller addressee event =>
    obtain ⟨-, hservice, -⟩ :=
      deliver_frame caller (addressee.resolve rig.tracker.route) event rig
    simp only [step, hservice]
    exact sound
  | update caller snapshot =>
    exact (Tracker.framed_update caller snapshot rig.tracker rig.service).called.sound sound
  | teardown caller => exact (Tracker.called_teardown caller rig.tracker rig.service).sound sound
  | run => exact sound
  | refuse verb entries => exact sound.of_active rfl (Nat.le_refl _)
  | drop id =>
    simp only [step]
    obtain ⟨_, -, hdrop⟩ | ⟨-, -, hdrop⟩ | ⟨-, _, -, -, hdrop⟩ :=
      rig.service.provider.withdraw_spec (id.resolve rig.tracker.route)
    · exact sound.of_active (by rw [hdrop]) (Nat.le_refl _)
    · exact sound.of_active (by rw [hdrop]) (Nat.le_refl _)
    · exact sound.of_withdrawn (by rw [hdrop]) (Nat.le_refl _)

theorem after_sound (sound : rig.service.Sound) (commands : List Command) :
    (rig.after commands).service.Sound := by
  induction commands generalizing rig with
  | nil => exact sound
  | cons command rest ih => exact ih (step_sound sound command)

section Starts
variable {caller : ThreadId} {context : Context} {group : Uuid} {snapshot : Snapshot}
  {required : SortedSet Capability} {service : Service} {executor : Executor Notification}

theorem numbered_started (sound : service.Sound)
    (started : (start caller context group snapshot required service executor).1 = .ok rig) :
    Numbered (rig.tracker, rig.service) ∧ rig.service.Sound := by
  obtain ⟨hs, -, -⟩ := start_eq_ok started
  obtain ⟨-, wifi, cells, route, hledger⟩ := Tracker.start_ledger sound hs
  exact ⟨⟨_, hledger.live, ⟨wifi, rfl⟩, ⟨route, rfl⟩, hledger.nodup_ids,
    fun place hplace => hledger.sound.numbered place (hledger.ids_active hplace)⟩, hledger.sound⟩

/-- At all times before the teardown, what is left to be drawn is neither on record nor active. -/
theorem unspent_after (sound : service.Sound)
    (started : (start caller context group snapshot required service executor).1 = .ok rig)
    (commands : List Command) (live : (rig.after commands).tracker.isTornDown = false) :
    Unspent ((rig.after commands).tracker, (rig.after commands).service) := by
  obtain ⟨hnumbered, hsound⟩ := numbered_started sound started
  have hlive : (rig.after commands).tracker.filings ≠ none := by
    intro hnone
    simp [Tracker.isTornDown, hnone] at live
  exact ((after_numbered (Or.inr hnumbered) commands).resolve_left hlive).unspent
    (after_sound hsound commands)

end Starts

end Runs

end TrackerRig

end Rangelink

