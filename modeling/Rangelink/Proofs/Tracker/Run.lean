import Rangelink.Proofs.Tracker.Ledger
import Rangelink.Tracker.Rig

/-! # Runs of a tracker

After a successful start and any commands, refused calls included, the tracker
and the provider agree on what is filed until the tracker is torn down, and no
command fails for another reason than a refusal that was in store.
-/
namespace Rangelink.TrackerRig
open scoped List
open Tracker (Ledger)

def after (commands : List Command) (rig : TrackerRig) : TrackerRig :=
  commands.foldl (fun rig command => (rig.step command).2) rig

theorem after_append (commands more : List Command) (rig : TrackerRig) :
    rig.after (commands ++ more) = (rig.after commands).after more :=
  List.foldl_append

/-- A withdrawal at the provider itself goes past the tracker. -/
def Command.isOwn : Command → Bool
  | .drop _ => false
  | _ => true

/-- The thread that calls the tracker. -/
def Command.caller? : Command → Option ThreadId
  | .event caller _ _ | .update caller _ | .teardown caller => some caller
  | .run | .refuse _ _ | .drop _ => none

/-- Beside `others`, the provider holds one Wi-Fi bring-up, one cellular bring-up for each
subscription of the tracker and one route selection, under the identifiers that the tracker has on
record for them. -/
structure InStep (required : SortedSet Capability) (others : List Filing) (rig : TrackerRig) :
    Prop where
  agreed : ∃ wifi cells route,
    rig.tracker.filings = some ⟨some wifi, cells, some route⟩ ∧
    rig.tracker.route = some route ∧
    cells.keys = rig.tracker.subscriptions ∧
    (wifi :: cells.values ++ [route]).Nodup ∧
    rig.service.provider.active ~
      ⟨wifi, .bringup, Request.wifiBringup required⟩ ::
        cells.entries.map (fun e => ⟨e.2, .bringup, Request.cell required e.1⟩) ++
        [⟨route, .routeSelection, Request.routeSelection required⟩] ++ others
  bringups : rig.tracker.bringups = 1 + rig.tracker.subscriptions.size

/-- The tracker is torn down, or keeps its ledger beside `others`. -/
def Grounded (others : List Filing) (rig : TrackerRig) : Prop :=
  rig.tracker.filings = none ∨
    ∃ wifi cells route, Ledger others ⟨some wifi, cells, some route⟩ (rig.tracker, rig.service)

section Steps
variable {others : List Filing} {f : Filings} {rig : TrackerRig}

theorem deliver_frame (caller : ThreadId) (id : CallbackId) (event : NetworkEvent)
    (rig : TrackerRig) :
    (∃ selection, (rig.deliver caller id event).2.tracker = { rig.tracker with selection }) ∧
      (rig.deliver caller id event).2.service = rig.service ∧
      ∀ e, (rig.deliver caller id event).1 ≠ .error (.failed e) := by
  obtain ⟨htracker, hfail⟩ := rig.tracker.receive_frame caller id event
  rcases hr : rig.tracker.receive caller id event with ⟨_ | n, t⟩
  · rw [hr] at htracker hfail
    simp only [deliver, hr]
    refine ⟨htracker, trivial, ?_⟩
    intro e he
    exact hfail e (by rw [Except.error.inj he])
  · rw [hr] at htracker
    simp only [deliver, hr]
    cases n <;> exact ⟨htracker, rfl, by simp⟩

/-- Every command but a teardown by the owner keeps the ledger, whatever is refused. -/
theorem step_ledger (h : Ledger others f (rig.tracker, rig.service)) {command : Command}
    (own : command.isOwn = true) (stays : command ≠ .teardown rig.tracker.context.owner) :
    (rig.step command).2.tracker.context = rig.tracker.context ∧
      (rig.step command).2.tracker.required = rig.tracker.required ∧
      ∃ cells, Ledger others { f with cells }
        ((rig.step command).2.tracker, (rig.step command).2.service) := by
  cases command with
  | event caller addressee event =>
    obtain ⟨⟨selection, htracker⟩, hservice, -⟩ :=
      deliver_frame caller (addressee.resolve rig.tracker.route) event rig
    simp only [step, htracker, hservice]
    exact ⟨trivial, trivial, f.cells, h.of_selection selection⟩
  | update caller snapshot =>
    obtain ⟨hr, -⟩ := Tracker.update_ledger h caller snapshot
    have hcontext := congrArg Tracker.context hr.bare
    have hrequired := congrArg Tracker.required hr.bare
    exact ⟨hcontext, hrequired, hr.ledger⟩
  | teardown caller =>
    have hc : caller ≠ rig.tracker.context.owner := by
      rintro rfl
      exact stays rfl
    have hsame := (Tracker.teardown_ledger h caller).1 hc
    simp only [step, hsame]
    exact ⟨trivial, trivial, f.cells, h⟩
  | run => exact ⟨rfl, rfl, f.cells, h⟩
  | refuse verb entries => exact ⟨rfl, rfl, f.cells, h.of_refused rfl (Nat.le_refl _)⟩
  | drop id => cases own

/-- A teardown by the owner withdraws all that is on record. -/
theorem step_teardown (h : rig.tracker.filings = some f) :
    rig.step (.teardown rig.tracker.context.owner) =
      (.outcome ((rig.service.withdrawAll f.ids).1.mapError .failed),
        { rig with
          tracker := { rig.tracker with filings := none, subscriptions := .empty }
          service := (rig.service.withdrawAll f.ids).2 }) := by
  simp only [step, Tracker.teardown, Context.guarded_owner, Tracker.release, h]

/-- No call does anything to a tracker that is torn down, to its provider or to its owner. -/
theorem step_idle (h : rig.tracker.filings = none) {command : Command} {caller : ThreadId}
    (calls : command.caller? = some caller) :
    rig.step command = (.outcome (rig.tracker.context.ensure caller), rig) := by
  cases command with
  | event caller' addressee event =>
    cases calls
    simp only [step, deliver, Tracker.receive_idle h]
    cases rig.tracker.context.ensure caller <;> rfl
  | update caller' snapshot =>
    cases calls
    simp only [step, Tracker.update_idle h]
  | teardown caller' =>
    cases calls
    simp only [step, Tracker.teardown_idle h]
  | run => cases calls
  | refuse verb entries => cases calls
  | drop id => cases calls

/-- Nor does any other command bring a torn-down tracker back, or make it call the provider. -/
theorem step_tornDown_keeps (h : rig.tracker.filings = none) (command : Command) :
    (rig.step command).2.tracker = rig.tracker ∧
      (rig.step command).2.service.attempts = rig.service.attempts := by
  cases hc : command.caller? with
  | some caller =>
    rw [step_idle h hc]
    exact ⟨rfl, rfl⟩
  | none =>
    cases command with
    | event caller addressee event => cases hc
    | update caller snapshot => cases hc
    | teardown caller => cases hc
    | run => exact ⟨rfl, rfl⟩
    | refuse verb entries => exact ⟨rfl, rfl⟩
    | drop id => exact ⟨rfl, rfl⟩

theorem step_tornDown (h : rig.tracker.filings = none) (command : Command) :
    (rig.step command).2.tracker.filings = none := by
  rw [(step_tornDown_keeps h command).1]
  exact h

theorem step_grounded (h : Grounded others rig) {command : Command} (own : command.isOwn = true) :
    Grounded others (rig.step command).2 := by
  rcases h with h | ⟨wifi, cells, route, h⟩
  · exact Or.inl (step_tornDown h command)
  · by_cases hc : command = .teardown rig.tracker.context.owner
    · left
      rw [hc, step_teardown h.live]
    · obtain ⟨-, -, cells', h'⟩ := step_ledger h own hc
      exact Or.inr ⟨wifi, cells', route, h'⟩

theorem step_failure (h : Grounded others rig) {command : Command} (own : command.isOwn = true)
    {e : Failure} (he : (rig.step command).1 = .outcome (.error (.failed e))) :
    rig.service.Refuses e := by
  cases command with
  | event caller addressee event =>
    obtain ⟨-, -, hfail⟩ := deliver_frame caller (addressee.resolve rig.tracker.route) event rig
    exact absurd (Reply.outcome.inj he) (hfail e)
  | update caller snapshot =>
    rcases h with h | ⟨wifi, cells, route, h⟩
    · rw [step_idle h rfl] at he
      exact absurd (Reply.outcome.inj he) (Context.ensure_ne_failed _ _ _)
    · exact (Tracker.update_ledger h caller snapshot).2 e (Reply.outcome.inj he)
  | teardown caller =>
    rcases h with h | ⟨wifi, cells, route, h⟩
    · rw [step_idle h rfl] at he
      exact absurd (Reply.outcome.inj he) (Context.ensure_ne_failed _ _ _)
    · exact (Tracker.teardown_ledger h caller).2 e (Reply.outcome.inj he)
  | run => cases he
  | refuse verb entries => cases he
  | drop id => cases own

end Steps

/-- A rig that started has its tracker, the service that the start left behind and the executor that
it was given, and nothing was told yet. -/
theorem start_eq_ok {caller : ThreadId} {context : Context} {group : Uuid} {snapshot : Snapshot}
    {required : SortedSet Capability} {service : Service} {executor : Executor Notification}
    {rig : TrackerRig}
    (started : (start caller context group snapshot required service executor).1 = .ok rig) :
    Tracker.start caller context group snapshot required service = (.ok rig.tracker, rig.service) ∧
      rig.executor = executor ∧ rig.told = [] := by
  rcases hs : Tracker.start caller context group snapshot required service with ⟨_ | t, service'⟩
  · simp [start, hs, Except.map] at started
  · simp only [start, hs, Except.map, Except.ok.injEq] at started
    rw [← started]
    exact ⟨rfl, rfl, rfl⟩

section Runs
variable {others : List Filing} {rig : TrackerRig} {commands : List Command}

theorem after_grounded (h : Grounded others rig) (own : ∀ c, c ∈ commands → c.isOwn = true) :
    Grounded others (rig.after commands) := by
  induction commands generalizing rig with
  | nil => exact h
  | cons command rest ih =>
    exact ih (step_grounded h (own command List.mem_cons_self))
      fun c hc => own c (List.mem_cons_of_mem _ hc)

theorem after_ledger {f : Filings} (h : Ledger others f (rig.tracker, rig.service))
    (own : ∀ c, c ∈ commands → c.isOwn = true)
    (stays : ∀ c, c ∈ commands → c ≠ .teardown rig.tracker.context.owner) :
    (rig.after commands).tracker.required = rig.tracker.required ∧
      ∃ cells, Ledger others { f with cells }
        ((rig.after commands).tracker, (rig.after commands).service) := by
  induction commands generalizing rig f with
  | nil => exact ⟨rfl, f.cells, h⟩
  | cons command rest ih =>
    obtain ⟨hcontext, hrequired, cells, hstep⟩ :=
      step_ledger h (own command List.mem_cons_self) (stays command List.mem_cons_self)
    obtain ⟨hrest, hledger⟩ := ih hstep (fun c hc => own c (List.mem_cons_of_mem _ hc))
      (fun c hc => hcontext ▸ stays c (List.mem_cons_of_mem _ hc))
    exact ⟨hrest.trans hrequired, hledger⟩

theorem InStep.of_ledger {wifi route : CallbackId} {cells : Cells}
    (h : Ledger others ⟨some wifi, cells, some route⟩ (rig.tracker, rig.service)) :
    InStep rig.tracker.required others rig := by
  have hlive : rig.tracker.filings = some ⟨some wifi, cells, some route⟩ := h.live
  have hkeys : cells.keys = rig.tracker.subscriptions := h.keys
  constructor
  · refine ⟨wifi, cells, route, hlive, by simp [Tracker.route, hlive], hkeys, ?_, ?_⟩
    · simpa [Filings.ids] using h.nodup_ids
    · exact h.active
  · simp [Tracker.bringups, hlive, Filings.bringups, ← hkeys]

/-- Until the owner of a started tracker tears it down, tracker and provider are in step after
every run, and at all times a command fails only by a refusal that was in store. -/
theorem in_step_after {caller : ThreadId} {context : Context} {group : Uuid} {snapshot : Snapshot}
    {required : SortedSet Capability} {service : Service} (sound : service.Sound)
    (started : (start caller context group snapshot required service).1 = .ok rig)
    (own : ∀ c, c ∈ commands → c.isOwn = true) :
    ((∀ c, c ∈ commands → c ≠ .teardown context.owner) →
        InStep required service.provider.active (rig.after commands)) ∧
      ∀ command, command.isOwn = true → ∀ e,
        ((rig.after commands).step command).1 = .outcome (.error (.failed e)) →
          (rig.after commands).service.Refuses e := by
  obtain ⟨hs, -, -⟩ := start_eq_ok started
  obtain ⟨hbare, wifi, cells, route, hledger⟩ := Tracker.start_ledger sound hs
  have hcontext : rig.tracker.context = context := congrArg Tracker.context hbare
  have hrequired : rig.tracker.required = required := congrArg Tracker.required hbare
  constructor
  · intro stays
    obtain ⟨hr, cells', h⟩ := after_ledger hledger own (by rwa [hcontext])
    have hstep := InStep.of_ledger h
    rwa [hr, hrequired] at hstep
  · intro command hown e he
    exact step_failure (after_grounded (Or.inr ⟨wifi, cells, route, hledger⟩) own) hown he

/-- A refused withdrawal leaves three subscriptions on record, with a bring-up for each. -/
theorem in_step_after_refused_withdrawal :
    ∃ rig, (start ⟨0⟩ ⟨⟨0⟩⟩ .zero (.ofGroup .zero [⟨1⟩, ⟨2⟩]) .empty {}).1 = .ok rig ∧
      InStep .empty [] (rig.after
        [.refuse .withdraw [some "busy", none], .update ⟨0⟩ (.ofGroup .zero [⟨3⟩]), .run]) := by
  have sound : ({} : Service).Sound := ⟨List.nodup_nil, by simp [Provider.activeIds]⟩
  have started : ∃ rig, (start ⟨0⟩ ⟨⟨0⟩⟩ .zero (.ofGroup .zero [⟨1⟩, ⟨2⟩]) .empty {}).1 = .ok rig :=
    ⟨_, rfl⟩
  obtain ⟨rig, hrig⟩ := started
  refine ⟨rig, hrig, (in_step_after sound hrig ?_).1 ?_⟩
  · simp [Command.isOwn]
  · simp

end Runs

end Rangelink.TrackerRig
