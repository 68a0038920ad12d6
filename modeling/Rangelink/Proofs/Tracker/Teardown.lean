import Rangelink.Proofs.Tracker.Hearing
import Rangelink.Proofs.Tracker.Retrying

/-! # Teardown

All identifiers on record are distinct at all times. A teardown thus attempts to
withdraw each callback on record once. After it nothing that is called does anything
any more.
-/
namespace Rangelink
open scoped List
open Service (Withdrawals)

namespace TrackerRig
open Tracker (Ledger Numbered Placed)

/-- A teardown by the owner. It attempts to withdraw each callback on record once: Wi-Fi, the cellular
bring-ups in ascending order of subscription, route selection. What came of each is in `ws`. -/
structure TearsDown (required : SortedSet Capability) (ws : Withdrawals) (rig : TrackerRig)
    (now : Reply × TrackerRig) : Prop where
  recorded : ∃ wifi cells route,
    rig.tracker.filings = some ⟨some wifi, cells, some route⟩ ∧
    cells.keys = rig.tracker.subscriptions ∧
    ws.map (·.1) =
      ⟨wifi, .bringup, Request.wifiBringup required⟩ ::
        cells.entries.map (fun e => ⟨e.2, .bringup, Request.cell required e.1⟩) ++
        [⟨route, .routeSelection, Request.routeSelection required⟩]
  distinct : (ws.map (·.1.id)).Nodup
  attempts : now.2.service.attempts = rig.service.attempts ++ ws.attempts
  active : now.2.service.provider.active =
    rig.service.provider.active.filter fun f => decide (f.id ∉ ws.gone)
  reply : now.1 = .outcome (ws.outcome.mapError .failed)

/-- The tracker of `rig` holds nothing but the record it had selected before its teardown. Since the
teardown, which left `torn`, it has called nothing and its owner has nothing more to hear; nor does
any further call by the owner change anything. -/
structure Ended (context : Context) (before torn rig : TrackerRig) : Prop where
  tornDown : rig.tracker.isTornDown = true
  subscriptions : rig.tracker.subscriptions = .empty
  bringups : rig.tracker.bringups = 0
  route : rig.tracker.route = none
  current : rig.tracker.current = before.tracker.current
  attempts : rig.service.attempts = torn.service.attempts
  heard : rig.heard = before.heard
  idle : ∀ command, command.caller? = some context.owner → rig.step command = (.outcome (.ok ()), rig)

section Teardowns
variable {context : Context} {group : Uuid} {required : SortedSet Capability} {rig : TrackerRig}

/-- A teardown finds all callbacks on record, and none of them twice. -/
theorem tearsDown (placed : Placed context group required rig.tracker)
    (numbered : Numbered (rig.tracker, rig.service)) :
    ∃ f, rig.tracker.filings = some f ∧
      TearsDown required (rig.service.withdrawals (f.filed required)) rig
        (rig.step (.teardown context.owner)) := by
  obtain ⟨f, (hf : rig.tracker.filings = some f), ⟨wifi, hwifi⟩, ⟨route, hroute⟩, hdistinct, -⟩ :=
    numbered
  obtain ⟨f', hf', hkeys⟩ := placed.keyed.resolve_left (by simp [hf])
  have hsame : f' = f := Option.some.inj (hf'.symm.trans hf)
  subst hsame
  have hids : (f'.filed required).map (·.id) = f'.ids := Tracker.ids_eq required f'
  refine ⟨f', hf, ?_⟩
  rw [← placed.context, step_teardown hf, ← hids]
  refine ⟨⟨wifi, f'.cells, route, ?_, hkeys, ?_⟩, ?_, Service.attempts_withdrawAll _ _,
    Service.active_withdrawAll _ _, ?_⟩
  · rw [hf, ← hwifi, ← hroute]
  · rw [Service.filings_withdrawals, Filings.filed, hwifi, hroute]
    rfl
  · have hfilings := congrArg (List.map Filing.id)
      (Service.filings_withdrawals (f'.filed required) rig.service)
    rw [List.map_map, hids] at hfilings
    exact hfilings ▸ hdistinct
  · rw [Service.outcome_withdrawAll]

/-- If the tracker and the provider agree, exactly the callbacks whose withdrawal was refused stay. -/
theorem tearsDown_keeps {others : List Filing} {f : Filings}
    (h : Ledger others f (rig.tracker, rig.service)) :
    (rig.step (.teardown rig.tracker.context.owner)).2.service.provider.active ~
      others ++ (rig.service.withdrawals (f.filed rig.tracker.required)).kept := by
  have hactive := Service.active_withdrawAll_perm h.sound.distinct
    (h.active.trans List.perm_append_comm)
  rw [Tracker.ids_eq] at hactive
  rw [step_teardown h.live]
  exact hactive

theorem after_tornDown_keeps (h : rig.tracker.filings = none) (later : List Command) :
    (rig.after later).tracker = rig.tracker ∧
      (rig.after later).service.attempts = rig.service.attempts := by
  induction later generalizing rig with
  | nil => exact ⟨rfl, rfl⟩
  | cons command rest ih =>
    obtain ⟨htracker, hattempts⟩ := step_tornDown_keeps h command
    obtain ⟨htracker', hattempts'⟩ := ih (step_tornDown h command)
    exact ⟨htracker'.trans htracker, hattempts'.trans hattempts⟩

/-- A tracker that was torn down by its owner stays so, whatever comes later. -/
theorem ended_after {f : Filings} (placed : Placed context group required rig.tracker)
    (flat : rig.executor.Flat) (hf : rig.tracker.filings = some f) (later : List Command) :
    Ended context rig (rig.step (.teardown context.owner)).2
      ((rig.step (.teardown context.owner)).2.after later) := by
  rw [← placed.context, step_teardown hf]
  generalize hs : ({ rig with
    tracker := { rig.tracker with filings := none, subscriptions := .empty }
    service := (rig.service.withdrawAll f.ids).2 } : TrackerRig) = torn
  have htracker : torn.tracker = { rig.tracker with filings := none, subscriptions := .empty } := by
    rw [← hs]
  have hended : torn.tracker.filings = none := by rw [htracker]
  obtain ⟨hsame, hattempts⟩ := after_tornDown_keeps hended later
  have hflat : torn.executor.Flat := by
    rw [← hs]
    exact flat
  have hheard : (torn.after later).heard = torn.heard := (after_ended hended hflat).1
  rw [htracker] at hsame
  constructor
  · rw [hsame]
    rfl
  · rw [hsame]
  · rw [hsame]
    rfl
  · rw [hsame]
    rfl
  · rw [hsame]
    rfl
  · exact hattempts
  · rw [hheard, ← hs]
    rfl
  · intro command hcall
    rw [step_idle (by rw [hsame]) hcall, hsame]
    simp [Context.ensure, Context.isCurrent]

end Teardowns

/-- Whatever a started tracker went through, its teardown attempts to withdraw each callback on record
once and leaves at the provider those of which the withdrawal was refused, and no call after that has
any effect. -/
theorem teardown_is_final {caller : ThreadId} {context : Context} {group : Uuid}
    {snapshot : Snapshot} {required : SortedSet Capability} {service : Service} {rig : TrackerRig}
    (sound : service.Sound)
    (started : (start caller context group snapshot required service).1 = .ok rig)
    (commands : List Command) (live : (rig.after commands).tracker.isTornDown = false) :
    let before := rig.after commands
    let now := before.step (.teardown context.owner)
    ∃ ws, TearsDown required ws before now ∧
      ((∀ c ∈ commands, c.isOwn = true) →
        now.2.service.provider.active ~ service.provider.active ++ ws.kept) ∧
      ∀ later, Ended context before now.2 (now.2.after later) := by
  intro before now
  obtain ⟨hs, -, -⟩ := start_eq_ok started
  obtain ⟨-, wifi, cells, route, hledger⟩ := Tracker.start_ledger sound hs
  have hplaced := after_placed (placed_started started) commands
  obtain ⟨hnumbered, -⟩ := numbered_started sound started
  have hlive : before.tracker.filings ≠ none := by
    intro hnone
    simp [Tracker.isTornDown, before, hnone] at live
  obtain ⟨f, hf, htears⟩ := tearsDown hplaced
    ((after_numbered (Or.inr hnumbered) commands).resolve_left hlive)
  obtain ⟨route, hrunning, -⟩ := running_started started
  obtain ⟨-, hflat⟩ := after_running hrunning commands
  refine ⟨_, htears, ?_, ended_after hplaced hflat hf⟩
  -- The ledger is needed for this part alone. It holds as long as nothing goes past the tracker.
  intro own
  obtain ⟨wifi', cells', route', h⟩ :=
    (after_grounded (Or.inr ⟨wifi, cells, _, hledger⟩) own).resolve_left hlive
  have hsame : f = ⟨some wifi', cells', some route'⟩ := Option.some.inj (hf.symm.trans h.live)
  have hkept := tearsDown_keeps h
  rw [hplaced.context, hplaced.required, ← hsame] at hkept
  exact hkept

/-- The withdrawal of the first cellular bring-up is refused. It alone stays at the provider, and
then neither a late event for route selection nor a new subscription is taken up. -/
theorem teardown_is_final_refused :
    ∃ rig, (start ⟨0⟩ ⟨⟨0⟩⟩ .zero (.ofGroup .zero [⟨1⟩, ⟨2⟩]) .empty {}).1 = .ok rig ∧
      let before := rig.after [.refuse .withdraw [none, some "busy"]]
      let now := before.step (.teardown ⟨0⟩)
      let later := [.event ⟨0⟩ (.callback (.serial 3)) ⟨⟨7⟩, .available⟩,
        .update ⟨0⟩ (.ofGroup .zero [⟨5⟩]), .teardown ⟨0⟩]
      ∃ ws, TearsDown .empty ws before now ∧ ws.kept.map (·.id) = [.serial 1] ∧
        ws.outcome = .error (.remote "busy") ∧ Ended ⟨⟨0⟩⟩ before now.2 (now.2.after later) := by
  have sound : ({} : Service).Sound := ⟨List.nodup_nil, by simp [Provider.activeIds]⟩
  have started : (start ⟨0⟩ ⟨⟨0⟩⟩ .zero (.ofGroup .zero [⟨1⟩, ⟨2⟩]) .empty {}).1 = .ok _ := rfl
  refine ⟨_, started, ?_⟩
  obtain ⟨ws, htears, hkept, hended⟩ :=
    teardown_is_final sound started [.refuse .withdraw [none, some "busy"]] rfl
  refine ⟨ws, htears, ?_, ?_, hended _⟩
  · have hids := (hkept (by simp [Command.isOwn])).map Filing.id
    exact List.perm_singleton.mp hids.symm
  · have hreply := htears.reply
    cases houtcome : ws.outcome with
    | ok _ =>
      rw [houtcome] at hreply
      cases hreply
    | error e =>
      rw [houtcome] at hreply
      cases hreply
      rfl

end TrackerRig

end Rangelink
