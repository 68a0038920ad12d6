import Rangelink.Proofs.Tracker.Numbering

/-! # Updates of a started tracker

From its start until its teardown a tracker has a bring-up on record for every
subscription, whatever was refused on the way and whatever the provider lost. So
an update withdraws what it no longer wants, and one that is made again calls for
what was refused before and for nothing else, each request under a new identifier.
-/
namespace Rangelink
open CellCall (accepted refused)

namespace Tracker
variable {t : Tracker} {s s' : Tracker × Service}

theorem Keyed.join (h : t.Keyed) (sub : SubscriptionId) (id : CallbackId) :
    (t.join sub id).Keyed := by
  obtain ⟨f, hf, hkeys⟩ := h
  refine ⟨_, filings_join hf sub id, ?_⟩
  show (f.cells.insert sub id).keys = t.subscriptions.insert sub
  rw [SortedMap.keys_insert, hkeys]

theorem Keyed.leave (h : t.Keyed) (sub : SubscriptionId) : (t.leave sub).Keyed := by
  obtain ⟨f, hf, hkeys⟩ := h
  refine ⟨_, filings_leave hf sub, ?_⟩
  show (f.cells.erase sub).keys = t.subscriptions.erase sub
  rw [SortedMap.keys_erase, hkeys]

theorem Keyed.enlist (h : s.1.Keyed) (sub : SubscriptionId) : (enlist sub s).2.1.Keyed := by
  obtain ⟨t, service⟩ := s
  rcases he : Tracker.enlist sub (t, service) with ⟨outcome, t', service'⟩
  obtain ⟨-, -, -, ⟨-, -, rfl⟩ | ⟨-, rfl⟩⟩ := enlist_leaves he
  · exact h
  · exact h.join sub _

theorem Keyed.dismiss (h : s.1.Keyed) (sub : SubscriptionId) : (dismiss sub s).2.1.Keyed := by
  obtain ⟨t, service⟩ := s
  rcases hd : Tracker.dismiss sub (t, service) with ⟨outcome, t', service'⟩
  obtain ⟨-, -, ⟨-, hs', -⟩ | ⟨-, -, -, ⟨-, -, rfl⟩ | ⟨-, rfl⟩⟩⟩ := dismiss_leaves hd
  · cases hs'
    exact h.leave sub
  · exact h
  · exact h.leave sub

theorem Keyed.reconcile (h : s.1.Keyed) (wanted : SubscriptionIds) :
    (reconcile wanted s).2.1.Keyed := by
  let P := fun (_ : List SubscriptionId) (s : Tracker × Service) => s.1.Keyed
  have hleft : P []
      (attemptEach Tracker.dismiss (s.1.subscriptions.difference wanted).toList s).2 :=
    attemptEach_keeps (P := P) (fun sub _ _ h => h.dismiss sub) h
  exact attemptEach_keeps (P := P) (fun sub _ _ h => h.enlist sub) hleft

theorem Keyed.enroll (h : s.1.Keyed) {kind : CallbackKind} {request : Request}
    {change : CallbackId → Filings → Filings} (he : enroll kind request change s = (.ok (), s'))
    (hcells : ∀ id f, (change id f).cells = f.cells) : s'.1.Keyed := by
  obtain ⟨t, service⟩ := s
  obtain ⟨f, (hf : t.filings = some f), hkeys⟩ := h
  obtain ⟨⟨id, hid⟩, -⟩ := enroll_ok he
  refine ⟨change id f, by simp [hid, record, hf], ?_⟩
  rw [hcells, hkeys, hid]
  rfl

theorem Keyed.fileAll (h : s.1.Keyed) {members : SubscriptionIds}
    (hf : fileAll members s = (.ok (), s')) : s'.1.Keyed := by
  unfold Tracker.fileAll at hf
  split at hf
  · cases hf
  · rename_i s₁ hwifi
    have h₁ := h.enroll hwifi fun _ _ => rfl
    split at hf
    · cases hf
    · rename_i s₂ hcells
      have h₂ : s₂.1.Keyed :=
        attemptUntilFailure_keeps (P := fun _ s => s.1.Keyed) (fun sub _ _ h => h.enlist sub) h₁
          hcells
      exact h₂.enroll hf fun _ _ => rfl

/-- The tracker follows `group` on `context`, and has a bring-up on record for each subscription
until it is torn down. -/
structure Placed (context : Context) (group : Uuid) (required : SortedSet Capability)
    (t : Tracker) : Prop where
  context : t.context = context
  group : t.group = group
  required : t.required = required
  keyed : t.filings = none ∨ t.Keyed

namespace Placed
variable {context : Context} {group : Uuid} {required : SortedSet Capability}

theorem of_bare {t' : Tracker} (h : Placed context group required t) (hbare : t'.bare = t.bare)
    (hkeyed : t'.filings = none ∨ t'.Keyed) : Placed context group required t' where
  context := (congrArg Tracker.context hbare).trans h.context
  group := (congrArg Tracker.group hbare).trans h.group
  required := (congrArg Tracker.required hbare).trans h.required
  keyed := hkeyed

theorem start {caller : ThreadId} {snapshot : Snapshot} {service service' : Service}
    (h : start caller context group snapshot required service = (.ok t, service')) :
    Placed context group required t := by
  have hbare := (start_ok h).1
  refine ⟨congrArg Tracker.context hbare, congrArg Tracker.group hbare,
    congrArg Tracker.required hbare, Or.inr ?_⟩
  by_cases hc : caller = context.owner
  · subst hc
    rw [Tracker.start, Context.guarded_owner] at h
    rcases hf : Tracker.fileAll (snapshot.members group) ({ context, group, required }, service)
      with ⟨_ | _, t', service''⟩
    · simp only [hf] at h
      cases h
    · simp only [hf] at h
      cases h
      have hblank : ({ context, group, required } : Tracker).Keyed := ⟨{}, rfl, rfl⟩
      exact Keyed.fileAll (s := (_, service)) hblank hf
  · rw [Tracker.start, Context.guarded_of_ne hc] at h
    cases h

theorem update (h : Placed context group required t) (caller : ThreadId) (snapshot : Snapshot)
    (service : Service) : Placed context group required (t.update caller snapshot service).2.1 := by
  refine h.of_bare (framed_update caller snapshot t service).bare ?_
  rcases h.keyed with hended | hkeyed
  · exact Or.inl (by rw [update_idle hended]; exact hended)
  · by_cases hc : caller = t.context.owner
    · subst hc
      obtain ⟨f, hf, hkeys⟩ := hkeyed
      rw [update_owner hf]
      exact Or.inr (Keyed.reconcile (s := (t, service)) ⟨f, hf, hkeys⟩ _)
    · rw [Tracker.update, Context.guarded_of_ne hc]
      exact Or.inr hkeyed

theorem teardown (h : Placed context group required t) (caller : ThreadId) (service : Service) :
    Placed context group required (t.teardown caller service).2.1 := by
  by_cases hc : caller = t.context.owner
  · subst hc
    rw [Tracker.teardown, Context.guarded_owner]
    cases hf : t.filings with
    | none => simpa [release, hf] using h
    | some f => exact h.of_bare (by simp [release, hf, bare]) (Or.inl (by simp [release, hf]))
  · rw [Tracker.teardown, Context.guarded_of_ne hc]
    exact h

end Placed

end Tracker

namespace TrackerRig
open Tracker (Placed Unspent Updated)

section Runs
variable {context : Context} {group : Uuid} {required : SortedSet Capability} {rig : TrackerRig}
  {commands : List Command}

theorem step_placed (h : Placed context group required rig.tracker) (command : Command) :
    Placed context group required (rig.step command).2.tracker := by
  cases command with
  | event caller addressee event =>
    obtain ⟨⟨selection, htracker⟩, -, -⟩ :=
      deliver_frame caller (addressee.resolve rig.tracker.route) event rig
    simp only [step, htracker]
    exact ⟨h.context, h.group, h.required, h.keyed⟩
  | update caller snapshot => exact h.update caller snapshot rig.service
  | teardown caller => exact h.teardown caller rig.service
  | run => exact h
  | refuse verb entries => exact h
  | drop id => exact h

theorem after_placed (h : Placed context group required rig.tracker) (commands : List Command) :
    Placed context group required (rig.after commands).tracker := by
  induction commands generalizing rig with
  | nil => exact h
  | cons command rest ih => exact ih (step_placed h command)

/-- Such a command leaves the subscriptions and the callbacks on record as they are. -/
def Command.leavesRecord : Command → Bool
  | .update _ _ | .teardown _ => false
  | .event _ _ _ | .run | .refuse _ _ | .drop _ => true

theorem step_record {command : Command} (h : command.leavesRecord = true) (rig : TrackerRig) :
    (rig.step command).2.tracker.subscriptions = rig.tracker.subscriptions ∧
      (rig.step command).2.tracker.filings = rig.tracker.filings ∧
      (rig.step command).2.service.drawn = rig.service.drawn := by
  cases command with
  | event caller addressee event =>
    obtain ⟨⟨selection, htracker⟩, hservice, -⟩ :=
      deliver_frame caller (addressee.resolve rig.tracker.route) event rig
    simp only [step, htracker, hservice]
    exact ⟨trivial, trivial, trivial⟩
  | update caller snapshot => cases h
  | teardown caller => cases h
  | run => exact ⟨rfl, rfl, rfl⟩
  | refuse verb entries => exact ⟨rfl, rfl, rfl⟩
  | drop id => exact ⟨rfl, rfl, rfl⟩

theorem after_record (h : ∀ c ∈ commands, c.leavesRecord = true) (rig : TrackerRig) :
    (rig.after commands).tracker.subscriptions = rig.tracker.subscriptions ∧
      (rig.after commands).tracker.filings = rig.tracker.filings ∧
      (rig.after commands).service.drawn = rig.service.drawn := by
  induction commands generalizing rig with
  | nil => exact ⟨rfl, rfl, rfl⟩
  | cons command rest ih =>
    obtain ⟨hcommand, hrest⟩ := List.forall_mem_cons.mp h
    obtain ⟨hsubs, hfilings, hdrawn⟩ := step_record hcommand rig
    obtain ⟨hsubs', hfilings', hdrawn'⟩ := ih hrest (rig.step command).2
    exact ⟨hsubs'.trans hsubs, hfilings'.trans hfilings, hdrawn'.trans hdrawn⟩

/-- An update of the rig by its owner, with the calls it makes and what it answers. -/
structure Reconciles (required : SortedSet Capability) (wanted : SubscriptionIds)
    (left joined : List CellCall) (rig : TrackerRig) (now : Reply × TrackerRig) : Prop where
  required : rig.tracker.required = required
  updated : Updated wanted left joined (rig.tracker, rig.service) (now.2.tracker, now.2.service)
  wifi : now.2.tracker.filings.bind (·.wifi) = rig.tracker.filings.bind (·.wifi)
  route : now.2.tracker.route = rig.tracker.route
  current : now.2.tracker.current = rig.tracker.current
  executor : now.2.executor = rig.executor
  told : now.2.told = rig.told
  reply : now.1 = .outcome ((CellCall.outcome (left ++ joined)).mapError .failed)
  complete : CellCall.outcome (left ++ joined) = .ok () → now.2.tracker.subscriptions = wanted

theorem update_reconciles (h : Placed context group required rig.tracker)
    (unspent : Unspent (rig.tracker, rig.service)) (live : rig.tracker.isTornDown = false)
    (snapshot : Snapshot) :
    ∃ left joined, Reconciles required (snapshot.members group) left joined rig
      (rig.step (.update context.owner snapshot)) := by
  obtain ⟨f, hf⟩ := Option.isSome_iff_exists.mp (Option.isNone_eq_false_iff.mp live)
  have hkeyed : rig.tracker.Keyed := h.keyed.resolve_left (by simp [hf])
  have hstep : rig.step (.update context.owner snapshot) =
      let answer := Tracker.reconcile (snapshot.members group) (rig.tracker, rig.service)
      (.outcome (answer.1.mapError .failed),
        { rig with tracker := answer.2.1, service := answer.2.2 }) := by
    rw [← h.context, ← h.group]
    simp only [step, Tracker.update_owner hf]
  obtain ⟨left, joined, hupdated, houtcome⟩ :=
    Tracker.reconcile_updated (snapshot.members group) hkeyed unspent
  rw [hstep]
  obtain ⟨cells, hcells⟩ := hupdated.framed.recorded f hf
  refine ⟨left, joined, h.required, hupdated, ?_, ?_, ?_, rfl, rfl, ?_, hupdated.subscriptions_eq⟩
  · simp only [hcells, hf, Option.bind_some]
  · simp only [Tracker.route, hcells, hf, Option.bind_some]
  · have hselection := congrArg Tracker.selection hupdated.framed.bare
    exact congrArg RouteSelection.current hselection
  · rw [← houtcome]

theorem placed_started {caller : ThreadId} {snapshot : Snapshot} {service : Service}
    {executor : Executor Notification}
    (started : (start caller context group snapshot required service executor).1 = .ok rig) :
    Placed context group required rig.tracker := Placed.start (start_eq_ok started).1

theorem recorded_pairs {t : Tracker} {xs : List CellCall}
    (h : ∀ x ∈ xs, t.cell? x.sub = some x.id) :
    xs.map (fun x => (x.sub, x.id)) =
      (xs.map (·.sub)).filterMap fun sub => (t.cell? sub).map (sub, ·) := by
  rw [List.filterMap_map, ← List.filterMap_eq_map]
  refine List.filterMap_congr fun x hx => ?_
  rw [Function.comp_apply, Function.comp_apply, h x hx]
  rfl

/-- Whatever was refused of an update, the same update made again withdraws and files what was
refused and nothing else, if the record was not changed in between. What it files has identifiers
that no request of the first update had. -/
theorem update_retries {caller : ThreadId} {snapshot : Snapshot} {service : Service}
    {executor : Executor Notification} (sound : service.Sound)
    (started : (start caller context group snapshot required service executor).1 = .ok rig)
    (commands : List Command) (live : (rig.after commands).tracker.isTornDown = false)
    (snapshot' : Snapshot) :
    let update := Command.update context.owner snapshot'
    let now := (rig.after commands).step update
    ∃ left joined,
      Reconciles required (snapshot'.members group) left joined (rig.after commands) now ∧
      ∀ between : List Command, (∀ c ∈ between, c.leavesRecord = true) →
        ∃ left' joined',
          Reconciles required (snapshot'.members group) left' joined' (now.2.after between)
            ((now.2.after between).step update) ∧
          left'.map (fun x => (x.sub, x.id)) = (refused left).map (fun x => (x.sub, x.id)) ∧
          joined'.map (·.sub) = (refused joined).map (·.sub) ∧
          ∀ x ∈ joined, ∀ x' ∈ joined', x'.id ≠ x.id := by
  intro update now
  have hplaced := after_placed (placed_started started) commands
  obtain ⟨left, joined, hnow⟩ :=
    update_reconciles hplaced (unspent_after sound started commands live) live snapshot'
  refine ⟨left, joined, hnow, ?_⟩
  intro between hbetween
  obtain ⟨hsubs, hfilings, hdrawn⟩ := after_record hbetween now.2
  have hcell : ∀ sub, (now.2.after between).tracker.cell? sub = now.2.tracker.cell? sub := by
    intro sub
    rw [Tracker.cell?, hfilings]
    rfl
  have hlive : (now.2.after between).tracker.isTornDown = false := by
    obtain ⟨f, hf⟩ := Option.isSome_iff_exists.mp (Option.isNone_eq_false_iff.mp live)
    obtain ⟨cells, hcells⟩ := hnow.updated.framed.recorded f hf
    rw [Tracker.isTornDown, hfilings, hcells]
    rfl
  have hwhole : now.2.after between = rig.after (commands ++ update :: between) := by
    rw [after_append]
    rfl
  have hunspent : Unspent ((now.2.after between).tracker, (now.2.after between).service) := by
    rw [hwhole] at hlive ⊢
    exact unspent_after sound started _ hlive
  obtain ⟨left', joined', hagain⟩ :=
    update_reconciles (after_placed (step_placed hplaced update) between) hunspent hlive snapshot'
  have hleaving : left'.map (·.sub) = (refused left).map (·.sub) := by
    rw [hagain.updated.leaving, hsubs, hnow.updated.still_leaving]
  refine ⟨left', joined', hagain, ?_, ?_, ?_⟩
  · have hrecorded : ∀ x ∈ left', now.2.tracker.cell? x.sub = some x.id :=
      fun x hx => (hcell x.sub).symm.trans (hagain.updated.recorded x hx)
    rw [recorded_pairs hrecorded, recorded_pairs hnow.updated.still_recorded, hleaving]
  · rw [hagain.updated.joining, hsubs, hnow.updated.still_joining]
  · intro x hx x' hx' hsame
    obtain ⟨place, -, hlt, hid⟩ := Tracker.exists_place_of_ids hnow.updated.ids hx
    obtain ⟨place', hle, -, hid'⟩ := Tracker.exists_place_of_ids hagain.updated.ids hx'
    have hspent : now.2.service.drawn = (rig.after commands).service.drawn + joined.length :=
      hnow.updated.drawn
    have hbelow : place < now.2.service.drawn := by
      rw [hspent]
      exact hlt
    have habove : now.2.service.drawn ≤ place' := by
      rw [← hdrawn]
      exact hle
    rw [hid, hid'] at hsame
    have hplace := CallbackId.serial.inj hsame
    omega

/-- A withdrawal and a request are refused, and the next update makes these two calls, the request
under the next identifier after the two that the first update drew. -/
theorem update_retries_refused :
    ({} : Service).Sound ∧
    ∃ rig, (start ⟨0⟩ ⟨⟨0⟩⟩ .zero (.ofGroup .zero [⟨1⟩, ⟨2⟩]) .empty {}).1 = .ok rig ∧
      let commands := [.refuse .withdraw [none, some "busy"], .refuse .file [some "full"]]
      let update := Command.update ⟨0⟩ (.ofGroup .zero [⟨3⟩, ⟨4⟩])
      (rig.after commands).tracker.isTornDown = false ∧
      ∃ left' joined',
        Reconciles .empty (.ofList [⟨3⟩, ⟨4⟩]) left' joined'
          (((rig.after commands).step update).2.after [.run])
          ((((rig.after commands).step update).2.after [.run]).step update) ∧
        left'.map (fun x => (x.sub, x.id)) = [(⟨2⟩, .serial 2)] ∧
        joined'.map (·.sub) = [⟨3⟩] ∧ joined'.map (·.id) = [.serial 6] := by
  have sound : ({} : Service).Sound := ⟨List.nodup_nil, by simp [Provider.activeIds]⟩
  have started : (start ⟨0⟩ ⟨⟨0⟩⟩ .zero (.ofGroup .zero [⟨1⟩, ⟨2⟩]) .empty {}).1 = .ok _ := rfl
  refine ⟨sound, _, started, rfl, ?_⟩
  obtain ⟨left, joined, hnow, hretries⟩ :=
    update_retries sound started
      [.refuse .withdraw [none, some "busy"], .refuse .file [some "full"]] rfl
      (.ofGroup .zero [⟨3⟩, ⟨4⟩])
  obtain ⟨left', joined', hagain, hleft, hjoined, -⟩ :=
    hretries [.run] (by simp [Command.leavesRecord])
  have hsubs : joined'.map (·.sub) = [⟨3⟩] := by
    rw [hjoined, ← hnow.updated.still_joining]
    rfl
  have hlength : joined'.length = 1 := by
    rw [← List.length_map, hsubs]
    rfl
  refine ⟨left', joined', hagain, ?_, hsubs, ?_⟩
  · rw [hleft, recorded_pairs hnow.updated.still_recorded, ← hnow.updated.still_leaving]
    rfl
  · rw [hagain.updated.ids, hlength]
    rfl

end Runs

end TrackerRig

end Rangelink
