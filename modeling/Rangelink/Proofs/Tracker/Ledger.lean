import Rangelink.Proofs.Attempt
import Rangelink.Proofs.Service
import Rangelink.Proofs.SortedMap
import Rangelink.Tracker

/-! # Records of a tracker and the provider's own

The ledger invariant says that the callbacks active at the provider are those on
the tracker's record and nothing else of it. Every filing and every withdrawal
keeps the ledger, whether it is refused or not, and so does a whole update.
-/
namespace Rangelink
open scoped List

/-- The request that keeps the cellular network of a subscription up. -/
def Request.cell (required : SortedSet Capability) (sub : SubscriptionId) : Request :=
  background (((base required).addTransport .cellular).onCapabilities
    (·.specify (some (.telephony sub))))

theorem Request.cellBringup_eq (required : SortedSet Capability) (sub : SubscriptionId) :
    cellBringup required sub = .ok (cell required sub) := rfl

namespace Filings
variable (required : SortedSet Capability)

def cellFiling (e : SubscriptionId × CallbackId) : Filing :=
  ⟨e.2, .bringup, Request.cell required e.1⟩

def filed (f : Filings) : List Filing :=
  f.wifi.toList.map (fun id => ⟨id, .bringup, Request.wifiBringup required⟩) ++
    f.cells.entries.map (cellFiling required) ++
    f.route.toList.map (fun id => ⟨id, .routeSelection, Request.routeSelection required⟩)

theorem filed_perm_of_cells {f f' : Filings} {e : SubscriptionId × CallbackId}
    (hw : f'.wifi = f.wifi) (hr : f'.route = f.route)
    (hc : f'.cells.entries.Perm (e :: f.cells.entries)) :
    (f'.filed required).Perm (cellFiling required e :: f.filed required) := by
  have hcells := hc.map (cellFiling required)
  unfold filed
  rw [hw, hr]
  refine ((hcells.append_left _).append_right _).trans ?_
  rw [List.map_cons, List.append_assoc, List.cons_append, List.append_assoc]
  exact List.perm_middle

end Filings

namespace Tracker

/-- What no filing and no withdrawal changes. -/
def bare (t : Tracker) : Tracker := { t with subscriptions := .empty, filings := none }

/-- The callbacks active at the provider are those on record and `others`, and the subscriptions
of the tracker are those with a bring-up on record. -/
structure Ledger (others : List Filing) (f : Filings) (s : Tracker × Service) : Prop where
  live : s.1.filings = some f
  keys : f.cells.keys = s.1.subscriptions
  active : s.2.provider.active.Perm (f.filed s.1.required ++ others)
  sound : s.2.Sound

namespace Ledger
variable {others : List Filing} {f : Filings} {t : Tracker} {s s' : Service}

theorem of_refused (h : Ledger others f (t, s)) (ha : s'.provider.active = s.provider.active)
    (hd : s.drawn ≤ s'.drawn) : Ledger others f (t, s') where
  live := h.live
  keys := h.keys
  active := by
    rw [ha]
    exact h.active
  sound := h.sound.of_active ha hd

theorem of_filed (h : Ledger others f (t, s)) {t' : Tracker} {f' : Filings} {g : Filing}
    (live : t'.filings = some f') (keys : f'.cells.keys = t'.subscriptions)
    (required : t'.required = t.required) (hg : g.id = .serial s.drawn)
    (hf : (f'.filed t.required).Perm (g :: f.filed t.required))
    (ha : s'.provider.active = s.provider.active ++ [g]) (hd : s'.drawn = s.drawn + 1) :
    Ledger others f' (t', s') where
  live := live
  keys := keys
  active := by
    rw [ha, required]
    calc s.provider.active ++ [g]
        _ ~ g :: s.provider.active := List.perm_append_singleton _ _
        _ ~ g :: (f.filed t.required ++ others) := h.active.cons g
        _ ~ f'.filed t.required ++ others := hf.symm.append_right others
  sound := h.sound.of_filed hg ha hd

theorem of_withdrawn (h : Ledger others f (t, s)) {t' : Tracker} {f' : Filings} {g : Filing}
    (live : t'.filings = some f') (keys : f'.cells.keys = t'.subscriptions)
    (required : t'.required = t.required)
    (hf : (f.filed t.required).Perm (g :: f'.filed t.required))
    (ha : s'.provider.active = s.provider.active.filter (fun x => !(x.id == g.id)))
    (hd : s.drawn ≤ s'.drawn) : Ledger others f' (t', s') where
  live := live
  keys := keys
  active := by
    rw [ha, required]
    exact Provider.filter_perm (h.active.trans (hf.append_right others)) h.sound.distinct
  sound := h.sound.of_withdrawn ha hd

theorem of_selection (h : Ledger others f (t, s)) (selection : RouteSelection) :
    Ledger others f ({ t with selection }, s) :=
  ⟨h.live, h.keys, h.active, h.sound⟩

theorem mem_activeIds (h : Ledger others f (t, s)) {sub : SubscriptionId} {id : CallbackId}
    (hc : f.cells.get? sub = some id) : id ∈ s.provider.activeIds := by
  have hentry : (sub, id) ∈ f.cells.entries := SortedMap.mem_entries_iff.mpr hc
  have hfiled : Filings.cellFiling t.required (sub, id) ∈ f.filed t.required := by
    unfold Filings.filed
    exact List.mem_append_left _ (List.mem_append_right _ (List.mem_map_of_mem hentry))
  have hactive := h.active.mem_iff.mpr (List.mem_append_left others hfiled)
  exact List.mem_map.mpr ⟨_, hactive, rfl⟩

end Ledger

/-- `s'` comes from `s` by calls that leave the Wi-Fi and the route-selection callback of the
tracker alone, and its records agree with the provider. -/
structure Reconciled (others : List Filing) (f : Filings) (s s' : Tracker × Service) : Prop where
  bare : s'.1.bare = s.1.bare
  spends : s.2.Spends s'.2
  ledger : ∃ cells, Ledger others { f with cells } s'

namespace Reconciled
variable {others : List Filing} {f : Filings} {s s₁ s₂ s₃ : Tracker × Service}

theorem refl (h : Ledger others f s) : Reconciled others f s s :=
  ⟨rfl, Service.Spends.refl _, f.cells, h⟩

theorem trans {cells : Cells} (h₁ : Reconciled others f s₁ s₂)
    (h₂ : Reconciled others { f with cells } s₂ s₃) : Reconciled others f s₁ s₃ :=
  ⟨h₂.bare.trans h₁.bare, h₁.spends.trans h₂.spends, h₂.ledger⟩

end Reconciled

section Attempts
variable {others : List Filing} {f : Filings} {s s' : Tracker × Service} {sub : SubscriptionId}
  {outcome : Outcome}

theorem enlist_cases (h : Ledger others f s) (hnew : sub ∉ s.1.subscriptions)
    (he : enlist sub s = (outcome, s')) :
    Reconciled others f s s' ∧ (∀ e, outcome = .error e → s.2.Refuses e) ∧
      ∀ x, x ∈ s'.1.subscriptions → x = sub ∨ x ∈ s.1.subscriptions := by
  obtain ⟨t, service⟩ := s
  have hlive : t.filings = some f := h.live
  have hkeys : f.cells.keys = t.subscriptions := h.keys
  simp only [enlist, Request.cellBringup_eq] at he
  rcases hfile : file .bringup (Request.cell t.required sub) service with ⟨answer, service'⟩
  obtain ⟨hspends, hdrawn, ⟨e, rfl, hrefuses, hactive⟩ | ⟨rfl, hactive⟩⟩ :=
    file_cases (s := service) h.sound _ _ hfile
  · rw [hfile] at he
    cases he
    refine ⟨⟨rfl, hspends, f.cells, h.of_refused hactive (by omega)⟩, ?_, fun x hx => Or.inr hx⟩
    rintro e' ⟨⟩
    exact hrefuses
  · rw [hfile] at he
    cases he
    have hnone : f.cells.get? sub = none := by
      refine SortedMap.get?_eq_none_of_not_mem ?_
      rw [hkeys]
      exact hnew
    have hledger : Ledger others { f with cells := f.cells.insert sub (.serial service.drawn) }
        (t.join sub (.serial service.drawn), service') := by
      refine h.of_filed ?_ ?_ rfl rfl ?_ hactive hdrawn
      · simp [join, record, hlive]
      · simp [join, SortedMap.keys_insert, hkeys]
      · exact Filings.filed_perm_of_cells (e := (sub, .serial service.drawn)) _ rfl rfl
          (SortedMap.entries_insert_perm _ hnone)
    refine ⟨⟨rfl, hspends, _, hledger⟩, ?_, ?_⟩
    · rintro e ⟨⟩
    · intro x hx
      exact SortedSet.mem_insert.mp hx

theorem dismiss_cases (sub : SubscriptionId) (h : Ledger others f s)
    (hd : dismiss sub s = (outcome, s')) :
    Reconciled others f s s' ∧ (∀ e, outcome = .error e → s.2.Refuses e) ∧
      ∀ x, x ∈ s'.1.subscriptions → x ∈ s.1.subscriptions := by
  obtain ⟨t, service⟩ := s
  have hfilings : t.filings = some f := h.live
  have hrecorded : f.cells.keys = t.subscriptions := h.keys
  have hcell : t.cell? sub = f.cells.get? sub := by simp [cell?, hfilings]
  have hlive : (t.leave sub).filings = some { f with cells := f.cells.erase sub } := by
    simp [leave, hfilings]
  have hkeys : (f.cells.erase sub).keys = (t.leave sub).subscriptions := by
    simp [leave, SortedMap.keys_erase, hrecorded]
  have hless : ∀ x, x ∈ (t.leave sub).subscriptions → x ∈ t.subscriptions := by
    intro x hx
    exact (SortedSet.mem_erase.mp hx).1
  simp only [dismiss, hcell] at hd
  cases hc : f.cells.get? sub with
  | none =>
    simp only [hc] at hd
    cases hd
    refine ⟨⟨rfl, Service.Spends.refl _, f.cells.erase sub, ?_⟩, by rintro e ⟨⟩, hless⟩
    refine ⟨hlive, hkeys, ?_, h.sound⟩
    rw [SortedMap.erase_of_get?_eq_none hc]
    exact h.active
  | some id =>
    simp only [hc] at hd
    rcases hw : service.withdraw id with ⟨answer, service'⟩
    obtain ⟨hspends, hdrawn, ⟨e, rfl, hrefuses, hactive⟩ | ⟨rfl, hactive⟩⟩ :=
      Service.withdraw_cases (h.mem_activeIds hc) hw
    · rw [hw] at hd
      cases hd
      refine ⟨⟨rfl, hspends, f.cells, h.of_refused hactive (by omega)⟩, ?_, fun x hx => hx⟩
      rintro e' ⟨⟩
      exact hrefuses
    · rw [hw] at hd
      cases hd
      refine ⟨⟨rfl, hspends, f.cells.erase sub, ?_⟩, by rintro e ⟨⟩, hless⟩
      exact h.of_withdrawn (g := Filings.cellFiling t.required (sub, id)) hlive hkeys rfl
        (Filings.filed_perm_of_cells _ rfl rfl (SortedMap.entries_erase_perm hc)) hactive (by omega)

theorem dismissEach_spec (h : Ledger others f s) (subs : List SubscriptionId) :
    Reconciled others f s (attemptEach dismiss subs s).2 ∧
      (∀ e, (attemptEach dismiss subs s).1 = .error e → s.2.Refuses e) ∧
      ∀ x, x ∈ (attemptEach dismiss subs s).2.1.subscriptions → x ∈ s.1.subscriptions := by
  let P := fun (_ : List SubscriptionId) (s' : Tracker × Service) =>
    Reconciled others f s s' ∧ ∀ x, x ∈ s'.1.subscriptions → x ∈ s.1.subscriptions
  have next : ∀ sub rest s', P (sub :: rest) s' → P rest (dismiss sub s').2 := by
    rintro sub rest s' ⟨hr, hless⟩
    obtain ⟨cells, hledger⟩ := hr.ledger
    obtain ⟨hnow, -, hstep⟩ := dismiss_cases sub hledger (Prod.eta _).symm
    exact ⟨hr.trans hnow, fun x hx => hless x (hstep x hx)⟩
  have start : P subs s := ⟨Reconciled.refl h, fun x hx => hx⟩
  obtain ⟨hr, hless⟩ := attemptEach_keeps next start
  refine ⟨hr, ?_, hless⟩
  intro e he
  obtain ⟨sub, rest, s', ⟨hr', -⟩, he'⟩ := attemptEach_failure next start he
  obtain ⟨cells, hledger⟩ := hr'.ledger
  obtain ⟨-, hfail, -⟩ := dismiss_cases sub hledger (Prod.eta _).symm
  exact (hfail e he').of_spends hr'.spends

/-- The subscriptions that are still to be enlisted are not on record. -/
structure Enlisting (others : List Filing) (f : Filings) (s : Tracker × Service)
    (rest : List SubscriptionId) (s' : Tracker × Service) : Prop where
  reconciled : Reconciled others f s s'
  distinct : rest.Nodup
  missing : ∀ sub, sub ∈ rest → sub ∉ s'.1.subscriptions

theorem Enlisting.next (sub : SubscriptionId) (rest : List SubscriptionId) (s' : Tracker × Service)
    (h : Enlisting others f s (sub :: rest) s') : Enlisting others f s rest (enlist sub s').2 := by
  obtain ⟨hsub, hrest⟩ := List.nodup_cons.mp h.distinct
  obtain ⟨cells, hledger⟩ := h.reconciled.ledger
  obtain ⟨hnow, -, hmore⟩ :=
    enlist_cases hledger (h.missing sub List.mem_cons_self) (Prod.eta _).symm
  refine ⟨h.reconciled.trans hnow, hrest, ?_⟩
  intro x hx hmem
  rcases hmore x hmem with rfl | hold
  · exact hsub hx
  · exact h.missing x (List.mem_cons_of_mem _ hx) hold

theorem enlistEach_spec (h : Ledger others f s) {subs : List SubscriptionId} (hd : subs.Nodup)
    (hnew : ∀ sub, sub ∈ subs → sub ∉ s.1.subscriptions) :
    Reconciled others f s (attemptEach enlist subs s).2 ∧
      ∀ e, (attemptEach enlist subs s).1 = .error e → s.2.Refuses e := by
  have start : Enlisting others f s subs s := ⟨Reconciled.refl h, hd, hnew⟩
  refine ⟨(attemptEach_keeps Enlisting.next start).reconciled, ?_⟩
  intro e he
  obtain ⟨sub, rest, s', hs', he'⟩ := attemptEach_failure Enlisting.next start he
  obtain ⟨cells, hledger⟩ := hs'.reconciled.ledger
  obtain ⟨-, hfail, -⟩ :=
    enlist_cases hledger (hs'.missing sub List.mem_cons_self) (Prod.eta _).symm
  exact (hfail e he').of_spends hs'.reconciled.spends

/-- An update keeps the ledger, whichever of its calls are refused. -/
theorem reconcile_spec (h : Ledger others f s) (wanted : SubscriptionIds) :
    Reconciled others f s (reconcile wanted s).2 ∧
      ∀ e, (reconcile wanted s).1 = .error e → s.2.Refuses e := by
  obtain ⟨hleft, hleftFail, hless⟩ :=
    dismissEach_spec h (s.1.subscriptions.difference wanted).toList
  obtain ⟨cells, hledger⟩ := hleft.ledger
  have hnew : ∀ sub, sub ∈ (wanted.difference s.1.subscriptions).toList →
      sub ∉ (attemptEach dismiss (s.1.subscriptions.difference wanted).toList s).2.1.subscriptions := by
    intro sub hsub hmem
    exact (SortedSet.mem_difference.mp hsub).2 (hless sub hmem)
  obtain ⟨hjoined, hjoinedFail⟩ := enlistEach_spec hledger (SortedSet.nodup_toList _) hnew
  refine ⟨hleft.trans hjoined, ?_⟩
  intro e he
  rcases firstFailure_eq_error he with he | he
  · exact hleftFail e he
  · exact (hjoinedFail e he).of_spends hleft.spends

theorem enroll_ledger (h : Ledger others f s) {kind : CallbackKind} {request : Request}
    {change : CallbackId → Filings → Filings} (he : enroll kind request change s = (.ok (), s'))
    (hcells : ∀ id, (change id f).cells = f.cells)
    (hfiled : ∀ id, (change id f).filed s.1.required ~
      ⟨id, kind, request⟩ :: f.filed s.1.required) :
    s'.1.bare = s.1.bare ∧ Ledger others (change (.serial s.2.drawn) f) s' := by
  obtain ⟨t, service⟩ := s
  have hlive : t.filings = some f := h.live
  have hkeys : f.cells.keys = t.subscriptions := h.keys
  rcases hfile : file kind request service with ⟨answer, service'⟩
  simp only [enroll, hfile] at he
  obtain ⟨-, hdrawn, ⟨e, rfl, -, -⟩ | ⟨rfl, hactive⟩⟩ :=
    file_cases (s := service) h.sound _ _ hfile
  · cases he
  · cases he
    refine ⟨rfl, h.of_filed ?_ ?_ rfl rfl (hfiled _) hactive hdrawn⟩
    · simp [record, hlive]
    · rw [hcells]
      exact hkeys

/-- What is filed at the start, if nothing of it is refused, is on record. -/
theorem fileAll_ledger (h : Ledger others {} s) {members : SubscriptionIds}
    (hf : fileAll members s = (.ok (), s')) :
    s'.1.bare = s.1.bare ∧ ∃ wifi cells route, Ledger others ⟨some wifi, cells, some route⟩ s' := by
  unfold fileAll at hf
  split at hf
  · cases hf
  · rename_i s₁ hwifi
    obtain ⟨hb₁, h₁⟩ := enroll_ledger h hwifi (fun _ => rfl) (fun _ => .refl _)
    have hnew : ∀ sub, sub ∈ members.toList → sub ∉ s₁.1.subscriptions := by
      intro sub _ hmem
      rw [← h₁.keys] at hmem
      exact absurd hmem SortedSet.not_mem_empty
    split at hf
    · cases hf
    · rename_i s₂ hcells
      have start : Enlisting others _ s₁ members.toList s₁ :=
        ⟨Reconciled.refl h₁, SortedSet.nodup_toList _, hnew⟩
      have hr := (attemptUntilFailure_keeps Enlisting.next start hcells).reconciled
      obtain ⟨cells, h₂⟩ := hr.ledger
      obtain ⟨hb₃, h₃⟩ := enroll_ledger h₂ hf (fun _ => rfl) (fun id => by
        simp only [Filings.filed, recordRoute, recordWifi, Option.toList_none, List.map_nil,
          List.append_nil, Option.toList_some, List.map_cons]
        exact List.perm_append_singleton _ _)
      exact ⟨hb₃.trans (hr.bare.trans hb₁), _, cells, _, h₃⟩

end Attempts

/-- A tracker that started keeps a ledger beside whatever else the provider held before. -/
theorem start_ledger {caller : ThreadId} {context : Context} {group : Uuid} {snapshot : Snapshot}
    {required : SortedSet Capability} {service service' : Service} {t : Tracker}
    (sound : service.Sound)
    (h : start caller context group snapshot required service = (.ok t, service')) :
    t.bare = bare { context, group, required } ∧
      ∃ wifi cells route,
        Ledger service.provider.active ⟨some wifi, cells, some route⟩ (t, service') := by
  have hblank : Ledger service.provider.active {} (({ context, group, required } : Tracker), service) :=
    ⟨rfl, rfl, .refl _, sound⟩
  by_cases hc : caller = context.owner
  · subst hc
    rw [start, Context.guarded_owner] at h
    rcases hf : fileAll (snapshot.members group) ({ context, group, required }, service) with
      ⟨_ | _, t', service''⟩
    · simp only [hf] at h
      cases h
    · simp only [hf] at h
      cases h
      exact fileAll_ledger hblank hf
  · rw [start, Context.guarded_of_ne hc] at h
    cases h

theorem ids_eq (required : SortedSet Capability) (f : Filings) :
    (f.filed required).map (·.id) = f.ids := by
  simp [Filings.filed, Filings.ids, Filings.cellFiling, SortedMap.values, Function.comp_def]

section Operations
variable {others : List Filing} {f : Filings} {t : Tracker} {s : Service}

theorem Ledger.nodup_ids (h : Ledger others f (t, s)) : f.ids.Nodup := by
  have hids := (h.active.map Filing.id).nodup_iff.mp h.sound.distinct
  rw [List.map_append, ids_eq] at hids
  exact (List.nodup_append.mp hids).1

theorem Ledger.ids_active (h : Ledger others f (t, s)) {id : CallbackId} (hid : id ∈ f.ids) :
    id ∈ s.provider.activeIds := by
  rw [← ids_eq t.required, List.mem_map] at hid
  obtain ⟨g, hg, rfl⟩ := hid
  exact List.mem_map_of_mem (h.active.mem_iff.mpr (List.mem_append_left _ hg))

theorem update_ledger (h : Ledger others f (t, s)) (caller : ThreadId) (snapshot : Snapshot) :
    Reconciled others f (t, s) (t.update caller snapshot s).2 ∧
      ∀ e, (t.update caller snapshot s).1 = .error (.failed e) → s.Refuses e := by
  have hlive : t.filings = some f := h.live
  obtain ⟨hr, hfail⟩ := reconcile_spec h (snapshot.members t.group)
  constructor
  · by_cases hc : caller = t.context.owner
    · subst hc
      rw [update, Context.guarded_owner]
      simpa [hlive] using hr
    · rw [update, Context.guarded_of_ne hc]
      exact Reconciled.refl h
  · intro e he
    have hact := Context.guarded_failed he
    simp only [hlive, Option.isNone_some, Bool.false_eq_true, if_false] at hact
    exact hfail e hact

/-- A teardown fails only by a refusal, and a caller off the context leaves the tracker be. -/
theorem teardown_ledger (h : Ledger others f (t, s)) (caller : ThreadId) :
    (caller ≠ t.context.owner → (t.teardown caller s).2 = (t, s)) ∧
      ∀ e, (t.teardown caller s).1 = .error (.failed e) → s.Refuses e := by
  have hlive : t.filings = some f := h.live
  constructor
  · intro hc
    rw [teardown, Context.guarded_of_ne hc]
  · intro e he
    have hact := Context.guarded_failed he
    simp only [release, hlive] at hact
    exact Service.withdrawAll_failure h.nodup_ids (fun id hid => h.ids_active hid) hact

/-- A torn-down tracker answers what the check of the caller says, and does nothing. -/
theorem update_idle (h : t.filings = none) (caller : ThreadId) (snapshot : Snapshot) :
    t.update caller snapshot s = (t.context.ensure caller, (t, s)) := by
  rw [update, Context.guarded_idle (a := ()) _ _ (by simp [h])]
  cases t.context.ensure caller <;> rfl

theorem teardown_idle (h : t.filings = none) (caller : ThreadId) :
    t.teardown caller s = (t.context.ensure caller, (t, s)) := by
  rw [teardown, Context.guarded_idle (a := ()) _ _ (by simp [release, h])]
  cases t.context.ensure caller <;> rfl

theorem receive_idle (h : t.filings = none) (caller : ThreadId) (id : CallbackId)
    (event : NetworkEvent) :
    t.receive caller id event = ((t.context.ensure caller).map fun _ => none, t) :=
  Context.guarded_idle _ _ (by simp [route, h])

theorem receive_frame (t : Tracker) (caller : ThreadId) (id : CallbackId) (event : NetworkEvent) :
    (∃ selection, (t.receive caller id event).2 = { t with selection }) ∧
      ∀ e, (t.receive caller id event).1 ≠ .error (.failed e) := by
  constructor
  · by_cases hc : caller = t.context.owner
    · subst hc
      rw [receive, Context.guarded_owner]
      split
      · exact ⟨_, rfl⟩
      · exact ⟨t.selection, rfl⟩
    · rw [receive, Context.guarded_of_ne hc]
      exact ⟨t.selection, rfl⟩
  · intro e he
    have hact := Context.guarded_failed he
    split at hact <;> cases hact

end Operations

end Tracker

end Rangelink
