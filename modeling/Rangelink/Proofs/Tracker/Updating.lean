import Mathlib.Data.List.Nodup
import Rangelink.Proofs.Tracker.Frame

/-! # The calls of an update

An update makes one call for every subscription in which the record and the
wanted group differ, whatever becomes of the others. The record follows the calls
that are accepted, so that the next update is left with those that were refused.
-/
namespace Rangelink
open scoped List

/-- A call for the bring-up of a subscription that is filed or to be filed under `id`, and why it
was refused, if it was. -/
structure CellCall where
  sub : SubscriptionId
  id : CallbackId
  failure : Option Failure

namespace CellCall

def isAccepted (x : CellCall) : Bool := x.failure.isNone

def accepted (xs : List CellCall) : List CellCall := xs.filter (·.isAccepted)

def refused (xs : List CellCall) : List CellCall := xs.filter fun x => !x.isAccepted

def withdrawal (x : CellCall) : ServiceAttempt := ⟨.withdraw x.id, x.failure⟩

def callback (required : SortedSet Capability) (x : CellCall) : Filing :=
  ⟨x.id, .bringup, Request.cell required x.sub⟩

def filing (required : SortedSet Capability) (x : CellCall) : ServiceAttempt :=
  ⟨.file (x.callback required), x.failure⟩

/-- The first failure in the order of the calls, if there is one. -/
def outcome : List CellCall → Outcome
  | [] => .ok ()
  | x :: rest =>
    match x.failure with
    | some e => .error e
    | none => outcome rest

theorem outcome_append (xs ys : List CellCall) :
    outcome (xs ++ ys) = firstFailure (outcome xs) (outcome ys) := by
  induction xs with
  | nil => rfl
  | cons x rest ih =>
    rw [List.cons_append, outcome, outcome]
    cases x.failure with
    | none => exact ih
    | some e => rfl

theorem outcome_eq_ok {xs : List CellCall} :
    outcome xs = .ok () ↔ ∀ x ∈ xs, x.failure = none := by
  induction xs with
  | nil => simp [outcome]
  | cons x rest ih =>
    rw [outcome, List.forall_mem_cons]
    cases hx : x.failure with
    | none => simp [ih]
    | some e => simp

theorem accepted_eq_self {xs : List CellCall} (h : ∀ x ∈ xs, x.failure = none) :
    accepted xs = xs := by
  rw [accepted, List.filter_eq_self]
  intro x hx
  rw [isAccepted, h x hx]
  rfl

theorem mem_refused_iff {xs : List CellCall} (hd : (xs.map (·.sub)).Nodup) {sub : SubscriptionId} :
    sub ∈ (refused xs).map (·.sub) ↔ sub ∈ xs.map (·.sub) ∧ sub ∉ (accepted xs).map (·.sub) := by
  simp only [List.mem_map, refused, accepted, List.mem_filter]
  constructor
  · rintro ⟨x, ⟨hx, hr⟩, rfl⟩
    refine ⟨⟨x, hx, rfl⟩, ?_⟩
    rintro ⟨y, ⟨hy, ha⟩, hsub⟩
    rw [List.inj_on_of_nodup_map hd hy hx hsub] at ha
    simp [ha] at hr
  · rintro ⟨⟨x, hx, rfl⟩, hnot⟩
    refine ⟨x, ⟨hx, ?_⟩, rfl⟩
    cases ha : x.isAccepted with
    | false => rfl
    | true => exact absurd ⟨x, ⟨hx, ha⟩, rfl⟩ hnot

end CellCall

namespace Tracker
open CellCall (accepted refused)

def leaveEach (subs : List SubscriptionId) (t : Tracker) : Tracker :=
  subs.foldl (fun t sub => t.leave sub) t

theorem leaveEach_cons (sub : SubscriptionId) (rest : List SubscriptionId) (t : Tracker) :
    t.leaveEach (sub :: rest) = (t.leave sub).leaveEach rest := rfl

def joinEach (calls : List CellCall) (t : Tracker) : Tracker :=
  calls.foldl (fun t x => t.join x.sub x.id) t

theorem joinEach_cons (c : CellCall) (rest : List CellCall) (t : Tracker) :
    t.joinEach (c :: rest) = (t.join c.sub c.id).joinEach rest := rfl

section Records
variable {t : Tracker} {sub x : SubscriptionId}

theorem mem_subscriptions_leave : x ∈ (t.leave sub).subscriptions ↔ x ∈ t.subscriptions ∧ x ≠ sub :=
  SortedSet.mem_erase

theorem mem_subscriptions_join {id : CallbackId} :
    x ∈ (t.join sub id).subscriptions ↔ x = sub ∨ x ∈ t.subscriptions :=
  SortedSet.mem_insert

theorem cell?_leave (t : Tracker) (sub x : SubscriptionId) :
    (t.leave sub).cell? x = if sub = x then none else t.cell? x := by
  simp only [cell?, leave]
  cases t.filings with
  | none => exact (ite_self _).symm
  | some f => exact SortedMap.get?_erase sub x f.cells

theorem cell?_join (t : Tracker) (sub : SubscriptionId) (id : CallbackId) (x : SubscriptionId) :
    (t.join sub id).cell? x = if sub = x then some id else t.cell? x := by
  simp only [cell?, join, record, Option.bind_some]
  rw [SortedMap.get?_insert]
  cases t.filings <;> rfl

theorem mem_subscriptions_leaveEach {subs : List SubscriptionId} :
    x ∈ (t.leaveEach subs).subscriptions ↔ x ∈ t.subscriptions ∧ x ∉ subs := by
  induction subs generalizing t with
  | nil => simp [leaveEach]
  | cons sub rest ih =>
    rw [leaveEach_cons, ih, mem_subscriptions_leave, List.mem_cons, not_or, and_assoc]

theorem cell?_leaveEach {subs : List SubscriptionId} (h : x ∉ subs) :
    (t.leaveEach subs).cell? x = t.cell? x := by
  induction subs generalizing t with
  | nil => rfl
  | cons sub rest ih =>
    obtain ⟨hsub, hrest⟩ := List.ne_and_not_mem_of_not_mem_cons h
    rw [leaveEach_cons, ih hrest, cell?_leave, if_neg hsub.symm]

theorem required_leaveEach (subs : List SubscriptionId) :
    (t.leaveEach subs).required = t.required := by
  induction subs generalizing t with
  | nil => rfl
  | cons sub rest ih => exact ih

theorem mem_subscriptions_joinEach {calls : List CellCall} :
    x ∈ (t.joinEach calls).subscriptions ↔ x ∈ t.subscriptions ∨ x ∈ calls.map (·.sub) := by
  induction calls generalizing t with
  | nil => simp [joinEach]
  | cons c rest ih =>
    rw [joinEach_cons, ih, mem_subscriptions_join, List.map_cons, List.mem_cons,
      or_comm (a := x = c.sub), or_assoc]

theorem cell?_joinEach_of_not_mem {calls : List CellCall} (h : x ∉ calls.map (·.sub)) :
    (t.joinEach calls).cell? x = t.cell? x := by
  induction calls generalizing t with
  | nil => rfl
  | cons c rest ih =>
    obtain ⟨hsub, hrest⟩ := List.ne_and_not_mem_of_not_mem_cons h
    rw [joinEach_cons, ih hrest, cell?_join, if_neg hsub.symm]

theorem cell?_joinEach {calls : List CellCall} (hd : (calls.map (·.sub)).Nodup) {c : CellCall}
    (hc : c ∈ calls) : (t.joinEach calls).cell? c.sub = some c.id := by
  induction calls generalizing t with
  | nil => cases hc
  | cons d rest ih =>
    obtain ⟨hd, hrest⟩ := List.nodup_cons.mp hd
    rw [joinEach_cons]
    rcases List.mem_cons.mp hc with rfl | hc
    · rw [cell?_joinEach_of_not_mem hd, cell?_join, if_pos rfl]
    · exact ih hrest hc

end Records

section Calls
variable (t : Tracker) (service : Service)

/-- Every bring-up of a list is attempted to be withdrawn under its recorded identifier; those whose
withdrawal is accepted are off the record. -/
theorem dismissEach_course {subs : List SubscriptionId} (hd : subs.Nodup)
    (recorded : ∀ sub ∈ subs, ∃ id, t.cell? sub = some id) :
    ∃ left : List CellCall, left.map (·.sub) = subs ∧ (∀ x ∈ left, t.cell? x.sub = some x.id) ∧
      (attemptEach dismiss subs (t, service)).1 = CellCall.outcome left ∧
      (attemptEach dismiss subs (t, service)).2.1 =
        t.leaveEach ((accepted left).map (·.sub)) ∧
      (attemptEach dismiss subs (t, service)).2.2.attempts =
        service.attempts ++ left.map (·.withdrawal) ∧
      (attemptEach dismiss subs (t, service)).2.2.drawn = service.drawn := by
  induction subs generalizing t service with
  | nil => exact ⟨[], rfl, by simp, rfl, rfl, by simp [attemptEach], rfl⟩
  | cons sub rest ih =>
    obtain ⟨hsub, hrest⟩ := List.nodup_cons.mp hd
    obtain ⟨⟨id, hid⟩, hrecorded⟩ := List.forall_mem_cons.mp recorded
    rcases hnow : dismiss sub (t, service) with ⟨now, t', service'⟩
    obtain ⟨-, hdrawn, ⟨hnone, -⟩ | ⟨id', hid', hlog, hcase⟩⟩ := dismiss_leaves hnow
    · rw [hid] at hnone
      cases hnone
    · have hsame : id' = id := Option.some.inj (hid'.symm.trans hid)
      subst hsame
      rw [attemptEach_cons hnow]
      rcases hcase with ⟨e, rfl, rfl⟩ | ⟨rfl, rfl⟩
      · obtain ⟨left, hsubs, hids, -, htracker, hattempts, hlater⟩ := ih t' service' hrest hrecorded
        refine ⟨⟨sub, id', some e⟩ :: left, congrArg (sub :: ·) hsubs,
          List.forall_mem_cons.mpr ⟨hid, hids⟩, rfl, htracker, ?_, hlater.trans hdrawn⟩
        rw [hattempts, hlog, List.append_assoc]
        rfl
      · have hother : ∀ x ∈ rest, (t.leave sub).cell? x = t.cell? x := by
          intro x hx
          rw [cell?_leave, if_neg]
          rintro rfl
          exact hsub hx
        obtain ⟨left, hsubs, hids, hfirst, htracker, hattempts, hlater⟩ :=
          ih (t.leave sub) service' hrest fun x hx => by rw [hother x hx]; exact hrecorded x hx
        refine ⟨⟨sub, id', none⟩ :: left, congrArg (sub :: ·) hsubs,
          List.forall_mem_cons.mpr ⟨hid, ?_⟩, hfirst, htracker, ?_, hlater.trans hdrawn⟩
        · intro x hx
          rw [← hother x.sub (hsubs ▸ List.mem_map_of_mem hx)]
          exact hids x hx
        · rw [hattempts, hlog, List.append_assoc]
          rfl

/-- A bring-up is attempted to be filed for every subscription of a list, under an identifier drawn
for each; those accepted are on record. -/
theorem enlistEach_course (subs : List SubscriptionId) :
    ∃ joined : List CellCall, joined.map (·.sub) = subs ∧
      joined.map (·.id) = (List.range' service.drawn joined.length).map .serial ∧
      (attemptEach enlist subs (t, service)).1 = CellCall.outcome joined ∧
      (attemptEach enlist subs (t, service)).2.1 = t.joinEach (accepted joined) ∧
      (attemptEach enlist subs (t, service)).2.2.attempts =
        service.attempts ++ joined.map (·.filing t.required) ∧
      (attemptEach enlist subs (t, service)).2.2.drawn = service.drawn + joined.length := by
  induction subs generalizing t service with
  | nil => exact ⟨[], rfl, rfl, rfl, rfl, by simp [attemptEach], rfl⟩
  | cons sub rest ih =>
    rcases hnow : enlist sub (t, service) with ⟨now, t', service'⟩
    rw [attemptEach_cons hnow]
    obtain ⟨-, hdrawn, hlog, hcase⟩ := enlist_leaves hnow
    have hdrawn : service'.drawn = service.drawn + 1 := hdrawn
    obtain ⟨joined, hsubs, hids, hfirst, htracker, hattempts, hlater⟩ := ih t' service'
    rw [hdrawn] at hids hlater
    have hids' : CallbackId.serial service.drawn :: joined.map (·.id) =
        (List.range' service.drawn (joined.length + 1)).map .serial := by
      rw [List.range'_succ, List.map_cons, hids]
    have hlater' : (attemptEach enlist rest (t', service')).2.2.drawn =
        service.drawn + (joined.length + 1) := by omega
    rcases hcase with ⟨e, rfl, rfl⟩ | ⟨rfl, rfl⟩
    · refine ⟨⟨sub, .serial service.drawn, some e⟩ :: joined, congrArg (sub :: ·) hsubs, hids', rfl,
        htracker, ?_, hlater'⟩
      rw [hattempts, hlog, List.append_assoc]
      rfl
    · refine ⟨⟨sub, .serial service.drawn, none⟩ :: joined, congrArg (sub :: ·) hsubs, hids', hfirst,
        htracker, ?_, hlater'⟩
      rw [hattempts, hlog, List.append_assoc]
      rfl

end Calls

/-- The subscriptions of the tracker are those with a bring-up on record. -/
def Keyed (t : Tracker) : Prop := ∃ f, t.filings = some f ∧ f.cells.keys = t.subscriptions

theorem Keyed.exists_cell {t : Tracker} {sub : SubscriptionId} (h : t.Keyed)
    (hsub : sub ∈ t.subscriptions) : ∃ id, t.cell? sub = some id := by
  obtain ⟨f, hf, hkeys⟩ := h
  rw [← hkeys, SortedMap.mem_keys] at hsub
  obtain ⟨id, hid⟩ := hsub
  exact ⟨id, by rw [cell?, hf]; exact hid⟩

/-- The identifiers on record, of which there are none after the teardown. -/
def recordedIds (t : Tracker) : List CallbackId := (t.filings.map Filings.ids).getD []

/-- The identifiers that are left to be drawn are neither active nor on record. -/
structure Unspent (s : Tracker × Service) : Prop where
  sound : s.2.Sound
  recorded : ∀ place, .serial place ∈ s.1.recordedIds → place < s.2.drawn

/-- An update for the subscriptions `wanted`. It calls for a withdrawal in each place of `left` and
for a request in each place of `joined`, and the record takes in those that are accepted. Every
request has an identifier of its own, which is new to the record and to the provider. -/
structure Updated (wanted : SubscriptionIds) (left joined : List CellCall)
    (s s' : Tracker × Service) : Prop where
  leaving : left.map (·.sub) = (s.1.subscriptions.difference wanted).toList
  recorded : ∀ x ∈ left, s.1.cell? x.sub = some x.id
  joining : joined.map (·.sub) = (wanted.difference s.1.subscriptions).toList
  ids : joined.map (·.id) = (List.range' s.2.drawn joined.length).map .serial
  distinct : (joined.map (·.id)).Nodup
  fresh : ∀ x ∈ joined, x.id ∉ s.1.recordedIds ∧ x.id ∉ s.2.provider.activeIds
  attempts : s'.2.attempts =
    s.2.attempts ++ left.map (·.withdrawal) ++ joined.map (·.filing s.1.required)
  drawn : s'.2.drawn = s.2.drawn + joined.length
  members : ∀ sub, sub ∈ s'.1.subscriptions ↔
    sub ∈ s.1.subscriptions ∧ sub ∉ (accepted left).map (·.sub) ∨
      sub ∈ (accepted joined).map (·.sub)
  kept : ∀ sub ∈ s.1.subscriptions, sub ∉ (accepted left).map (·.sub) →
    s'.1.cell? sub = s.1.cell? sub
  entered : ∀ x ∈ accepted joined, s'.1.cell? x.sub = some x.id
  framed : Framed s s'

theorem nodup_serials (start length : Nat) :
    ((List.range' start length).map CallbackId.serial).Nodup := by
  refine List.Nodup.map ?_ (List.nodup_range' _)
  intro a b h
  exact CallbackId.serial.inj h

/-- An identifier that is drawn in a run of requests was left to be drawn before it. -/
theorem exists_place_of_ids {xs : List CellCall} {start : Nat}
    (h : xs.map (·.id) = (List.range' start xs.length).map .serial) {x : CellCall} (hx : x ∈ xs) :
    ∃ place, start ≤ place ∧ place < start + xs.length ∧ x.id = .serial place := by
  have hmem : x.id ∈ xs.map (·.id) := List.mem_map_of_mem hx
  rw [h, List.mem_map] at hmem
  obtain ⟨place, hplace, hid⟩ := hmem
  obtain ⟨hle, hlt⟩ := List.mem_range'_1.mp hplace
  exact ⟨place, hle, hlt, hid.symm⟩

theorem Ledger.unspent {others : List Filing} {f : Filings} {s : Tracker × Service}
    (h : Ledger others f s) : Unspent s := by
  obtain ⟨t, service⟩ := s
  have hlive : t.filings = some f := h.live
  refine ⟨h.sound, ?_⟩
  intro place hplace
  rw [recordedIds, hlive] at hplace
  exact h.sound.numbered place (h.ids_active hplace)

theorem Unspent.fresh {s : Tracker × Service} (h : Unspent s) {place : Nat}
    (hp : s.2.drawn ≤ place) :
    .serial place ∉ s.1.recordedIds ∧ .serial place ∉ s.2.provider.activeIds :=
  ⟨fun hmem => Nat.not_lt.mpr hp (h.recorded place hmem), h.sound.fresh hp⟩

theorem reconcile_updated (wanted : SubscriptionIds) {s : Tracker × Service} (keyed : s.1.Keyed)
    (unspent : Unspent s) :
    ∃ left joined, Updated wanted left joined s (reconcile wanted s).2 ∧
      (reconcile wanted s).1 = CellCall.outcome (left ++ joined) := by
  obtain ⟨t, service⟩ := s
  have hrecorded : ∀ sub ∈ (t.subscriptions.difference wanted).toList,
      ∃ id, t.cell? sub = some id :=
    fun sub hsub => keyed.exists_cell (SortedSet.mem_difference.mp hsub).1
  obtain ⟨left, hleaving, hids, hleft, htracker, hlog, hdrawn⟩ :=
    dismissEach_course t service (SortedSet.nodup_toList _) hrecorded
  have hframed := framed_reconcile wanted (t, service)
  unfold reconcile at hframed ⊢
  generalize attemptEach dismiss (t.subscriptions.difference wanted).toList (t, service) = s₁ at *
  obtain ⟨outcome₁, t₁, service₁⟩ := s₁
  obtain ⟨joined, hjoining, hserial, hjoined, htracker', hlog', hdrawn'⟩ :=
    enlistEach_course t₁ service₁ (wanted.difference t.subscriptions).toList
  have hdrawn : service₁.drawn = service.drawn := hdrawn
  rw [hdrawn] at hserial hdrawn'
  have hnew : ∀ sub ∈ (accepted joined).map (·.sub), sub ∉ t.subscriptions := by
    intro sub hsub
    have hmem := (List.filter_sublist.map _).subset hsub
    rw [hjoining] at hmem
    exact (SortedSet.mem_difference.mp hmem).2
  have hdistinct : ((accepted joined).map (·.sub)).Nodup := by
    refine List.Nodup.sublist (List.filter_sublist.map _) ?_
    rw [hjoining]
    exact SortedSet.nodup_toList _
  subst htracker
  refine ⟨left, joined, ⟨hleaving, hids, hjoining, hserial, ?_, ?_, ?_, hdrawn', ?_, ?_, ?_,
    hframed⟩, ?_⟩
  · rw [hserial]
    exact nodup_serials _ _
  · intro x hx
    obtain ⟨place, hle, -, hid⟩ := exists_place_of_ids hserial hx
    rw [hid]
    exact unspent.fresh hle
  · rw [hlog', hlog, required_leaveEach]
  · intro sub
    rw [htracker', mem_subscriptions_joinEach, mem_subscriptions_leaveEach]
  · intro sub hsub hleft'
    rw [htracker', cell?_joinEach_of_not_mem (fun hmem => hnew sub hmem hsub),
      cell?_leaveEach hleft']
  · intro x hx
    rw [htracker']
    exact cell?_joinEach hdistinct hx
  · rw [CellCall.outcome_append, ← hjoined, ← hleft]

theorem update_owner {t : Tracker} {f : Filings} (live : t.filings = some f) (snapshot : Snapshot)
    (service : Service) :
    t.update t.context.owner snapshot service =
      ((reconcile (snapshot.members t.group) (t, service)).1.mapError .failed,
        (reconcile (snapshot.members t.group) (t, service)).2) := by
  rw [update, Context.guarded_owner]
  simp only [live, Option.isNone_some, Bool.false_eq_true, if_false]

namespace Updated
variable {wanted : SubscriptionIds} {left joined : List CellCall} {s s' : Tracker × Service}

/-- The provider lists the requests that were accepted. -/
theorem filed (h : Updated wanted left joined s s') :
    s'.2.provider.filed = s.2.provider.filed ++ (accepted joined).map (·.callback s.1.required) := by
  have hwithdrawals : (left.map (·.withdrawal)).filterMap (·.filed?) = [] := by
    rw [List.filterMap_map]
    exact List.filterMap_eq_nil_iff.mpr fun x _ => rfl
  have hrequests : (joined.map (·.filing s.1.required)).filterMap (·.filed?) =
      (accepted joined).map (·.callback s.1.required) := by
    rw [List.filterMap_map, accepted, ← List.filterMap_eq_map, List.filterMap_filter]
    refine List.filterMap_congr fun x _ => ?_
    rcases x with ⟨sub, id, _ | e⟩ <;> rfl
  have hlog := h.attempts
  rw [List.append_assoc] at hlog
  rw [h.framed.called.filed_of_attempts hlog, List.filterMap_append, hwithdrawals, hrequests,
    List.nil_append]

theorem nodup_leaving (h : Updated wanted left joined s s') : (left.map (·.sub)).Nodup := by
  rw [h.leaving]
  exact SortedSet.nodup_toList _

theorem nodup_joining (h : Updated wanted left joined s s') : (joined.map (·.sub)).Nodup := by
  rw [h.joining]
  exact SortedSet.nodup_toList _

theorem mem_leaving (h : Updated wanted left joined s s') {sub : SubscriptionId} :
    sub ∈ left.map (·.sub) ↔ sub ∈ s.1.subscriptions ∧ sub ∉ wanted := by
  rw [h.leaving]
  exact SortedSet.mem_difference

theorem mem_joining (h : Updated wanted left joined s s') {sub : SubscriptionId} :
    sub ∈ joined.map (·.sub) ↔ sub ∈ wanted ∧ sub ∉ s.1.subscriptions := by
  rw [h.joining]
  exact SortedSet.mem_difference

theorem ascending_refused {xs : List CellCall} {subs : SubscriptionIds}
    (h : xs.map (·.sub) = subs.toList) :
    ((refused xs).map (·.sub)).Pairwise fun a b => StrictOrder.precedes a b = true :=
  (h ▸ subs.ascending).sublist (List.filter_sublist.map _)

/-- The withdrawals that were refused are the ones the next update is left with. -/
theorem still_leaving (h : Updated wanted left joined s s') :
    (s'.1.subscriptions.difference wanted).toList = (refused left).map (·.sub) := by
  refine congrArg SortedSet.toList
    (SortedSet.ext (t := ⟨_, ascending_refused h.leaving⟩) fun sub => ?_)
  show _ ↔ sub ∈ (refused left).map (·.sub)
  rw [SortedSet.mem_difference, h.members, CellCall.mem_refused_iff h.nodup_leaving, h.mem_leaving]
  constructor
  · rintro ⟨⟨hold, hnot⟩ | hin, hwanted⟩
    · exact ⟨⟨hold, hwanted⟩, hnot⟩
    · have hmem := (List.filter_sublist.map _).subset hin
      exact absurd (h.mem_joining.mp hmem).1 hwanted
  · rintro ⟨⟨hold, hwanted⟩, hnot⟩
    exact ⟨Or.inl ⟨hold, hnot⟩, hwanted⟩

/-- The requests that were refused are the ones the next update is left with. -/
theorem still_joining (h : Updated wanted left joined s s') :
    (wanted.difference s'.1.subscriptions).toList = (refused joined).map (·.sub) := by
  refine congrArg SortedSet.toList
    (SortedSet.ext (t := ⟨_, ascending_refused h.joining⟩) fun sub => ?_)
  show _ ↔ sub ∈ (refused joined).map (·.sub)
  rw [SortedSet.mem_difference, h.members, CellCall.mem_refused_iff h.nodup_joining, h.mem_joining,
    not_or, not_and_not_right]
  constructor
  · rintro ⟨hwanted, hgone, hnot⟩
    refine ⟨⟨hwanted, fun hold => ?_⟩, hnot⟩
    have hmem := (List.filter_sublist.map _).subset (hgone hold)
    exact (h.mem_leaving.mp hmem).2 hwanted
  · rintro ⟨⟨hwanted, hnew⟩, hnot⟩
    exact ⟨hwanted, fun hold => absurd hold hnew, hnot⟩

theorem still_recorded (h : Updated wanted left joined s s') :
    ∀ x ∈ refused left, s'.1.cell? x.sub = some x.id := by
  intro x hx
  have hleft := (List.mem_filter.mp hx).1
  have hnot := ((CellCall.mem_refused_iff h.nodup_leaving).mp (List.mem_map_of_mem hx)).2
  have hold := (h.mem_leaving.mp (List.mem_map_of_mem hleft)).1
  rw [h.kept x.sub hold hnot]
  exact h.recorded x hleft

theorem subscriptions_eq (h : Updated wanted left joined s s')
    (hok : CellCall.outcome (left ++ joined) = .ok ()) : s'.1.subscriptions = wanted := by
  have hnone := CellCall.outcome_eq_ok.mp hok
  have hleft : accepted left = left :=
    CellCall.accepted_eq_self fun x hx => hnone x (List.mem_append_left _ hx)
  have hjoined : accepted joined = joined :=
    CellCall.accepted_eq_self fun x hx => hnone x (List.mem_append_right _ hx)
  ext sub
  rw [h.members, hleft, hjoined, h.mem_leaving, h.mem_joining]
  by_cases hold : sub ∈ s.1.subscriptions <;> simp [hold]

end Updated

end Tracker

end Rangelink
