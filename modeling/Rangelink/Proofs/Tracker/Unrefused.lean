import Rangelink.Proofs.Tracker.Startup
import Rangelink.Proofs.Tracker.Updating

/-! # A tracker that is refused nothing

Where the connectivity service refuses nothing, every start, update and teardown
succeeds. The callbacks filed are then counted by the subscriptions that are new
with each update, and the teardown withdraws all of them.
-/
namespace Rangelink
open scoped List

namespace Service

/-- No call to come is to be refused. -/
def Willing (s : Service) : Prop := ∀ reason, ¬ s.MayRefuse reason

theorem willing_blank : ({} : Service).Willing := by
  rintro reason (⟨call, hmem⟩ | ⟨skip, hdue⟩ | harmed)
  · cases hmem
  · cases hdue
  · cases harmed

theorem sound_blank : ({} : Service).Sound := ⟨List.nodup_nil, by simp [Provider.activeIds]⟩

variable {s s' : Service}

theorem Willing.of_spends (h : s.Willing) (hs : s.Spends s') : s'.Willing :=
  fun reason hr => h reason (hs reason hr)

theorem Willing.not_refuses (h : s.Willing) (e : Failure) : ¬ s.Refuses e := by
  rintro ⟨reason, -, hr⟩
  exact h reason hr

end Service

namespace Tracker

/-- What a tracker has come to whose calls were all accepted, from a service without any history.
It keeps `members` filed, and `count` callbacks were filed on the way. -/
structure Tallied (context : Context) (group : Uuid) (members : SubscriptionIds) (count : Nat)
    (s : Tracker × Service) : Prop where
  context : s.1.context = context
  group : s.1.group = group
  members : s.1.subscriptions = members
  filed : s.2.provider.filed.length = count
  called : Service.Called {} s.2
  willing : s.2.Willing
  ledger : ∃ f, Ledger [] f s

/-- A start files for Wi-Fi, for every member and for route selection. -/
theorem start_tallied (context : Context) (group : Uuid) (snapshot : Snapshot)
    (required : SortedSet Capability) :
    ∃ t service, start context.owner context group snapshot required {} = (.ok t, service) ∧
      Tallied context group (snapshot.members group) (2 + (snapshot.members group).size)
        (t, service) := by
  let s : Tracker × Service := ({ context, group, required }, {})
  rcases fileAll_cases (s := s) rfl rfl Service.sound_blank (snapshot.members group) with
    ⟨⟨t, service⟩, hfile, h⟩ | ⟨before, x, rest, s₁, e, s', -, h, hx, -⟩
  · have hstart : start context.owner context group snapshot required {} = (.ok t, service) := by
      rw [start, Context.guarded_owner]
      simp only [s] at hfile
      simp only [hfile]
      rfl
    obtain ⟨-, hcalled, -⟩ := start_ok hstart
    obtain ⟨-, wifi, cells, route, hledger⟩ := start_ledger Service.sound_blank hstart
    have hfiled := hcalled.filed_of_attempts h.attempts
    refine ⟨t, service, hstart, congrArg Tracker.context h.bare, congrArg Tracker.group h.bare, ?_,
      ?_, hcalled, Service.willing_blank.of_spends h.spends, _, hledger⟩
    · ext sub
      rw [h.members sub]
      simp [Enrolment.all, SortedSet.mem_def]
    · rw [hfiled, Service.filterMap_accepted]
      simp [s, Enrolment.filings, Enrolment.all, SortedSet.size]
      omega
  · obtain ⟨hrefuses, -⟩ := release_refused h hx
    exact absurd hrefuses (Service.willing_blank.not_refuses e)

namespace Tallied
variable {context : Context} {group : Uuid} {members : SubscriptionIds} {count : Nat}
  {t : Tracker} {service : Service}

theorem of_selection (h : Tallied context group members count (t, service))
    (selection : RouteSelection) :
    Tallied context group members count ({ t with selection }, service) := by
  obtain ⟨f, hledger⟩ := h.ledger
  exact ⟨h.context, h.group, h.members, h.filed, h.called, h.willing, f,
    hledger.of_selection selection⟩

/-- An update files for every member that is new. -/
theorem update (h : Tallied context group members count (t, service)) (snapshot : Snapshot) :
    Tallied context group (snapshot.members group)
      (count + ((snapshot.members group).difference members).size)
      (t.update context.owner snapshot service).2 := by
  obtain ⟨f, hledger⟩ := h.ledger
  have hcontext : t.context = context := h.context
  have hgroup : t.group = group := h.group
  have hlive : t.filings = some f := hledger.live
  have hupdate : t.update context.owner snapshot service =
      ((reconcile (snapshot.members group) (t, service)).1.mapError .failed,
        (reconcile (snapshot.members group) (t, service)).2) := by
    rw [← hcontext, ← hgroup, update_owner hlive]
  obtain ⟨hreconciled, hfail⟩ := reconcile_spec hledger (snapshot.members group)
  obtain ⟨left, joined, hupdated, houtcome⟩ :=
    reconcile_updated (snapshot.members group) (s := (t, service)) ⟨f, hlive, hledger.keys⟩
      hledger.unspent
  have hok : CellCall.outcome (left ++ joined) = .ok () := by
    rw [← houtcome]
    cases ho : (reconcile (snapshot.members group) (t, service)).1 with
    | ok _ => rfl
    | error e => exact absurd (hfail e ho) (h.willing.not_refuses e)
  have hall : CellCall.accepted joined = joined :=
    CellCall.accepted_eq_self fun x hx =>
      CellCall.outcome_eq_ok.mp hok x (List.mem_append_right _ hx)
  obtain ⟨cells, hledger'⟩ := hreconciled.ledger
  have hsame := congrArg Tracker.context hreconciled.bare
  have hsame' := congrArg Tracker.group hreconciled.bare
  rw [hupdate]
  refine ⟨hsame.trans h.context, hsame'.trans h.group, hupdated.subscriptions_eq hok, ?_,
    h.called.trans hupdated.framed.called, h.willing.of_spends hreconciled.spends, _, hledger'⟩
  have hlength : joined.length = ((snapshot.members group).difference members).size := by
    have hmembers : t.subscriptions = members := h.members
    rw [← hmembers]
    exact (List.length_map _).symm.trans (congrArg List.length hupdated.joining)
  have hcount : service.provider.filed.length = count := h.filed
  rw [hupdated.filed, hall, List.length_append, List.length_map, hcount, hlength]

/-- A teardown withdraws whatever was filed. -/
theorem teardown (h : Tallied context group members count (t, service)) :
    (t.teardown context.owner service).1 = .ok () ∧
      (t.teardown context.owner service).2.2.provider.active = [] ∧
      (t.teardown context.owner service).2.2.provider.filed.length = count ∧
      (t.teardown context.owner service).2.2.provider.withdrawn.length = count := by
  obtain ⟨f, hledger⟩ := h.ledger
  have hcontext : t.context = context := h.context
  have hlive : t.filings = some f := hledger.live
  have hheld : service.provider.active ~ [] ++ f.filed t.required :=
    hledger.active.trans List.perm_append_comm
  obtain ⟨ws, -, -, hkept, houtcome, hfail⟩ :=
    Service.withdrawAll_log hledger.sound.distinct hheld
  rw [ids_eq] at hkept houtcome
  have hnone : ws.failure? = none := by
    rw [Service.Withdrawals.failure?, List.head?_eq_none_iff, List.filterMap_eq_nil_iff]
    intro w hw
    cases he : w.2 with
    | none => rfl
    | some e => exact absurd (hfail w hw e he) (h.willing.not_refuses e)
  have hteardown : t.teardown context.owner service =
      (.ok (), { t with filings := none, subscriptions := .empty },
        (service.withdrawAll f.ids).2) := by
    rw [← hcontext, Tracker.teardown, Context.guarded_owner]
    simp only [release, hlive, houtcome, Service.Withdrawals.outcome_eq_ok.mpr hnone]
    rfl
  have hactive : (service.withdrawAll f.ids).2.provider.active = [] := by
    rw [Service.Withdrawals.kept_eq_nil hnone] at hkept
    exact hkept.eq_nil
  have hcalled : Service.Called {} (service.withdrawAll f.ids).2 :=
    h.called.trans (Service.called_withdrawAll f.ids service)
  have hfiled : (service.withdrawAll f.ids).2.provider.filed.length = count := by
    rw [Service.filed_withdrawAll]
    exact h.filed
  rw [hteardown]
  refine ⟨rfl, hactive, hfiled, ?_⟩
  obtain ⟨filed, withdrawn, hlisted, hgone, hperm, -⟩ := (hcalled.accounts List.nodup_nil).books
  have hsame : filed ~ withdrawn := by
    rw [hactive] at hperm
    exact hperm
  rw [hlisted] at hfiled
  rw [hgone]
  exact hsame.length_eq.symm.trans hfiled

end Tallied

end Tracker

end Rangelink
