import Rangelink.Proofs.Service.Log
import Rangelink.Proofs.Tracker.Ledger
import Rangelink.Tracker.Rig

/-! # How a tracker starts

A start goes through a plan of filings: Wi-Fi, the subscriptions in ascending
order, route selection. Either the whole plan is accepted, or the first refusal
ends it and every callback accepted before is withdrawn once, in the same order.
-/
namespace Rangelink
open scoped List
open StrictOrder

/-- What a tracker files at its start, under the identifiers from `next` on. -/
def Request.startup (required : SortedSet Capability) (members : SubscriptionIds) (next : Nat) :
    List Filing :=
  ⟨.serial next, .bringup, wifiBringup required⟩ ::
    (members.toList.zipIdx (next + 1)).map
      (fun e => ⟨.serial e.2, .bringup, cell required e.1⟩) ++
    [⟨.serial (next + 1 + members.size), .routeSelection, routeSelection required⟩]

/-- A callback by what it is for. -/
inductive Enrolment where
  | wifi
  | cell (sub : SubscriptionId)
  | route

namespace Enrolment

def kind : Enrolment → CallbackKind
  | .wifi | .cell _ => .bringup
  | .route => .routeSelection

def request (required : SortedSet Capability) : Enrolment → Request
  | .wifi => Request.wifiBringup required
  | .cell sub => Request.cell required sub
  | .route => Request.routeSelection required

def filing (required : SortedSet Capability) (place : Nat) (x : Enrolment) : Filing :=
  ⟨.serial place, x.kind, x.request required⟩

/-- The filings of a list of enrolments under the identifiers from `next` on. -/
def filings (required : SortedSet Capability) (next : Nat) (xs : List Enrolment) : List Filing :=
  (xs.zipIdx next).map fun e => e.1.filing required e.2

def precedes : Enrolment → Enrolment → Bool
  | .wifi, .wifi => false
  | .wifi, _ => true
  | .cell a, .cell b => StrictOrder.precedes a b
  | .cell _, .route => true
  | _, _ => false

def all (members : SubscriptionIds) : List Enrolment :=
  .wifi :: members.toList.map .cell ++ [.route]

theorem filings_concat (required : SortedSet Capability) (next : Nat) (xs : List Enrolment)
    (x : Enrolment) :
    filings required next (xs ++ [x]) =
      filings required next xs ++ [x.filing required (next + xs.length)] := by
  simp [filings, List.zipIdx_append]

theorem filings_append (required : SortedSet Capability) (next : Nat) (xs ys : List Enrolment) :
    filings required next (xs ++ ys) =
      filings required next xs ++ filings required (next + xs.length) ys := by
  simp [filings, List.zipIdx_append]

theorem filings_all (required : SortedSet Capability) (members : SubscriptionIds) (next : Nat) :
    filings required next (all members) = Request.startup required members next := by
  rw [all, filings_concat]
  simp [filings, Request.startup, List.zipIdx_map, filing, kind, request, SortedSet.size,
    Nat.add_right_comm, Nat.add_assoc]

theorem ascending_all (members : SubscriptionIds) :
    (all members).Pairwise fun x y => x.precedes y = true := by
  have hcells : (members.toList.map Enrolment.cell).Pairwise fun x y => x.precedes y = true :=
    List.pairwise_map.mpr members.ascending
  rw [all, List.cons_append, List.pairwise_cons, List.pairwise_append]
  refine ⟨?_, hcells, List.pairwise_singleton _ _, ?_⟩
  · intro x hx
    rcases List.mem_append.mp hx with hx | hx
    · obtain ⟨sub, -, rfl⟩ := List.mem_map.mp hx
      rfl
    · rw [List.mem_singleton.mp hx]
      rfl
  · intro x hx y hy
    obtain ⟨sub, -, rfl⟩ := List.mem_map.mp hx
    rw [List.mem_singleton.mp hy]
    rfl

end Enrolment

namespace Filings
variable {f : Filings} {xs : List Enrolment} {x : Enrolment} {id : CallbackId}

def enter (x : Enrolment) (id : CallbackId) (f : Filings) : Filings :=
  match x with
  | .wifi => { f with wifi := some id }
  | .cell sub => { f with cells := f.cells.insert sub id }
  | .route => { f with route := some id }

/-- Nothing is on record but the enrolments listed. -/
structure Within (xs : List Enrolment) (f : Filings) : Prop where
  wifi : .wifi ∉ xs → f.wifi = none
  cells : ∀ e ∈ f.cells.entries, .cell e.1 ∈ xs
  route : .route ∉ xs → f.route = none

theorem Within.enter (h : f.Within xs) (x : Enrolment) (id : CallbackId) :
    (f.enter x id).Within (xs ++ [x]) := by
  constructor
  · intro hx
    rw [List.mem_append, not_or] at hx
    cases x with
    | wifi => exact absurd (List.mem_singleton_self _) hx.2
    | cell sub => exact h.wifi hx.1
    | route => exact h.wifi hx.1
  · intro e he
    rw [List.mem_append]
    cases x with
    | wifi => exact Or.inl (h.cells e he)
    | route => exact Or.inl (h.cells e he)
    | cell sub =>
      rcases SortedMap.mem_place he with rfl | he
      · exact Or.inr (List.mem_singleton_self _)
      · exact Or.inl (h.cells e he)
  · intro hx
    rw [List.mem_append, not_or] at hx
    cases x with
    | wifi => exact h.route hx.1
    | cell sub => exact h.route hx.1
    | route => exact absurd (List.mem_singleton_self _) hx.2

/-- Enrolments made in ascending order are recorded in that order. -/
theorem Within.ids_enter (h : f.Within xs) (hlast : ∀ y ∈ xs, y.precedes x = true) :
    (f.enter x id).ids = f.ids ++ [id] := by
  have absent : ∀ y, Enrolment.precedes y x = false → y ∉ xs := by
    intro y hy hmem
    rw [hlast y hmem] at hy
    cases hy
  cases x with
  | wifi =>
    have hcells : f.cells.entries = [] := by
      rw [List.eq_nil_iff_forall_not_mem]
      intro e he
      exact absent _ rfl (h.cells e he)
    simp [ids, Filings.enter, SortedMap.values, hcells, h.wifi (absent _ rfl), h.route (absent _ rfl)]
  | cell sub =>
    have hkeys : ∀ e ∈ f.cells.entries, StrictOrder.precedes e.1 sub = true :=
      fun e he => hlast _ (h.cells e he)
    simp [ids, Filings.enter, SortedMap.values, SortedMap.entries_insert_last id hkeys,
      h.route (absent _ rfl)]
  | route => simp [ids, Filings.enter, h.route (absent _ rfl)]

end Filings

namespace Tracker
variable {t : Tracker} {service : Service} {s s' : Tracker × Service} {members : SubscriptionIds}

def enter (x : Enrolment) (id : CallbackId) (t : Tracker) : Tracker :=
  match x with
  | .wifi => t.record (recordWifi id)
  | .cell sub => t.join sub id
  | .route => t.record (recordRoute id)

def fileOne (x : Enrolment) : Tracker × Service → Outcome × (Tracker × Service)
  | (t, service) =>
    match file x.kind (x.request t.required) service with
    | (.ok id, service) => (.ok (), (t.enter x id, service))
    | (.error e, service) => (.error e, (t, service))

/-- A start goes through the enrolments in order, up to the first that is refused. -/
theorem fileAll_eq (members : SubscriptionIds) (s : Tracker × Service) :
    fileAll members s = attemptUntilFailure fileOne (Enrolment.all members) s := by
  have hcell : (fun sub => fileOne (.cell sub)) = enlist := rfl
  have hwifi : enroll .bringup (Request.wifiBringup s.1.required) recordWifi s =
      fileOne .wifi s := rfl
  have hroute : ∀ s : Tracker × Service,
      enroll .routeSelection (Request.routeSelection s.1.required) recordRoute s =
        fileOne .route s := fun _ => rfl
  rw [Enrolment.all, List.cons_append, attemptUntilFailure, fileAll, hwifi]
  rcases fileOne .wifi s with ⟨_ | _, s₁⟩
  · rfl
  · simp only [attemptUntilFailure_append, attemptUntilFailure_map, hcell, hroute]
    rcases attemptUntilFailure enlist members.toList s₁ with ⟨_ | _, s₂⟩
    · rfl
    · simp only [attemptUntilFailure]
      rcases fileOne .route s₂ with ⟨_ | _, s₃⟩ <;> rfl

theorem fileOne_cases (sound : service.Sound) (x : Enrolment) {outcome : Outcome}
    (h : fileOne x (t, service) = (outcome, s')) :
    service.Spends s'.2 ∧ s'.2.drawn = service.drawn + 1 ∧
      ((∃ e, outcome = .error e ∧ service.Refuses e ∧ s'.1 = t ∧
          s'.2.attempts = service.attempts ++
            [⟨.file (x.filing t.required service.drawn), some e⟩] ∧
          s'.2.provider.active = service.provider.active) ∨
        (outcome = .ok () ∧ s'.1 = t.enter x (.serial service.drawn) ∧
          s'.2.attempts = service.attempts ++
            [Service.accepted (x.filing t.required service.drawn)] ∧
          s'.2.provider.active =
            service.provider.active ++ [x.filing t.required service.drawn])) := by
  rcases hfile : file x.kind (x.request t.required) service with ⟨answer, service'⟩
  obtain ⟨hlog, -⟩ := Service.request_leaves hfile
  obtain ⟨hspends, hdrawn, ⟨e, rfl, hrefuses, hactive⟩ | ⟨rfl, hactive⟩⟩ :=
    file_cases sound _ _ hfile
  · simp only [fileOne, hfile] at h
    cases h
    exact ⟨hspends, hdrawn, Or.inl ⟨e, rfl, hrefuses, rfl, hlog, hactive⟩⟩
  · simp only [fileOne, hfile] at h
    cases h
    exact ⟨hspends, hdrawn, Or.inr ⟨rfl, rfl, hlog, hactive⟩⟩

theorem enter_filings {f : Filings} (h : t.filings = some f) (x : Enrolment) (id : CallbackId) :
    (t.enter x id).filings = some (f.enter x id) := by
  cases x <;> simp [enter, join, record, h] <;> rfl

/-- The enrolments made so far, from a state in which nothing is on record. -/
structure Enrolled (s : Tracker × Service) (xs : List Enrolment) (s' : Tracker × Service) :
    Prop where
  bare : s'.1.bare = s.1.bare
  recorded : ∃ f, s'.1.filings = some f ∧ f.Within xs ∧
    f.ids = (Enrolment.filings s.1.required s.2.drawn xs).map (·.id)
  members : ∀ sub, sub ∈ s'.1.subscriptions ↔ .cell sub ∈ xs
  attempts : s'.2.attempts =
    s.2.attempts ++ (Enrolment.filings s.1.required s.2.drawn xs).map Service.accepted
  active : s'.2.provider.active =
    s.2.provider.active ++ Enrolment.filings s.1.required s.2.drawn xs
  drawn : s'.2.drawn = s.2.drawn + xs.length
  sound : s'.2.Sound
  spends : s.2.Spends s'.2

theorem enrolled_nil (hf : s.1.filings = some {}) (hm : s.1.subscriptions = .empty)
    (sound : s.2.Sound) : Enrolled s [] s where
  bare := rfl
  recorded := ⟨{}, hf, ⟨fun _ => rfl, fun _ he => (List.not_mem_nil he).elim, fun _ => rfl⟩, rfl⟩
  members sub := by simp [hm]
  attempts := by simp [Enrolment.filings]
  active := by simp [Enrolment.filings]
  drawn := rfl
  sound := sound
  spends := Service.Spends.refl _

theorem mem_subscriptions_enter (x : Enrolment) (id : CallbackId) (t : Tracker)
    (sub : SubscriptionId) :
    sub ∈ (t.enter x id).subscriptions ↔ sub ∈ t.subscriptions ∨ .cell sub = x := by
  cases x <;> simp [enter, join, record, or_comm]

theorem Enrolled.next {xs : List Enrolment} {x : Enrolment} {s₁ s₂ : Tracker × Service}
    (h : Enrolled s xs s₁) (hlast : ∀ y ∈ xs, y.precedes x = true)
    (hx : fileOne x s₁ = (.ok (), s₂)) : Enrolled s (xs ++ [x]) s₂ := by
  have hsame := congrArg Tracker.required h.bare
  have hrequired : s₁.1.required = s.1.required := hsame
  obtain ⟨f, hf, hwithin, hids⟩ := h.recorded
  obtain ⟨hspends, hdrawn, ⟨e, he, -⟩ | ⟨-, ht, hattempts, hactive⟩⟩ := fileOne_cases h.sound x hx
  · cases he
  · rw [hrequired, h.drawn] at hattempts hactive
    refine ⟨?_, ?_, ?_, ?_, ?_, ?_, ?_, h.spends.trans hspends⟩
    · rw [ht, ← h.bare]
      cases x <;> rfl
    · refine ⟨f.enter x (.serial s₁.2.drawn), ?_, hwithin.enter x _, ?_⟩
      · rw [ht, enter_filings hf]
      · rw [hwithin.ids_enter hlast, hids, Enrolment.filings_concat, List.map_append, h.drawn]
        rfl
    · intro sub
      rw [ht, mem_subscriptions_enter, h.members sub, List.mem_append, List.mem_singleton]
    · rw [hattempts, h.attempts, Enrolment.filings_concat, List.map_append, List.append_assoc]
      rfl
    · rw [hactive, h.active, Enrolment.filings_concat, List.append_assoc]
    · rw [hdrawn, h.drawn, List.length_append, List.length_singleton, Nat.add_assoc]
    · exact h.sound.of_filed (f := x.filing s.1.required (s.2.drawn + xs.length))
        (by rw [h.drawn]; rfl) hactive hdrawn

/-- Either everything is enrolled, or the enrolments made are followed by one that is refused. -/
theorem fileAll_cases (hf : s.1.filings = some {}) (hm : s.1.subscriptions = .empty)
    (sound : s.2.Sound) (members : SubscriptionIds) :
    (∃ s', fileAll members s = (.ok (), s') ∧ Enrolled s (Enrolment.all members) s') ∨
      ∃ before x rest s₁ e s', Enrolment.all members = before ++ x :: rest ∧ Enrolled s before s₁ ∧
        fileOne x s₁ = (.error e, s') ∧ fileAll members s = (.error e, s') := by
  rw [fileAll_eq]
  refine attemptUntilFailure_cases (enrolled_nil hf hm sound) ?_
  intro before x rest s₁ s₂ hsplit h hx
  have hascending := Enrolment.ascending_all members
  rw [hsplit, List.pairwise_append] at hascending
  exact h.next (fun y hy => hascending.2.2 y hy x List.mem_cons_self) hx

/-- What was enrolled before a refusal is withdrawn, each callback once and in order. -/
theorem release_refused {before : List Enrolment} {x : Enrolment} {s₁ : Tracker × Service}
    {e : Failure} (h : Enrolled s before s₁) (hx : fileOne x s₁ = (.error e, s')) :
    s.2.Refuses e ∧ ∃ ws : Service.Withdrawals,
      ws.map (·.1) = Enrolment.filings s.1.required s.2.drawn before ∧
      (release s').2.2.attempts = s.2.attempts ++
        (Enrolment.filings s.1.required s.2.drawn before).map Service.accepted ++
        ⟨.file (x.filing s.1.required (s.2.drawn + before.length)), some e⟩ :: ws.attempts ∧
      (release s').2.2.provider.active ~ s.2.provider.active ++ ws.kept ∧
      ∀ w ∈ ws, ∀ e', w.2 = some e' → s.2.Refuses e' := by
  obtain ⟨f, hf, -, hids⟩ := h.recorded
  have hsame := congrArg Tracker.required h.bare
  have hrequired : s₁.1.required = s.1.required := hsame
  obtain ⟨hspends, -, ⟨e', he, hrefuses, ht, hattempts, hactive⟩ | ⟨hok, -⟩⟩ :=
    fileOne_cases h.sound x hx
  · cases he
    rw [hrequired, h.drawn, h.attempts] at hattempts
    rw [h.active] at hactive
    have hdistinct : s'.2.provider.activeIds.Nodup := by
      rw [Provider.activeIds, hactive, ← h.active]
      exact h.sound.distinct
    obtain ⟨ws, hws, hlog, hkept, -, hfail⟩ := Service.withdrawAll_log hdistinct (.of_eq hactive)
    have hrelease : (release s').2.2 = (s'.2.withdrawAll
        ((Enrolment.filings s.1.required s.2.drawn before).map (·.id))).2 := by
      obtain ⟨t', service'⟩ := s'
      have hfilings : t'.filings = some f := by rw [← hf]; exact congrArg Tracker.filings ht
      simp only [release, hfilings, hids]
    refine ⟨hrefuses.of_spends h.spends, ws, hws, ?_, ?_, ?_⟩
    · rw [hrelease, hlog, hattempts, List.append_assoc, List.singleton_append]
    · rw [hrelease]
      exact hkept
    · intro w hw e' he'
      exact (hfail w hw e' he').of_spends (h.spends.trans hspends)
  · cases hok

end Tracker

namespace TrackerRig

/-- The whole plan is filed and on record, and the owner was told nothing yet. -/
structure Started (members : SubscriptionIds) (plan : List Filing) (before after : Service)
    (executor : Executor Notification) (rig : TrackerRig) : Prop where
  attempts : after.attempts = before.attempts ++ plan.map Service.accepted
  active : after.provider.active = before.provider.active ++ plan
  recorded : rig.tracker.filings.map Filings.ids = some (plan.map (·.id))
  members : rig.tracker.subscriptions = members
  service : rig.service = after
  untold : rig.executor = executor ∧ rig.told = []

/-- One request of the plan was refused. It was the last to be attempted, each callback filed before
it was withdrawn once and in the order of filing, and of these the provider keeps the ones whose
withdrawal was refused as well. -/
structure RolledBack (plan : List Filing) (e : Failure) (before after : Service) : Prop where
  refused : before.Refuses e
  course : ∃ filed request rest, ∃ ws : Service.Withdrawals,
    plan = filed ++ request :: rest ∧ ws.map (·.1) = filed ∧
    after.attempts = before.attempts ++ filed.map Service.accepted ++
      ⟨.file request, some e⟩ :: ws.attempts ∧
    after.provider.active ~ before.provider.active ++ ws.kept ∧
    ∀ w ∈ ws, ∀ e', w.2 = some e' → before.Refuses e'

variable {service : Service}

/-- A start files its whole plan, or is rolled back at the first request that is refused and answers
with that refusal. Either way it queues nothing for the owner. -/
theorem start_or_roll_back (context : Context) (group : Uuid) (snapshot : Snapshot)
    (required : SortedSet Capability) (sound : service.Sound) (executor : Executor Notification) :
    let members := snapshot.members group
    let plan := Request.startup required members service.drawn
    let started := start context.owner context group snapshot required service executor
    started.2.2 = executor ∧
      ((∃ rig, started.1 = .ok rig ∧ Started members plan service started.2.1 executor rig) ∨
        ∃ e, started.1 = .error (.failed e) ∧ RolledBack plan e service started.2.1) := by
  intro members plan started
  have hstarted : started = start context.owner context group snapshot required service executor :=
    rfl
  have hplan : Enrolment.filings required service.drawn (Enrolment.all members) = plan :=
    Enrolment.filings_all required members service.drawn
  rw [start, Tracker.start, Context.guarded_owner] at hstarted
  refine ⟨rfl, ?_⟩
  rcases Tracker.fileAll_cases (s := (({ context, group, required } : Tracker), service)) rfl rfl
    sound members with ⟨⟨t, service'⟩, hfile, h⟩ | ⟨before, x, rest, s₁, e, s', hsplit, h, hx, hfile⟩
  · left
    simp only [members] at hfile
    simp only [hfile] at hstarted
    obtain ⟨f, hf, -, hids⟩ := h.recorded
    have hmembers : t.subscriptions = members := by
      ext sub
      rw [h.members sub]
      simp [Enrolment.all, SortedSet.mem_def]
    rw [hstarted]
    refine ⟨_, rfl, ?_, ?_, ?_, hmembers, rfl, rfl, rfl⟩
    · rw [← hplan]
      exact h.attempts
    · rw [← hplan]
      exact h.active
    · rw [← hplan]
      have hrecorded : t.filings = some f := hf
      rw [hrecorded, Option.map_some, hids]
  · right
    simp only [members] at hfile
    simp only [hfile] at hstarted
    obtain ⟨hrefuses, ws, hws, hlog, hkept, hfail⟩ := Tracker.release_refused h hx
    rw [hstarted]
    refine ⟨e, rfl, hrefuses, _, _,
      Enrolment.filings required (service.drawn + (before ++ [x]).length) rest, ws, ?_, hws, hlog,
      hkept, hfail⟩
    rw [← hplan, hsplit, ← List.singleton_append, ← List.append_assoc, Enrolment.filings_append,
      Enrolment.filings_concat, List.append_assoc, List.singleton_append]

/-- The second of two subscriptions is refused, and so is the withdrawal of Wi-Fi, which stays. -/
theorem start_or_roll_back_second_cell :
    let refusals := (({} : Refusals ServiceVerb).append .file [none, none, some "full"]).append
      .withdraw [some "busy"]
    let service : Service := { refusals }
    let started := start ⟨0⟩ ⟨⟨0⟩⟩ .zero (.ofGroup .zero [⟨2⟩, ⟨1⟩]) .empty service
    service.Sound ∧ started.1 = .error (.failed (.remote "full")) ∧
      RolledBack (Request.startup .empty (.ofList [⟨1⟩, ⟨2⟩]) 0) (.remote "full") service
        started.2.1 ∧
      started.2.1.provider.activeIds = [.serial 0] ∧ started.2.2 = {} := by
  intro refusals service started
  have sound : service.Sound := ⟨List.nodup_nil, by simp [service, Provider.activeIds]⟩
  have hfails : started.1 = .error (.failed (.remote "full")) := by rfl
  obtain ⟨hexecutor, hcases⟩ :=
    start_or_roll_back ⟨⟨0⟩⟩ .zero (.ofGroup .zero [⟨2⟩, ⟨1⟩]) .empty sound {}
  rcases hcases with ⟨rig, hrig, -⟩ | ⟨e, he, hrolled⟩
  · exact absurd (hfails.symm.trans hrig) (by simp)
  · have hreason := Refusal.failed.inj (Except.error.inj (hfails.symm.trans he))
    refine ⟨sound, hfails, ?_, by rfl, hexecutor⟩
    rw [hreason]
    exact hrolled

end TrackerRig

end Rangelink
