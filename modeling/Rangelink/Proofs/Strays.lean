import Rangelink.Proofs.Provider.Conservation
import Rangelink.Ranging.Rig
import Rangelink.Tracker.Rig

/-! # Stray calls

A site has a ranging station and trackers that share a connectivity service. A
call is stray if it is made on a thread that does not own what it is to change.
It is turned away with nothing changed, so that stray calls leave no trace in a
run, wherever they come in it.
-/
namespace Rangelink

namespace Station
variable {κ ε : Type}

/-- The entry points by which a station can be changed. -/
inductive Call (κ ε : Type) where
  | openSession (params : Params) (executor : ε) (client : κ)
  | receive (event : RangingEvent)
  | onOpened (h : Handle)
  | onOpenFailed (h : Handle) (code : Int32) (params : Params)
  | onStarted (h : Handle) (params : Params)
  | onStartFailed (h : Handle) (code : Int32) (params : Params)
  | onReconfigured (h : Handle) (params : Params)
  | onReconfigureFailed (h : Handle) (code : Int32) (params : Params)
  | onStopped (h : Handle)
  | onStopFailed (h : Handle) (code : Int32) (params : Params)
  | onClosed (h : Handle) (code : Int32) (params : Params)
  | onResult (h : Handle) (batch : Report)

def call (caller : ThreadId) (call : Call κ ε) (st : Station κ ε) :
    Except Refusal (Option (Delivery κ ε)) × Station κ ε :=
  match call with
  | .openSession params executor client => st.openSession caller params executor client
  | .receive event => st.receive caller event
  | .onOpened h => st.onOpened caller h
  | .onOpenFailed h code params => st.onOpenFailed caller h code params
  | .onStarted h params => st.onStarted caller h params
  | .onStartFailed h code params => st.onStartFailed caller h code params
  | .onReconfigured h params => st.onReconfigured caller h params
  | .onReconfigureFailed h code params => st.onReconfigureFailed caller h code params
  | .onStopped h => st.onStopped caller h
  | .onStopFailed h code params => st.onStopFailed caller h code params
  | .onClosed h code params => st.onClosed caller h code params
  | .onResult h batch => st.onResult caller h batch

theorem notified_guarded (caller : ThreadId)
    (take : Registry κ ε → Registry κ ε × Option (Delivery κ ε)) (st : Station κ ε) :
    ∃ act, st.notified caller take = st.context.guarded caller act st :=
  ⟨_, rfl⟩

/-- Whatever the call, the check of the caller comes first. -/
theorem call_guarded (caller : ThreadId) (call : Call κ ε) (st : Station κ ε) :
    ∃ act, st.call caller call = st.context.guarded caller act st := by
  unfold Station.call
  cases call with
  | openSession params executor client => exact ⟨_, rfl⟩
  | receive event => exact ⟨_, receive_eq_notified caller event st⟩
  | _ => exact notified_guarded ..

end Station

namespace RangingRig

theorem accept_fst {answer : Except Refusal (Option RigDelivery) × Station (Option String) String}
    {e : Refusal} (rig : RangingRig) :
    (rig.accept answer).1 = .error e ↔ answer.1 = .error e := by
  obtain ⟨e' | d, station⟩ := answer
  · simp only [accept, Except.error.injEq]
  · exact iff_of_false nofun nofun

end RangingRig

/-- The entry points by which a tracker can be changed once it is there. -/
inductive Tracker.Call where
  | update (snapshot : Snapshot)
  | teardown
  | receive (id : CallbackId) (event : NetworkEvent)

namespace TrackerRig

def call (caller : ThreadId) (call : Tracker.Call) (rig : TrackerRig) :
    Except Refusal Unit × TrackerRig :=
  match call with
  | .update snapshot =>
    let (outcome, tracker, service) := rig.tracker.update caller snapshot rig.service
    (outcome, { rig with tracker, service })
  | .teardown =>
    let (outcome, tracker, service) := rig.tracker.teardown caller rig.service
    (outcome, { rig with tracker, service })
  | .receive id event => rig.deliver caller id event

theorem call_of_ne {caller : ThreadId} {rig : TrackerRig}
    (h : caller ≠ rig.tracker.context.owner) (call : Tracker.Call) :
    rig.call caller call = (.error .offContext, rig) := by
  cases call with
  | update snapshot => simp only [TrackerRig.call, Tracker.update, Context.guarded_of_ne h]
  | teardown => simp only [TrackerRig.call, Tracker.teardown, Context.guarded_of_ne h]
  | receive id event =>
    simp only [TrackerRig.call, deliver, Tracker.receive, Context.guarded_of_ne h]

theorem ne_of_call {caller : ThreadId} {call : Tracker.Call} {rig : TrackerRig}
    (h : (rig.call caller call).1 = .error .offContext) : caller ≠ rig.tracker.context.owner := by
  cases call with
  | update snapshot =>
    change (rig.tracker.update caller snapshot rig.service).1 = _ at h
    exact Context.guarded_offContext_iff.mp h
  | teardown =>
    change (rig.tracker.teardown caller rig.service).1 = _ at h
    exact Context.guarded_offContext_iff.mp h
  | receive id event =>
    have hreceive : (rig.tracker.receive caller id event).1 = .error .offContext := by
      change (rig.deliver caller id event).1 = _ at h
      unfold deliver at h
      split at h
      · cases h
      · rename_i heq
        rw [heq]
        cases h
        rfl
    exact Context.guarded_offContext_iff.mp hreceive

end TrackerRig

/-- A tracker with the owner that it tells. -/
structure Seat where
  tracker : Tracker
  executor : Executor Notification := {}
  told : List Notification := []

structure Site where
  ranging : RangingRig
  service : Service := {}
  seats : List Seat := []

namespace Site

inductive Call where
  | ranging (call : Station.Call (Option String) String)
  | start (context : Context) (group : Uuid) (snapshot : Snapshot) (required : SortedSet Capability)
  | tracker (seat : Nat) (call : Tracker.Call)

/-- Lets something happen at a seat, if there is one under the number. -/
def atSeat {α : Type} (seat : Nat) (act : TrackerRig → α × TrackerRig) (site : Site) :
    Option α × Site :=
  match site.seats[seat]? with
  | none => (none, site)
  | some s =>
    let (answer, rig) := act ⟨s.tracker, site.service, s.executor, s.told⟩
    (some answer,
      { site with
        service := rig.service
        seats := site.seats.set seat ⟨rig.tracker, rig.executor, rig.told⟩ })

def start (caller : ThreadId) (context : Context) (group : Uuid) (snapshot : Snapshot)
    (required : SortedSet Capability) (site : Site) : Except Refusal Unit × Site :=
  match Tracker.start caller context group snapshot required site.service with
  | (.ok tracker, service) => (.ok (), { site with service, seats := site.seats ++ [{ tracker }] })
  | (.error e, service) => (.error e, { site with service })

/-- There is no answer to a call of a tracker that is not there. -/
def call (caller : ThreadId) (call : Call) (site : Site) : Option (Except Refusal Unit) × Site :=
  match call with
  | .ranging call =>
    let (outcome, ranging) := site.ranging.accept (site.ranging.station.call caller call)
    (some outcome, { site with ranging })
  | .start context group snapshot required =>
    let (outcome, site) := site.start caller context group snapshot required
    (some outcome, site)
  | .tracker seat call => site.atSeat seat (TrackerRig.call caller call)

/-- Owns what a call is to change. -/
def owner? (call : Call) (site : Site) : Option ThreadId :=
  match call with
  | .ranging _ => some site.ranging.station.context.owner
  | .start context _ _ _ => some context.owner
  | .tracker seat _ => site.seats[seat]?.map (·.tracker.context.owner)

def IsStray (caller : ThreadId) (call : Call) (site : Site) : Prop :=
  ∃ owner, site.owner? call = some owner ∧ caller ≠ owner

/-- Anything that can happen at a site: a call on any thread, what the adapter, the executors and
the clients do, what is done with a tracker, and a call of the provider or a refusal armed there. -/
inductive Move where
  | call (caller : ThreadId) (call : Call)
  | ranging (step : RangingRig.Step)
  | tracker (seat : Nat) (command : TrackerRig.Command)
  | provider (call : Provider.Call)

inductive Reply where
  | outcome (outcome : Option (Except Refusal Unit))
  | ranging (reply : RangingRig.Reply)
  | tracker (reply : Option TrackerRig.Reply)
  | provider (outcome : Outcome)

def step (move : Move) (site : Site) : Reply × Site :=
  match move with
  | .call caller call =>
    let (outcome, site) := site.call caller call
    (.outcome outcome, site)
  | .ranging step =>
    let (reply, ranging) := site.ranging.step step
    (.ranging reply, { site with ranging })
  | .tracker seat command =>
    let (reply, site) := site.atSeat seat (TrackerRig.step command)
    (.tracker reply, site)
  | .provider call =>
    let (outcome, provider) := site.service.provider.perform call
    (.provider outcome, { site with service.provider := provider })

/-- A move of a run, or a call that was put in between. -/
inductive Turn where
  | own (move : Move)
  | inserted (caller : ThreadId) (call : Call)

namespace Turn

def move : Turn → Move
  | .own move => move
  | .inserted caller call => .call caller call

def isOwn : Turn → Bool
  | .own _ => true
  | .inserted _ _ => false

end Turn

/-- The turns of a run, each with the site where it is taken. -/
def visits : List Turn → Site → List (Site × Turn)
  | [], _ => []
  | turn :: rest, site => (site, turn) :: visits rest (site.step turn.move).2

def after (turns : List Turn) (site : Site) : Site :=
  turns.foldl (fun site turn => (site.step turn.move).2) site

/-- The turns of a run, each with its answer. -/
def answers (turns : List Turn) (site : Site) : List (Turn × Reply) :=
  (visits turns site).map fun v => (v.2, (v.1.step v.2.move).1)

/-- Every call that was put in between is stray where it is made. -/
def InsertsStrays (turns : List Turn) (site : Site) : Prop :=
  ∀ s caller call, (s, .inserted caller call) ∈ visits turns site → s.IsStray caller call

section Strays
variable {site : Site} {caller : ThreadId} {call : Call} {turns : List Turn}

theorem atSeat_idle {α : Type} {seat : Nat} {s : Seat} {act : TrackerRig → α × TrackerRig} {a : α}
    (hs : site.seats[seat]? = some s)
    (h : ∀ rig : TrackerRig, rig.tracker = s.tracker → act rig = (a, rig)) :
    site.atSeat seat act = (some a, site) := by
  have hseats : site.seats.set seat s = site.seats := by
    obtain ⟨hlt, rfl⟩ := List.getElem?_eq_some_iff.mp hs
    exact List.set_getElem_self hlt
  simp only [atSeat, hs]
  rw [h _ rfl, hseats]

theorem IsStray.call_eq (h : site.IsStray caller call) :
    site.call caller call = (some (.error .offContext), site) := by
  obtain ⟨owner, howner, hne⟩ := h
  cases call with
  | ranging call =>
    cases howner
    obtain ⟨act, hact⟩ := site.ranging.station.call_guarded caller call
    simp only [Site.call, hact, Context.guarded_of_ne hne]
    rfl
  | start context group snapshot required =>
    cases howner
    simp only [Site.call, start, Tracker.start, Context.guarded_of_ne hne]
  | tracker seat call =>
    obtain ⟨s, hs, rfl⟩ := Option.map_eq_some_iff.mp howner
    change site.atSeat seat (TrackerRig.call caller call) = _
    refine atSeat_idle hs ?_
    intro rig hrig
    apply TrackerRig.call_of_ne
    rw [hrig]
    exact hne

theorem IsStray.of_refused (h : (site.call caller call).1 = some (.error .offContext)) :
    site.IsStray caller call := by
  cases call with
  | ranging call =>
    obtain ⟨act, hact⟩ := site.ranging.station.call_guarded caller call
    have hstation : (site.ranging.station.call caller call).1 = .error .offContext :=
      (RangingRig.accept_fst site.ranging).mp (Option.some_inj.mp h)
    rw [hact] at hstation
    exact ⟨_, rfl, Context.guarded_offContext_iff.mp hstation⟩
  | start context group snapshot required =>
    have hstart : (Tracker.start caller context group snapshot required site.service).1 =
        .error .offContext := by
      have hsite : (site.start caller context group snapshot required).1 = .error .offContext :=
        Option.some_inj.mp h
      unfold start at hsite
      split at hsite
      · cases hsite
      · rename_i heq
        rw [heq]
        cases hsite
        rfl
    exact ⟨_, rfl, Context.guarded_offContext_iff.mp hstart⟩
  | tracker seat call =>
    change (site.atSeat seat (TrackerRig.call caller call)).1 = _ at h
    unfold atSeat at h
    split at h
    · cases h
    · rename_i s hs
      have hne := TrackerRig.ne_of_call (Option.some_inj.mp h)
      exact ⟨_, Option.map_eq_some_iff.mpr ⟨s, hs, rfl⟩, hne⟩

theorem step_inserted (h : site.IsStray caller call) :
    site.step (Turn.inserted caller call).move = (.outcome (some (.error .offContext)), site) := by
  simp only [Turn.move, step, h.call_eq]

theorem InsertsStrays.of_cons {turn : Turn} (h : InsertsStrays (turn :: turns) site) :
    InsertsStrays turns (site.step turn.move).2 := by
  intro s caller call hv
  exact h s caller call (List.mem_cons_of_mem _ hv)

/-- Without the calls put in between, every other turn is taken in the site where it was. -/
theorem visits_own (h : InsertsStrays turns site) :
    visits (turns.filter Turn.isOwn) site = (visits turns site).filter (·.2.isOwn) := by
  induction turns generalizing site with
  | nil => rfl
  | cons turn rest ih =>
    have hrest := ih h.of_cons
    cases turn with
    | own move =>
      rw [List.filter_cons_of_pos rfl, visits, visits, List.filter_cons_of_pos rfl, hrest]
    | inserted caller call =>
      have hstray : site.IsStray caller call := h site caller call List.mem_cons_self
      rw [step_inserted hstray] at hrest
      rw [List.filter_cons_of_neg Bool.false_ne_true, visits,
        List.filter_cons_of_neg Bool.false_ne_true, step_inserted hstray, hrest]

theorem after_own (h : InsertsStrays turns site) :
    after (turns.filter Turn.isOwn) site = after turns site := by
  induction turns generalizing site with
  | nil => rfl
  | cons turn rest ih =>
    have hrest := ih h.of_cons
    cases turn with
    | own move => exact hrest
    | inserted caller call =>
      have hstray : site.IsStray caller call := h site caller call List.mem_cons_self
      rw [step_inserted hstray] at hrest
      rw [List.filter_cons_of_neg Bool.false_ne_true, hrest, after, after, List.foldl_cons,
        step_inserted hstray]

/-- The calls that are turned away for their thread are the stray ones, and they change nothing. Put
in between the turns of a run they change neither an answer of the run nor the site it ends with. -/
theorem strays_leave_no_trace (site : Site) :
    (∀ caller call, (site.call caller call).1 = some (.error .offContext) ↔
      site.IsStray caller call) ∧
    (∀ caller call, site.IsStray caller call → (site.call caller call).2 = site) ∧
    ∀ turns, InsertsStrays turns site →
      answers (turns.filter Turn.isOwn) site = (answers turns site).filter (·.1.isOwn) ∧
        after (turns.filter Turn.isOwn) site = after turns site := by
  refine ⟨fun caller call => ⟨.of_refused, fun h => congrArg Prod.fst h.call_eq⟩,
    fun caller call h => congrArg Prod.snd h.call_eq, ?_⟩
  intro turns h
  refine ⟨?_, after_own h⟩
  rw [answers, answers, visits_own h, List.filter_map]
  rfl

theorem strays_leave_no_trace_teardown :
    let site : Site := { ranging := { station := { context := ⟨⟨0⟩⟩ } } }
    let turns : List Turn :=
      [.own (.call ⟨0⟩ (.start ⟨⟨0⟩⟩ .zero {} .empty)), .inserted ⟨1⟩ (.tracker 0 .teardown),
        .inserted ⟨1⟩ (.ranging (.onStopped ⟨5⟩)), .own (.tracker 0 .run)]
    InsertsStrays turns site ∧
      answers (turns.filter Turn.isOwn) site = (answers turns site).filter (·.1.isOwn) ∧
        after (turns.filter Turn.isOwn) site = after turns site := by
  intro site turns
  have hstrays : InsertsStrays turns site := by
    intro s caller call hv
    simp only [turns, visits, List.mem_cons, Prod.mk.injEq, reduceCtorEq, and_false, false_or,
      List.not_mem_nil, or_false, Turn.inserted.injEq] at hv
    obtain ⟨rfl, rfl, rfl⟩ | ⟨rfl, rfl, rfl⟩ := hv
    · exact ⟨⟨0⟩, rfl, by decide⟩
    · exact ⟨⟨0⟩, rfl, by decide⟩
  exact ⟨hstrays, (strays_leave_no_trace site).2.2 turns hstrays⟩

end Strays

end Site

end Rangelink
