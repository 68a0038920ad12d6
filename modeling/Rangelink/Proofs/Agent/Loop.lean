import Rangelink.Agent.Rig
import Rangelink.Proofs.Executor
import Rangelink.Proofs.Ranging.Demultiplexing
import Rangelink.Proofs.Tracker.Frame
import Rangelink.Proofs.Tracker.Run

/-! # The loop of an agent

The loop takes the commands before the first shutdown in, one after another, and
then tears the tracker down. To the tracker this is a run of its own, made of the
commands that are meant for it, and so it is to the registry.
-/
namespace Rangelink
open scoped List

namespace AgentCommand

/-- The command that the tracker is given, if any. -/
def trackerCommand? : AgentCommand → Option TrackerRig.Command
  | .network id event => some (.event Agent.thread (.callback id) event)
  | .snapshot subscriptions => some (.update Agent.thread subscriptions)
  | .ranging _ | .shutdown => none

/-- The operation that the registry is given, if any. -/
def sessionOp? : AgentCommand → Option (Registry.Op Nat Unit)
  | .ranging event => some (.receive event)
  | .network _ _ | .snapshot _ | .shutdown => none

def isShutdown : AgentCommand → Bool
  | .shutdown => true
  | .network _ _ | .ranging _ | .snapshot _ => false

def beforeShutdown (commands : List AgentCommand) : List AgentCommand :=
  commands.takeWhile fun c => !c.isShutdown

theorem trackerCommand?_keeps {c : AgentCommand} {command : TrackerRig.Command}
    (h : c.trackerCommand? = some command) :
    command.isOwn = true ∧ ∀ caller, command ≠ .teardown caller := by
  cases c with
  | network id event =>
    cases h
    exact ⟨rfl, fun _ => nofun⟩
  | snapshot subscriptions =>
    cases h
    exact ⟨rfl, fun _ => nofun⟩
  | ranging event => cases h
  | shutdown => cases h

end AgentCommand

namespace AgentTask

def notification? : AgentTask → Option Notification
  | .tell n => some n
  | .give _ => none

def delivery? : AgentTask → Option (Delivery Nat Unit)
  | .tell _ => none
  | .give d => some d

end AgentTask

namespace Agent

def after (commands : List AgentCommand) (a : Agent) : Agent :=
  commands.foldl (fun a c => a.handle c) a

theorem after_append (commands more : List AgentCommand) (a : Agent) :
    a.after (commands ++ more) = (a.after commands).after more := List.foldl_append

/-- The tracker, with what is queued for its owner. -/
def tracking (a : Agent) : TrackerRig where
  tracker := a.tracker
  service := a.service
  executor := ⟨(a.executor.actions.filterMap (·.notification?)).map .single⟩
  told := a.told

/-- The notices that are queued for the handlers. -/
def deliveries (a : Agent) : List (Delivery Nat Unit) :=
  a.executor.actions.filterMap (·.delivery?)

section Steps
variable {others : List Filing} {a : Agent}

theorem tracking_submit (task : Option AgentTask) (a : Agent) :
    (a.submit task).tracking = a.tracking.notify (task.bind (·.notification?)) := by
  cases task with
  | none => rfl
  | some task =>
    simp only [submit, tracking, Executor.actions_submit_single, List.filterMap_append,
      List.map_append]
    cases task with
    | tell n => rfl
    | give d => simp [AgentTask.notification?, TrackerRig.notify]

theorem deliveries_submit (task : Option AgentTask) (a : Agent) :
    (a.submit task).deliveries = a.deliveries ++ (task.bind (·.delivery?)).toList := by
  cases task with
  | none => simp [submit]
  | some task => cases task <;> simp [submit, deliveries, AgentTask.delivery?]

theorem station_submit (task : Option AgentTask) (a : Agent) :
    (a.submit task).station = a.station := by
  cases task <;> rfl

theorem handle_ranging (hc : a.station.context = context) (event : RangingEvent) :
    a.handle (.ranging event) =
      { a with station.registry := (a.station.registry.receive event).1 }.submit
        ((a.station.registry.receive event).2.map .give) := by
  have hreceive : a.station.receive thread event =
      (.ok (a.station.registry.receive event).2,
        { a.station with registry := (a.station.registry.receive event).1 }) := by
    rw [Station.receive_eq_notified, Station.notified, hc]
    rfl
  simp only [handle, hreceive]

/-- The tracker takes its command in as it would without the agent. -/
theorem tracking_handle (hc : a.station.context = context) (c : AgentCommand) :
    (a.handle c).tracking = a.tracking.after c.trackerCommand?.toList := by
  cases c with
  | network id event =>
    have hstep : a.tracking.after [.event thread (.callback id) event] =
        (a.tracking.deliver thread id event).2 := rfl
    have htracker : a.tracking.tracker = a.tracker := rfl
    rw [AgentCommand.trackerCommand?, Option.toList_some, hstep]
    simp only [handle, TrackerRig.deliver, htracker]
    rcases a.tracker.receive thread id event with ⟨e | n, t⟩
    · rfl
    · simp only [tracking_submit]
      cases n <;> rfl
  | ranging event =>
    rw [handle_ranging hc, tracking_submit]
    cases (a.station.registry.receive event).2 <;> rfl
  | snapshot snapshot => rfl
  | shutdown => rfl

theorem station_handle (hc : a.station.context = context) (c : AgentCommand) :
    (a.handle c).station =
      { a.station with registry := a.station.registry.after c.sessionOp?.toList } := by
  cases c with
  | network id event =>
    simp only [handle]
    rcases a.tracker.receive thread id event with ⟨e | n, t⟩
    · rfl
    · exact station_submit _ _
  | ranging event =>
    rw [handle_ranging hc, station_submit]
    rfl
  | snapshot snapshot => rfl
  | shutdown => rfl

theorem deliveries_handle (hc : a.station.context = context) (c : AgentCommand) :
    (a.handle c).deliveries =
      a.deliveries ++ a.station.registry.told c.sessionOp?.toList := by
  cases c with
  | network id event =>
    simp only [handle]
    rcases a.tracker.receive thread id event with ⟨e | n, t⟩
    · exact (List.append_nil _).symm
    · rw [deliveries_submit]
      cases n <;> rfl
  | ranging event =>
    rw [handle_ranging hc, deliveries_submit]
    simp only [AgentCommand.sessionOp?, Option.toList_some, Registry.told_cons]
    cases hd : (a.station.registry.receive event).2 <;>
      simp [Registry.step, Registry.told, Registry.visits, hd, AgentTask.delivery?] <;> rfl
  | snapshot snapshot => exact (List.append_nil _).symm
  | shutdown => exact (List.append_nil _).symm

theorem called_handle (c : AgentCommand) (a : Agent) : a.service.Called (a.handle c).service := by
  cases c with
  | network id event =>
    simp only [handle]
    rcases a.tracker.receive thread id event with ⟨e | n, t⟩
    · exact .refl _
    · cases n <;> exact .refl _
  | ranging event =>
    simp only [handle]
    rcases a.station.receive thread event with ⟨e | d, station⟩
    · exact .refl _
    · cases d <;> exact .refl _
  | snapshot snapshot => exact (Tracker.framed_update thread snapshot a.tracker a.service).called
  | shutdown => exact .refl _

end Steps

/-- The tracker runs on the agent's thread and keeps its ledger beside `others`. -/
structure Serving (others : List Filing) (a : Agent) : Prop where
  station : a.station.context = context
  tracker : a.tracker.context = context
  ledger : ∃ wifi cells route,
    Tracker.Ledger others ⟨some wifi, cells, some route⟩ (a.tracker, a.service)

section Runs
variable {others : List Filing} {a : Agent} {commands : List AgentCommand}

theorem Serving.handle (h : Serving others a) (c : AgentCommand) : Serving others (a.handle c) := by
  obtain ⟨hstation, hcontext, wifi, cells, route, hledger⟩ := h
  have htracking := tracking_handle hstation c
  have hstation' : (a.handle c).station.context = context := by
    rw [station_handle hstation]
    exact hstation
  cases hc : c.trackerCommand? with
  | none =>
    rw [hc] at htracking
    have htracker : (a.handle c).tracker = a.tracker := congrArg TrackerRig.tracker htracking
    have hservice : (a.handle c).service = a.service := congrArg TrackerRig.service htracking
    refine ⟨hstation', ?_, wifi, cells, route, ?_⟩
    · rw [htracker]
      exact hcontext
    · rw [htracker, hservice]
      exact hledger
  | some command =>
    rw [hc] at htracking
    have htracker : (a.handle c).tracker = (a.tracking.step command).2.tracker :=
      congrArg TrackerRig.tracker htracking
    have hservice : (a.handle c).service = (a.tracking.step command).2.service :=
      congrArg TrackerRig.service htracking
    obtain ⟨hown, hstays⟩ := AgentCommand.trackerCommand?_keeps hc
    have hbefore : Tracker.Ledger others ⟨some wifi, cells, some route⟩
        (a.tracking.tracker, a.tracking.service) := hledger
    obtain ⟨hsame, -, cells', hledger'⟩ := TrackerRig.step_ledger hbefore hown (hstays _)
    refine ⟨hstation', ?_, wifi, cells', route, ?_⟩
    · rw [htracker, hsame]
      exact hcontext
    · rw [htracker, hservice]
      exact hledger'

theorem Serving.after (h : Serving others a) (commands : List AgentCommand) :
    Serving others (a.after commands) := by
  induction commands generalizing a with
  | nil => exact h
  | cons c rest ih => exact ih (h.handle c)

/-- The tracker, the registry and the handlers' queue after a run are what they come to on their own
under the commands for each. -/
theorem after_parts (hc : a.station.context = context) (commands : List AgentCommand) :
    (a.after commands).tracking = a.tracking.after (commands.filterMap (·.trackerCommand?)) ∧
      (a.after commands).station =
        { a.station with
          registry := a.station.registry.after (commands.filterMap (·.sessionOp?)) } ∧
      (a.after commands).deliveries =
        a.deliveries ++ a.station.registry.told (commands.filterMap (·.sessionOp?)) := by
  induction commands generalizing a with
  | nil => exact ⟨rfl, rfl, (List.append_nil _).symm⟩
  | cons c rest ih =>
    have hstation := station_handle hc c
    have hc' : (a.handle c).station.context = context := by
      rw [hstation]
      exact hc
    obtain ⟨htracking, hrest, hdeliveries⟩ := ih hc'
    rw [hstation] at hrest hdeliveries
    rw [tracking_handle hc] at htracking
    rw [deliveries_handle hc, List.append_assoc] at hdeliveries
    refine ⟨htracking.trans ?_, hrest.trans ?_, hdeliveries.trans ?_⟩
    · rw [List.filterMap_cons]
      cases c.trackerCommand? <;> rfl
    · rw [List.filterMap_cons]
      cases c.sessionOp? <;> rfl
    · rw [List.filterMap_cons]
      cases c.sessionOp? with
      | none => rfl
      | some op =>
        rw [← Registry.told_append]
        rfl

theorem called_after (commands : List AgentCommand) (a : Agent) :
    a.service.Called (a.after commands).service := by
  induction commands generalizing a with
  | nil => exact .refl _
  | cons c rest ih => exact (called_handle c a).trans (ih (a.handle c))

theorem serve_eq (commands : List AgentCommand) (a : Agent) :
    serve commands a = a.after (AgentCommand.beforeShutdown commands) := by
  induction commands generalizing a with
  | nil => rfl
  | cons c rest ih =>
    cases c with
    | shutdown => rfl
    | network id event => exact ih _
    | ranging event => exact ih _
    | snapshot subscriptions => exact ih _

/-- A teardown attempts one withdrawal for each callback on record, and fails by the first that is
refused. If none is, the provider holds what it would hold without the tracker. -/
theorem teardown_withdraws (h : Serving others a) :
    a.teardown.2 = { a with tracker := a.teardown.2.tracker, service := a.teardown.2.service } ∧
      a.teardown.2.tracker.filings = none ∧
      ∃ ws : Service.Withdrawals,
        a.tracker.filings.map Filings.ids = some (ws.map (·.1.id)) ∧
        a.teardown.2.service.attempts = a.service.attempts ++ ws.attempts ∧
        a.teardown.1 = ws.outcome.mapError .failed ∧
        a.teardown.2.service.provider.active ~ others ++ ws.kept := by
  obtain ⟨-, hcontext, wifi, cells, route, hledger⟩ := h
  have hlive : a.tracker.filings = some ⟨some wifi, cells, some route⟩ := hledger.live
  have hteardown : a.tracker.teardown thread a.service =
      ((Tracker.release (a.tracker, a.service)).1.mapError .failed,
        (Tracker.release (a.tracker, a.service)).2) := by
    rw [Tracker.teardown, hcontext]
    rfl
  obtain ⟨ws, hws, hattempts, hkept, houtcome, -⟩ :=
    Service.withdrawAll_log hledger.sound.distinct (hledger.active.trans List.perm_append_comm)
  have hids := Tracker.ids_eq a.tracker.required ⟨some wifi, cells, some route⟩
  rw [hids] at hattempts hkept houtcome
  simp only [Tracker.release, hlive] at hteardown
  simp only [teardown, hteardown]
  refine ⟨trivial, trivial, ws, ?_, hattempts, ?_, hkept⟩
  · rw [hlive, Option.map_some, ← hids, ← hws, List.map_map]
    rfl
  · rw [houtcome]

theorem serving_started {group : Uuid} {snapshot : Snapshot} {required : SortedSet Capability}
    {adapter : Adapter} {refusals : Refusals AdapterVerb} {service : Service}
    (sound : service.Sound)
    (started : (start group snapshot required adapter refusals service).1 = .ok a) :
    Serving service.provider.active a ∧ service.Called a.service := by
  rcases hs : Tracker.start thread context group snapshot required service with ⟨_ | t, service'⟩
  · simp [start, hs, Except.map] at started
  · simp only [start, hs, Except.map, Except.ok.injEq] at started
    obtain ⟨hbare, hledger⟩ := Tracker.start_ledger sound hs
    obtain ⟨-, hcalled, -⟩ := Tracker.start_ok hs
    have hcontext := congrArg Tracker.context hbare
    rw [← started]
    exact ⟨⟨rfl, hcontext, hledger⟩, hcalled⟩

theorem context_openStation (caller : ThreadId) (params : Params) (client : Nat)
    (st : Station Nat Unit) : (st.openSession caller params () client).2.context = st.context := by
  have hrequest : (st.requestSession params).2.context = st.context := by
    unfold Station.requestSession
    split <;> rfl
  by_cases hc : caller = st.context.owner
  · rw [Station.openSession, hc, Context.guarded_owner]
    exact hrequest
  · rw [Station.openSession, Context.guarded_of_ne hc]

/-- Opening sessions is no business of the tracker's. -/
theorem openSession_frame (closeAfter number : Nat) (a : Agent) :
    (openSession closeAfter number a).2.tracking = a.tracking ∧
      (openSession closeAfter number a).2.station.context = a.station.context := by
  have hcontext := context_openStation thread (sessionParams number) a.handlers.length a.station
  simp only [openSession]
  rcases hs : a.station.openSession thread (sessionParams number) () a.handlers.length with
    ⟨e | d, station⟩
  · rw [hs] at hcontext
    exact ⟨rfl, hcontext⟩
  · rw [hs] at hcontext
    simp only [tracking_submit, station_submit]
    refine ⟨?_, hcontext⟩
    cases d <;> rfl

theorem openSessions_frame (closeAfter : Nat) (numbers : List Nat) (a : Agent) :
    (openSessions closeAfter numbers a).2.tracking = a.tracking ∧
      (openSessions closeAfter numbers a).2.station.context = a.station.context := by
  induction numbers generalizing a with
  | nil => exact ⟨rfl, rfl⟩
  | cons number rest ih =>
    obtain ⟨htracking, hcontext⟩ := openSession_frame closeAfter number a
    simp only [openSessions]
    rcases hopen : openSession closeAfter number a with ⟨e | _, a'⟩
    · rw [hopen] at htracking hcontext
      exact ⟨htracking, hcontext⟩
    · rw [hopen] at htracking hcontext
      obtain ⟨htracking', hcontext'⟩ := ih a'
      exact ⟨htracking'.trans htracking, hcontext'.trans hcontext⟩

end Runs

end Agent

namespace AgentRig

variable {rig : AgentRig}

theorem take_running (h : rig.finished = none) {c : AgentCommand} (hc : c.isShutdown = false) :
    rig.take c = { rig with agent := rig.agent.handle c } := by
  cases c with
  | shutdown => cases hc
  | network id event => simp only [take, h]
  | ranging event => simp only [take, h]
  | snapshot subscriptions => simp only [take, h]

theorem foldl_take_running (h : rig.finished = none) {commands : List AgentCommand}
    (hc : ∀ c ∈ commands, c.isShutdown = false) :
    commands.foldl take rig = { rig with agent := rig.agent.after commands } := by
  induction commands generalizing rig with
  | nil => rfl
  | cons c rest ih =>
    obtain ⟨hfirst, hrest⟩ := List.forall_mem_cons.mp hc
    rw [List.foldl_cons, take_running h hfirst]
    exact ih h hrest

theorem foldl_take_finished {outcome : Except Refusal Unit} (h : rig.finished = some outcome)
    (commands : List AgentCommand) : commands.foldl take rig = rig := by
  induction commands with
  | nil => rfl
  | cons c rest ih =>
    have htake : rig.take c = rig := by simp only [take, h]
    rw [List.foldl_cons, htake]
    exact ih

theorem finish_running (h : rig.finished = none) :
    rig.finish =
      { rig with agent := rig.agent.teardown.2, finished := some rig.agent.teardown.1 } := by
  simp only [finish, h]

/-- Commands taken in one by one, up to the end of the channel, make one run of the loop. -/
theorem finish_foldl_take (h : rig.finished = none) (commands : List AgentCommand) :
    (commands.foldl take rig).finish =
      { rig with
        agent := (Agent.run commands rig.agent).2
        finished := some (Agent.run commands rig.agent).1 } := by
  induction commands generalizing rig with
  | nil => exact finish_running h
  | cons c rest ih =>
    cases hc : c.isShutdown with
    | true =>
      cases c with
      | shutdown =>
        have htake : rig.take .shutdown = rig.finish := by simp only [take, h]
        rw [List.foldl_cons, htake, finish_running h, foldl_take_finished rfl]
        rfl
      | network id event => cases hc
      | ranging event => cases hc
      | snapshot subscriptions => cases hc
    | false =>
      have hrun : Agent.run (c :: rest) rig.agent = Agent.run rest (rig.agent.handle c) := by
        cases c with
        | shutdown => cases hc
        | network id event => rfl
        | ranging event => rfl
        | snapshot subscriptions => rfl
      rw [List.foldl_cons, take_running h hc, hrun]
      exact ih h

/-- The end of a loop. Every callback that the tracker has on record then is attempted to be
withdrawn, once and in order, and the loop fails by the first of these attempts that is refused. If
none is, all that was filed since `begun` was withdrawn. -/
structure TornDown (begun : Service) (served : Agent) (outcome : Except Refusal Unit)
    (final : Agent) : Prop where
  frame : final = { served with tracker := final.tracker, service := final.service }
  released : final.tracker.filings = none
  course : ∃ ws : Service.Withdrawals,
    served.tracker.filings.map Filings.ids = some (ws.map (·.1.id)) ∧
    final.service.attempts = served.service.attempts ++ ws.attempts ∧
    outcome = ws.outcome.mapError .failed ∧
    final.service.provider.active ~ begun.provider.active ++ ws.kept ∧
    (ws.failure? = none → begun.Settled final.service)

theorem TornDown.settled {begun : Service} {served final : Agent} {outcome : Except Refusal Unit}
    (h : TornDown begun served outcome final) (hok : outcome = .ok ()) :
    begun.Settled final.service := by
  obtain ⟨ws, -, -, houtcome, -, hsettled⟩ := h.course
  refine hsettled (Service.Withdrawals.outcome_eq_ok.mp ?_)
  rw [hok] at houtcome
  cases ho : ws.outcome with
  | ok _ => rfl
  | error e =>
    rw [ho] at houtcome
    cases houtcome

section Loops
variable {group : Uuid} {snapshot : Snapshot} {required : SortedSet Capability} {adapter : Adapter}
  {refusals : Refusals AdapterVerb} {service : Service} {a : Agent}

/-- A loop hands the commands before the first shutdown to the tracker and to the registry, whatever
becomes of them, and ends in one teardown. It makes no difference whether it takes them in one by
one or all at once. -/
theorem serves_then_tears_down (sound : service.Sound)
    (started : (Agent.start group snapshot required adapter refusals service).1 = .ok a)
    (sessions closeAfter : Nat) (commands : List AgentCommand) :
    let rig := launch sessions closeAfter a
    let taken := AgentCommand.beforeShutdown commands
    let served := rig.agent.after taken
    Agent.run commands rig.agent = served.teardown ∧
      (commands.foldl take rig).finish =
        { rig with agent := served.teardown.2, finished := some served.teardown.1 } ∧
      served.tracking = a.tracking.after (taken.filterMap (·.trackerCommand?)) ∧
      served.station =
        { rig.agent.station with
          registry := rig.agent.station.registry.after (taken.filterMap (·.sessionOp?)) } ∧
      served.deliveries =
        rig.agent.deliveries ++
          rig.agent.station.registry.told (taken.filterMap (·.sessionOp?)) ∧
      TornDown service served served.teardown.1 served.teardown.2 := by
  intro rig taken served
  obtain ⟨hserving, hcalled⟩ := Agent.serving_started sound started
  obtain ⟨htracking, hcontext⟩ := Agent.openSessions_frame closeAfter (List.range sessions) a
  change rig.agent.tracking = a.tracking at htracking
  change rig.agent.station.context = a.station.context at hcontext
  have hlaunched : Agent.Serving service.provider.active rig.agent := by
    have htracker : rig.agent.tracker = a.tracker := congrArg TrackerRig.tracker htracking
    have hservice : rig.agent.service = a.service := congrArg TrackerRig.service htracking
    refine ⟨hcontext.trans hserving.station, ?_, ?_⟩
    · rw [htracker]
      exact hserving.tracker
    · rw [htracker, hservice]
      exact hserving.ledger
  obtain ⟨hparts, hstation, hdeliveries⟩ := Agent.after_parts hlaunched.station taken
  rw [htracking] at hparts
  obtain ⟨hframe, hreleased, ws, hids, hattempts, houtcome, hkept⟩ :=
    Agent.teardown_withdraws (hlaunched.after taken)
  have hrun : Agent.run commands rig.agent = served.teardown := by rw [Agent.run, Agent.serve_eq]
  refine ⟨hrun, ?_, hparts, hstation, hdeliveries, hframe, hreleased, ws, hids, hattempts,
    houtcome, hkept, ?_⟩
  · rw [finish_foldl_take rfl, hrun]
  · intro hnone
    have hall : service.Called served.teardown.2.service := by
      have hlaunch : service.Called rig.agent.service := by
        have hservice : rig.agent.service = a.service := congrArg TrackerRig.service htracking
        rw [hservice]
        exact hcalled
      exact (hlaunch.trans (Agent.called_after taken rig.agent)).trans
        (Tracker.called_teardown Agent.thread served.tracker served.service)
    rw [Service.Withdrawals.kept_eq_nil hnone, List.append_nil] at hkept
    exact (hall.accounts sound.distinct).settled sound hkept

/-- An update fails midway, a command comes too late, and the teardown withdraws all four
callbacks. -/
theorem serves_then_tears_down_failed_update :
    let service : Service :=
      { refusals := ({} : Refusals ServiceVerb).append .withdraw [some "busy"] }
    let commands : List AgentCommand :=
      [.network (.serial 2) ⟨⟨5⟩, .available⟩, .ranging ⟨⟨1⟩, .opened⟩,
        .snapshot (.ofGroup .zero [⟨2⟩]), .shutdown, .snapshot (.ofGroup .zero [⟨3⟩])]
    service.Sound ∧ ∃ a,
      (Agent.start .zero (.ofGroup .zero [⟨1⟩]) .empty (.reporting 1) {} service).1 = .ok a ∧
      let final := (commands.foldl take (launch 1 1 a)).finish
      final.finished = some (.ok ()) ∧ service.Settled final.agent.service ∧
        final.agent.service.provider.filed.length = 4 := by
  intro service commands
  have sound : service.Sound := ⟨List.nodup_nil, by simp [service, Provider.activeIds]⟩
  have started : ∃ a,
      (Agent.start .zero (.ofGroup .zero [⟨1⟩]) .empty (.reporting 1) {} service).1 = .ok a ∧
      let final := (commands.foldl take (launch 1 1 a)).finish
      final.finished = some (.ok ()) ∧ final.agent.service.provider.filed.length = 4 :=
    ⟨_, rfl, by decide +kernel, by decide +kernel⟩
  obtain ⟨a, hstart, hfinished, hcount⟩ := started
  obtain ⟨-, hfinal, -, -, -, hend⟩ := serves_then_tears_down sound hstart 1 1 commands
  have houtcome := congrArg AgentRig.finished hfinal
  have hservice := congrArg (fun rig : AgentRig => rig.agent.service) hfinal
  dsimp only at houtcome hservice
  have hsettled := hend.settled (Option.some.inj (houtcome.symm.trans hfinished))
  rw [← hservice] at hsettled
  exact ⟨sound, a, hstart, hfinished, hsettled, hcount⟩

end Loops

end AgentRig

end Rangelink
