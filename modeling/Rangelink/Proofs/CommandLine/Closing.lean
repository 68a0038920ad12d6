import Rangelink.Proofs.Agent.Rounds
import Rangelink.Proofs.CommandLine.Figures

/-! # The runs of the daemon

Ranging comes to rest before the first command of the feeder is sent, and nothing in
the feed disturbs it. A run therefore closes with all reports counted and all
callbacks withdrawn, unless its ticker fails and the feeder sends nothing.
-/
namespace Rangelink

namespace Agent

/-- The adapter has nothing to report, and no handler has a notice to hear. -/
structure Resting (a : Agent) : Prop extends Orderly a where
  outbox : a.station.adapter.outbox = some []
  deliveries : a.deliveries = []

namespace Resting
variable {a : Agent}

theorem handle (h : Resting a) {c : AgentCommand} (hc : c.sessionOp? = none) :
    Resting (a.handle c) ∧ (a.handle c).handlers = a.handlers := by
  have hstation := station_handle h.station c
  have hdeliveries := deliveries_handle h.station c
  rw [hc] at hstation hdeliveries
  refine ⟨⟨h.toOrderly.handle c, ?_, ?_⟩, ?_⟩
  · rw [hstation]
    exact h.outbox
  · rw [hdeliveries, h.deliveries]
    rfl
  · cases c with
    | network id event =>
      simp only [Agent.handle]
      rcases a.tracker.receive thread id event with ⟨e | n, t⟩
      · rfl
      · cases n <;> rfl
    | ranging event => cases hc
    | snapshot subscriptions => rfl
    | shutdown => rfl

theorem foldl_perform {tasks : List AgentTask} (ht : tasks.filterMap (·.delivery?) = [])
    (a : Agent) :
    (tasks.foldl perform a).station = a.station ∧
      (tasks.foldl perform a).handlers = a.handlers := by
  induction tasks generalizing a with
  | nil => exact ⟨rfl, rfl⟩
  | cons task rest ih =>
    cases task with
    | tell n => exact ih ht (a.perform (.tell n))
    | give d => cases ht

theorem runTasks (h : Resting a) :
    Resting a.runTasks.2 ∧ a.runTasks.2.handlers = a.handlers := by
  have hran : a.runTasks.2 = a.executor.actions.foldl perform { a with executor := {} } := by
    simp only [Agent.runTasks, h.flat.drain]
  obtain ⟨hstation, hhandlers⟩ := foldl_perform h.deliveries { a with executor := {} }
  obtain ⟨-, -, -, hexecutor, -⟩ := foldl_perform_parts a.executor.actions { a with executor := {} }
  rw [← hran] at hstation hhandlers hexecutor
  refine ⟨⟨(runTasks_parts h.toOrderly).1, ?_, ?_⟩, hhandlers⟩
  · rw [hstation]
    exact h.outbox
  · rw [Agent.deliveries, hexecutor]
    rfl

theorem collect (h : Resting a) (limit : Option Nat) : a.collect limit = ([], a) := by
  have hsame : { a.station.adapter with outbox := some [] } = a.station.adapter := by
    rw [← h.outbox]
  simp [Agent.collect, Station.collect, Adapter.collect, h.outbox, hsame]

end Resting

end Agent

namespace AgentRig

def Action.isRanging : Action → Bool
  | .ranging _ => true
  | .network _ _ | .snapshot _ | .shutdown | .closeChannel | .run | .forward _ | .pump
  | .refuseService _ _ | .refuseAdapter _ _ => false

/-- Ranging is at rest, and all sessions were opened for the handlers given. -/
structure Quiet (handlers : List RangingHandler) (rig : AgentRig) : Prop where
  resting : rig.agent.Resting
  handlers : rig.agent.handlers = handlers
  opened : rig.opened = .ok ()

namespace Quiet
variable {handlers : List RangingHandler} {rig : AgentRig}

theorem reports (h : Quiet handlers rig) : rig.reports = handlers.map (·.reports) := by
  rw [AgentRig.reports, h.opened, ← h.handlers]
  rfl

theorem finish (h : Quiet handlers rig) : Quiet handlers rig.finish := by
  unfold AgentRig.finish
  split
  · exact h
  · exact ⟨⟨⟨h.resting.station, h.resting.flat⟩, h.resting.outbox, h.resting.deliveries⟩,
      h.handlers, h.opened⟩

theorem take (h : Quiet handlers rig) {c : AgentCommand} (hc : c.sessionOp? = none) :
    Quiet handlers (rig.take c) := by
  unfold AgentRig.take
  split
  · exact h
  · exact h.finish
  · obtain ⟨hresting, hhandlers⟩ := h.resting.handle hc
    exact ⟨hresting, hhandlers.trans h.handlers, h.opened⟩

theorem run (h : Quiet handlers rig) : Quiet handlers rig.run.2 := by
  obtain ⟨hresting, hhandlers⟩ := h.resting.runTasks
  exact ⟨hresting, hhandlers.trans h.handlers, h.opened⟩

theorem forward (h : Quiet handlers rig) (limit : Option Nat) :
    Quiet handlers (rig.forward limit).2 := by
  rw [AgentRig.forward, h.resting.collect limit]
  exact h

/-- Only a ranging event from outside could disturb ranging. -/
theorem step (h : Quiet handlers rig) {x : Action} (hx : x.isRanging = false) :
    Quiet handlers (rig.step x).2 := by
  cases x with
  | network addressee event => exact h.take rfl
  | ranging event => cases hx
  | snapshot subscriptions => exact h.take rfl
  | shutdown => exact h.take rfl
  | closeChannel => exact h.finish
  | run => exact h.run
  | forward limit => exact h.forward limit
  | pump =>
    have next : ∀ rig, Quiet handlers rig → Quiet handlers (round rig).2 :=
      fun _ h => h.run.forward none
    exact repeatRounds_keeps next h manyRounds 0
  | refuseService verb entries =>
    exact ⟨⟨⟨h.resting.station, h.resting.flat⟩, h.resting.outbox, h.resting.deliveries⟩,
      h.handlers, h.opened⟩
  | refuseAdapter verb entries =>
    exact ⟨⟨⟨h.resting.station, h.resting.flat⟩, h.resting.outbox, h.resting.deliveries⟩,
      h.handlers, h.opened⟩

theorem after (h : Quiet handlers rig) {actions : List Action}
    (hactions : ∀ x ∈ actions, x.isRanging = false) : Quiet handlers (rig.after actions) := by
  induction actions generalizing rig with
  | nil => exact h
  | cons x rest ih =>
    obtain ⟨hx, hrest⟩ := List.forall_mem_cons.mp hactions
    exact ih (h.step hx) hrest

end Quiet

end AgentRig

namespace AgentRig

/-- The first pump brings the sessions that were opened to rest, with all their reports counted. -/
theorem quiet_pumped (s : Script) {n : Nat} (hn : n < 2 ^ 31) {tracker : Tracker}
    {service : Service}
    (orderly : (launch n s.closeAfter (.idle s.reports tracker service)).agent.Orderly) :
    let rig := launch n s.closeAfter (.idle s.reports tracker service)
    ∃ handlers, Quiet handlers (rig.step .pump).2 ∧
      handlers.map (·.reports) = List.replicate n s.reports := by
  intro rig
  obtain ⟨hopened, hsame, heard, -, ⟨houtbox, hqueue⟩, hfinished, -⟩ :=
    Interplay.pump_comes_to_rest s hn tracker service
  have hself : Alike rig rig := ⟨.refl orderly, rfl, rfl⟩
  have hpumped : Alike (rig.step .pump).2 rig := hself.pump manyRounds 0
  have hdeliveries : (rig.step .pump).2.agent.deliveries = [] :=
    Interplay.deliveries_of_queue hqueue
  refine ⟨(rig.step .pump).2.agent.handlers, ⟨⟨hpumped.agent.orderly, houtbox, hdeliveries⟩,
    rfl, ?_⟩, hfinished.counted⟩
  exact (congrArg AgentRig.opened hsame).trans hopened

end AgentRig

namespace Daemon
open Agent (Begun)

section Schedules
variable {commands : List AgentCommand}

theorem isOrderly_schedule (commands : List AgentCommand) :
    ∀ x ∈ schedule commands, x.isOrderly = true := by
  intro x hx
  rcases List.mem_cons.mp hx with rfl | hx
  · rfl
  · obtain ⟨c, -, hx⟩ := List.mem_flatMap.mp hx
    rcases List.mem_pair.mp hx with rfl | rfl
    · cases c <;> rfl
    · rfl

theorem isRanging_schedule (hc : ∀ c ∈ commands, c.sessionOp? = none) :
    ∀ x ∈ schedule commands, x.isRanging = false := by
  intro x hx
  rcases List.mem_cons.mp hx with rfl | hx
  · rfl
  · obtain ⟨c, hmem, hx⟩ := List.mem_flatMap.mp hx
    have hnone := hc c hmem
    rcases List.mem_pair.mp hx with rfl | rfl
    · cases c with
      | ranging event => cases hnone
      | network id event => rfl
      | snapshot subscriptions => rfl
      | shutdown => rfl
    · rfl

/-- A schedule sends what it is made of. -/
theorem filterMap_schedule (hc : ∀ c ∈ commands, c.sessionOp? = none)
    (route : Option CallbackId) : (schedule commands).filterMap (·.sent? route) = commands := by
  have hsent : ∀ c ∈ commands, [c.action, .pump].filterMap (·.sent? route) = [c] := by
    intro c hmem
    have hnone := hc c hmem
    cases c with
    | ranging event => cases hnone
    | network id event => rfl
    | snapshot subscriptions => rfl
    | shutdown => rfl
  have hall : (schedule commands).filterMap (·.sent? route) =
      commands.flatMap fun c => [c.action, .pump].filterMap (·.sent? route) :=
    List.filterMap_flatMap
  rw [hall, List.flatMap_congr hsent, List.flatMap_singleton']

theorem sessionOp?_feed (route : CallbackId) (events : List NetworkEvent)
    (update : Option Snapshot) : ∀ c ∈ feed route events update, c.sessionOp? = none := by
  intro c hc
  rw [feed_eq, List.mem_append, List.mem_singleton] at hc
  rcases hc with hc | rfl
  · rcases course_cases route events update c hc with ⟨event, rfl⟩ | ⟨subscriptions, rfl⟩ <;> rfl
  · rfl

end Schedules

section Ends
variable {rig : AgentRig}

theorem conclude_ok (h : rig.finished = some (.ok ())) (log : List LogLine) :
    conclude log rig =
      { exitCode := some 0
        log := log ++ rig.run.2.agent.told.map .selection ++ [.closing (figures rig.run.2)] } := by
  have hrun : rig.run.2.finished = some (.ok ()) := h
  simp only [conclude, hrun]

theorem conclude_running (h : rig.finished = none) (log : List LogLine) :
    conclude log rig =
      { exitCode := none, log := log ++ rig.run.2.agent.told.map .selection } := by
  have hrun : rig.run.2.finished = none := h
  simp only [conclude, hrun]

end Ends

section Runs
variable {config : Config} {entropy : UInt64} {events : List NetworkEvent}

theorem foldl_add_replicate (count m total : Nat) :
    (List.replicate count m).foldl (fun total n => total + n) total = total + count * m := by
  induction count generalizing total with
  | zero => rw [Nat.zero_mul, Nat.add_zero]; rfl
  | succ count ih =>
    rw [List.replicate_succ, List.foldl_cons, ih, Nat.succ_mul]
    omega

/-- A run opens its sessions, draws its scenario and follows the schedule of the feeder. -/
theorem run_launched
    (known : ∀ name ∈ config.requiredNames, (Capability.ofName? name).isSome = true)
    (drawn : Scenario.generate? config.scenario entropy = some events) :
    ∃ tracker service route,
      let a : Agent := .idle (config.reports + 1).toNat tracker service
      let rig := AgentRig.launch config.sessions.toNat config.reports.toNat a
      Begun config.group (config.initialSnapshot.members config.group) route a ∧
        rig.agent.Alike a ∧
        run config entropy =
          conclude [.starting, .scenario events.length config.seed]
            (rig.after (schedule (feeder config route events))) := by
  obtain ⟨required, hrequired⟩ : ∃ required, config.required = .ok required :=
    Config.exists_readCapabilities known
  obtain ⟨tracker, service, route, hstart, hbegun⟩ :=
    Agent.exists_begun config.group config.initialSnapshot required
      (.reporting (config.reports + 1).toNat)
  let a : Agent := .idle (config.reports + 1).toNat tracker service
  let rig := AgentRig.launch config.sessions.toNat config.reports.toNat a
  have hlaunched : rig.agent.Alike a :=
    hbegun.alike_openSessions config.reports.toNat (List.range config.sessions.toNat)
  have hroute : rig.route = some route :=
    (congrArg Tracker.route hlaunched.tracking.tracker).trans hbegun.running.route
  have hopened : rig.opened = .ok () := by
    obtain ⟨b, hopen⟩ := Agent.exists_openSessions config.reports.toNat
      (List.range config.sessions.toNat) (a := a) ⟨rfl, rfl, rfl⟩
    exact congrArg Prod.fst hopen
  have hstart' : (Agent.start config.group config.initialSnapshot required
      (.reporting (config.reports + 1).toNat) {} {}).1 = .ok a := hstart
  refine ⟨tracker, service, route, hbegun, hlaunched, ?_⟩
  simp only [run, hrequired, hstart', hopened, hroute, drawn, rig]
  rfl

/-- A run closes with the changes of a fresh selection on the events of its scenario, with one report
more from each session than it is closed after, and with as many callbacks filed as withdrawn. -/
theorem run_closes
    (known : ∀ name ∈ config.requiredNames, (Capability.ofName? name).isSome = true)
    (drawn : Scenario.generate? config.scenario entropy = some events)
    (hsessions : config.sessions.toNat < 2 ^ 31)
    (hreports : config.reports.toNat + 1 < UInt64.size) (interval : config.eventIntervalMs ≠ 0) :
    let heard := RouteSelection.notifications events {}
    run config entropy =
      { exitCode := some 0
        log := [.starting, .scenario events.length config.seed] ++ heard.map .selection ++
          [.closing
            { selectionChanges := heard.length
              rangingReports := config.sessions.toNat * (config.reports.toNat + 1)
              filed := config.callbacks
              withdrawn := config.callbacks }] } := by
  intro heard
  obtain ⟨tracker, service, route, hbegun, hlaunched, hrun⟩ := run_launched known drawn
  let s : Script := ⟨(config.reports + 1).toNat, config.reports.toNat⟩
  obtain ⟨handlers, hquiet, hcounts⟩ := AgentRig.quiet_pumped s hsessions hlaunched.orderly
  obtain ⟨turns, -, rfl⟩ := Option.map_eq_some_iff.mp drawn
  let rig := AgentRig.launch config.sessions.toNat config.reports.toNat
    (.idle (config.reports + 1).toNat tracker service)
  let commands := feed route (Scenario.events config.scenario turns) config.resubscribeSnapshot?
  let ended := (rig.after (schedule commands)).run.2
  have hcommands : ∀ c ∈ commands, c.sessionOp? = none := sessionOp?_feed _ _ _
  obtain ⟨hfinished, hclosed, htold⟩ := closed_launched hbegun config.sessions.toNat
    config.reports.toNat turns (isOrderly_schedule commands)
    (filterMap_schedule hcommands (some route))
  have hquiet' : AgentRig.Quiet handlers (rig.after (schedule commands)) :=
    hquiet.after (List.forall_mem_cons.mp (isRanging_schedule hcommands)).2
  obtain ⟨-, hsame, -⟩ := Agent.runTasks_parts hquiet'.resting.toOrderly
  have hservice : ended.agent.service = (rig.after (schedule commands)).agent.service :=
    hsame.service
  have hone : s.reports = config.reports.toNat + 1 :=
    (UInt64.toNat_add _ _).trans (Nat.mod_eq_of_lt hreports)
  have hreported : ended.reports.foldl (fun total n => total + n) 0 =
      config.sessions.toNat * (config.reports.toNat + 1) := by
    rw [hquiet'.run.reports, hcounts, hone, foldl_add_replicate, Nat.zero_add]
  have hfigures : figures ended =
      { selectionChanges := heard.length
        rangingReports := config.sessions.toNat * (config.reports.toNat + 1)
        filed := config.callbacks
        withdrawn := config.callbacks } := by
    rw [figures, hreported, hservice, hclosed.filed, hclosed.withdrawn]
    exact congrArg (fun told : List Notification => ClosingFigures.mk told.length _ _ _) htold
  have hfeeder : feeder config route (Scenario.events config.scenario turns) = commands :=
    if_neg interval
  rw [hrun, hfeeder, conclude_ok hfinished, hfigures, htold]

/-- Without an interval between the events the ticker fails, and the run goes on without end. -/
theorem run_goes_on
    (known : ∀ name ∈ config.requiredNames, (Capability.ofName? name).isSome = true)
    (drawn : Scenario.generate? config.scenario entropy = some events)
    (interval : config.eventIntervalMs = 0) :
    run config entropy =
      { exitCode := none, log := [.starting, .scenario events.length config.seed] } := by
  obtain ⟨tracker, service, route, hbegun, hlaunched, hrun⟩ := run_launched known drawn
  let a : Agent := .idle (config.reports + 1).toNat tracker service
  let rig := AgentRig.launch config.sessions.toNat config.reports.toNat a
  have hself : AgentRig.Alike rig { agent := a, opened := .ok (), route := rig.route } :=
    ⟨hlaunched, rfl, rfl⟩
  have hpumped : AgentRig.Alike (rig.after (schedule [])) _ := hself.pump manyRounds 0
  obtain ⟨-, -, htold⟩ := Agent.runTasks_parts hpumped.agent.orderly
  have hnone : (rig.after (schedule [])).run.2.agent.told = [] :=
    htold.trans (hpumped.agent.tracking.heard.trans hbegun.untold)
  have hfeeder : feeder config route events = [] := if_pos interval
  rw [hrun, hfeeder, conclude_running hpumped.finished, hnone]
  rfl

end Runs

end Daemon

end Rangelink
