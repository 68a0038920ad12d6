import Rangelink.CommandLine.Daemon
import Rangelink.Proofs.Agent.Unrefused
import Rangelink.Proofs.Scenario.Drawing

/-! # The closing figures of the daemon

The counts with which the daemon closes follow from its configuration and from the
events of its scenario. How the events are merged with those of the ranging sessions
makes no difference to them.
-/
namespace Rangelink

theorem Snapshot.members_ofGroup (group : Uuid) (ids : List SubscriptionId) :
    (Snapshot.ofGroup group ids).members group = .ofList ids := by
  rw [ofGroup, members_setGroup, if_pos rfl]

namespace Config

theorem exists_readCapabilities {names : List String}
    (known : ∀ name ∈ names, (Capability.ofName? name).isSome = true) :
    ∃ required, readCapabilities names = .ok required := by
  induction names with
  | nil => exact ⟨.empty, rfl⟩
  | cons name rest ih =>
    obtain ⟨hname, hrest⟩ := List.forall_mem_cons.mp known
    obtain ⟨c, hc⟩ := Option.isSome_iff_exists.mp hname
    obtain ⟨required, hrequired⟩ := ih hrest
    exact ⟨required.insert c, by simp [readCapabilities, hc, hrequired, Except.map]⟩

/-- The subscriptions at the start. -/
def initialIds (c : Config) : SubscriptionIds := .ofList (c.subscriptions.map (⟨·⟩))

/-- The subscriptions after the update halfway, or those at the start if there is no such update. -/
def finalIds (c : Config) : SubscriptionIds :=
  if c.resubscribe.isEmpty then c.initialIds else .ofList (c.resubscribe.map (⟨·⟩))

/-- How many callbacks a run files: one for Wi-Fi, one for route selection, and one for every
subscription of the start and every other one of the update. -/
def callbacks (c : Config) : Nat :=
  2 + c.initialIds.size + (c.finalIds.difference c.initialIds).size

theorem members_initialSnapshot (c : Config) : c.initialSnapshot.members c.group = c.initialIds :=
  Snapshot.members_ofGroup _ _

theorem members_resubscribeSnapshot (c : Config) :
    (c.resubscribeSnapshot?.map (·.members c.group)).getD c.initialIds = c.finalIds := by
  unfold resubscribeSnapshot? finalIds
  split
  · rfl
  · exact Snapshot.members_ofGroup _ _

end Config

namespace Daemon
open Agent (Begun)

/-- What the feeder sends before the shutdown. -/
def course (route : CallbackId) (events : List NetworkEvent) (update : Option Snapshot) :
    List AgentCommand :=
  let half := events.length / 2
  let middle := if events.isEmpty then [] else (update.map AgentCommand.snapshot).toList
  (events.take half).map (.network route) ++ middle ++ (events.drop half).map (.network route)

section Courses
variable {route : CallbackId} {events : List NetworkEvent} {update : Option Snapshot}

theorem feed_eq (route : CallbackId) (events : List NetworkEvent) (update : Option Snapshot) :
    feed route events update = course route events update ++ [.shutdown] := by
  simp [feed, course, List.map_take, List.map_drop]

theorem course_eq (hevents : events ≠ []) :
    course route events update =
      (events.take (events.length / 2)).map (.network route) ++
        (update.map AgentCommand.snapshot).toList ++
        (events.drop (events.length / 2)).map (.network route) := by
  simp [course, hevents]

theorem course_cases (route : CallbackId) (events : List NetworkEvent) (update : Option Snapshot) :
    ∀ c ∈ course route events update,
      (∃ event, c = .network route event) ∨ ∃ subscriptions, c = .snapshot subscriptions := by
  intro c hc
  have hnetwork : ∀ events : List NetworkEvent, c ∈ events.map (AgentCommand.network route) →
      ∃ event, c = .network route event := by
    intro events hmem
    obtain ⟨event, -, rfl⟩ := List.mem_map.mp hmem
    exact ⟨event, rfl⟩
  rcases List.mem_append.mp hc with hc | hc
  · rcases List.mem_append.mp hc with hc | hc
    · exact Or.inl (hnetwork _ hc)
    · split at hc
      · cases hc
      · cases update with
        | none => cases hc
        | some subscriptions => exact Or.inr ⟨subscriptions, List.mem_singleton.mp hc⟩
  · exact Or.inl (hnetwork _ hc)

theorem isShutdown_course (route : CallbackId) (events : List NetworkEvent)
    (update : Option Snapshot) : ∀ c ∈ course route events update, c.isShutdown = false := by
  intro c hc
  rcases course_cases route events update c hc with ⟨event, rfl⟩ | ⟨subscriptions, rfl⟩ <;> rfl

theorem selectedEvents_course (hevents : events ≠ []) :
    TrackerRig.selectedEvents Agent.thread route
      ((course route events update).filterMap (·.trackerCommand?)) = events := by
  have hnetworks : ∀ events : List NetworkEvent,
      (events.map (AgentCommand.network route)).filterMap
        (fun c => c.trackerCommand?.bind (·.selected? Agent.thread route)) = events := by
    intro events
    rw [List.filterMap_map]
    refine (List.filterMap_congr fun event _ => ?_).trans List.filterMap_some
    simp [AgentCommand.trackerCommand?, TrackerRig.Command.selected?, Addressee.resolve]
  have hupdate : ((update.map AgentCommand.snapshot).toList).filterMap
      (fun c => c.trackerCommand?.bind (·.selected? Agent.thread route)) = [] := by
    cases update <;> rfl
  rw [Agent.selectedEvents_commands, course_eq hevents, List.filterMap_append,
    List.filterMap_append, hnetworks, hnetworks, hupdate, List.append_nil, List.take_append_drop]

end Courses

/-- The end of a run: the teardown succeeds, and all that was filed is withdrawn. -/
structure Closed (callbacks : Nat) (heard : List Notification) (outcome : Except Refusal Unit)
    (a : Agent) : Prop where
  outcome : outcome = .ok ()
  filed : a.service.provider.filed.length = callbacks
  withdrawn : a.service.provider.withdrawn.length = callbacks
  active : a.service.provider.active = []
  heard : a.tracking.heard = heard

theorem closed_course {group : Uuid} {members : SubscriptionIds} {route : CallbackId} {a : Agent}
    (h : Begun group members route a) {events : List NetworkEvent} (hevents : events ≠ [])
    (update : Option Snapshot) :
    let wanted := (update.map (·.members group)).getD members
    let served := a.after (course route events update)
    Closed (2 + members.size + (wanted.difference members).size)
      (RouteSelection.notifications events {}) served.teardown.1 served.teardown.2 := by
  intro wanted served
  have htallied : Tracker.Tallied Agent.context group wanted
      (2 + members.size + (wanted.difference members).size) (served.tracker, served.service) := by
    simp only [served, course_eq hevents, Agent.after_append]
    have hfront := Agent.tallied_networks h.tallied route (events.take (events.length / 2))
    exact Agent.tallied_networks (Agent.tallied_update hfront update) route _
  obtain ⟨houtcome, hactive, hfiled, hwithdrawn⟩ := htallied.teardown
  refine ⟨houtcome, hfiled, hwithdrawn, hactive, ?_⟩
  obtain ⟨hparts, -, -⟩ := Agent.after_parts h.orderly.station (course route events update)
  obtain ⟨hheard, -⟩ := TrackerRig.after_running h.running
    ((course route events update).filterMap (·.trackerCommand?))
  have hserved : served.tracking.heard = RouteSelection.notifications events {} := by
    rw [hparts, hheard, h.untold, selectedEvents_course hevents, List.nil_append]
    exact congrArg (RouteSelection.notifications events) h.selection
  exact hserved

theorem Closed.of_alike {callbacks : Nat} {heard : List Notification}
    {outcome outcome' : Except Refusal Unit} {a b : Agent} (h : Closed callbacks heard outcome b)
    (hsame : a.Alike b) (houtcome : outcome' = outcome) : Closed callbacks heard outcome' a := by
  have hservice : a.service = b.service := hsame.tracking.service
  refine ⟨houtcome.trans h.outcome, ?_, ?_, ?_, hsame.tracking.heard.trans h.heard⟩
  · rw [hservice]
    exact h.filed
  · rw [hservice]
    exact h.withdrawn
  · rw [hservice]
    exact h.active

end Daemon

namespace AgentRig
open Daemon (Closed)

/-- A merged run ends as the commands of the feeder on their own. -/
theorem closed_after {callbacks : Nat} {heard : List Notification} {route : CallbackId}
    {events : List NetworkEvent} {update : Option Snapshot} {b : Agent} {rig : AgentRig}
    (h : rig.agent.Alike b) (running : rig.finished = none) (hroute : rig.route = some route)
    (hclosed : Closed callbacks heard (b.after (Daemon.course route events update)).teardown.1
      (b.after (Daemon.course route events update)).teardown.2)
    {actions : List Action} (orderly : ∀ x ∈ actions, x.isOrderly = true)
    (sent : actions.filterMap (·.sent? (some route)) = Daemon.feed route events update) :
    ∃ outcome, (rig.after actions).finished = some outcome ∧
      Closed callbacks heard outcome (rig.after actions).agent ∧
      (rig.after actions).run.2.agent.told = heard := by
  let start : AgentRig := { agent := b, opened := .ok (), route := some route }
  have hsame : Alike rig start := ⟨h, running, hroute⟩
  have hafter := hsame.after orderly
  have hended : (Daemon.feed route events update).foldl take start =
      ({ start with agent := b.after (Daemon.course route events update) } : AgentRig).finish := by
    rw [Daemon.feed_eq, List.foldl_append, foldl_take_running rfl
      (Daemon.isShutdown_course route events update)]
    rfl
  rw [show start.route = some route from rfl, sent, hended, finish_running rfl] at hafter
  obtain ⟨-, -, htold⟩ := Agent.runTasks_parts hafter.agent.orderly
  refine ⟨_, hafter.finished, hclosed.of_alike hafter.agent rfl, ?_⟩
  exact htold.trans (hafter.agent.tracking.heard.trans hclosed.heard)

end AgentRig

theorem Scenario.events_ne_nil (config : ScenarioConfig) (turns : List Scenario.Turn) :
    Scenario.events config turns ≠ [] := by
  simp [Scenario.events, Scenario.Scene.burst]

namespace Daemon
open Agent (Begun)

/-- The feeder's commands file and withdraw what the configuration calls for. -/
theorem closed_config {config : Config} {route : CallbackId} {a : Agent}
    (h : Begun config.group (config.initialSnapshot.members config.group) route a)
    (turns : List Scenario.Turn) :
    let events := Scenario.events config.scenario turns
    let served := a.after (course route events config.resubscribeSnapshot?)
    Closed config.callbacks (RouteSelection.notifications events {}) served.teardown.1
      served.teardown.2 := by
  have hclosed := closed_course h (Scenario.events_ne_nil config.scenario turns)
    config.resubscribeSnapshot?
  rw [config.members_initialSnapshot, config.members_resubscribeSnapshot] at hclosed
  exact hclosed

/-- So they do when they are merged with ranging events and jobs, with sessions opened before. -/
theorem closed_launched {config : Config} {route : CallbackId} {a : Agent}
    (h : Begun config.group (config.initialSnapshot.members config.group) route a)
    (sessions closeAfter : Nat) (turns : List Scenario.Turn) {actions : List AgentRig.Action}
    (orderly : ∀ x ∈ actions, x.isOrderly = true)
    (sent : actions.filterMap (·.sent? (some route)) =
      feed route (Scenario.events config.scenario turns) config.resubscribeSnapshot?) :
    let heard := RouteSelection.notifications (Scenario.events config.scenario turns) {}
    let ended := (AgentRig.launch sessions closeAfter a).after actions
    ended.finished = some (.ok ()) ∧ Closed config.callbacks heard (.ok ()) ended.agent ∧
      ended.run.2.agent.told = heard := by
  intro heard ended
  have hlaunched : (AgentRig.launch sessions closeAfter a).agent.Alike a :=
    h.alike_openSessions closeAfter (List.range sessions)
  have hroute : (AgentRig.launch sessions closeAfter a).route = some route :=
    (congrArg Tracker.route hlaunched.tracking.tracker).trans h.running.route
  obtain ⟨outcome, hfinished, hclosed, htold⟩ :=
    AgentRig.closed_after hlaunched rfl hroute (closed_config h turns) orderly sent
  obtain rfl := hclosed.outcome
  exact ⟨hfinished, hclosed, htold⟩

/-- Whatever the scenario, and however its events are merged with those of the ranging sessions and
with the jobs of the executor, the loop ends well and all that was filed is withdrawn: callbacks for
Wi-Fi and route selection, for the subscriptions of the start and for the other ones of the update.
The owner hears as many changes as a fresh selection notifies of the events. -/
theorem figures_add_up {config : Config}
    (known : ∀ name ∈ config.requiredNames, (Capability.ofName? name).isSome = true) :
    ∃ required, config.required = .ok required ∧
      ∀ adapter, ∃ a route,
        (Agent.start config.group config.initialSnapshot required adapter {} {}).1 = .ok a ∧
        a.tracker.route = some route ∧
        ∀ sessions closeAfter turns actions,
          let events := Scenario.events config.scenario turns
          let ended := (AgentRig.launch sessions closeAfter a).after actions
          (∀ x ∈ actions, x.isOrderly = true) →
          actions.filterMap (·.sent? (some route)) =
            feed route events config.resubscribeSnapshot? →
          ended.finished = some (.ok ()) ∧
            ended.agent.service.provider.filed.length = config.callbacks ∧
            ended.agent.service.provider.withdrawn.length = config.callbacks ∧
            ended.agent.service.provider.active = [] ∧
            ended.run.2.agent.changes = (RouteSelection.notifications events {}).length := by
  obtain ⟨required, hrequired⟩ := Config.exists_readCapabilities known
  refine ⟨required, hrequired, ?_⟩
  intro adapter
  obtain ⟨tracker, service, route, hstart, hbegun⟩ :=
    Agent.exists_begun config.group config.initialSnapshot required adapter
  refine ⟨_, route, hstart, hbegun.running.route, ?_⟩
  intro sessions closeAfter turns actions events ended orderly sent
  obtain ⟨hfinished, hclosed, htold⟩ :=
    closed_launched hbegun sessions closeAfter turns orderly sent
  exact ⟨hfinished, hclosed.filed, hclosed.withdrawn, hclosed.active, congrArg List.length htold⟩

/-- Two subscriptions, one of them listed twice, and a third with the update, while a session opens
and is stopped. -/
theorem figures_add_up_merged :
    let config : Config := { subscriptions := [1, 2, 2], resubscribe := [2, 3], sessions := 1 }
    let events := Scenario.events config.scenario []
    let actions : List AgentRig.Action :=
      [.pump, .ranging ⟨⟨1⟩, .stopped⟩] ++ (events.take 2).map (.network .route) ++
        [.run, .snapshot (config.snapshotOf config.resubscribe)] ++
        (events.drop 2).map (.network .route) ++ [.forward (some 1), .shutdown, .pump]
    (∀ name ∈ config.requiredNames, (Capability.ofName? name).isSome = true) ∧
      ∃ required a,
        (Agent.start config.group config.initialSnapshot required (.reporting 1) {} {}).1 = .ok a ∧
        let ended := (AgentRig.launch 1 1 a).after actions
        ended.finished = some (.ok ()) ∧ ended.agent.service.provider.filed.length = 5 ∧
          ended.agent.service.provider.withdrawn.length = 5 ∧ ended.run.2.agent.changes = 2 := by
  intro config events actions
  have known : ∀ name ∈ config.requiredNames, (Capability.ofName? name).isSome = true := by decide
  obtain ⟨required, -, hrig⟩ := figures_add_up known
  obtain ⟨a, route, hstart, -, hall⟩ := hrig (.reporting 1)
  have hlength : events.length = 5 := rfl
  have sent : actions.filterMap (·.sent? (some route)) =
      feed route events config.resubscribeSnapshot? := by
    rw [feed, hlength]
    rfl
  obtain ⟨hfinished, hfiled, hwithdrawn, -, hchanges⟩ := hall 1 1 [] actions (by decide) sent
  exact ⟨known, required, a, hstart, hfinished, hfiled, hwithdrawn, hchanges⟩

end Daemon

end Rangelink
