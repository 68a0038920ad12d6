import Rangelink.Proofs.Agent.Merging
import Rangelink.Proofs.Tracker.Unrefused

/-! # An agent that is refused nothing

An agent started on a blank service keeps count of its callbacks through events and
updates, and its tracker sees the events that are meant for route selection. The
sessions that it opens beside make no difference to that.
-/
namespace Rangelink

theorem Adapter.openSession_granted {adapter : Adapter} (h : adapter.openRefusal = none)
    (params : Params) :
    ∃ handle adapter', adapter.openSession params = (.ok handle, adapter') ∧
      adapter'.openRefusal = none := by
  obtain ⟨scripted, nextHandle, _, calls, outbox, reportsPerStart⟩ := adapter
  cases h
  cases scripted with
  | nil => exact ⟨_, _, rfl, rfl⟩
  | cons handle rest => exact ⟨_, _, rfl, rfl⟩

namespace Agent
open Tracker (Tallied)

section Commands
variable {group : Uuid} {members : SubscriptionIds} {count : Nat} {a : Agent}

theorem tallied_network (h : Tallied context group members count (a.tracker, a.service))
    (id : CallbackId) (event : NetworkEvent) :
    Tallied context group members count
      ((a.handle (.network id event)).tracker, (a.handle (.network id event)).service) := by
  obtain ⟨selection, hselection⟩ := (a.tracker.receive_frame thread id event).1
  have hkept := h.of_selection selection
  simp only [handle]
  rcases hr : a.tracker.receive thread id event with ⟨e | n, t⟩
  · rw [hr] at hselection
    rw [← hselection] at hkept
    exact hkept
  · rw [hr] at hselection
    rw [← hselection] at hkept
    cases n <;> exact hkept

theorem tallied_networks (h : Tallied context group members count (a.tracker, a.service))
    (route : CallbackId) (events : List NetworkEvent) :
    Tallied context group members count
      ((a.after (events.map (.network route))).tracker,
        (a.after (events.map (.network route))).service) := by
  induction events generalizing a with
  | nil => exact h
  | cons event rest ih => exact ih (tallied_network h route event)

/-- An update counts the members that are new; without one the count stays as it is. -/
theorem tallied_update (h : Tallied context group members count (a.tracker, a.service))
    (update : Option Snapshot) :
    let wanted := (update.map (·.members group)).getD members
    let b := a.after (update.map AgentCommand.snapshot).toList
    Tallied context group wanted (count + (wanted.difference members).size)
      (b.tracker, b.service) := by
  cases update with
  | none =>
    have hsame : count + (members.difference members).size = count := by
      rw [SortedSet.size_difference_self, Nat.add_zero]
    rw [← hsame] at h
    exact h
  | some snapshot => exact h.update snapshot

theorem selectedEvents_commands (route : CallbackId) (commands : List AgentCommand) :
    TrackerRig.selectedEvents thread route (commands.filterMap (·.trackerCommand?)) =
      commands.filterMap fun c => c.trackerCommand?.bind (·.selected? thread route) := by
  induction commands with
  | nil => rfl
  | cons c rest ih =>
    rw [List.filterMap_cons, List.filterMap_cons]
    cases hc : c.trackerCommand? with
    | none => exact ih
    | some command =>
      have hstays : command.endsTracker thread = false := by
        obtain ⟨-, hno⟩ := AgentCommand.trackerCommand?_keeps hc
        cases command with
        | teardown caller => exact absurd rfl (hno caller)
        | event caller addressee event => rfl
        | update caller snapshot => rfl
        | run => rfl
        | refuse verb entries => rfl
        | drop id => rfl
      rw [Option.bind_some]
      simp only
      rw [TrackerRig.selectedEvents_cons hstays, ih]
      cases command.selected? thread route <;> rfl

end Commands

/-- An agent started on the blank simulators, with nothing filed but what the start files, and
nothing told. -/
structure Begun (group : Uuid) (members : SubscriptionIds) (route : CallbackId) (a : Agent) :
    Prop where
  orderly : Orderly a
  tallied : Tallied context group members (2 + members.size) (a.tracker, a.service)
  running : TrackerRig.Running thread route a.tracking
  untold : a.tracking.heard = []
  selection : a.tracker.selection = {}

theorem exists_begun (group : Uuid) (snapshot : Snapshot) (required : SortedSet Capability)
    (adapter : Adapter) :
    ∃ tracker service route,
      let a : Agent := { station := { context, adapter }, tracker, service }
      (start group snapshot required adapter {} {}).1 = .ok a ∧
        Begun group (snapshot.members group) route a := by
  obtain ⟨t, service, hstart, htallied⟩ :=
    Tracker.start_tallied context group snapshot required
  have hstart' : Tracker.start thread context group snapshot required {} = (.ok t, service) :=
    hstart
  have hrig : (TrackerRig.start thread context group snapshot required {}).1 =
      .ok { tracker := t, service } := by
    simp [TrackerRig.start, hstart', Except.map]
  obtain ⟨route, hrunning, hheard, hselection⟩ := TrackerRig.running_started hrig
  refine ⟨t, service, route, ?_, ⟨rfl, Executor.flat_empty⟩, htallied, hrunning, hheard, hselection⟩
  simp [start, hstart', Except.map]

theorem flat_openSessions (closeAfter : Nat) (numbers : List Nat) {a : Agent}
    (h : a.executor.Flat) : (openSessions closeAfter numbers a).2.executor.Flat := by
  induction numbers generalizing a with
  | nil => exact h
  | cons number rest ih =>
    have hfirst : (openSession closeAfter number a).2.executor.Flat := by
      simp only [openSession]
      rcases a.station.openSession thread (sessionParams number) () a.handlers.length with
        ⟨e | d, station⟩
      · exact h
      · refine flat_submit ?_ _
        exact h
    simp only [openSessions]
    rcases hopen : openSession closeAfter number a with ⟨e | _, a'⟩
    · rw [hopen] at hfirst
      exact hfirst
    · rw [hopen] at hfirst
      exact ih hfirst

/-- No session that is asked for on the agent's thread is refused. -/
structure Granting (station : Station Nat Unit) : Prop where
  context : station.context = context
  refusals : station.refusals = {}
  openRefusal : station.adapter.openRefusal = none

/-- A session is granted under whatever handle comes next, also if the handle is taken. -/
theorem openSession_granting {station : Station Nat Unit} (h : Granting station) (params : Params)
    (client : Nat) :
    ∃ delivery station', station.openSession thread params () client = (.ok delivery, station') ∧
      Granting station' := by
  obtain ⟨_, registry, adapter, refusals⟩ := station
  obtain ⟨rfl, rfl, hopen⟩ := h
  obtain ⟨handle, adapter', hadapter, hopen'⟩ := Adapter.openSession_granted hopen params
  have hnext : ({} : Refusals AdapterVerb).next .openSession = (none, {}) := rfl
  have hgranted : Station.openSession thread params () client { context, registry, adapter } =
      (.ok (registry.enter handle client ()).2,
        { context, registry := (registry.enter handle client ()).1, adapter := adapter' }) := by
    rw [Station.openSession, show thread = context.owner from rfl, Context.guarded_owner]
    simp only [Station.requestSession, hnext, hadapter, Registry.openSession]
    rfl
  exact ⟨_, _, hgranted, ⟨rfl, rfl, hopen'⟩⟩

theorem exists_openSessions (closeAfter : Nat) (numbers : List Nat) {a : Agent}
    (h : Granting a.station) : ∃ b, openSessions closeAfter numbers a = (.ok (), b) := by
  induction numbers generalizing a with
  | nil => exact ⟨a, rfl⟩
  | cons number rest ih =>
    obtain ⟨delivery, station, hstation, hgranting⟩ :=
      openSession_granting h (sessionParams number) a.handlers.length
    simp only [openSessions, openSession, hstation]
    refine ih ?_
    rw [station_submit]
    exact hgranting

/-- Opening sessions makes no difference to the tracker. -/
theorem Begun.alike_openSessions {group : Uuid} {members : SubscriptionIds} {route : CallbackId}
    {a : Agent} (h : Begun group members route a) (closeAfter : Nat) (numbers : List Nat) :
    Alike (openSessions closeAfter numbers a).2 a := by
  obtain ⟨htracking, hcontext⟩ := openSessions_frame closeAfter numbers a
  refine ⟨⟨hcontext.trans h.orderly.station, flat_openSessions _ _ h.orderly.flat⟩, h.orderly, ?_⟩
  rw [htracking]
  exact .refl _

end Agent

end Rangelink
