import Rangelink.Agent.Handler
import Rangelink.Executor
import Rangelink.Tracker

/-! # Agent

The agent owns a ranging station and an underlying network tracker and feeds both
from one list of commands. Whatever their clients are to be told goes through one
executor. When the commands end, the tracker is torn down.
-/
namespace Rangelink

/-- What the agent's executor runs: the owner is told, or a notice is given to a handler. -/
inductive AgentTask where
  | tell (notification : Notification)
  | give (delivery : Delivery Nat Unit)

inductive AgentCommand where
  | network (id : CallbackId) (event : NetworkEvent)
  | ranging (event : RangingEvent)
  | snapshot (snapshot : Snapshot)
  | shutdown

/-- Handlers are numbered in the order of their sessions; `told` is what the owner of the tracker
heard so far. -/
structure Agent where
  station : Station Nat Unit
  tracker : Tracker
  service : Service
  executor : Executor AgentTask := {}
  handlers : List RangingHandler := []
  told : List Notification := []

namespace Agent

def thread : ThreadId := ⟨0⟩

def context : Context := ⟨thread⟩

/-- An agent with a started tracker, and the service, which a failed start has changed too. -/
def start (group : Uuid) (snapshot : Snapshot) (required : SortedSet Capability)
    (adapter : Adapter) (refusals : Refusals AdapterVerb) (service : Service) :
    Except Refusal Agent × Service :=
  let started := Tracker.start thread context group snapshot required service
  (started.1.map fun tracker =>
    { station := { context, adapter, refusals }, tracker, service := started.2 }, started.2)

def submit (task : Option AgentTask) (a : Agent) : Agent :=
  match task with
  | none => a
  | some task => { a with executor := a.executor.submit (.single task) }

def sessionParams (number : Nat) : Params :=
  ((.empty : Params).insert "session" (toString number)).insert "channel" "9"

def openSession (closeAfter : Nat) (number : Nat) (a : Agent) : Except Refusal Unit × Agent :=
  let params := sessionParams number
  match a.station.openSession thread params () a.handlers.length with
  | (.error e, station) => (.error e, { a with station })
  | (.ok d, station) =>
    let handler : RangingHandler := { startParams := params, closeAfter }
    (.ok (), { a with station, handlers := a.handlers ++ [handler] }.submit (d.map .give))

/-- Opens sessions up to the first that is refused. -/
def openSessions (closeAfter : Nat) : List Nat → Agent → Except Refusal Unit × Agent
  | [], a => (.ok (), a)
  | number :: rest, a =>
    match openSession closeAfter number a with
    | (.ok (), a) => openSessions closeAfter rest a
    | (.error e, a) => (.error e, a)

def handle (command : AgentCommand) (a : Agent) : Agent :=
  match command with
  | .network id event =>
    match a.tracker.receive thread id event with
    | (.ok n, tracker) => { a with tracker }.submit (n.map .tell)
    | (.error _, tracker) => { a with tracker }
  | .ranging event =>
    match a.station.receive thread event with
    | (.ok d, station) => { a with station }.submit (d.map .give)
    | (.error _, station) => { a with station }
  | .snapshot snapshot =>
    let (tracker, service) := (a.tracker.update thread snapshot a.service).2
    { a with tracker, service }
  | .shutdown => a

def teardown (a : Agent) : Except Refusal Unit × Agent :=
  let (outcome, tracker, service) := a.tracker.teardown thread a.service
  (outcome, { a with tracker, service })

/-- Takes in commands until the first shutdown or their end. -/
def serve : List AgentCommand → Agent → Agent
  | [], a => a
  | .shutdown :: _, a => a
  | command :: rest, a => serve rest (a.handle command)

/-- Serves commands and tears the tracker down, whatever became of them. -/
def run (commands : List AgentCommand) (a : Agent) : Except Refusal Unit × Agent :=
  (serve commands a).teardown

/-- A handler's command; how the station answers is of no further consequence. -/
def command (order : Option (Session × SessionCommand)) (a : Agent) : Agent :=
  match order with
  | none => a
  | some (s, c) => { a with station := (a.station.command s c).2 }

def perform (a : Agent) (task : AgentTask) : Agent :=
  match task with
  | .tell n => { a with told := a.told ++ [n] }
  | .give d =>
    match a.handlers[d.client]? with
    | none => a
    | some h =>
      let (h, order) := h.hear d.notice
      { a with handlers := a.handlers.set d.client h }.command order

def runTasks (a : Agent) : Nat × Agent :=
  let drained := a.executor.drain fun _ => false
  (drained.ran.length, drained.ran.foldl perform { a with executor := ⟨drained.left⟩ })

def collect (limit : Option Nat) (a : Agent) : List AgentCommand × Agent :=
  let (events, station) := a.station.collect limit
  (events.map .ranging, { a with station })

def changes (a : Agent) : Nat := a.told.length

def reports (a : Agent) : List Nat := a.handlers.map (·.reports)

end Agent

end Rangelink
