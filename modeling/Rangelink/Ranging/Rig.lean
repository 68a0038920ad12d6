import Rangelink.Executor
import Rangelink.Ranging.Station
import Rangelink.Rounds

/-! # Ranging rig

A ranging station with named executors and named recording clients. A client
keeps every session it is handed, and can be set to answer a notice with
commands on its newest session.
-/
namespace Rangelink

inductive NoticeKind where
  | opened
  | openFailed
  | started
  | startFailed
  | reconfigured
  | reconfigureFailed
  | stopped
  | stopFailed
  | closed
  | report
  deriving DecidableEq, Repr

def Notice.kind : Notice → NoticeKind
  | .opened _ => .opened
  | .openFailed _ _ => .openFailed
  | .started _ => .started
  | .startFailed _ _ => .startFailed
  | .reconfigured _ => .reconfigured
  | .reconfigureFailed _ _ => .reconfigureFailed
  | .stopped => .stopped
  | .stopFailed _ _ => .stopFailed
  | .closed _ _ => .closed
  | .report _ => .report

inductive ClientCommand where
  | command (command : SessionCommand)
  | inspect
  | duplicate

inductive ClientAnswer where
  | outcome (outcome : Outcome)
  | inspected (handle : Handle) (closed : Bool) (text : String)
  | duplicated

/-- A command in answer to every notice of a kind, or to the one with the number `nth`. -/
structure Reaction where
  on : NoticeKind
  nth : Option Nat := none
  command : ClientCommand

structure Client where
  reactions : List Reaction := []
  sessions : List Session := []
  heard : List NoticeKind := []

namespace Client

def hear (notice : Notice) (c : Client) : Client :=
  match notice with
  | .opened s => { c with sessions := c.sessions ++ [s], heard := c.heard ++ [.opened] }
  | notice => { c with heard := c.heard ++ [notice.kind] }

/-- The commands with which the client answers the notice it heard last. -/
def answersTo (kind : NoticeKind) (c : Client) : List ClientCommand :=
  (c.reactions.filter fun r =>
    r.on == kind && (r.nth.isNone || r.nth == some (c.heard.count kind))).map (·.command)

end Client

inductive RigEntry where
  | heard (client : String) (notice : Notice)
  | reacted (client : String) (command : ClientCommand) (answer : Option ClientAnswer)

/-- A delivery to no client in particular is run and forgotten. -/
abbrev RigDelivery := Delivery (Option String) String

structure RangingRig where
  station : Station (Option String) String
  executors : SortedMap String (Executor RigDelivery) := .empty
  clients : SortedMap String Client := .empty
  log : List RigEntry := []

namespace RangingRig

inductive Action where
  | script (handles : List Handle)
  | refuseNextOpen (reason : String)
  | refuse (verb : AdapterVerb) (entries : List (Option String))
  | openSession (caller : ThreadId) (params : Params) (client : Option String)
      (reactions : List Reaction)
  | event (caller : ThreadId) (event : RangingEvent)
  | session (client : String) (index : Nat) (command : ClientCommand)
  | run
  | forward (limit : Option Nat)
  | pump
  | dropOutbox

/-- An action; the executor it names exists from then on. -/
structure Step where
  executor : String := "main"
  action : Action

inductive Reply where
  | outcome (outcome : Except Refusal Unit)
  | moved (count : Nat)
  | answer (answer : Option ClientAnswer)

def executor (name : String) (rig : RangingRig) : Executor RigDelivery :=
  (rig.executors.get? name).getD {}

def setExecutor (name : String) (x : Executor RigDelivery) (rig : RangingRig) : RangingRig :=
  { rig with executors := rig.executors.insert name x }

def submit (d : Option RigDelivery) (rig : RangingRig) : RangingRig :=
  match d with
  | none => rig
  | some d => rig.setExecutor d.executor ((rig.executor d.executor).submit (.single d))

def write (entry : RigEntry) (rig : RangingRig) : RangingRig := { rig with log := rig.log ++ [entry] }

def modifyClient (name : String) (f : Client → Client) (rig : RangingRig) : RangingRig :=
  { rig with clients := rig.clients.modify name f }

def perform (client : String) (s : Session) (c : ClientCommand) (rig : RangingRig) :
    ClientAnswer × RangingRig :=
  match c with
  | .command c =>
    let (outcome, station) := rig.station.command s c
    (.outcome outcome, { rig with station })
  | .inspect =>
    let registry := rig.station.registry
    (.inspected s.handle (registry.isClosed s) (registry.describe s), rig)
  | .duplicate =>
    (.duplicated, rig.modifyClient client fun c => { c with sessions := c.sessions ++ [s] })

def react (client : String) (rig : RangingRig) (c : ClientCommand) : RangingRig :=
  match (rig.clients.get? client).bind (·.sessions.getLast?) with
  | none => rig.write (.reacted client c none)
  | some s =>
    let (answer, rig) := rig.perform client s c
    rig.write (.reacted client c (some answer))

def give (rig : RangingRig) (d : RigDelivery) : RangingRig :=
  match d.client with
  | none => rig
  | some name =>
    let rig := (rig.modifyClient name (·.hear d.notice)).write (.heard name d.notice)
    let commands := match rig.clients.get? name with
      | some c => c.answersTo d.notice.kind
      | none => []
    commands.foldl (react name) rig

def runExecutor (name : String) (rig : RangingRig) : Nat × RangingRig :=
  let drained := (rig.executor name).drain fun _ => false
  (drained.ran.length, drained.ran.foldl give (rig.setExecutor name ⟨drained.left⟩))

def runAll (names : List String) (rig : RangingRig) : Nat × RangingRig :=
  names.foldl (fun (count, rig) name =>
    let (ran, rig) := rig.runExecutor name
    (count + ran, rig)) (0, rig)

/-- Takes in what the station answers to a call. -/
def accept (answer : Except Refusal (Option RigDelivery) × Station (Option String) String)
    (rig : RangingRig) : Except Refusal Unit × RangingRig :=
  match answer with
  | (.ok d, station) => (.ok (), { rig with station }.submit d)
  | (.error e, station) => (.error e, { rig with station })

def receive (caller : ThreadId) (event : RangingEvent) (rig : RangingRig) :
    Except Refusal Unit × RangingRig :=
  rig.accept (rig.station.receive caller event)

def forward (limit : Option Nat) (rig : RangingRig) : Nat × RangingRig :=
  let (events, station) := rig.station.collect limit
  (events.length, events.foldl
    (fun rig event => (rig.receive rig.station.context.owner event).2) { rig with station })

/-- Runs every executor in the order of the names, then hands over all events. -/
def round (rig : RangingRig) : Nat × RangingRig :=
  let (ran, rig) := rig.runAll rig.executors.keys.toList
  let (moved, rig) := rig.forward none
  (ran + moved, rig)

/-- A client keeps the reactions it was made with. -/
def introduce (client : Option String) (reactions : List Reaction) (rig : RangingRig) : RangingRig :=
  match client with
  | none => rig
  | some name =>
    if rig.clients.contains name then rig
    else { rig with clients := rig.clients.insert name { reactions } }

def openSession (caller : ThreadId) (params : Params) (executor : String) (client : Option String)
    (rig : RangingRig) : Except Refusal Unit × RangingRig :=
  rig.accept (rig.station.openSession caller params executor client)

def useSession (client : String) (index : Nat) (c : ClientCommand) (rig : RangingRig) :
    Option ClientAnswer × RangingRig :=
  match (rig.clients.get? client).bind (·.sessions[index]?) with
  | none => (none, rig)
  | some s =>
    let (answer, rig) := rig.perform client s c
    (some answer, rig)

def act (executor : String) (action : Action) (rig : RangingRig) : Reply × RangingRig :=
  match action with
  | .script handles =>
    (.outcome (.ok ()), { rig with station.adapter := rig.station.adapter.script handles })
  | .refuseNextOpen reason =>
    (.outcome (.ok ()), { rig with station.adapter := rig.station.adapter.refuseNextOpen reason })
  | .refuse verb entries =>
    (.outcome (.ok ()),
      { rig with station.refusals := rig.station.refusals.append verb entries })
  | .dropOutbox =>
    (.outcome (.ok ()), { rig with station.adapter := rig.station.adapter.dropOutbox })
  | .openSession caller params client reactions =>
    let (outcome, rig) :=
      (rig.introduce client reactions).openSession caller params executor client
    (.outcome outcome, rig)
  | .event caller event =>
    let (outcome, rig) := rig.receive caller event
    (.outcome outcome, rig)
  | .session client index c =>
    let (answer, rig) := rig.useSession client index c
    (.answer answer, rig)
  | .run =>
    let (ran, rig) := rig.runExecutor executor
    (.moved ran, rig)
  | .forward limit =>
    let (moved, rig) := rig.forward limit
    (.moved moved, rig)
  | .pump =>
    let (moved, rig) := repeatRounds round manyRounds 0 rig
    (.moved moved, rig)

def step (s : Step) (rig : RangingRig) : Reply × RangingRig :=
  (rig.setExecutor s.executor (rig.executor s.executor)).act s.executor s.action

end RangingRig

end Rangelink
