import Rangelink.Agent
import Rangelink.Rounds
import Rangelink.Tracker.Rig

/-! # Agent rig

An agent whose commands are sent one by one. Every command is taken in as soon as
it is sent, until the loop has ended or the channel is closed.
-/
namespace Rangelink

/-- `opened` is how the opening of the sessions went, `finished` how the loop ended, if it has, and
`route` the identifier under which route selection was filed. -/
structure AgentRig where
  agent : Agent
  opened : Except Refusal Unit
  finished : Option (Except Refusal Unit) := none
  route : Option CallbackId

namespace AgentRig

inductive Action where
  | network (addressee : Addressee) (event : NetworkEvent)
  | ranging (event : RangingEvent)
  | snapshot (snapshot : Snapshot)
  | shutdown
  | closeChannel
  | run
  | forward (limit : Option Nat)
  | pump
  | refuseService (verb : ServiceVerb) (entries : List (Option String))
  | refuseAdapter (verb : AdapterVerb) (entries : List (Option String))

/-- Whether a command was sent, how much was moved, or that there is nothing to say. -/
inductive Reply where
  | sent (accepted : Bool)
  | moved (count : Nat)
  | done

def launch (sessions closeAfter : Nat) (a : Agent) : AgentRig :=
  let (opened, agent) := Agent.openSessions closeAfter (List.range sessions) a
  { agent, opened, route := agent.tracker.route }

def finish (rig : AgentRig) : AgentRig :=
  match rig.finished with
  | some _ => rig
  | none =>
    let (outcome, agent) := rig.agent.teardown
    { rig with agent, finished := some outcome }

/-- Has the loop take in one command; nothing happens once the loop has ended. -/
def take (rig : AgentRig) (command : AgentCommand) : AgentRig :=
  match rig.finished, command with
  | some _, _ => rig
  | none, .shutdown => rig.finish
  | none, command => { rig with agent := rig.agent.handle command }

def send (command : AgentCommand) (rig : AgentRig) : Reply × AgentRig :=
  (.sent rig.finished.isNone, rig.take command)

def run (rig : AgentRig) : Nat × AgentRig :=
  let (ran, agent) := rig.agent.runTasks
  (ran, { rig with agent })

def forward (limit : Option Nat) (rig : AgentRig) : Nat × AgentRig :=
  let (commands, agent) := rig.agent.collect limit
  (commands.length, commands.foldl take { rig with agent })

def round (rig : AgentRig) : Nat × AgentRig :=
  let (ran, rig) := rig.run
  let (moved, rig) := rig.forward none
  (ran + moved, rig)

/-- The counts of the handlers, which nobody holds if the sessions could not be opened. -/
def reports (rig : AgentRig) : List Nat :=
  match rig.opened with
  | .ok () => rig.agent.reports
  | .error _ => []

def step (action : Action) (rig : AgentRig) : Reply × AgentRig :=
  match action with
  | .network addressee event => rig.send (.network (addressee.resolve rig.route) event)
  | .ranging event => rig.send (.ranging event)
  | .snapshot snapshot => rig.send (.snapshot snapshot)
  | .shutdown => rig.send .shutdown
  | .closeChannel => (.done, rig.finish)
  | .run =>
    let (ran, rig) := rig.run
    (.moved ran, rig)
  | .forward limit =>
    let (moved, rig) := rig.forward limit
    (.moved moved, rig)
  | .pump =>
    let (moved, rig) := repeatRounds round manyRounds 0 rig
    (.moved moved, rig)
  | .refuseService verb entries =>
    (.done,
      { rig with agent.service.refusals := rig.agent.service.refusals.append verb entries })
  | .refuseAdapter verb entries =>
    (.done,
      { rig with agent.station.refusals := rig.agent.station.refusals.append verb entries })

def after (actions : List Action) (rig : AgentRig) : AgentRig :=
  actions.foldl (fun rig x => (rig.step x).2) rig

end AgentRig

end Rangelink
