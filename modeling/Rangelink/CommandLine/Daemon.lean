import Rangelink.Agent.Rig
import Rangelink.CommandLine.Arguments

/-! # Daemon

One run of the agent over the simulators: ranging sessions open, report and close
themselves while the events of a scenario drive the tracker, with an update of
the group halfway.
-/
namespace Rangelink

structure ClosingFigures where
  selectionChanges : Nat
  rangingReports : Nat
  filed : Nat
  withdrawn : Nat
  deriving DecidableEq, Repr

inductive LogLine where
  | starting
  | scenario (events : Nat) (seed : Option UInt64)
  | selection (n : Notification)
  | closing (figures : ClosingFigures)

namespace LogLine

def message : LogLine → String
  | .starting => "netwatch-agent starting"
  | .scenario _ _ => "scenario generated"
  | .selection (some _) => "selected underlying network"
  | .selection none => "no underlying network selected"
  | .closing _ => "shutting down"

def seedText : Option UInt64 → String
  | none => "None"
  | some seed => "Some(" ++ toString seed.toNat ++ ")"

def fields : LogLine → String
  | .starting => "version=" ++ Text.quoted "0.1.0"
  | .scenario events seed => "events=" ++ toString events ++ " seed=" ++ seedText seed
  | .selection none => ""
  | .selection (some r) =>
    "network=" ++ r.network.label ++
    " iface=" ++ Text.quoted (r.link.interfaceName.getD "-") ++
    " blocked=" ++ (if r.blocked then "true" else "false") ++
    " caps=" ++ toString r.capabilities.wanted.size
  | .closing f =>
    "selection_changes=" ++ toString f.selectionChanges ++
    " ranging_reports=" ++ toString f.rangingReports ++
    " filed=" ++ toString f.filed ++ " withdrawn=" ++ toString f.withdrawn

end LogLine

/-- What became of a run: the exit code, if the run ended, the log, and the complaint of a failed
run. -/
structure DaemonRun where
  exitCode : Option Nat
  log : List LogLine := []
  complaint : Option String := none

/-- The figures of the closing line, if the run came to it. -/
def DaemonRun.figures? (r : DaemonRun) : Option ClosingFigures :=
  r.log.findSome? fun line =>
    match line with
    | .closing f => some f
    | _ => none

/-- The action that sends a command. -/
def AgentCommand.action : AgentCommand → AgentRig.Action
  | .network id event => .network (.callback id) event
  | .ranging event => .ranging event
  | .snapshot subscriptions => .snapshot subscriptions
  | .shutdown => .shutdown

namespace Daemon

/-- The events under the route-selection identifier, the update before the event in the middle,
and a shutdown. -/
def feed (route : CallbackId) (events : List NetworkEvent) (update : Option Snapshot) :
    List AgentCommand :=
  let half := events.length / 2
  let commands := events.map (AgentCommand.network route)
  let middle := if events.isEmpty then [] else (update.map AgentCommand.snapshot).toList
  commands.take half ++ middle ++ commands.drop half ++ [.shutdown]

/-- A ticker without an interval fails, and then the feeder sends nothing. -/
def feeder (config : Config) (route : CallbackId) (events : List NetworkEvent) :
    List AgentCommand :=
  if config.eventIntervalMs = 0 then []
  else feed route events config.resubscribeSnapshot?

/-- Sends commands one after another. Ranging comes to rest before the first and after each. -/
def schedule (commands : List AgentCommand) : List AgentRig.Action :=
  .pump :: commands.flatMap fun c => [c.action, .pump]

def figures (rig : AgentRig) : ClosingFigures where
  selectionChanges := rig.agent.changes
  rangingReports := rig.reports.foldl (fun total n => total + n) 0
  filed := rig.agent.service.provider.filed.length
  withdrawn := rig.agent.service.provider.withdrawn.length

def refusalText : Refusal → String
  | .failed failure => failure.message
  | .offContext => "called off the sequencing context"

def failed (log : List LogLine) (reason : String) : DaemonRun :=
  { exitCode := some 1, log, complaint := some ("Error: " ++ reason) }

/-- Runs what is left to run and closes, if the loop has ended. -/
def conclude (log : List LogLine) (rig : AgentRig) : DaemonRun :=
  let rig := rig.run.2
  let log := log ++ rig.agent.told.map .selection
  match rig.finished with
  | none => { exitCode := none, log }
  | some (.ok ()) => { exitCode := some 0, log := log ++ [.closing (figures rig)] }
  | some (.error e) => failed log (refusalText e)

/-- A run under a configuration. A scenario without a seed is drawn from the word given, and the run
gets no further than the drawing of it. -/
def run (config : Config) (entropy : UInt64) : DaemonRun :=
  let log := [LogLine.starting]
  match config.required with
  | .error reason => failed log reason
  | .ok required =>
    let adapter := Adapter.reporting (config.reports + 1).toNat
    match (Agent.start config.group config.initialSnapshot required adapter {} {}).1 with
    | .error e => failed log (refusalText e)
    | .ok agent =>
      let rig := AgentRig.launch config.sessions.toNat config.reports.toNat agent
      match rig.opened, rig.route with
      | .error e, _ => failed log (refusalText e)
      | .ok (), none => failed log "route selection was not filed"
      | .ok (), some route =>
        match Scenario.generate? config.scenario entropy with
        | none => { exitCode := none, log }
        | some events =>
          let log := log ++ [.scenario events.length config.seed]
          conclude log (rig.after (schedule (feeder config route events)))

/-- A run as the command line asks for it. Help ends a run at once, a usage error with code 2. -/
def runArguments (args : List String) (entropy : UInt64) : DaemonRun :=
  match Config.ofArguments args with
  | .error .helpRequested => { exitCode := some 0 }
  | .error _ => { exitCode := some 2 }
  | .ok config => run config entropy

end Daemon

end Rangelink
