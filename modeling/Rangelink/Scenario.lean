import Rangelink.RouteSelection
import Rangelink.Scenario.Generator

/-! # Network scenarios

A plausible sequence of events for one network. It opens with the burst in which
a network comes up and goes on with changes of capabilities, link, suspension and
blocking that are drawn at random.
-/
namespace Rangelink

structure ScenarioConfig where
  network : NetworkId := ⟨100⟩
  interfaceName : String := "rmnet0"
  steps : Nat := 0
  duplicate : Binary64 := ⟨0⟩
  suspend : Binary64 := ⟨0⟩
  blocked : Binary64 := ⟨0⟩
  loseAtEnd : Bool := false
  seed : Option UInt64 := none
  deriving DecidableEq, Repr

namespace ScenarioConfig

def steady : ScenarioConfig := {}

/-- A busy link with probabilities 0.25, 0.15 and 0.1, lost at the end. -/
def flapping (steps : Nat) : ScenarioConfig where
  steps := steps
  duplicate := ⟨0x3fd0000000000000⟩
  suspend := ⟨0x3fc3333333333333⟩
  blocked := ⟨0x3fb999999999999a⟩
  loseAtEnd := true

end ScenarioConfig

namespace Scenario

inductive Turn where
  | duplicate
  | suspension
  | blocking
  | toggle (c : Capability)
  | mtu (value : UInt32)
  deriving DecidableEq, Repr

def smallestMtu : Nat := 1280

section Turns
variable {σ : Type}

/-- Draws one step; nothing if nothing comes of one of its draws. -/
def draw (draws : Draws σ) (config : ScenarioConfig) (s : σ) : Option (Turn × σ) := do
  let (duplicate, s) ← draws.chance config.duplicate s
  if duplicate then return (.duplicate, s)
  let (suspend, s) ← draws.chance config.suspend s
  if suspend then return (.suspension, s)
  let (blocked, s) ← draws.chance config.blocked s
  if blocked then return (.blocking, s)
  let (capability, s) ← draws.chance .half s
  if capability then
    let (validated, s) ← draws.chance .half s
    return (.toggle (if validated then .validated else .notMetered), s)
  let (n, s) ← draws.below 221 s
  return (.mtu (UInt32.ofNat (smallestMtu + n)), s)

def drawAll (draws : Draws σ) (config : ScenarioConfig) : Nat → σ → Option (List Turn)
  | 0, _ => some []
  | steps + 1, s => do
    let (turn, s) ← draw draws config s
    let turns ← drawAll draws config steps s
    return turn :: turns

end Turns

structure Scene where
  capabilities : Capabilities
  link : Link
  blocked : Bool := false
  suspended : Bool := false
  deriving DecidableEq

namespace Scene

def opening (interfaceName : String) : Scene where
  capabilities :=
    { ((((({} : Capabilities).require .internet).require .notSuspended).require .notVpn).require
        .notRoaming).addTransport .cellular with up := 10000, down := 50000 }
  link :=
    { interfaceName := some interfaceName
      addresses := [⟨"10.0.0.2", 24⟩]
      dnsServers := ["10.0.0.1"]
      mtu := some 1500 }

def burst (s : Scene) : List NetworkChange :=
  [.available, .capabilities s.capabilities, .link s.link, .blocked s.blocked]

def toggled (c : Capability) (cs : Capabilities) : Capabilities :=
  if cs.has c then cs.release c else cs.require c

def after : Turn → Scene → Scene
  | .duplicate, s => s
  | .suspension, s => { s with suspended := !s.suspended }
  | .blocking, s => { s with blocked := !s.blocked }
  | .toggle c, s => { s with capabilities := toggled c s.capabilities }
  | .mtu value, s => { s with link := { s.link with mtu := some value } }

/-- What is reported of a step, in the scene after it. -/
def report : Turn → Scene → NetworkChange
  | .duplicate, s => .capabilities s.capabilities
  | .suspension, s => if s.suspended then .suspended else .resumed
  | .blocking, s => .blocked s.blocked
  | .toggle _, s => .capabilities s.capabilities
  | .mtu _, s => .link s.link

def play : List Turn → Scene → List NetworkChange
  | [], _ => []
  | turn :: turns, s => (s.after turn).report turn :: play turns (s.after turn)

end Scene

/-- The events of a scenario whose steps are given. -/
def events (config : ScenarioConfig) (turns : List Turn) : List NetworkEvent :=
  let scene := Scene.opening config.interfaceName
  let last := if config.loseAtEnd then [NetworkChange.lost] else []
  (scene.burst ++ scene.play turns ++ last).map fun change => ⟨config.network, change⟩

/-- The events of a scenario that is drawn from a state. -/
def generateFrom? {σ : Type} (draws : Draws σ) (config : ScenarioConfig) (s : σ) :
    Option (List NetworkEvent) :=
  (drawAll draws config config.steps s).map (events config)

/-- The events of a scenario drawn from its seed, or from the word given where it has none. -/
def generate? (config : ScenarioConfig) (entropy : UInt64) : Option (List NetworkEvent) :=
  generateFrom? Generator.draws config (.ofSeed (config.seed.getD entropy))

end Scenario

namespace RouteSelection

/-- The notifications with the place of the event that brought each of them. -/
def replay : Nat → RouteSelection → List NetworkEvent → List (Nat × Notification)
  | _, _, [] => []
  | place, s, e :: rest =>
    match s.apply e with
    | (s, some n) => (place, n) :: replay (place + 1) s rest
    | (s, none) => replay (place + 1) s rest

end RouteSelection

end Rangelink
