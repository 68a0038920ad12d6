import Rangelink.Capability
import Rangelink.Identifier
import Rangelink.SortedSet

/-! # Capability sets

What a network offers, or what a request asks for: capabilities that are wanted
or unwanted, transports, one specifier, and bandwidths. Every change keeps a
capability from being wanted and unwanted at once.
-/
namespace Rangelink

/-- Narrows a request to one network. -/
inductive Specifier where
  | telephony (subscription : SubscriptionId)
  | text (value : String)
  | matchAll
  deriving DecidableEq, Repr

/-- Bandwidths are in kilobits per second. -/
structure Capabilities where
  wanted : SortedSet Capability := .empty
  unwanted : SortedSet Capability := .empty
  transports : SortedSet Transport := .empty
  specifier : Option Specifier := none
  up : UInt32 := 0
  down : UInt32 := 0
  deriving DecidableEq

namespace Capabilities

def has (cs : Capabilities) (c : Capability) : Bool := cs.wanted.contains c

def hasUnwanted (cs : Capabilities) (c : Capability) : Bool := cs.unwanted.contains c

def hasTransport (cs : Capabilities) (t : Transport) : Bool := cs.transports.contains t

def require (c : Capability) (cs : Capabilities) : Capabilities :=
  { cs with wanted := cs.wanted.insert c, unwanted := cs.unwanted.erase c }

def forbid (c : Capability) (cs : Capabilities) : Capabilities :=
  { cs with wanted := cs.wanted.erase c, unwanted := cs.unwanted.insert c }

/-- Makes a capability neither wanted nor unwanted. -/
def release (c : Capability) (cs : Capabilities) : Capabilities :=
  { cs with wanted := cs.wanted.erase c, unwanted := cs.unwanted.erase c }

def addTransport (t : Transport) (cs : Capabilities) : Capabilities :=
  { cs with transports := cs.transports.insert t }

def removeTransport (t : Transport) (cs : Capabilities) : Capabilities :=
  { cs with transports := cs.transports.erase t }

def specify (s : Option Specifier) (cs : Capabilities) : Capabilities := { cs with specifier := s }

def setUp (kbps : UInt32) (cs : Capabilities) : Capabilities := { cs with up := kbps }

def setDown (kbps : UInt32) (cs : Capabilities) : Capabilities := { cs with down := kbps }

def isRestricted (cs : Capabilities) : Bool :=
  cs.wanted.any Capability.isRestricted && !cs.wanted.any Capability.isUnrestricted

/-- A restricted set does not ask for a network that is open to all. -/
def markRestricted (cs : Capabilities) : Capabilities :=
  if cs.isRestricted then { cs with wanted := cs.wanted.erase .notRestricted } else cs

inductive Edit where
  | require (c : Capability)
  | forbid (c : Capability)
  | release (c : Capability)
  | addTransport (t : Transport)
  | removeTransport (t : Transport)
  | specify (s : Option Specifier)
  | setUp (kbps : UInt32)
  | setDown (kbps : UInt32)
  | clear
  | markRestricted
  deriving DecidableEq

def edit : Edit → Capabilities → Capabilities
  | .require c, cs => cs.require c
  | .forbid c, cs => cs.forbid c
  | .release c, cs => cs.release c
  | .addTransport t, cs => cs.addTransport t
  | .removeTransport t, cs => cs.removeTransport t
  | .specify s, cs => cs.specify s
  | .setUp kbps, cs => cs.setUp kbps
  | .setDown kbps, cs => cs.setDown kbps
  | .clear, _ => {}
  | .markRestricted, cs => cs.markRestricted

/-- Whether a specifier asked for lets a network's own specifier through. -/
def specifierAccepts : Option Specifier → Option Specifier → Bool
  | none, _ => true
  | some .matchAll, _ => true
  | some s, offered => offered == some s

/-- Whether a network meets this set as a template: it has every wanted capability, no unwanted
one, one of the transports if any is named, the specifier, and at least the bandwidths. -/
def accepts (template network : Capabilities) : Bool :=
  template.wanted.subset network.wanted &&
  template.unwanted.disjoint network.wanted &&
  (template.transports.isEmpty || !template.transports.disjoint network.transports) &&
  specifierAccepts template.specifier network.specifier &&
  decide (template.up ≤ network.up) && decide (template.down ≤ network.down)

end Capabilities

end Rangelink
