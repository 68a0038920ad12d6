import Rangelink.NetworkRecord

/-! # Route selection

Reports about networks are folded into at most one record of the selected
network. One network is tracked at a time, and the owner hears of a record only
when it differs from the one it heard of last.
-/
namespace Rangelink

inductive NetworkChange where
  | available
  | capabilities (capabilities : Capabilities)
  | link (link : Link)
  | blocked (blocked : Bool)
  | suspended
  | resumed
  | lost
  deriving DecidableEq

structure NetworkEvent where
  network : NetworkId
  change : NetworkChange
  deriving DecidableEq

/-- The newly selected record, or nothing when no network is selected any more. -/
abbrev Notification := Option NetworkRecord

/-- A suspension or resumption after the last report of capabilities. -/
inductive Suspension where
  | suspended
  | resumed
  deriving DecidableEq, Repr

def Suspension.adjust : Option Suspension → Capabilities → Capabilities
  | none, cs => cs
  | some .suspended, cs => cs.release .notSuspended
  | some .resumed, cs => cs.require .notSuspended

/-- `inProgress` is the record under construction of the tracked network, `genuine` are its
capabilities as last reported, and `current` is the record the owner heard of last. -/
structure RouteSelection where
  inProgress : Option NetworkRecord.Draft := none
  genuine : Option Capabilities := none
  suspension : Option Suspension := none
  current : Option NetworkRecord := none
  deriving DecidableEq

namespace RouteSelection

def tracked (s : RouteSelection) : Option NetworkId := s.inProgress.map (·.network)

/-- The record under construction, if nothing is missing from it. -/
def candidate (s : RouteSelection) : Option NetworkRecord := s.inProgress.bind (·.record?)

def effective (s : RouteSelection) : Option Capabilities :=
  s.genuine.map (Suspension.adjust s.suspension)

def modifyDraft (f : NetworkRecord.Draft → NetworkRecord.Draft) (s : RouteSelection) :
    RouteSelection :=
  { s with inProgress := s.inProgress.map f }

def refresh (s : RouteSelection) : RouteSelection :=
  match s.effective with
  | none => s
  | some cs => s.modifyDraft (·.setCapabilities cs)

def note : NetworkChange → RouteSelection → RouteSelection
  | .capabilities cs, s => { s with genuine := some cs, suspension := none }.refresh
  | .suspended, s => { s with suspension := some .suspended }.refresh
  | .resumed, s => { s with suspension := some .resumed }.refresh
  | .link link, s => s.modifyDraft (·.setLink link)
  | .blocked blocked, s => s.modifyDraft (·.setBlocked blocked)
  | .available, s => s
  | .lost, s => s

/-- Notifies the owner of a complete record that it has not heard of last. -/
def announce (s : RouteSelection) : RouteSelection × Option Notification :=
  match s.candidate with
  | none => (s, none)
  | some r => if s.current = some r then (s, none) else ({ s with current := some r }, some (some r))

/-- Starts to track a network afresh, unless it is the tracked one. -/
def track (n : NetworkId) (s : RouteSelection) : RouteSelection :=
  if s.tracked = some n then s
  else { s with inProgress := some { network := n }, genuine := none, suspension := none }

/-- The loss of the tracked network, or of any while none is tracked, is always told. -/
def lose (n : NetworkId) (s : RouteSelection) : RouteSelection × Option Notification :=
  if s.tracked = some n ∨ s.tracked = none then ({}, some none) else (s, none)

/-- Reports about other networks than the tracked one are not listened to. -/
def update (n : NetworkId) (change : NetworkChange) (s : RouteSelection) :
    RouteSelection × Option Notification :=
  if s.tracked = some n then (s.note change).announce else (s, none)

/-- Folds one event in; the second part is what the owner must hear, if anything. -/
def apply (e : NetworkEvent) (s : RouteSelection) : RouteSelection × Option Notification :=
  match e.change with
  | .available => (s.track e.network, none)
  | .lost => s.lose e.network
  | change => s.update e.network change

end RouteSelection

end Rangelink
