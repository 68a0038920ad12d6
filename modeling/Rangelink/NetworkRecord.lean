import Rangelink.Capabilities
import Rangelink.Link

/-! # Records of the selected network

A record holds all that is reported of a network. A draft collects the parts as
they arrive and becomes a record once none is missing.
-/
namespace Rangelink

structure NetworkRecord where
  network : NetworkId
  capabilities : Capabilities
  link : Link
  blocked : Bool
  deriving DecidableEq

namespace NetworkRecord

structure Draft where
  network : NetworkId
  capabilities : Option Capabilities := none
  link : Option Link := none
  blocked : Option Bool := none
  deriving DecidableEq

namespace Draft

def setCapabilities (cs : Capabilities) (d : Draft) : Draft := { d with capabilities := some cs }

def setLink (link : Link) (d : Draft) : Draft := { d with link := some link }

def setBlocked (blocked : Bool) (d : Draft) : Draft := { d with blocked := some blocked }

def isComplete (d : Draft) : Bool := d.capabilities.isSome && d.link.isSome && d.blocked.isSome

def record? (d : Draft) : Option NetworkRecord :=
  match d.capabilities, d.link, d.blocked with
  | some cs, some link, some blocked => some ⟨d.network, cs, link, blocked⟩
  | _, _, _ => none

theorem isSome_record? (d : Draft) : d.record?.isSome = d.isComplete := by
  obtain ⟨_, _ | _, _ | _, _ | _⟩ := d <;> rfl

end Draft

end NetworkRecord

end Rangelink
