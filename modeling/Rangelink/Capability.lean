import Rangelink.Order

/-! # Network capabilities

What a network can offer and a request can ask for, and the classes of
capabilities on which the rules about requests depend.
-/
namespace Rangelink

/-- Declared in the order in which sets of capabilities are listed. -/
inductive Capability where
  | mms
  | supl
  | dun
  | fota
  | ims
  | cbs
  | wifiP2p
  | ia
  | rcs
  | xcap
  | eims
  | notMetered
  | internet
  | notRestricted
  | trusted
  | notVpn
  | validated
  | captivePortal
  | notRoaming
  | foreground
  | notCongested
  | notSuspended
  | partialConnectivity
  | temporarilyNotMetered
  | notVcnManaged
  deriving DecidableEq, Repr

namespace Capability

def all : List Capability :=
  [.mms, .supl, .dun, .fota, .ims, .cbs, .wifiP2p, .ia, .rcs, .xcap, .eims, .notMetered,
   .internet, .notRestricted, .trusted, .notVpn, .validated, .captivePortal, .notRoaming,
   .foreground, .notCongested, .notSuspended, .partialConnectivity,
   .temporarilyNotMetered, .notVcnManaged]

instance : StrictOrder Capability :=
  .comap Capability.ctorIdx fun a b h => by
    rw [← Capability.ofNat_ctorIdx a, h, Capability.ofNat_ctorIdx b]

/-- Capabilities of dedicated services: a request for these alone is restricted. -/
def isRestricted : Capability → Bool
  | .cbs | .dun | .eims | .fota | .ia | .ims | .rcs | .xcap => true
  | _ => false

/-- Capabilities that keep a request unrestricted whatever else it asks for. -/
def isUnrestricted : Capability → Bool
  | .internet | .mms | .supl | .wifiP2p => true
  | _ => false

def isVcnSupported : Capability → Bool
  | .captivePortal | .dun | .foreground | .internet | .notCongested | .notMetered
  | .notRestricted | .notRoaming | .notSuspended | .notVpn | .partialConnectivity
  | .temporarilyNotMetered | .trusted | .validated => true
  | _ => false

/-- Capabilities that a new request asks for. -/
def defaults : List Capability := [.notRestricted, .trusted, .notVpn]

def name : Capability → String
  | .mms => "mms"
  | .supl => "supl"
  | .dun => "dun"
  | .fota => "fota"
  | .ims => "ims"
  | .cbs => "cbs"
  | .wifiP2p => "wifi_p2p"
  | .ia => "ia"
  | .rcs => "rcs"
  | .xcap => "xcap"
  | .eims => "eims"
  | .notMetered => "not_metered"
  | .internet => "internet"
  | .notRestricted => "not_restricted"
  | .trusted => "trusted"
  | .notVpn => "not_vpn"
  | .validated => "validated"
  | .captivePortal => "captive_portal"
  | .notRoaming => "not_roaming"
  | .foreground => "foreground"
  | .notCongested => "not_congested"
  | .notSuspended => "not_suspended"
  | .partialConnectivity => "partial_connectivity"
  | .temporarilyNotMetered => "temporarily_not_metered"
  | .notVcnManaged => "not_vcn_managed"

def ofName? (s : String) : Option Capability := all.find? fun c => c.name == s

theorem mem_all (c : Capability) : c ∈ all := by cases c <;> decide

theorem ofName?_name (c : Capability) : ofName? c.name = some c := by cases c <;> rfl

end Capability

inductive Transport where
  | cellular
  | wifi
  | bluetooth
  | ethernet
  | vpn
  deriving DecidableEq, Repr

instance : StrictOrder Transport :=
  .comap Transport.ctorIdx fun a b h => by
    rw [← Transport.ofNat_ctorIdx a, h, Transport.ofNat_ctorIdx b]

end Rangelink
