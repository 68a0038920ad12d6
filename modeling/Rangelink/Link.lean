/-! # Link properties

The network-layer view of a link. Addresses are kept as the canonical texts in
which they are reported.
-/
namespace Rangelink

structure LinkAddress where
  address : String
  prefixLength : UInt8
  deriving DecidableEq, Repr

structure Link where
  interfaceName : Option String := none
  addresses : List LinkAddress := []
  dnsServers : List String := []
  mtu : Option UInt32 := none
  deriving DecidableEq, Repr

def Link.named (interfaceName : String) : Link := { interfaceName := some interfaceName }

end Rangelink
