import Rangelink.Capabilities

/-! # Network requests

A capability template together with the way the connectivity service treats it.
-/
namespace Rangelink

/-- The service decides the kind of an `unassigned` request when it is filed. -/
inductive RequestKind where
  | unassigned
  | listen
  | trackDefault
  | foreground
  | background
  | trackSystemDefault
  deriving DecidableEq, Repr

structure Request where
  capabilities : Capabilities
  kind : RequestKind := .unassigned
  deriving DecidableEq

namespace Request

def ofKind (kind : RequestKind) (r : Request) : Request := { r with kind := kind }

def isListen (r : Request) : Bool := r.kind == .listen

def keepsUp (r : Request) : Bool := r.kind == .foreground || r.kind == .background

def isBackground (r : Request) : Bool := r.kind == .background

def accepts (r : Request) (network : Capabilities) : Bool := r.capabilities.accepts network

end Request

end Rangelink
