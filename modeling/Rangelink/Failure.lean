import Rangelink.Identifier

/-! # Failures

Why a call on the ranging adapter, the connectivity service or a session did
not succeed, and why a call was turned away before it began.
-/
namespace Rangelink

inductive Failure where
  | remote (reason : String)
  | unknownCallback (id : CallbackId)
  | invalidSpecifier (reason : String)
  | sessionClosed (handle : Handle)
  deriving DecidableEq, Repr

def Failure.message : Failure → String
  | .remote reason => "remote call failed: " ++ reason
  | .unknownCallback id => "callback not registered: " ++ id.text
  | .invalidSpecifier reason => "invalid network specifier: " ++ reason
  | .sessionClosed handle => "session closed: " ++ handle.label

/-- A call either failed, or was made off the thread that owns the component. -/
inductive Refusal where
  | failed (failure : Failure)
  | offContext
  deriving DecidableEq, Repr

/-- The earlier of two outcomes decides, unless it was a success. -/
def firstFailure {ε : Type} : Except ε Unit → Except ε Unit → Except ε Unit
  | .ok _, later => later
  | .error e, _ => .error e

end Rangelink
