/-! # Reasons for a change of a session

The adapter reports a reason as a number. The client of a session is told a
reason of its own vocabulary; a number that nobody knows counts as unknown.
-/
namespace Rangelink

/-- A reason in the adapter's vocabulary, numbered from zero. -/
inductive ChangeReason where
  | unknown
  | localApi
  | maxSessionsReached
  | systemPolicy
  | remoteRequest
  | protocolSpecific
  | badParameters
  deriving DecidableEq, Repr

namespace ChangeReason

def ofCode? (code : Int32) : Option ChangeReason :=
  match code.toInt with
  | 0 => some .unknown
  | 1 => some .localApi
  | 2 => some .maxSessionsReached
  | 3 => some .systemPolicy
  | 4 => some .remoteRequest
  | 5 => some .protocolSpecific
  | 6 => some .badParameters
  | _ => none

def code : ChangeReason → Int32
  | .unknown => 0
  | .localApi => 1
  | .maxSessionsReached => 2
  | .systemPolicy => 3
  | .remoteRequest => 4
  | .protocolSpecific => 5
  | .badParameters => 6

theorem ofCode?_code (r : ChangeReason) : ofCode? r.code = some r := by cases r <;> decide

end ChangeReason

inductive CloseReason where
  | unknown
  | localRequest
  | remoteRequest
  | badParameters
  | genericError
  | maxSessionsReached
  | systemPolicy
  | protocolSpecificError
  deriving DecidableEq, Repr

namespace CloseReason

def code : CloseReason → Int32
  | .unknown => 0
  | .localRequest => 1
  | .remoteRequest => 2
  | .badParameters => 3
  | .genericError => 4
  | .maxSessionsReached => 5
  | .systemPolicy => 6
  | .protocolSpecificError => 7

def ofChange : ChangeReason → CloseReason
  | .unknown => .unknown
  | .localApi => .localRequest
  | .maxSessionsReached => .maxSessionsReached
  | .systemPolicy => .systemPolicy
  | .remoteRequest => .remoteRequest
  | .protocolSpecific => .protocolSpecificError
  | .badParameters => .badParameters

def ofCode (code : Int32) : CloseReason :=
  match ChangeReason.ofCode? code with
  | some r => ofChange r
  | none => .unknown

end CloseReason

end Rangelink
