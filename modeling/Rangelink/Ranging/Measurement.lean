import Rangelink.Binary64

/-! # Ranging reports

A report is a batch of measurements against remote devices.
-/
namespace Rangelink

inductive MeasurementStatus where
  | success
  | failureOutOfRange
  | failureUnknown
  deriving DecidableEq, Repr

/-- Distances are in metres, angles in degrees. -/
structure Measurement where
  peer : UInt16
  status : MeasurementStatus
  distance : Option Binary64
  azimuth : Option Binary64
  elevation : Option Binary64
  nanos : UInt64
  deriving DecidableEq, Repr

abbrev Report := List Measurement

/-- Whether two optional numbers are both absent or equal as numbers. -/
def optionalSame : Option Binary64 → Option Binary64 → Bool
  | none, none => true
  | some a, some b => a.same b
  | _, _ => false

def Measurement.same (a b : Measurement) : Bool :=
  a.peer == b.peer && a.status == b.status && optionalSame a.distance b.distance &&
  optionalSame a.azimuth b.azimuth && optionalSame a.elevation b.elevation && a.nanos == b.nanos

/-- Equality of reports in which numbers are compared as numbers. -/
def Report.same : Report → Report → Bool
  | [], [] => true
  | a :: as, b :: bs => a.same b && Report.same as bs
  | _, _ => false

end Rangelink
