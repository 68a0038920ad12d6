import Rangelink.Identifier
import Rangelink.Ranging.Measurement
import Rangelink.Ranging.Params

/-! # Ranging events

What the adapter reports of one session, under the handle of the session.
Failures and closings carry the adapter's own reason code.
-/
namespace Rangelink

inductive Occurrence where
  | opened
  | openFailed (reason : Int32) (params : Params)
  | started (params : Params)
  | startFailed (reason : Int32) (params : Params)
  | reconfigured (params : Params)
  | reconfigureFailed (reason : Int32) (params : Params)
  | stopped
  | stopFailed (reason : Int32) (params : Params)
  | closed (reason : Int32) (params : Params)
  | result (report : Report)
  deriving DecidableEq

def Occurrence.same : Occurrence → Occurrence → Bool
  | .result a, .result b => Report.same a b
  | a, b => a == b

structure RangingEvent where
  handle : Handle
  occurrence : Occurrence
  deriving DecidableEq

def RangingEvent.same (a b : RangingEvent) : Bool :=
  a.handle == b.handle && a.occurrence.same b.occurrence

end Rangelink
