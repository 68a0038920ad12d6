import Rangelink.Ranging.Station

/-! # Ranging handlers

The client that the agent gives every session it opens: it starts the session as
soon as it is open and closes it after a number of reports.
-/
namespace Rangelink

structure RangingHandler where
  startParams : Params
  closeAfter : Nat
  reports : Nat := 0
  session : Option Session := none
  deriving DecidableEq

namespace RangingHandler

def order (c : SessionCommand) (h : RangingHandler) : Option (Session × SessionCommand) :=
  h.session.map fun s => (s, c)

/-- The handler after a notice, and the command with which it answers. -/
def hear (notice : Notice) (h : RangingHandler) :
    RangingHandler × Option (Session × SessionCommand) :=
  match notice with
  | .opened s => ({ h with session := some s }, some (s, .start h.startParams))
  | .startFailed _ _ => (h, h.order .close)
  | .closed _ _ => ({ h with session := none }, none)
  | .report _ =>
    ({ h with reports := h.reports + 1 },
      if h.reports + 1 = h.closeAfter then h.order .close else none)
  | _ => (h, none)

end RangingHandler

end Rangelink
