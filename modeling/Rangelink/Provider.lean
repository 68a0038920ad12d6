import Rangelink.Attempt
import Rangelink.Request
import Rangelink.SortedMap

/-! # Connectivity provider

An in-process connectivity service. It records the callbacks that are filed and
withdrawn, refuses to file an identifier twice or to withdraw an unknown one,
and can be armed to refuse a call.
-/
namespace Rangelink

/-- Bring-ups keep a candidate network up; route selection reports the best network. -/
inductive CallbackKind where
  | bringup
  | routeSelection
  deriving DecidableEq, Repr

structure Filing where
  id : CallbackId
  kind : CallbackKind
  request : Request
  deriving DecidableEq

/-- `active` is in the order of filing; `filed` and `withdrawn` list all accepted calls. -/
structure Provider where
  active : List Filing := []
  filed : List Filing := []
  withdrawn : List Filing := []
  dueRefusal : Option (Nat × String) := none
  withdrawalRefusal : Option String := none
  deriving DecidableEq

namespace Provider

def refuseRequestAfter (skip : Nat) (reason : String) (p : Provider) : Provider :=
  { p with dueRefusal := some (skip, reason) }

def refuseNextWithdrawal (reason : String) (p : Provider) : Provider :=
  { p with withdrawalRefusal := some reason }

def isActive (id : CallbackId) (p : Provider) : Bool := p.active.any (·.id == id)

/-- The refusal that is due now, and the provider with the count taken down by one. -/
def takeDueRefusal (p : Provider) : Option String × Provider :=
  match p.dueRefusal with
  | none => (none, p)
  | some (0, reason) => (some reason, { p with dueRefusal := none })
  | some (skip + 1, reason) => (none, { p with dueRefusal := some (skip, reason) })

/-- Takes a callback on, unless a refusal is due or its identifier is active. -/
def file (f : Filing) (p : Provider) : Outcome × Provider :=
  match p.takeDueRefusal with
  | (some reason, p) => (.error (.remote reason), p)
  | (none, p) =>
    if p.isActive f.id then
      (.error (.remote ("callback " ++ f.id.text ++ " already registered")), p)
    else (.ok (), { p with active := p.active ++ [f], filed := p.filed ++ [f] })

/-- Lets a callback go, unless a refusal is armed or its identifier is not active. -/
def withdraw (id : CallbackId) (p : Provider) : Outcome × Provider :=
  match p.withdrawalRefusal with
  | some reason => (.error (.remote reason), { p with withdrawalRefusal := none })
  | none =>
    match p.active.find? (·.id == id) with
    | some f =>
      (.ok (), { p with
        active := p.active.filter (fun g => !(g.id == id)), withdrawn := p.withdrawn ++ [f] })
    | none => (.error (.unknownCallback id), p)

def activeIds (p : Provider) : List CallbackId := p.active.map (·.id)

def sortedIds (p : Provider) : List CallbackId := (SortedSet.ofList p.activeIds).toList

def hasActive (kind : CallbackKind) (request : Request) (p : Provider) : Bool :=
  p.active.any fun f => f.kind == kind && f.request == request

def routeSelections (p : Provider) : List CallbackId :=
  (p.active.filter (·.kind == .routeSelection)).map (·.id)

def filedCount (kind : CallbackKind) (p : Provider) : Nat := p.filed.countP (·.kind == kind)

def withdrawnCount (kind : CallbackKind) (p : Provider) : Nat :=
  p.withdrawn.countP (·.kind == kind)

end Provider

end Rangelink
