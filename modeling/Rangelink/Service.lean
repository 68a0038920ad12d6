import Rangelink.Provider
import Rangelink.Refusals

/-! # Connectivity service as a tracker sees it

The provider behind queues of refusals, and the identifiers that are left to be
drawn. No identifier is drawn twice, and every call is kept with its outcome.
-/
namespace Rangelink

inductive ServiceVerb where
  | file
  | withdraw
  deriving DecidableEq, Repr

instance : StrictOrder ServiceVerb :=
  .comap ServiceVerb.ctorIdx fun a b h => by
    rw [← ServiceVerb.ofNat_ctorIdx a, h, ServiceVerb.ofNat_ctorIdx b]

inductive ServiceCall where
  | file (filing : Filing)
  | withdraw (id : CallbackId)
  deriving DecidableEq

/-- A call and why it failed, if it did. -/
structure ServiceAttempt where
  call : ServiceCall
  failure : Option Failure
  deriving DecidableEq

/-- `drawn` counts the identifiers drawn so far, and `attempts` are the calls in order. -/
structure Service where
  provider : Provider := {}
  refusals : Refusals ServiceVerb := {}
  drawn : Nat := 0
  attempts : List ServiceAttempt := []
  deriving DecidableEq

namespace Service

def failureOf : Outcome → Option Failure
  | .ok _ => none
  | .error e => some e

/-- The next identifier. It is used up, whatever becomes of it. -/
def draw (s : Service) : CallbackId × Service := (.serial s.drawn, { s with drawn := s.drawn + 1 })

/-- Makes a call on the provider, unless the next call of its kind is to be refused. -/
def attempt (verb : ServiceVerb) (call : ServiceCall) (act : Provider → Outcome × Provider)
    (s : Service) : Outcome × Service :=
  let (refused, refusals) := s.refusals.next verb
  let (outcome, provider) : Outcome × Provider :=
    match refused with
    | some reason => (.error (.remote reason), s.provider)
    | none => act s.provider
  (outcome,
    { s with provider, refusals, attempts := s.attempts ++ [⟨call, failureOf outcome⟩] })

def file (filing : Filing) (s : Service) : Outcome × Service :=
  s.attempt .file (.file filing) (Provider.file filing)

def withdraw (id : CallbackId) (s : Service) : Outcome × Service :=
  s.attempt .withdraw (.withdraw id) (Provider.withdraw id)

def withdrawAll (ids : List CallbackId) (s : Service) : Outcome × Service :=
  attemptEach withdraw ids s

end Service

end Rangelink
