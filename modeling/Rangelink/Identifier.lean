import Rangelink.Order
import Rangelink.Text.Numeral

/-! # Identifiers

Networks, subscriptions and sessions are numbered by the services that own
them. Groups and filed callbacks carry 128-bit identifiers; an identifier that is
drawn for a callback is numbered by its place among those drawn.
-/
namespace Rangelink

structure NetworkId where
  number : UInt32
  deriving DecidableEq, Repr

def NetworkId.label (n : NetworkId) : String := "net" ++ toString n.number.toNat

structure SubscriptionId where
  number : Int32
  deriving DecidableEq, Repr

def SubscriptionId.label (s : SubscriptionId) : String := "sub" ++ Text.int32Text s.number

instance : StrictOrder SubscriptionId :=
  .comap SubscriptionId.number fun a b h => by cases a; cases b; simp_all

/-- Handle of a ranging session, assigned by the adapter. -/
structure Handle where
  number : Int32
  deriving DecidableEq, Repr

def Handle.label (h : Handle) : String := "session#" ++ Text.int32Text h.number

instance : StrictOrder Handle :=
  .comap Handle.number fun a b h => by cases a; cases b; simp_all

structure Uuid where
  bits : BitVec 128
  deriving DecidableEq, Repr

namespace Uuid

instance : StrictOrder Uuid :=
  .comap (fun u => u.bits.toNat) fun a b h => by
    cases a; cases b; simpa [BitVec.toNat_inj] using h

def zero : Uuid := ⟨0⟩

def hexValue? (c : Char) : Option Nat :=
  if '0'.toNat ≤ c.toNat ∧ c.toNat ≤ '9'.toNat then some (c.toNat - '0'.toNat)
  else if 'a'.toNat ≤ c.toNat ∧ c.toNat ≤ 'f'.toNat then some (c.toNat - 'a'.toNat + 10)
  else if 'A'.toNat ≤ c.toNat ∧ c.toNat ≤ 'F'.toNat then some (c.toNat - 'A'.toNat + 10)
  else none

/-- The identifier written by 32 hexadecimal digits of either case. -/
def ofDigits? (cs : List Char) : Option Uuid :=
  if cs.length = 32 then
    (cs.foldlM (fun acc c => (hexValue? c).map fun d => 16 * acc + d) 0).map fun n => ⟨BitVec.ofNat 128 n⟩
  else none

/-- Takes the hyphens out of groups of 8, 4, 4, 4 and 12 characters. -/
def ungroup? (cs : List Char) : Option (List Char) :=
  if cs.length = 36 ∧ [8, 13, 18, 23].all (fun i => cs[i]? == some '-') then
    some (cs.take 8 ++ (cs.drop 9).take 4 ++ (cs.drop 14).take 4 ++ (cs.drop 19).take 4 ++ cs.drop 24)
  else none

/-- Takes the braces, or the name-space tag in letters of either case, off a grouped identifier. -/
def unwrap (cs : List Char) : List Char :=
  let tag := "urn:uuid:".toList
  if cs.head? = some '\x7b' ∧ cs.length = 38 ∧ cs.getLast? = some '\x7d' then cs.tail.dropLast
  else if tag.isPrefixOf (cs.map Char.toLower) then cs.drop tag.length
  else cs

/-- Reads an identifier: plain digits, or groups that may stand in braces or after a tag. -/
def ofText? (s : String) : Option Uuid :=
  match ofDigits? s.toList with
  | some u => some u
  | none => (ungroup? (unwrap s.toList)).bind ofDigits?

def digits (u : Uuid) : List Char :=
  let ds := Nat.toDigits 16 u.bits.toNat
  List.replicate (32 - ds.length) '0' ++ ds

def text (u : Uuid) : String :=
  let ds := u.digits
  let group (start length : Nat) := String.ofList ((ds.drop start).take length)
  "-".intercalate [group 0 8, group 8 4, group 12 4, group 16 4, group 20 12]

end Uuid

inductive CallbackId where
  | serial (place : Nat)
  | foreign (id : Uuid)
  deriving DecidableEq, Repr

namespace CallbackId

def text : CallbackId → String
  | .serial n => "cb" ++ toString n
  | .foreign u => u.text

/-- Reads a serial number after `cb`, and any other text as a 128-bit identifier. -/
def ofText? (s : String) : Option CallbackId :=
  match s.toList with
  | 'c' :: 'b' :: rest =>
    match Text.digits? rest with
    | some n => some (.serial n)
    | none => (Uuid.ofText? s).map .foreign
  | _ => (Uuid.ofText? s).map .foreign

/-- Serial numbers come before foreign identifiers. -/
def precedes : CallbackId → CallbackId → Bool
  | .serial a, .serial b => StrictOrder.precedes a b
  | .serial _, .foreign _ => true
  | .foreign _, .serial _ => false
  | .foreign a, .foreign b => StrictOrder.precedes a b

instance : StrictOrder CallbackId where
  precedes := precedes
  precedes_irrefl a := by cases a <;> simp [precedes, StrictOrder.precedes_irrefl]
  precedes_trans {a b c} h₁ h₂ := by
    cases a <;> cases b <;> cases c <;> simp_all only [precedes] <;>
      first | exact StrictOrder.precedes_trans h₁ h₂ | simp_all
  eq_of_not_precedes {a b} h₁ h₂ := by
    cases a <;> cases b <;> simp_all only [precedes] <;>
      first | exact congrArg _ (StrictOrder.eq_of_not_precedes h₁ h₂) | simp_all

end CallbackId

end Rangelink
