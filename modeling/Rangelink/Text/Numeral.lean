/-! # Decimal integers

An integer is written as an optional sign and one or more ASCII digits; leading
zeros are allowed. Nothing else is read as a number.
-/
namespace Rangelink.Text

def digit? (c : Char) : Option Nat :=
  if '0'.toNat ≤ c.toNat ∧ c.toNat ≤ '9'.toNat then some (c.toNat - '0'.toNat) else none

/-- The value of digits that follow a number already read. -/
def digitsFrom (acc : Nat) : List Char → Option Nat
  | [] => some acc
  | c :: rest => (digit? c).bind fun d => digitsFrom (10 * acc + d) rest

def digits? : List Char → Option Nat
  | [] => none
  | c :: rest => digitsFrom 0 (c :: rest)

def signed? : List Char → Option Int
  | '+' :: rest => (digits? rest).map Int.ofNat
  | '-' :: rest => (digits? rest).map fun n => -Int.ofNat n
  | cs => (digits? cs).map Int.ofNat

def unsigned? : List Char → Option Nat
  | '+' :: rest => digits? rest
  | cs => digits? cs

/-- The signed 32-bit integer that a text spells. -/
def int32? (s : String) : Option Int32 :=
  (signed? s.toList).bind fun v =>
    if Int32.minValue.toInt ≤ v ∧ v ≤ Int32.maxValue.toInt then some (Int32.ofInt v) else none

/-- The unsigned 64-bit integer that a text spells. -/
def word? (s : String) : Option UInt64 :=
  (unsigned? s.toList).bind fun n => if n < UInt64.size then some (UInt64.ofNat n) else none

def int32Text (i : Int32) : String := toString i.toInt

end Rangelink.Text
