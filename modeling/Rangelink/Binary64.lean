/-! # Binary floating-point numbers of 64 bits

Numbers are kept as their bit patterns: one sign bit, eleven exponent bits and
52 fraction bits. They are compared as numbers and made from exact values.
-/
namespace Rangelink

def powerOfTwo (n : Nat) : Nat := Nat.pow 2 n

structure Binary64 where
  bits : UInt64
  deriving DecidableEq, Repr

namespace Binary64

def exponentBits (x : Binary64) : Nat := x.bits.toNat / powerOfTwo 52 % powerOfTwo 11

def fractionBits (x : Binary64) : Nat := x.bits.toNat % powerOfTwo 52

def isNegative (x : Binary64) : Bool := x.bits.toNat / powerOfTwo 63 == 1

def isNaN (x : Binary64) : Bool := x.exponentBits == powerOfTwo 11 - 1 && x.fractionBits != 0

def isZero (x : Binary64) : Bool := x.bits.toNat % powerOfTwo 63 == 0

/-- Equality of numbers: the two zeros are equal, and what is no number equals nothing. -/
def same (x y : Binary64) : Bool :=
  !x.isNaN && !y.isNaN && (x.bits == y.bits || (x.isZero && y.isZero))

def one : Binary64 := ⟨0x3ff0000000000000⟩

def half : Binary64 := ⟨0x3fe0000000000000⟩

def inUnitInterval (x : Binary64) : Bool :=
  x.isZero || (!x.isNegative && decide (x.bits < one.bits))

/-- The whole part of the number times a power of two, for a number that is not negative. -/
def scaledFloor (x : Binary64) (power : Nat) : Nat :=
  let significand := if x.exponentBits = 0 then x.fractionBits else powerOfTwo 52 + x.fractionBits
  let exponent := if x.exponentBits = 0 then 1 else x.exponentBits
  significand * powerOfTwo (exponent + power) / powerOfTwo 1075

/-- A quarter of a whole number, which is exact below 2^53. -/
def ofQuarters (n : Int) : Binary64 :=
  let m := n.natAbs
  if m = 0 then ⟨0⟩
  else
    let top := m.log2
    let fraction := m * powerOfTwo 52 / powerOfTwo top % powerOfTwo 52
    let sign := if n < 0 then powerOfTwo 63 else 0
    ⟨UInt64.ofNat (sign + (top + 1021) * powerOfTwo 52 + fraction)⟩

def ofInt (n : Int) : Binary64 := ofQuarters (4 * n)

end Binary64

end Rangelink
