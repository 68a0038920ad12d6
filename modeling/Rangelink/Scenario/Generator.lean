import Rangelink.Binary64

/-! # Pseudo-random words

A generator of 64-bit words with four words of state (xoshiro256++), seeded from
one word, and the draws that are made with it.
-/
namespace Rangelink

def rotateLeft (x : UInt64) (k : UInt64) : UInt64 := (x <<< k) ||| (x >>> (64 - k))

structure Generator where
  s0 : UInt64
  s1 : UInt64
  s2 : UInt64
  s3 : UInt64
  deriving DecidableEq, Repr

namespace Generator

/-- One step of the linear congruence that fills the state. -/
def congruence (s : UInt64) : UInt64 := s * 6364136223846793005 + 11634580027462260723

def seedWord (s : UInt64) : UInt64 :=
  let x := (((s >>> 18) ^^^ s) >>> 27).toUInt32
  let k := (s >>> 59).toUInt32
  ((x >>> k) ||| (x <<< (32 - k))).toUInt64

/-- The next word of the state from two outputs, low half first. -/
def seedPair (s : UInt64) : UInt64 × UInt64 :=
  let low := congruence s
  let high := congruence low
  (seedWord low ||| (seedWord high <<< 32), high)

def ofSeed (seed : UInt64) : Generator :=
  let (s0, seed) := seedPair seed
  let (s1, seed) := seedPair seed
  let (s2, seed) := seedPair seed
  let (s3, _) := seedPair seed
  { s0, s1, s2, s3 }

def next (g : Generator) : UInt64 × Generator :=
  let s2 := g.s2 ^^^ g.s0
  let s3 := g.s3 ^^^ g.s1
  (rotateLeft (g.s0 + g.s3) 23 + g.s0,
    { s0 := g.s0 ^^^ s3
      s1 := g.s1 ^^^ s2
      s2 := s2 ^^^ (g.s1 <<< 17)
      s3 := rotateLeft s3 45 })

/-- True with a probability, or nothing if the number is no probability. A sure draw takes no
word. -/
def chance? (p : Binary64) (g : Generator) : Option (Bool × Generator) :=
  if p = .one then some (true, g)
  else if p.inUnitInterval then some (decide (g.next.1.toNat < p.scaledFloor 64), g.next.2)
  else none

def product (span : Nat) (word : UInt64) : Nat := (word >>> 32).toNat * span

/-- Number below `span` from the upper half of a word. -/
def share (span : Nat) (word : UInt64) : Nat := product span word / powerOfTwo 32

/-- Whether a word falls into the part of the range that is divided evenly. -/
def isEven (span : Nat) (word : UInt64) : Bool :=
  decide (product span word % powerOfTwo 32 < span * powerOfTwo (31 - span.log2))

/-- Number below `span`. A word outside the even part is drawn again, and nothing comes of a draw that
takes more words than are allowed it. -/
def below (span : Nat) : Nat → Generator → Option (Nat × Generator)
  | 0, _ => none
  | words + 1, g =>
    if isEven span g.next.1 then some (share span g.next.1, g.next.2)
    else below span words g.next.2

def manyWords : Nat := 1000000

end Generator

/-- The draws that are made from the states of a source: true with a probability, and a number below
a span. A draw can come to nothing. -/
structure Draws (σ : Type) where
  chance : Binary64 → σ → Option (Bool × σ)
  below : Nat → σ → Option (Nat × σ)

def Generator.draws : Draws Generator where
  chance := chance?
  below span := below span manyWords

end Rangelink
