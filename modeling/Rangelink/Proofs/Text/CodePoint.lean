import Mathlib.Algebra.Group.Nat.Defs
import Mathlib.Tactic.SplitIfs
import Rangelink.Order

/-! # Order of texts by code points and by bytes

Texts are compared by their code points. Their bytes in UTF-8 compare alike: of two
different code points neither is spelled by the first bytes of the other, and the
smaller one has the smaller byte where the two spellings part.
-/
namespace Rangelink.Text

/-- The order of the keys is that of the texts. -/
theorem precedes_iff_lt {s t : String} : StrictOrder.precedes s t = true ↔ s < t := by
  change codePointsPrecede s.toList t.toList = true ↔ s.toList < t.toList
  generalize s.toList = as
  generalize t.toList = bs
  induction as generalizing bs with
  | nil => cases bs <;> simp [codePointsPrecede]
  | cons a as ih =>
    cases bs with
    | nil => simp [codePointsPrecede]
    | cons b bs =>
      have hlt : a.toNat < b.toNat ↔ a < b := Iff.rfl
      simp [codePointsPrecede, List.cons_lt_cons_iff, ih, hlt, Char.toNat_inj]

/-- The bytes that spell a text in UTF-8. -/
def utf8 (s : String) : List UInt8 := s.toUTF8.data.toList

theorem utf8_eq (s : String) : utf8 s = s.toList.flatMap String.utf8EncodeChar := by
  rw [utf8, String.toUTF8_eq_toByteArray, ← String.utf8Encode_toList, List.utf8Encode,
    List.toList_data_toByteArray]

/-- Two lists of bytes differ at some place, the first by a smaller byte, and agree before it. -/
inductive PartsBelow : List UInt8 → List UInt8 → Prop
  | here {x y : UInt8} {xs ys : List UInt8} (h : x < y) : PartsBelow (x :: xs) (y :: ys)
  | next {xs ys : List UInt8} (x : UInt8) (h : PartsBelow xs ys) : PartsBelow (x :: xs) (x :: ys)

/-- What follows does not matter to lists that have parted. -/
theorem PartsBelow.append_lt {xs ys : List UInt8} (h : PartsBelow xs ys) (us vs : List UInt8) :
    xs ++ us < ys ++ vs := by
  induction h with
  | here h => exact List.Lex.rel h
  | next x _ ih => exact List.Lex.cons ih

section Spelling

/-- How many bytes follow the lead byte of a code point. -/
def continuations (n : Nat) : Nat :=
  if n ≤ 0x7f then 0 else if n ≤ 0x7ff then 1 else if n ≤ 0xffff then 2 else 3

/-- What a lead byte adds to its digits, by the number of bytes that follow it. -/
def leadMark : Nat → Nat
  | 0 => 0
  | 1 => 0xc0
  | 2 => 0xe0
  | _ => 0xf0

/-- The last digits of a number to base 64, each in a byte that is marked as a continuation. -/
def lastDigits : Nat → Nat → List UInt8
  | 0, _ => []
  | count + 1, n => UInt8.ofNat (n / 64 ^ count % 64 + 0x80) :: lastDigits count n

/-- The lead byte holds the first digits. -/
def lead (n : Nat) : Nat := n / 64 ^ continuations n + leadMark (continuations n)

def spelling (n : Nat) : List UInt8 := UInt8.ofNat (lead n) :: lastDigits (continuations n) n

theorem toNat_le (c : Char) : c.toNat ≤ 0x10ffff := by
  rcases c.valid with h | ⟨-, h⟩
  · change c.toNat < 0xd800 at h
    omega
  · change c.toNat < 0x110000 at h
    omega

theorem utf8EncodeChar_eq (c : Char) : String.utf8EncodeChar c = spelling c.toNat := by
  have hc := toNat_le c
  unfold String.utf8EncodeChar spelling lead continuations
  simp only [Char.toNat_val]
  -- the first digits are few enough to leave the mark of the lead byte as it is
  split_ifs with h₁ h₂ h₃
  · simp [leadMark, lastDigits]
  · have hlead : c.toNat / 64 < 0x20 := by omega
    simp [leadMark, lastDigits, Nat.mod_eq_of_lt hlead]
  · have hlead : c.toNat / 4096 < 0x10 := by omega
    simp [leadMark, lastDigits, Nat.mod_eq_of_lt hlead]
  · have hlead : c.toNat / 262144 < 0x08 := by omega
    simp [leadMark, lastDigits, Nat.mod_eq_of_lt hlead]

theorem lead_lt {n : Nat} (h : n ≤ 0x10ffff) : lead n < 256 := by
  unfold lead continuations
  split_ifs <;> simp only [leadMark] <;> omega

theorem lead_mono {m n : Nat} (h : m ≤ n) : lead m ≤ lead n := by
  unfold lead continuations
  split_ifs <;> simp only [leadMark] <;> omega

/-- A lead byte tells how many bytes follow it. -/
theorem continuations_eq_of_lead_eq {m n : Nat} (h : lead m = lead n) :
    continuations m = continuations n := by
  unfold lead continuations at h
  unfold continuations
  split_ifs at h ⊢ <;> simp only [leadMark] at h <;> omega

theorem ofNat_lt_ofNat {m n : Nat} (h : m < n) (hn : n < 256) : UInt8.ofNat m < UInt8.ofNat n := by
  rw [UInt8.lt_iff_toNat_lt, UInt8.toNat_ofNat', UInt8.toNat_ofNat']
  omega

/-- Numbers that agree in their first digits part in the others. -/
theorem partsBelow_lastDigits {count m n : Nat} (hlt : m < n)
    (hfirst : m / 64 ^ count = n / 64 ^ count) :
    PartsBelow (lastDigits count m) (lastDigits count n) := by
  induction count with
  | zero =>
    simp only [Nat.pow_zero, Nat.div_one] at hfirst
    omega
  | succ count ih =>
    rw [Nat.pow_succ, ← Nat.div_div_eq_div_mul, ← Nat.div_div_eq_div_mul] at hfirst
    rw [lastDigits, lastDigits]
    by_cases heq : m / 64 ^ count = n / 64 ^ count
    · rw [heq]
      exact (ih heq).next _
    · have hle : m / 64 ^ count ≤ n / 64 ^ count := Nat.div_le_div_right (Nat.le_of_lt hlt)
      exact .here (ofNat_lt_ofNat (by omega) (by omega))

theorem partsBelow_utf8EncodeChar {a b : Char} (h : a < b) :
    PartsBelow (String.utf8EncodeChar a) (String.utf8EncodeChar b) := by
  have hlt : a.toNat < b.toNat := h
  rw [utf8EncodeChar_eq, utf8EncodeChar_eq, spelling, spelling]
  rcases Nat.lt_or_eq_of_le (lead_mono (Nat.le_of_lt hlt)) with hlead | hlead
  · exact .here (ofNat_lt_ofNat hlead (lead_lt (toNat_le b)))
  · have hcount := continuations_eq_of_lead_eq hlead
    have hfirst := hlead
    rw [lead, lead, hcount] at hfirst
    rw [hlead, hcount]
    exact (partsBelow_lastDigits hlt (Nat.add_right_cancel hfirst)).next _

end Spelling

/-- Texts that ascend by their code points ascend by their bytes. -/
theorem utf8_lt {s t : String} (h : s < t) : utf8 s < utf8 t := by
  rw [String.lt_iff] at h
  rw [utf8_eq, utf8_eq]
  generalize s.toList = as at h
  generalize t.toList = bs at h
  induction h with
  | nil =>
    rw [List.flatMap_cons, utf8EncodeChar_eq]
    exact List.Lex.nil
  | rel h => exact (partsBelow_utf8EncodeChar h).append_lt _ _
  | cons _ ih => exact List.append_left_lt ih

end Rangelink.Text
