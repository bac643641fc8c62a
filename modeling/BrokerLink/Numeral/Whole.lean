import BrokerLink.Numeral.Digit

/-!
# Whole numbers of a limited range

Integer text is an optional sign and one or more digits; leading zeros are fine.
The text is read from the left, so of two faults the leftmost is reported: a
character that is no digit if it stands before the digit at which the range is
left, else the side on which the range was left.
-/

namespace BrokerLink
namespace Numeral

/-- Why a text is no whole number of its range. -/
inductive WholeFault where
  | invalidDigit
  | tooLarge
  | tooSmall
  deriving DecidableEq, Repr

namespace WholeFault

def message : WholeFault → String
  | invalidDigit => "invalid digit found in string"
  | tooLarge => "number too large to fit in target type"
  | tooSmall => "number too small to fit in target type"

end WholeFault

/-- Reads digits on from `n`; the first value above `limit` is refused as `beyond`. -/
def accumulate (limit : Nat) (beyond : WholeFault) : Nat → List Char → Except WholeFault Nat
  | n, [] => .ok n
  | n, c :: cs =>
    match digit? c with
    | none => .error .invalidDigit
    | some d =>
      if n * 10 + d ≤ limit then accumulate limit beyond (n * 10 + d) cs else .error beyond

/-- An unsigned run of at least one digit. -/
def magnitude (limit : Nat) (beyond : WholeFault) : List Char → Except WholeFault Nat
  | [] => .error .invalidDigit
  | cs => accumulate limit beyond 0 cs

/-- A whole number between `lo` and `hi`. A range without negative numbers knows no minus sign. -/
def whole (lo hi : Int) : List Char → Except WholeFault Int
  | '-' :: cs =>
    if lo < 0 then (magnitude lo.natAbs .tooSmall cs).map fun n => -(n : Int)
    else .error .invalidDigit
  | '+' :: cs => (magnitude hi.toNat .tooLarge cs).map Int.ofNat
  | cs => (magnitude hi.toNat .tooLarge cs).map Int.ofNat

def int32 (cs : List Char) : Except WholeFault Int32 :=
  (whole (-2147483648) 2147483647 cs).map Int32.ofInt

def int64 (cs : List Char) : Except WholeFault Int64 :=
  (whole (-9223372036854775808) 9223372036854775807 cs).map Int64.ofInt

/-- An exponent: a whole number of 32 bits without a minus sign. -/
def exponent (cs : List Char) : Except WholeFault Nat :=
  (whole 0 4294967295 cs).map Int.toNat

/-- The text of an integer: a minus sign if it is negative, then its digits. -/
def wholeText (n : Int) : List Char :=
  if n < 0 then '-' :: digits n.natAbs else digits n.natAbs

theorem accumulate_le {limit : Nat} {beyond : WholeFault} {n m : Nat} {cs : List Char}
    (hn : n ≤ limit) (h : accumulate limit beyond n cs = .ok m) : m ≤ limit := by
  induction cs generalizing n with
  | nil => simp only [accumulate, Except.ok.injEq] at h; omega
  | cons c cs ih =>
    simp only [accumulate] at h
    split at h
    · exact absurd h (by simp)
    · split at h
      · exact ih ‹_› h
      · exact absurd h (by simp)

end Numeral
end BrokerLink
