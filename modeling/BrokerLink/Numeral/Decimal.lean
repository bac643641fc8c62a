import BrokerLink.Numeral.Digit

/-!
# Decimal numbers of 96 bits

A quantity is a whole number of at most 96 bits, its decimal scale (how many of
its digits stand after the point, at most 28) and a sign. The scale is part of
the number: `100.50` and `100.5` have one value and two texts. Zero may carry a
sign, which its text shows.
-/

namespace BrokerLink

/-- `± mantissa / 10 ^ scale`. -/
structure Decimal where
  negative : Bool
  mantissa : Nat
  scale : Nat
  mantissa_lt : mantissa < 2 ^ 96 := by decide
  scale_le : scale ≤ 28 := by decide
  deriving DecidableEq

namespace Decimal

open Numeral

def maxScale : Nat := 28

def zero : Decimal := ⟨false, 0, 0, by decide, by decide⟩

instance : Inhabited Decimal := ⟨zero⟩

/-- The decimal with these parts, if they are in range. -/
def ofParts? (negative : Bool) (mantissa scale : Nat) : Option Decimal :=
  if h : mantissa < 2 ^ 96 ∧ scale ≤ 28 then some ⟨negative, mantissa, scale, h.1, h.2⟩ else none

/-- A whole number as a decimal, if it fits. -/
def ofInt? (n : Int) : Option Decimal := ofParts? (decide (n < 0)) n.natAbs 0

/-- All digits that the number keeps, trailing zeros included. -/
def chars (d : Decimal) : List Char :=
  let magnitude := pointed d.scale (digits d.mantissa)
  if d.negative then '-' :: magnitude else magnitude

def text (d : Decimal) : String := String.ofList d.chars

/-- Takes zeros off the right end of a fraction of `scale` digits. -/
def strip : Nat → Nat → Nat × Nat
  | m, 0 => (m, 0)
  | m, s + 1 => if m % 10 = 0 then strip (m / 10) s else (m, s + 1)

theorem strip_fst_le (m s : Nat) : (strip m s).1 ≤ m := by
  induction s generalizing m with
  | zero => exact Nat.le_refl m
  | succ s ih =>
    simp only [strip]
    split
    · exact Nat.le_trans (ih _) (Nat.div_le_self m 10)
    · exact Nat.le_refl m

theorem strip_snd_le (m s : Nat) : (strip m s).2 ≤ s := by
  induction s generalizing m with
  | zero => exact Nat.le_refl 0
  | succ s ih =>
    simp only [strip]
    split
    · exact Nat.le_succ_of_le (ih _)
    · exact Nat.le_refl _

/-- The value is kept: what is taken off the scale is taken off the number. -/
theorem strip_value (m s : Nat) : (strip m s).1 * 10 ^ (s - (strip m s).2) = m := by
  induction s generalizing m with
  | zero => simp [strip]
  | succ s ih =>
    simp only [strip]
    split
    · rename_i h
      have hs := strip_snd_le (m / 10) s
      have e : s + 1 - (strip (m / 10) s).2 = (s - (strip (m / 10) s).2) + 1 := by omega
      rw [e, Nat.pow_succ, ← Nat.mul_assoc, ih (m / 10)]
      omega
    · simp

/-- The same value without trailing zeros in the fraction; zero has one form. -/
def normalize (d : Decimal) : Decimal :=
  if d.mantissa = 0 then zero
  else
    ⟨d.negative, (strip d.mantissa d.scale).1, (strip d.mantissa d.scale).2,
      Nat.lt_of_le_of_lt (strip_fst_le _ _) d.mantissa_lt,
      Nat.le_trans (strip_snd_le _ _) d.scale_le⟩

/-- The whole part, toward zero. -/
def truncate (d : Decimal) : Int :=
  let whole := d.mantissa / 10 ^ d.scale
  if d.negative then -(whole : Int) else whole

/-- The whole part if it fits 64 bits. -/
def truncateInt64? (d : Decimal) : Option Int64 :=
  if -9223372036854775808 ≤ d.truncate ∧ d.truncate ≤ 9223372036854775807 then
    some (Int64.ofInt d.truncate)
  else none

end Decimal
end BrokerLink
