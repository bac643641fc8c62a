import BrokerLink.Numeral.Binary64.Rounding

/-!
# The shortest text of a binary64 number

A number is written with the fewest digits that read back as it, the nearest such
digits, a tie upward, and always positionally. The decimal grids `10 ^ p` are tried
from coarse to fine: on each, the two neighbours of the number are tested by the
rounding that reading uses, so what is written reads back by construction.
-/

namespace BrokerLink
namespace Binary64

open Numeral

/-- A positive finite magnitude as a fraction. -/
def fraction (magnitude : Nat) : Nat × Nat :=
  let scaled := significand magnitude * 2 ^ power magnitude
  (scaled, 2 ^ 1074)

/-- The fraction over the grid `10 ^ p`. -/
def onGrid (f : Nat × Nat) (p : Int) : Nat × Nat :=
  if 0 ≤ p then (f.1, f.2 * 10 ^ p.toNat) else (f.1 * 10 ^ (-p).toNat, f.2)

/-- The point of the grid `10 ^ p` that stands for the magnitude, if one reads back as it: the
nearer of the two neighbours that do, the upper one in a tie. -/
def gridPoint (magnitude : Nat) (p : Int) : Option Nat :=
  let (num, den) := onGrid (fraction magnitude) p
  let below := num / den
  let above := below + 1
  let readsBack (n : Nat) : Bool := decide (nearestDecimal n p = magnitude)
  match readsBack below, readsBack above with
  | false, false => none
  | true, false => some below
  | false, true => some above
  | true, true => if 2 * (num % den) < den then some below else some above

/-- Searches `fuel` grids from `10 ^ p` downward. -/
def searchGrids (magnitude : Nat) (p : Int) : Nat → Option (Nat × Int)
  | 0 => none
  | fuel + 1 =>
    match gridPoint magnitude p with
    | some n => some (n, p)
    | none => searchGrids magnitude (p - 1) fuel

/-- A grid that is too coarse for the magnitude: its logarithm to base ten, rounded up. -/
def coarseGrid (magnitude : Nat) : Int :=
  ((((fraction magnitude).1.log2 : Int) - 1074) * 30103).fdiv 100000 + 2

/-- The fraction written out in full: a number of last places, each a finite decimal. -/
def exact (magnitude : Nat) : Nat × Int :=
  ((fraction magnitude).1 * 5 ^ 1074, -1074)

/-- The fewest digits that read back, as a whole number and a power of ten. -/
def shortest (magnitude : Nat) : Nat × Int :=
  (searchGrids magnitude (coarseGrid magnitude) 24).getD (exact magnitude)

/-- `n * 10 ^ e` without an exponent. -/
def positional (n : Nat) (e : Int) : List Char :=
  if 0 ≤ e then digits n ++ List.replicate e.toNat '0' else pointed (-e).toNat (digits n)

/-- The text of a magnitude. -/
def magnitudeChars (m : Nat) : List Char :=
  if infinityMagnitude < m then "NaN".toList
  else if m = infinityMagnitude then "inf".toList
  else if m = 0 then ['0']
  else positional (shortest m).1 (shortest m).2

/-- The shortest text. A NaN has no sign, a negative zero has one. -/
def chars (x : Binary64) : List Char :=
  if x.isNegative ∧ x.isNaN = false then '-' :: magnitudeChars x.magnitude
  else magnitudeChars x.magnitude

def text (x : Binary64) : String := String.ofList x.chars

theorem gridPoint_readsBack {m n : Nat} {p : Int} (h : gridPoint m p = some n) :
    nearestDecimal n p = m := by
  simp only [gridPoint] at h
  split at h <;> (try split at h) <;> simp_all

theorem searchGrids_readsBack {m n fuel : Nat} {p q : Int}
    (h : searchGrids m p fuel = some (n, q)) : nearestDecimal n q = m := by
  induction fuel generalizing p with
  | zero => simp [searchGrids] at h
  | succ fuel ih =>
    simp only [searchGrids] at h
    split at h
    · rename_i hp
      simp only [Option.some.injEq, Prod.mk.injEq] at h
      obtain ⟨rfl, rfl⟩ := h
      exact gridPoint_readsBack hp
    · exact ih h

end Binary64
end BrokerLink
