import BrokerLink.Numeral.Digit

/-!
# Binary floating-point numbers of 64 bits

Prices are binary64 numbers. Nothing is computed with them: they are read,
compared with a few constants and written. So a number is its bit pattern, and
what it stands for is said with natural numbers: a finite number is
`± significand * 2 ^ (power - 1074)`.
-/

namespace BrokerLink

/-- A binary64 number, by its bits: sign, 11 bits of exponent, 52 bits of fraction. -/
structure Binary64 where
  bits : UInt64
  deriving DecidableEq, Repr

namespace Binary64

/-- The number without its sign bit. -/
def magnitude (x : Binary64) : Nat := x.bits.toNat % 2 ^ 63

def isNegative (x : Binary64) : Bool := decide (2 ^ 63 ≤ x.bits.toNat)

/-- The magnitude of the infinities; every larger one is a NaN. -/
def infinityMagnitude : Nat := 2047 * 2 ^ 52

def isNaN (x : Binary64) : Bool := decide (infinityMagnitude < x.magnitude)

def isInfinite (x : Binary64) : Bool := decide (x.magnitude = infinityMagnitude)

def isZero (x : Binary64) : Bool := decide (x.magnitude = 0)

/-- The power of two of the last place, counted from the smallest one, `2 ^ -1074`. -/
def power (magnitude : Nat) : Nat := magnitude / 2 ^ 52 - 1

/-- The whole number of last places. -/
def significand (magnitude : Nat) : Nat :=
  if magnitude / 2 ^ 52 = 0 then magnitude else magnitude % 2 ^ 52 + 2 ^ 52

/-- A magnitude below `2 ^ 63` with a sign. -/
def ofMagnitude (negative : Bool) (magnitude : Nat) : Binary64 :=
  ⟨UInt64.ofNat (if negative then magnitude % 2 ^ 63 + 2 ^ 63 else magnitude % 2 ^ 63)⟩

def zero : Binary64 := ⟨0⟩

instance : Inhabited Binary64 := ⟨zero⟩

def infinity (negative : Bool) : Binary64 := ofMagnitude negative infinityMagnitude

/-- The one NaN that text stands for. -/
def nan (negative : Bool) : Binary64 := ofMagnitude negative (2047 * 2 ^ 52 + 2 ^ 51)

/-- The largest finite number. -/
def largest : Binary64 := ⟨0x7fefffffffffffff⟩

def minusOne : Binary64 := ⟨0xbff0000000000000⟩

def minusTwo : Binary64 := ⟨0xc000000000000000⟩

/-- Greater than zero. -/
def isPositive (x : Binary64) : Bool := !x.isNegative && !x.isZero && !x.isNaN

@[simp] theorem magnitude_lt (x : Binary64) : x.magnitude < 2 ^ 63 := Nat.mod_lt _ (by decide)

end Binary64
end BrokerLink
