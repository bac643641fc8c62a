import BrokerLink.Numeral.Binary64

/-!
# The nearest binary64 number

A non-negative fraction `num / den` is rounded to the nearest binary64 number, a
tie to the even significand. The last place is chosen first: the power of two at
which the fraction has 53 bits, but not below the smallest one. The number of last
places is then a rounded quotient, and one formula packs both: a significand that
was rounded up to `2 ^ 53` carries into the next power by itself.
-/

namespace BrokerLink
namespace Binary64

/-- The quotient rounded to the nearest whole number, a tie to the even one. -/
def roundHalfEven (num den : Nat) : Nat :=
  let q := num / den
  let twice := 2 * (num % den)
  if twice < den then q
  else if den < twice then q + 1
  else if q % 2 = 0 then q
  else q + 1

/-- The last place of a fraction, as a power of two counted from `2 ^ -1074`: the first power at
which fewer than `2 ^ 53` last places fit below the fraction. -/
def lastPlace (num den : Nat) : Nat :=
  let estimate := num.log2 + 1074 - (den.log2 + 53)
  if num * 2 ^ 1074 < den * 2 ^ (estimate + 53) then estimate else estimate + 1

/-- The magnitude of the nearest number; beyond the largest finite one it is infinity. -/
def nearest (num den : Nat) : Nat :=
  let place := lastPlace num den
  min infinityMagnitude (place * 2 ^ 52 + roundHalfEven (num * 2 ^ 1074) (den * 2 ^ place))

/-- The magnitude nearest to `n * 10 ^ e`. Far outside the range of finite numbers the answer is
known from the number of digits alone. -/
def nearestDecimal (n : Nat) (e : Int) : Nat :=
  if n = 0 then 0
  else
    let size := (Numeral.digits n).length + e
    if 310 < size then infinityMagnitude
    else if size < -330 then 0
    else if 0 ≤ e then nearest (n * 10 ^ e.toNat) 1
    else nearest n (10 ^ (-e).toNat)

/-- The number nearest to a whole number. -/
def ofInt (n : Int) : Binary64 := ofMagnitude (decide (n < 0)) (nearestDecimal n.natAbs 0)

end Binary64
end BrokerLink
