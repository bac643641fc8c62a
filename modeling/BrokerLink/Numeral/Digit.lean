/-!
# Decimal digits

Numbers travel as decimal text. This module has the digits themselves: the value
of one digit, the digits of a number, and the number that a run of digits spells.
-/

-- Powers and sums are those of the core library, whatever other algebra is in scope.
attribute [instance(20000), default_instance(20000)] instPowNat
attribute [instance(20000)] Zero.ofOfNat0

namespace BrokerLink
namespace Numeral

/-- The value of an ASCII decimal digit; no other character is a digit. -/
def digit? (c : Char) : Option Nat :=
  if '0' ≤ c ∧ c ≤ '9' then some (c.toNat - '0'.toNat) else none

def isDigit (c : Char) : Bool := (digit? c).isSome

/-- The digits of a number, the most significant first. -/
def digits (n : Nat) : List Char := Nat.toDigits 10 n

/-- The number that `n` followed by a run of digits spells; other characters are passed over. -/
def valueFrom : Nat → List Char → Nat
  | n, [] => n
  | n, c :: cs =>
    match digit? c with
    | some d => valueFrom (n * 10 + d) cs
    | none => valueFrom n cs

def value (cs : List Char) : Nat := valueFrom 0 cs

/-- Digits with a point before the last `places` of them, filled up with zeros on the left. -/
def pointed (places : Nat) (ds : List Char) : List Char :=
  if places = 0 then ds
  else
    let filled := List.replicate (places + 1 - ds.length) '0' ++ ds
    filled.take (filled.length - places) ++ '.' :: filled.drop (filled.length - places)

@[simp] theorem value_nil : value [] = 0 := rfl

theorem valueFrom_append (n : Nat) (cs ds : List Char) :
    valueFrom n (cs ++ ds) = valueFrom (valueFrom n cs) ds := by
  induction cs generalizing n with
  | nil => rfl
  | cons c cs ih => simp only [List.cons_append, valueFrom]; split <;> exact ih _

end Numeral
end BrokerLink
