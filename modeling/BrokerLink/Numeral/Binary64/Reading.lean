import BrokerLink.Numeral.Binary64.Rounding

/-!
# Reading binary64 numbers

The text of a number is an optional sign and then `inf`, `infinity` or `nan` in any
case, or digits with at most one point (at least one digit in all) and an optional
exponent: `e` or `E`, an optional sign and at least one digit. The value is the
nearest number.
-/

namespace BrokerLink
namespace Binary64

open Numeral

/-- The digits at the front of a text, and what follows them. -/
def spanDigits : List Char → List Char × List Char
  | [] => ([], [])
  | c :: cs => if isDigit c then (c :: (spanDigits cs).1, (spanDigits cs).2) else ([], c :: cs)

@[simp] theorem spanDigits_append (cs : List Char) :
    (spanDigits cs).1 ++ (spanDigits cs).2 = cs := by
  induction cs with
  | nil => rfl
  | cons c cs ih => unfold spanDigits; split <;> simp [ih]

/-- A text of digits only, at least one. -/
def natural? (cs : List Char) : Option Nat :=
  match spanDigits cs with
  | (d :: ds, []) => some (value (d :: ds))
  | _ => none

/-- What may follow the digits: nothing, or an exponent. -/
def exponent? : List Char → Option Int
  | [] => some 0
  | c :: cs =>
    if c.toLower = 'e' then
      match cs with
      | '-' :: ds => (natural? ds).map fun n => -(n : Int)
      | '+' :: ds => (natural? ds).map Int.ofNat
      | ds => (natural? ds).map Int.ofNat
    else none

/-- An unsigned number in digits, as a whole number and a power of ten. -/
def scaled? (cs : List Char) : Option (Nat × Int) :=
  let (whole, rest) := spanDigits cs
  let (fraction, rest) :=
    match rest with
    | '.' :: more => spanDigits more
    | _ => ([], rest)
  if whole.isEmpty ∧ fraction.isEmpty then none
  else
    (exponent? rest).map fun e => (value (whole ++ fraction), e - (fraction.length : Int))

/-- The magnitude of an unsigned text. -/
def readMagnitude (cs : List Char) : Option Nat :=
  let word := cs.map Char.toLower
  if word = ['i', 'n', 'f'] ∨ word = ['i', 'n', 'f', 'i', 'n', 'i', 't', 'y'] then
    some infinityMagnitude
  else if word = ['n', 'a', 'n'] then some (nan false).magnitude
  else (scaled? cs).map fun (n, e) => nearestDecimal n e

/-- The number that a text stands for, if it is one. -/
def read (cs : List Char) : Option Binary64 :=
  match cs with
  | '-' :: ds => (readMagnitude ds).map (ofMagnitude true)
  | '+' :: ds => (readMagnitude ds).map (ofMagnitude false)
  | ds => (readMagnitude ds).map (ofMagnitude false)

end Binary64
end BrokerLink
