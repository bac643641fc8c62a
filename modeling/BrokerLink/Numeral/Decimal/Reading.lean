import BrokerLink.Numeral.Decimal
import BrokerLink.Numeral.Whole

/-!
# Reading decimals

Two grammars. The plain one has a sign, digits with at most one point, and `_`
as a separator after the first digit; digits that do not fit are rounded off, one
digit deciding. The scientific one is a plain number, `e` or `E`, and an exponent
that moves the scale. A text is read as the plain form, then, if it has an
exponent, with rounding where the scale would grow too large, and last as the
exact scientific form, whose fault is the one that is reported.
-/

namespace BrokerLink
namespace Decimal

open Numeral

/-- Why a text is no decimal. -/
inductive Fault where
  | empty
  | noDigits
  | twoPoints
  | leadingSeparator
  | unknownCharacter
  | tooManyDigits
  | roundingOverflow
  | unparsable
  | scaleExceeds (scale : Nat)
  | exceedsMaximum
  deriving DecidableEq, Repr

namespace Fault

def message : Fault → String
  | empty => "Invalid decimal: empty"
  | noDigits => "Invalid decimal: no digits found"
  | twoPoints => "Invalid decimal: two decimal points"
  | leadingSeparator => "Invalid decimal: must start lead with a number"
  | unknownCharacter => "Invalid decimal: unknown character"
  | tooManyDigits => "Invalid decimal: overflow from too many digits"
  | roundingOverflow => "Invalid decimal: overflow from mantissa after rounding"
  | unparsable => "Failed to parse"
  | scaleExceeds scale =>
    "Scale exceeds the maximum precision allowed: " ++ toString scale ++ " > 28"
  | exceedsMaximum => "Number exceeds maximum value that can be represented."

/-- The fault of a character that can stand nowhere in what is left. -/
def ofCharacter (c : Char) : Fault :=
  if c = '.' then twoPoints else if c = '_' then leadingSeparator else unknownCharacter

end Fault

/-- How far a plain number has been read. -/
structure Scan where
  value : Decimal
  /-- The point has been seen. -/
  point : Bool
  /-- A digit has been seen. -/
  digit : Bool

/-- Behind the point, there is room for one more digit unless 28 are there. -/
theorem Scan.room_of_not_full (s : Scan) (hfull : ¬(s.point = true ∧ s.value.scale = 28))
    (hp : s.point = true) : s.value.scale + 1 ≤ 28 := by
  have hle := s.value.scale_le
  have hne : s.value.scale ≠ 28 := fun e => hfull ⟨hp, e⟩
  omega

/-- Zero has no sign. -/
def unsignedZero (d : Decimal) : Decimal :=
  if d.mantissa = 0 then { d with negative := false } else d

/-- After rounding, only digits and separators may follow. -/
def checkRest : List Char → Except Fault Unit
  | [] => .ok ()
  | c :: cs =>
    if isDigit c ∨ c = '_' then checkRest cs else .error (Fault.ofCharacter c)

/-- One more unit in the last place. A number that no longer fits loses a fractional digit. -/
def increment (d : Decimal) : Except Fault Decimal :=
  if h : d.mantissa + 1 < 2 ^ 96 then
    .ok { d with mantissa := d.mantissa + 1, mantissa_lt := h }
  else if d.scale = 0 then .error .roundingOverflow
  else
    .ok
      { d with
        mantissa := (2 ^ 96 + 4) / 10
        scale := d.scale - 1
        mantissa_lt := by decide
        scale_le := Nat.le_trans (Nat.sub_le _ _) d.scale_le }

/-- Ends the number at a digit that does not fit: five or more counts one up. A number that no
longer fits is at fault before anything that follows. -/
def roundAt (d : Decimal) (next : Nat) (rest : List Char) : Except Fault Decimal := do
  let rounded ← if 5 ≤ next then increment d else .ok d
  checkRest rest
  return unsignedZero rounded

/-- A mantissa from here on might outgrow 64 bits with its next digit. -/
def wideMantissa : Nat := (2 ^ 64 - 1) / 10 - 255

/-- A separator after the last fractional digit is skipped if the digits before that one make a wide
mantissa; else it is itself taken for the digit that does not fit, a zero. -/
def skipsSeparator (d : Decimal) : Bool := wideMantissa ≤ d.mantissa / 10

/-- Reads on from a scan to the end of a plain number. -/
def scanPlain (s : Scan) : List Char → Except Fault Decimal
  | [] => if s.digit then .ok (unsignedZero s.value) else .error .noDigits
  | c :: cs =>
    if hfull : s.point = true ∧ s.value.scale = 28 then
      match digit? c with
      | some n => roundAt s.value n cs
      | none =>
        if c = '_' then
          if skipsSeparator s.value then scanPlain s cs else roundAt s.value 0 cs
        else .error (Fault.ofCharacter c)
    else
      match digit? c with
      | some n =>
        if h : s.value.mantissa * 10 + n < 2 ^ 96 then
          if hp : s.point = true then
            have hs := s.room_of_not_full hfull hp
            scanPlain
              { s with
                value := ⟨s.value.negative, s.value.mantissa * 10 + n, s.value.scale + 1, h, hs⟩,
                digit := true } cs
          else
            scanPlain
              { s with value := ⟨s.value.negative, s.value.mantissa * 10 + n, s.value.scale, h,
                                  s.value.scale_le⟩,
                       digit := true } cs
        else if s.point then roundAt s.value n cs
        else .error .tooManyDigits
      | none =>
        if c = '.' ∧ s.point = false then scanPlain { s with point := true } cs
        else if c = '_' ∧ s.digit = true then scanPlain s cs
        else .error (Fault.ofCharacter c)

section
variable {negative digit : Bool} {m scale n : Nat} {hm : m < 2 ^ 96} {hs : scale ≤ 28} {c : Char}

/-- A digit before the point grows the mantissa. -/
theorem scanPlain_wholeDigit (cs : List Char) (hc : digit? c = some n)
    (h : m * 10 + n < 2 ^ 96) :
    scanPlain ⟨⟨negative, m, scale, hm, hs⟩, false, digit⟩ (c :: cs) =
      scanPlain ⟨⟨negative, m * 10 + n, scale, h, hs⟩, false, true⟩ cs := by
  rw [scanPlain]
  simp only [Bool.false_eq_true, false_and, ↓reduceDIte, hc, h]

/-- A digit behind the point grows the mantissa and the scale. -/
theorem scanPlain_fractionDigit (cs : List Char) (hc : digit? c = some n)
    (h : m * 10 + n < 2 ^ 96) (hroom : scale + 1 ≤ 28) :
    scanPlain ⟨⟨negative, m, scale, hm, hs⟩, true, digit⟩ (c :: cs) =
      scanPlain ⟨⟨negative, m * 10 + n, scale + 1, h, hroom⟩, true, true⟩ cs := by
  have hscale : scale ≠ 28 := by omega
  rw [scanPlain]
  simp only [hscale, and_false, ↓reduceDIte, hc, h]

theorem scanPlain_point (d : Decimal) (cs : List Char) :
    scanPlain ⟨d, false, digit⟩ ('.' :: cs) = scanPlain ⟨d, true, digit⟩ cs := by
  have hdot : digit? '.' = none := by decide
  rw [scanPlain]
  simp only [Bool.false_eq_true, false_and, ↓reduceDIte, hdot, and_self, ↓reduceIte]

end

def startScan (negative : Bool) : Scan := ⟨{ zero with negative }, false, false⟩

/-- Sign, digits, at most one point, separators after the first digit. -/
def readPlain : List Char → Except Fault Decimal
  | [] => .error .empty
  | '-' :: cs => scanPlain (startScan true) cs
  | '+' :: cs => scanPlain (startScan false) cs
  | cs => scanPlain (startScan false) cs

def isExponentMark (c : Char) : Bool := c == 'e' || c == 'E'

/-- The parts before and after the first exponent mark. -/
def splitExponent : List Char → Option (List Char × List Char)
  | [] => none
  | c :: cs =>
    if isExponentMark c then some ([], cs)
    else (splitExponent cs).map fun (base, exponent) => (c :: base, exponent)

/-- Keeps `places` fractional digits, a half going away from zero. -/
def roundPlaces (d : Decimal) (places : Nat) : Decimal :=
  if d.scale ≤ places then d
  else
    let unit := 10 ^ (d.scale - places)
    let rounded := (d.mantissa + unit / 2) / unit
    if h : rounded < 2 ^ 96 ∧ places ≤ 28 then ⟨d.negative, rounded, places, h.1, h.2⟩ else d

/-- Makes the number smaller by `10 ^ e`: its scale grows, rounding if that is allowed. -/
def shrink (rounding : Bool) (d : Decimal) (e : Nat) : Except Fault Decimal :=
  if 28 < e then .error (.scaleExceeds e)
  else if h : d.scale + e ≤ 28 then .ok { d with scale := d.scale + e, scale_le := h }
  else if rounding then
    .ok { roundPlaces d (28 - e) with scale := 28, scale_le := Nat.le_refl 28 }
  else .error (.scaleExceeds (d.scale + e))

/-- Makes the number larger by `10 ^ e`: its scale shrinks, then its digits grow. -/
def grow (d : Decimal) (e : Nat) : Except Fault Decimal :=
  if e ≤ d.scale then
    .ok { d with scale := d.scale - e, scale_le := Nat.le_trans (Nat.sub_le _ _) d.scale_le }
  else if 28 < e then .error (.scaleExceeds e)
  else
    match ofParts? d.negative (d.mantissa * 10 ^ (e - d.scale)) 0 with
    | some d => .ok d
    | none => .error .exceedsMaximum

/-- A plain number, an exponent mark and an exponent. -/
def readScientific (rounding : Bool) (cs : List Char) : Except Fault Decimal :=
  match splitExponent cs with
  | none => .error .unparsable
  | some (base, mark) => do
    let d ← readPlain base
    match mark with
    | '-' :: ds =>
      match exponent ds with
      | .error _ => .error .unparsable
      | .ok e => shrink rounding d e
    | ds =>
      match exponent ds with
      | .error _ => .error .unparsable
      | .ok e => grow d e

/-- Plain, else scientific with rounding, else exactly scientific, whose fault is reported. -/
def read (cs : List Char) : Except Fault Decimal :=
  match readPlain cs with
  | .ok d => .ok d
  | .error _ =>
    match readScientific true cs with
    | .ok d => .ok d
    | .error _ => readScientific false cs

end Decimal
end BrokerLink
