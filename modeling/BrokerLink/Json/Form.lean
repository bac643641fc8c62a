import BrokerLink.Field.Text
import BrokerLink.Json
import BrokerLink.Numeral.Binary64.Rounding

/-!
# Forms of values in documents

A type with a form is written into documents and read from them. Numbers must fit
their type. A binary64 number is written as its bits, because a document cannot hold
all of them as numbers; it is read from any number, whole ones included. A decimal is
written as its text.
-/

namespace BrokerLink

/-- A type whose values have a form in documents. -/
class JsonForm (α : Type) where
  toJson : α → Json
  ofJson? : Json → Option α

export JsonForm (toJson)

namespace JsonForm

variable {α : Type}

/-- A whole number within bounds. -/
def wholeWithin (lo hi : Int) : Json → Option Int
  | .whole n => if lo ≤ n ∧ n ≤ hi then some n else none
  | _ => none

instance : JsonForm Bool where
  toJson := .bool
  ofJson? | .bool b => some b | _ => none

instance : JsonForm String where
  toJson := .text
  ofJson? | .text s => some s | _ => none

instance : JsonForm Int32 where
  toJson n := .whole n.toInt
  ofJson? j := (wholeWithin (-2 ^ 31) (2 ^ 31 - 1) j).map Int32.ofInt

instance : JsonForm Int64 where
  toJson n := .whole n.toInt
  ofJson? j := (wholeWithin (-2 ^ 63) (2 ^ 63 - 1) j).map Int64.ofInt

instance : JsonForm UInt16 where
  toJson n := .whole n.toNat
  ofJson? j := (wholeWithin 0 (2 ^ 16 - 1) j).map fun n => UInt16.ofNat n.toNat

instance : JsonForm UInt64 where
  toJson n := .whole n.toNat
  ofJson? j := (wholeWithin 0 (2 ^ 64 - 1) j).map fun n => UInt64.ofNat n.toNat

/-- The bits of a number in sixteen hexadecimal digits. -/
def hexText (digits n : Nat) : String :=
  let ds := Nat.toDigits 16 n
  String.ofList (List.replicate (digits - ds.length) '0' ++ ds)

instance : JsonForm Binary64 where
  toJson x := .text (if x.isNaN then "NaN" else hexText 16 x.bits.toNat)
  ofJson?
    | .whole n => some (Binary64.ofInt n)
    | .real x => some x
    | _ => none

/-- A number that is not whole is read from its shortest text. -/
instance : JsonForm Decimal where
  toJson d := .text d.text
  ofJson?
    | .text s => (Decimal.read s.toList).toOption
    | .whole n => Decimal.ofInt? n
    | .real x => (Decimal.read x.chars).toOption
    | _ => none

/-- The form of an optional value: null if there is none. -/
instance [JsonForm α] : JsonForm (Option α) where
  toJson
    | some a => toJson a
    | none => .null
  ofJson?
    | .null => some none
    | j => (ofJson? j).map some

instance [JsonForm α] : JsonForm (List α) where
  toJson as := .array (as.map toJson)
  ofJson?
    | .array items => items.mapM ofJson?
    | _ => none

/-- A word is written as its text. -/
@[reducible] def ofWord [Word α] : JsonForm α where
  toJson a := .text (Word.text a)
  ofJson?
    | .text s => some (Word.ofText s)
    | _ => none

/-- A coded value by its name: the name alone, or an object with the name as only key and nothing
under it. What stands for nothing is for the place to say. -/
def coded? [Coded α] (isNothing : Json → Bool) : Json → Option α
  | .text s => Coded.ofName? s
  | .object [(s, content)] => if isNothing content then Coded.ofName? s else none
  | _ => none

/-- A coded value is written as its name. Under its name as a key it is read with a null. -/
@[reducible] def ofCoded [Coded α] : JsonForm α where
  toJson a := .text (Coded.name a)
  ofJson? := coded? Json.isNull

end JsonForm
end BrokerLink
