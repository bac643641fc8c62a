import BrokerLink.Field.Read
import BrokerLink.Numeral.Binary64.Shortest

/-!
# Writing fields

Every value that travels in one field has a text. A number that may be unset is
written empty when it is, and so is the largest number of the type, which stands for
none wherever it is met.
-/

namespace BrokerLink

/-- A value that is written as one field. -/
class FieldText (α : Type) where
  fieldText : α → String

export FieldText (fieldText)

instance : FieldText String := ⟨id⟩

instance : FieldText Nat := ⟨fun n => String.ofList (Numeral.digits n)⟩

instance : FieldText Int32 :=
  ⟨fun n => if n = Int32.maxValue then "" else String.ofList (Numeral.wholeText n.toInt)⟩

instance : FieldText Int64 := ⟨fun n => String.ofList (Numeral.wholeText n.toInt)⟩

instance : FieldText Bool := ⟨fun b => if b then "1" else "0"⟩

instance : FieldText Decimal := ⟨fun d => d.normalize.text⟩

/-- Infinity has a word of its own on the wire. -/
instance : FieldText Binary64 :=
  ⟨fun x =>
    if x = Binary64.largest then ""
    else if x.isInfinite && !x.isNegative then "Infinity"
    else x.text⟩

instance {α : Type} [FieldText α] : FieldText (Option α) :=
  ⟨fun a => match a with
    | some a => fieldText a
    | none => ""⟩

/-- The texts of a run of fields. -/
abbrev Fields := List String

namespace TagValue

/-- A list of options in one field, as `k1=v1;k2=v2;`. -/
def joined : List TagValue → String
  | [] => ""
  | t :: ts => t.tag ++ "=" ++ t.value ++ ";" ++ joined ts

/-- A list of options as its length and then a field for each tag and each value. -/
def pairs (ts : List TagValue) : Fields :=
  fieldText ts.length :: ts.flatMap fun t => [t.tag, t.value]

end TagValue

/-- The fields that only a server with some feature is sent. -/
def ifSupported (carried : Bool) (fields : Fields) : Fields := if carried then fields else []

@[simp] theorem fieldText_none {α : Type} [FieldText α] : fieldText (none : Option α) = "" := rfl

@[simp] theorem fieldText_some {α : Type} [FieldText α] (a : α) :
    fieldText (some a) = fieldText a := rfl

@[simp] theorem fieldText_string (s : String) : fieldText s = s := rfl

theorem fieldText_int32_unset : fieldText Int32.maxValue = "" := rfl

theorem fieldText_float_unset : fieldText Binary64.largest = "" := by simp [FieldText.fieldText]

end BrokerLink
