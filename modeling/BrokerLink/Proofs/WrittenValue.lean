import BrokerLink.Proofs.DecimalText
import BrokerLink.Proofs.FloatText
import BrokerLink.Proofs.WrittenField

/-!
# Parsing the text of a value

What the reader of a field makes of the text that the value itself was written with. A
number that stands for none is written empty and read as zero, or as none where none is
known; a NaN comes back as a NaN; a decimal comes back without its trailing zeros.
Everything else comes back as it was. No text of a number holds a zero character, which
would end its field.
-/

namespace BrokerLink

open Numeral

theorem isEmpty_ofList {cs : List Char} (h : cs ≠ []) : (String.ofList cs).isEmpty = false := by
  rw [← Bool.not_eq_true, String.isEmpty_iff]
  intro he
  exact h (by simpa using congrArg String.toList he)

theorem wholeText_ne_nil (n : Int) : wholeText n ≠ [] := by
  unfold wholeText
  split
  · exact List.cons_ne_nil _ _
  · exact digits_ne_nil _

namespace Binary64

theorem chars_ne_nil (x : Binary64) : x.chars ≠ [] := by
  obtain ⟨c, cs, hcs, -⟩ := exists_unsigned_magnitudeChars x.magnitude
  unfold chars
  split
  · exact List.cons_ne_nil _ _
  · rw [hcs]
    exact List.cons_ne_nil _ _

/-- A number is itself behind its text, but one NaN stands for all. -/
def canonical (x : Binary64) : Binary64 := if x.isNaN then .nan false else x

theorem isNaN_canonical (x : Binary64) : x.canonical.isNaN = x.isNaN := by
  unfold canonical
  split
  · rename_i h
    rw [h, isNaN_nan]
  · rfl

theorem read_chars_eq (x : Binary64) : read x.chars = some x.canonical := by
  unfold canonical
  split
  · rename_i h
    exact read_chars_of_isNaN h
  · rename_i h
    exact read_chars (by simpa using h)

theorem eq_infinity {x : Binary64} (h : (x.isInfinite && !x.isNegative) = true) :
    x = infinity false := by
  simp only [isInfinite, Bool.and_eq_true, decide_eq_true_iff, Bool.not_eq_true'] at h
  rw [← ofMagnitude_magnitude x, h.1, h.2]
  rfl

end Binary64

theorem Decimal.chars_ne_nil (d : Decimal) : d.chars ≠ [] := by
  have hd : ∀ c ∈ digits d.mantissa, isDigit c = true := fun c => isDigit_of_mem_digits
  obtain ⟨c, cs, he, -⟩ := exists_digit_pointed d.scale hd (digits_ne_nil _)
  unfold chars
  rw [he]
  dsimp only
  split <;> exact List.cons_ne_nil _ _

namespace Reader

variable {α : Type} {parse : String → Except ReadFault α} {empty : α}

theorem orEmpty_empty : orEmpty empty parse "" = .ok empty := rfl

theorem orEmpty_ofList {cs : List Char} (h : cs ≠ []) :
    orEmpty empty parse (String.ofList cs) = parse (String.ofList cs) := by
  rw [orEmpty, isEmpty_ofList h]
  rfl

/-- A field whose text parses is read as what it parses to. -/
theorem run_parsed {s : String} {a : α} (rest : List UInt8) (h : 0 ∉ Utf8.encode s)
    (hp : parse s = .ok a) : (parsed parse).run (Utf8.encode s ++ 0 :: rest) = (.ok a, rest) := by
  rw [parsed, run_field_encode _ rest h]
  simp only [hp, run_done]

/-! ### Whole numbers -/

theorem fieldText_int32 {n : Int32} (h : n ≠ Int32.maxValue) :
    fieldText n = String.ofList (wholeText n.toInt) := if_neg h

theorem parseInt32_wholeText (n : Int32) :
    parseInt32 (String.ofList (wholeText n.toInt)) = .ok n := by
  rw [parseInt32, String.toList_ofList, int32_wholeText]
  rfl

/-- The largest number comes back as zero. -/
theorem parse_fieldText_int32 (n : Int32) :
    orEmpty 0 parseInt32 (fieldText n) = .ok (if n = Int32.maxValue then 0 else n) := by
  split
  · rename_i h
    rw [h, fieldText_int32_unset, orEmpty_empty]
  · rename_i h
    rw [fieldText_int32 h, orEmpty_ofList (wholeText_ne_nil _), parseInt32_wholeText]

theorem parse_fieldText_int64 (n : Int64) : orEmpty 0 parseInt64 (fieldText n) = .ok n := by
  have ht : fieldText n = String.ofList (wholeText n.toInt) := rfl
  rw [ht, orEmpty_ofList (wholeText_ne_nil _), parseInt64, String.toList_ofList, int64_wholeText]
  rfl

theorem parse_fieldText_bool (b : Bool) :
    orEmpty 0 parseInt32 (fieldText b) = .ok (if b then 1 else 0) := by
  cases b <;> rfl

/-- A number that stands for none comes back as none, and every other one as it was. -/
theorem parse_fieldText_int32? (n : Option Int32) :
    orEmpty none (fun s => (parseInt32 s).map (setUnless Int32.maxValue)) (fieldText n) =
      .ok (if n = some Int32.maxValue then none else n) := by
  cases n with
  | none => rfl
  | some n =>
    rw [fieldText_some]
    by_cases h : n = Int32.maxValue
    · subst h
      rfl
    · rw [fieldText_int32 h, orEmpty_ofList (wholeText_ne_nil _), parseInt32_wholeText,
        if_neg (by simpa using h)]
      simp only [Except.map, setUnless, h, ↓reduceIte]

/-- The text of a length is its digits, which no sentinel replaces. -/
theorem parse_fieldText_length {n : Nat} (h : n < 2 ^ 31) :
    orEmpty 0 parseInt32 (fieldText n) = .ok (Int32.ofNat n) := by
  have ht : fieldText n = String.ofList (wholeText n) := by
    rw [wholeText, if_neg (by omega), Int.natAbs_natCast]
    rfl
  have hw : whole (-2147483648) 2147483647 (wholeText n) = .ok (n : Int) :=
    whole_wholeText (by omega) (by omega)
  rw [ht, orEmpty_ofList (wholeText_ne_nil _), parseInt32, String.toList_ofList, Numeral.int32, hw]
  rfl

/-! ### Other numbers -/

theorem fieldText_float_ne_nil {x : Binary64} (h : x ≠ Binary64.largest) :
    ∃ cs, cs ≠ [] ∧ fieldText x = String.ofList cs ∧ Binary64.read cs = some x.canonical := by
  have ht : fieldText x = if x.isInfinite && !x.isNegative then "Infinity" else x.text := if_neg h
  by_cases hi : (x.isInfinite && !x.isNegative) = true
  · rw [ht, if_pos hi, Binary64.eq_infinity hi]
    exact ⟨"Infinity".toList, by decide, rfl, by decide⟩
  · rw [ht, if_neg hi]
    exact ⟨x.chars, Binary64.chars_ne_nil x, rfl, Binary64.read_chars_eq x⟩

/-- The largest number comes back as zero. -/
theorem parse_fieldText_float (x : Binary64) :
    orEmpty Binary64.zero parseFloat (fieldText x) =
      .ok (if x = Binary64.largest then Binary64.zero else x.canonical) := by
  split
  · rename_i h
    rw [h, fieldText_float_unset, orEmpty_empty]
  · rename_i h
    obtain ⟨cs, hne, ht, hr⟩ := fieldText_float_ne_nil h
    rw [ht, orEmpty_ofList hne, parseFloat, String.toList_ofList, hr]

theorem parse_fieldText_float? (x : Option Binary64) :
    orEmpty none (fun s => (parseFloat s).map (setUnless Binary64.largest)) (fieldText x) =
      .ok (if x = some Binary64.largest then none else x.map Binary64.canonical) := by
  cases x with
  | none => rfl
  | some x =>
    rw [fieldText_some]
    by_cases h : x = Binary64.largest
    · subst h
      rw [fieldText_float_unset, orEmpty_empty, if_pos rfl]
    · obtain ⟨cs, hne, ht, hr⟩ := fieldText_float_ne_nil h
      have hc : x.canonical ≠ Binary64.largest := by
        intro he
        have hn := Binary64.isNaN_canonical x
        have hl : Binary64.largest.isNaN = false := by decide
        rw [he, hl] at hn
        rw [Binary64.canonical, ← hn] at he
        exact h he
      rw [ht, orEmpty_ofList hne, parseFloat, String.toList_ofList, hr, if_neg (by simpa using h)]
      simp only [Except.map, setUnless, hc, ↓reduceIte, Option.map_some]

theorem parse_fieldText_decimal (d : Decimal) :
    orEmpty Decimal.zero parseDecimal (fieldText d) = .ok d.normalize := by
  have ht : fieldText d = String.ofList d.normalize.chars := rfl
  rw [ht, orEmpty_ofList (Decimal.chars_ne_nil _), parseDecimal, String.toList_ofList,
    Decimal.read_chars_normalize]
  rfl

end Reader

/-! ### Zero characters -/

namespace Numeral

theorem isDigit_zero : isDigit '\x00' = false := by decide

theorem zero_notMem_of_isDigit {cs : List Char} (h : ∀ c ∈ cs, isDigit c = true) :
    '\x00' ∉ cs := by
  intro hz
  have hdigit := h _ hz
  rw [isDigit_zero] at hdigit
  cases hdigit

theorem zero_notMem_digits (n : Nat) : '\x00' ∉ digits n :=
  zero_notMem_of_isDigit fun _ => isDigit_of_mem_digits

theorem zero_notMem_wholeText (n : Int) : '\x00' ∉ wholeText n := by
  unfold wholeText
  split
  · rw [List.mem_cons, not_or]
    exact ⟨by decide, zero_notMem_digits _⟩
  · exact zero_notMem_digits _

theorem zero_notMem_pointed {ds : List Char} (places : Nat) (h : '\x00' ∉ ds) :
    '\x00' ∉ pointed places ds := by
  have hfilled : '\x00' ∉ List.replicate (places + 1 - ds.length) '0' ++ ds := by
    rw [List.mem_append, not_or]
    refine ⟨?_, h⟩
    intro hr
    exact absurd (List.eq_of_mem_replicate hr) (by decide)
  unfold pointed
  split
  · exact h
  · rw [List.mem_append, List.mem_cons, not_or, not_or]
    refine ⟨?_, by decide, ?_⟩
    · intro ht
      exact hfilled (List.mem_of_mem_take ht)
    · intro hd
      exact hfilled (List.mem_of_mem_drop hd)

end Numeral

theorem Binary64.zero_notMem_magnitudeChars (m : Nat) : '\x00' ∉ magnitudeChars m := by
  unfold magnitudeChars
  split
  · decide
  split
  · decide
  split
  · decide
  unfold positional
  split
  · rw [List.mem_append, not_or]
    refine ⟨zero_notMem_digits _, ?_⟩
    intro hr
    exact absurd (List.eq_of_mem_replicate hr) (by decide)
  · exact zero_notMem_pointed _ (zero_notMem_digits _)

theorem Binary64.zero_notMem_chars (x : Binary64) : '\x00' ∉ x.chars := by
  unfold chars
  split
  · rw [List.mem_cons, not_or]
    exact ⟨by decide, zero_notMem_magnitudeChars _⟩
  · exact zero_notMem_magnitudeChars _

theorem Decimal.zero_notMem_chars (d : Decimal) : '\x00' ∉ d.chars := by
  have hm : '\x00' ∉ pointed d.scale (digits d.mantissa) :=
    zero_notMem_pointed _ (zero_notMem_digits _)
  unfold chars
  dsimp only
  split
  · rw [List.mem_cons, not_or]
    exact ⟨by decide, hm⟩
  · exact hm

namespace Utf8

theorem zero_notMem_encode_ofList {cs : List Char} (h : '\x00' ∉ cs) :
    0 ∉ encode (String.ofList cs) := by
  rw [zero_mem_encode_iff, String.contains_char_eq, decide_eq_true_iff, String.toList_ofList]
  exact h

theorem zero_notMem_encode_empty : 0 ∉ encode "" := by decide

theorem zero_notMem_int32 (n : Int32) : 0 ∉ encode (fieldText n) := by
  by_cases h : n = Int32.maxValue
  · rw [h, fieldText_int32_unset]
    exact zero_notMem_encode_empty
  · rw [Reader.fieldText_int32 h]
    exact zero_notMem_encode_ofList (zero_notMem_wholeText _)

theorem zero_notMem_int64 (n : Int64) : 0 ∉ encode (fieldText n) :=
  zero_notMem_encode_ofList (zero_notMem_wholeText _)

theorem zero_notMem_nat (n : Nat) : 0 ∉ encode (fieldText n) :=
  zero_notMem_encode_ofList (zero_notMem_digits _)

theorem zero_notMem_bool (b : Bool) : 0 ∉ encode (fieldText b) := by
  cases b <;> decide

theorem zero_notMem_decimal (d : Decimal) : 0 ∉ encode (fieldText d) :=
  zero_notMem_encode_ofList (Decimal.zero_notMem_chars _)

theorem zero_notMem_float (x : Binary64) : 0 ∉ encode (fieldText x) := by
  have ht : fieldText x = if x = Binary64.largest then ""
      else if x.isInfinite && !x.isNegative then "Infinity" else x.text := rfl
  rw [ht]
  split
  · exact zero_notMem_encode_empty
  split
  · decide
  · exact zero_notMem_encode_ofList (Binary64.zero_notMem_chars x)

theorem zero_notMem_option {α : Type} [FieldText α] (h : ∀ a : α, 0 ∉ encode (fieldText a))
    (a : Option α) : 0 ∉ encode (fieldText a) := by
  cases a with
  | none => exact zero_notMem_encode_empty
  | some a => exact h a

end Utf8
end BrokerLink
