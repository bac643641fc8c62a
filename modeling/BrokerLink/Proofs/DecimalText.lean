import Mathlib.Tactic.Ring
import BrokerLink.Numeral.Decimal.Reading
import BrokerLink.Proofs.WholeText

/-!
# Reading the text of a decimal

The text of a decimal is scanned digit by digit, and what has been scanned is never more
than the whole of it. So nothing is rounded and nothing overflows: the mantissa and the
scale come back as they were, and so does the sign of everything but zero. What is sent
is the form without trailing zeros, which stands for the same number.
-/

namespace BrokerLink
namespace Decimal

open Numeral

/-- The number that a decimal stands for. -/
def toRat (d : Decimal) : ℚ :=
  (if d.negative then -1 else 1) * (d.mantissa : ℚ) / (10 : ℚ) ^ d.scale

section Scanning

variable {negative : Bool} {m scale : Nat} {hm : m < 2 ^ 96} {hs : scale ≤ 28}

/-- Digits before the point grow the mantissa. -/
theorem scanPlain_whole {ds : List Char} (digit : Bool) (rest : List Char)
    (hd : ∀ c ∈ ds, isDigit c = true) (hne : ds ≠ []) (hv : valueFrom m ds < 2 ^ 96) :
    scanPlain ⟨⟨negative, m, scale, hm, hs⟩, false, digit⟩ (ds ++ rest) =
      scanPlain ⟨⟨negative, valueFrom m ds, scale, hv, hs⟩, false, true⟩ rest := by
  induction ds generalizing m digit with
  | nil => exact absurd rfl hne
  | cons c cs ih =>
    obtain ⟨hc, hcs⟩ := List.forall_mem_cons.mp hd
    obtain ⟨n, hn⟩ := exists_digit? hc
    simp only [valueFrom, hn] at hv ⊢
    have hfits : m * 10 + n < 2 ^ 96 := Nat.lt_of_le_of_lt (le_valueFrom _ cs) hv
    rw [List.cons_append, scanPlain_wholeDigit _ hn hfits]
    cases cs with
    | nil => rfl
    | cons c' cs => exact ih true hcs (by simp) hv

/-- Digits behind the point grow the mantissa and the scale. -/
theorem scanPlain_fraction {ds : List Char} {places : Nat} (hd : ∀ c ∈ ds, isDigit c = true)
    (hv : valueFrom m ds < 2 ^ 96) (hl : scale + ds.length = places) (hp : places ≤ 28) :
    scanPlain ⟨⟨negative, m, scale, hm, hs⟩, true, true⟩ ds =
      .ok (unsignedZero ⟨negative, valueFrom m ds, places, hv, hp⟩) := by
  induction ds generalizing m scale with
  | nil =>
    subst hl
    rfl
  | cons c cs ih =>
    obtain ⟨hc, hcs⟩ := List.forall_mem_cons.mp hd
    obtain ⟨n, hn⟩ := exists_digit? hc
    simp only [valueFrom, hn] at hv ⊢
    rw [List.length_cons] at hl
    have hfits : m * 10 + n < 2 ^ 96 := Nat.lt_of_le_of_lt (le_valueFrom _ cs) hv
    rw [scanPlain_fractionDigit cs hn hfits (by omega)]
    exact ih hcs hv (by omega)

end Scanning

theorem scanPlain_pointed (negative : Bool) {m scale : Nat} (hm : m < 2 ^ 96) (hs : scale ≤ 28) :
    scanPlain (startScan negative) (pointed scale (digits m)) =
      .ok (unsignedZero ⟨negative, m, scale, hm, hs⟩) := by
  have hd : ∀ c ∈ digits m, isDigit c = true := fun c => isDigit_of_mem_digits
  have hstart : startScan negative = ⟨⟨negative, 0, 0, by decide, by decide⟩, false, false⟩ := rfl
  rw [hstart]
  rcases Nat.eq_zero_or_pos scale with rfl | hp
  · have hv : valueFrom 0 (digits m) = m := value_digits m
    have hp : pointed 0 (digits m) = digits m ++ [] := by simp [pointed]
    rw [hp, scanPlain_whole false [] hd (digits_ne_nil m) (by rwa [hv])]
    simp only [hv]
    rfl
  · obtain ⟨whole, fraction, he, hne, hw, hf, hl, hv⟩ := exists_pointed hd hp
    have hsplit : valueFrom (valueFrom 0 whole) fraction = m := by
      rw [← valueFrom_append]
      exact hv.trans (value_digits m)
    have hlt : valueFrom (valueFrom 0 whole) fraction < 2 ^ 96 := by rwa [hsplit]
    have hwlt : valueFrom 0 whole < 2 ^ 96 := Nat.lt_of_le_of_lt (le_valueFrom _ fraction) hlt
    rw [he, scanPlain_whole false _ hw hne hwlt, scanPlain_point,
      scanPlain_fraction hf hlt (by omega) hs]
    simp only [hsplit]

/-- The text of a decimal is read back, but for the sign of a zero. -/
theorem readPlain_chars (d : Decimal) : readPlain d.chars = .ok (unsignedZero d) := by
  obtain ⟨negative, m, scale, hm, hs⟩ := d
  have hscan := scanPlain_pointed negative hm hs
  unfold chars
  cases negative with
  | true => exact hscan
  | false =>
    have hd : ∀ c ∈ digits m, isDigit c = true := fun c => isDigit_of_mem_digits
    obtain ⟨c, cs, he, hc⟩ := exists_digit_pointed scale hd (digits_ne_nil m)
    rw [he] at hscan
    simp only [Bool.false_eq_true, ↓reduceIte, he]
    unfold readPlain
    split
    · rename_i hnil
      cases hnil
    · rename_i hcons
      rw [(List.cons.inj hcons).1] at hc
      exact absurd hc (by decide)
    · rename_i hcons
      rw [(List.cons.inj hcons).1] at hc
      exact absurd hc (by decide)
    · exact hscan

theorem unsignedZero_normalize (d : Decimal) : unsignedZero d.normalize = d.normalize := by
  unfold normalize
  split
  · rfl
  · rename_i hm
    have hne : (strip d.mantissa d.scale).1 ≠ 0 := by
      intro h0
      have hv := strip_value d.mantissa d.scale
      rw [h0, Nat.zero_mul] at hv
      exact hm hv.symm
    exact if_neg hne

theorem read_chars_normalize (d : Decimal) : read d.normalize.chars = .ok d.normalize := by
  simp only [read, readPlain_chars, unsignedZero_normalize]

/-- What is taken off the scale is taken off the mantissa. -/
theorem toRat_normalize (d : Decimal) : d.normalize.toRat = d.toRat := by
  unfold normalize
  split
  · rename_i hm
    simp [toRat, zero, hm]
  · have hv := strip_value d.mantissa d.scale
    have hs := strip_snd_le d.mantissa d.scale
    have hscale : (10 : ℚ) ^ d.scale = (10 : ℚ) ^ (strip d.mantissa d.scale).2
        * (10 : ℚ) ^ (d.scale - (strip d.mantissa d.scale).2) := by
      rw [← pow_add, Nat.add_sub_cancel' hs]
    have hm : (d.mantissa : ℚ) = (strip d.mantissa d.scale).1
        * (10 : ℚ) ^ (d.scale - (strip d.mantissa d.scale).2) := by
      exact_mod_cast hv.symm
    have h10 : (10 : ℚ) ^ (d.scale - (strip d.mantissa d.scale).2) ≠ 0 :=
      pow_ne_zero _ (by norm_num)
    simp only [toRat]
    rw [hm, hscale, ← mul_assoc, mul_div_mul_right _ _ h10]

end Decimal
end BrokerLink
