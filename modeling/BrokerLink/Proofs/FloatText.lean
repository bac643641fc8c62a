import BrokerLink.Field.Text
import BrokerLink.Proofs.WholeText

/-!
# Reading the text of a binary64 number

A number is written with digits that read back as it. The search for few digits tests
them by the rounding of the reader; where it finds none the number is written out in
full, and a fraction that is a number itself is rounded to that number. What is left is
that the layout of the digits, with zeros behind them or a point between them, keeps the
decimal that they spell.
-/

namespace BrokerLink
namespace Binary64

open Numeral

/-! ### A number is its own nearest number -/

section Exact

variable {num den sig pow : Nat}

/-- The last place of a fraction that has at most 53 bits from there on, and all 53 of them unless
the place is the smallest one. -/
theorem lastPlace_of_exact (hs : sig < 2 ^ 53) (h52 : pow = 0 ∨ 2 ^ 52 ≤ sig) (hd : 0 < den)
    (hp : 0 < sig) (he : num * 2 ^ 1074 = den * (sig * 2 ^ pow)) : lastPlace num den = pow := by
  have h2 : ∀ n, 0 < 2 ^ n := fun n => Nat.two_pow_pos n
  have hnum : num ≠ 0 := by
    rintro rfl
    have := Nat.mul_pos hd (Nat.mul_pos hp (h2 pow))
    omega
  have hden : den ≠ 0 := Nat.pos_iff_ne_zero.mp hd
  -- both sides of the equation between powers of two
  have hupper : num.log2 + 1074 < den.log2 + 1 + 53 + pow := by
    apply (Nat.pow_lt_pow_iff_right (a := 2) (by decide)).mp
    calc 2 ^ (num.log2 + 1074) = 2 ^ num.log2 * 2 ^ 1074 := Nat.pow_add 2 num.log2 1074
      _ ≤ num * 2 ^ 1074 := Nat.mul_le_mul_right _ (Nat.log2_self_le hnum)
      _ = den * (sig * 2 ^ pow) := he
      _ < 2 ^ (den.log2 + 1) * (2 ^ 53 * 2 ^ pow) :=
        Nat.mul_lt_mul_of_lt_of_le Nat.lt_log2_self
          (Nat.mul_le_mul_right _ (Nat.le_of_lt hs)) (Nat.mul_pos (by decide) (h2 pow))
      _ = 2 ^ (den.log2 + 1 + 53 + pow) := by simp only [Nat.pow_add, Nat.mul_assoc]
  have hbelow : num * 2 ^ 1074 < den * 2 ^ (pow + 53) := by
    rw [he, Nat.add_comm pow, Nat.pow_add]
    exact Nat.mul_lt_mul_of_pos_left (Nat.mul_lt_mul_of_pos_right hs (h2 pow)) hd
  unfold lastPlace
  dsimp only
  rcases h52 with rfl | h52
  · have hestimate : num.log2 + 1074 - (den.log2 + 53) = 0 := by omega
    rw [hestimate, if_pos hbelow]
  · have hlower : den.log2 + 52 + pow < num.log2 + 1 + 1074 := by
      apply (Nat.pow_lt_pow_iff_right (a := 2) (by decide)).mp
      calc 2 ^ (den.log2 + 52 + pow) = 2 ^ den.log2 * (2 ^ 52 * 2 ^ pow) := by
            simp only [Nat.pow_add, Nat.mul_assoc]
        _ ≤ den * (sig * 2 ^ pow) :=
          Nat.mul_le_mul (Nat.log2_self_le hden) (Nat.mul_le_mul_right _ h52)
        _ = num * 2 ^ 1074 := he.symm
        _ < 2 ^ (num.log2 + 1) * 2 ^ 1074 :=
          Nat.mul_lt_mul_of_pos_right Nat.lt_log2_self (h2 1074)
        _ = 2 ^ (num.log2 + 1 + 1074) := (Nat.pow_add 2 (num.log2 + 1) 1074).symm
    have hestimate : num.log2 + 1074 - (den.log2 + 53) = pow ∨
        num.log2 + 1074 - (den.log2 + 53) + 1 = pow := by omega
    rcases hestimate with heq | heq
    · rw [heq, if_pos hbelow]
    · rw [if_neg, heq]
      have he52 : num.log2 + 1074 - (den.log2 + 53) + 53 = 52 + pow := by omega
      rw [Nat.not_lt, he52, Nat.pow_add, he]
      exact Nat.mul_le_mul_left _ (Nat.mul_le_mul_right _ h52)

theorem roundHalfEven_of_exact {q : Nat} (hd : 0 < den) : roundHalfEven (den * q) den = q := by
  simp only [roundHalfEven, Nat.mul_div_cancel_left q hd, Nat.mul_mod_right, Nat.mul_zero, hd,
    ↓reduceIte]

theorem nearest_of_exact (hs : sig < 2 ^ 53) (h52 : pow = 0 ∨ 2 ^ 52 ≤ sig) (hd : 0 < den)
    (hp : 0 < sig) (he : num * 2 ^ 1074 = den * (sig * 2 ^ pow)) :
    nearest num den = min infinityMagnitude (pow * 2 ^ 52 + sig) := by
  have hq : num * 2 ^ 1074 = den * 2 ^ pow * sig := by
    rw [he, Nat.mul_assoc, Nat.mul_comm sig]
  simp only [nearest, lastPlace_of_exact hs h52 hd hp he, hq,
    roundHalfEven_of_exact (Nat.mul_pos hd (Nat.two_pow_pos pow))]

end Exact

section Magnitude

variable {m : Nat}

theorem significand_lt (m : Nat) : significand m < 2 ^ 53 := by
  unfold significand
  split <;> omega

theorem significand_pos (hm : 0 < m) : 0 < significand m := by
  unfold significand
  split <;> omega

/-- A number has all 53 bits, or its last place is the smallest. -/
theorem power_eq_zero_or (m : Nat) : power m = 0 ∨ 2 ^ 52 ≤ significand m := by
  unfold power significand
  split <;> omega

theorem packed (m : Nat) : power m * 2 ^ 52 + significand m = m := by
  unfold power significand
  split <;> omega

theorem power_le (hm : m < infinityMagnitude) : power m ≤ 2045 := by
  unfold infinityMagnitude at hm
  unfold power
  omega

theorem fraction_fst_lt {k : Nat} (h : power m ≤ k) : (fraction m).1 < 2 ^ 53 * 2 ^ k :=
  Nat.mul_lt_mul_of_lt_of_le (significand_lt m) (Nat.pow_le_pow_right (by decide) h)
    (Nat.two_pow_pos k)

theorem five_pow_pos (n : Nat) : 0 < 5 ^ n := Nat.pow_pos (by decide)

/-- The digits of a number written out in full are neither too many nor too few to be looked at. -/
theorem length_digits_exact (h0 : 0 < m) (hm : m < infinityMagnitude) :
    744 < (digits (exact m).1).length ∧ (digits (exact m).1).length ≤ 1383 := by
  have hdigits : ∀ k, 0 < k → ((digits (exact m).1).length ≤ k ↔ (exact m).1 < 10 ^ k) :=
    fun k hk => Nat.length_toDigits_le_iff (by decide) hk
  have he : (exact m).1 = (fraction m).1 * 5 ^ 1074 := rfl
  have hf : 0 < (fraction m).1 := Nat.mul_pos (significand_pos h0) (Nat.two_pow_pos _)
  constructor
  · rw [← Nat.not_le, hdigits 744 (by decide), he, Nat.not_lt]
    have h5 : 10 ^ 744 ≤ 5 ^ 1074 := by decide +kernel
    exact Nat.le_trans h5 (Nat.le_mul_of_pos_left _ hf)
  · rw [hdigits 1383 (by decide), he]
    have h2 : 2 ^ 53 * 2 ^ 2045 * 5 ^ 1074 ≤ 10 ^ 1383 := by decide +kernel
    exact Nat.lt_of_lt_of_le
      (Nat.mul_lt_mul_of_pos_right (fraction_fst_lt (power_le hm)) (five_pow_pos 1074)) h2

theorem nearestDecimal_exact (h0 : 0 < m) (hm : m < infinityMagnitude) :
    nearestDecimal (exact m).1 (exact m).2 = m := by
  have he1 : (exact m).1 = significand m * 2 ^ power m * 5 ^ 1074 := rfl
  have he2 : (exact m).2 = -1074 := rfl
  have hne : (exact m).1 ≠ 0 := by
    rw [he1]
    exact Nat.pos_iff_ne_zero.mp (Nat.mul_pos
      (Nat.mul_pos (significand_pos h0) (Nat.two_pow_pos _)) (five_pow_pos 1074))
  obtain ⟨hlow, hhigh⟩ := length_digits_exact h0 hm
  simp only [nearestDecimal, he2]
  rw [if_neg hne, if_neg (by omega), if_neg (by omega), if_neg (by decide)]
  have hden : (-(-1074 : Int)).toNat = 1074 := rfl
  have h10 : ∀ k, 10 ^ k = 5 ^ k * 2 ^ k := fun k => Nat.mul_pow 5 2 k
  have hpos : ∀ k, 0 < 10 ^ k := fun k => Nat.pow_pos (by decide)
  rw [hden, he1, nearest_of_exact (significand_lt m) (power_eq_zero_or m) (hpos 1074)
    (significand_pos h0), packed m]
  · exact Nat.min_eq_right (Nat.le_of_lt hm)
  · rw [h10 1074, Nat.mul_assoc, Nat.mul_comm]

/-- What a number is written with reads back as it. -/
theorem nearestDecimal_shortest (h0 : 0 < m) (hm : m < infinityMagnitude) :
    nearestDecimal (shortest m).1 (shortest m).2 = m := by
  unfold shortest
  cases h : searchGrids m (coarseGrid m) 24 with
  | none => exact nearestDecimal_exact h0 hm
  | some found => exact searchGrids_readsBack h

end Magnitude

/-! ### The layout of the digits -/

theorem spanDigits_of_isDigit {ds rest : List Char} (hd : ∀ c ∈ ds, isDigit c = true)
    (hr : ∀ c ∈ rest.head?, isDigit c = false) : spanDigits (ds ++ rest) = (ds, rest) := by
  induction ds with
  | nil =>
    cases rest with
    | nil => rfl
    | cons c rest =>
      have hc : isDigit c = false := hr c rfl
      simp only [List.nil_append, spanDigits, hc, Bool.false_eq_true, ↓reduceIte]
  | cons d ds ih =>
    obtain ⟨hd0, hds⟩ := List.forall_mem_cons.mp hd
    simp only [List.cons_append, spanDigits, hd0, ↓reduceIte, ih hds]

theorem scaled?_digits {ds : List Char} (hd : ∀ c ∈ ds, isDigit c = true) (hne : ds ≠ []) :
    scaled? ds = some (value ds, 0) := by
  have hs : spanDigits ds = (ds, []) := by
    have h : spanDigits (ds ++ []) = (ds, []) := spanDigits_of_isDigit hd (by simp)
    rwa [List.append_nil] at h
  simp [scaled?, hs, hne, exponent?]

/-- A point before the last digits is a power of ten. -/
theorem scaled?_pointed {ds : List Char} {places : Nat} (hd : ∀ c ∈ ds, isDigit c = true)
    (hp : 0 < places) : scaled? (pointed places ds) = some (value ds, -(places : Int)) := by
  obtain ⟨whole, fraction, he, hne, hw, hf, hl, hv⟩ := exists_pointed hd hp
  have hwhole : spanDigits (whole ++ '.' :: fraction) = (whole, '.' :: fraction) :=
    spanDigits_of_isDigit hw (by simp; decide)
  have hfraction : spanDigits fraction = (fraction, []) := by
    have h : spanDigits (fraction ++ []) = (fraction, []) := spanDigits_of_isDigit hf (by simp)
    rwa [List.append_nil] at h
  simp only [scaled?, he, hwhole, hfraction, List.isEmpty_iff, hne, false_and, ↓reduceIte,
    exponent?, Option.map_some, hv, hl, Int.zero_sub]

theorem digits_mul_pow {n : Nat} (hn : 0 < n) (k : Nat) :
    digits (n * 10 ^ k) = digits n ++ List.replicate k '0' := by
  induction k with
  | zero => simp
  | succ k ih =>
    have hpos : 0 < n * 10 ^ k := Nat.mul_pos hn (Nat.pow_pos (by decide))
    have hs : n * 10 ^ (k + 1) = n * 10 ^ k * 10 := by rw [Nat.pow_succ, Nat.mul_assoc]
    have hd : digits (n * 10 ^ (k + 1)) = digits (n * 10 ^ k) ++ ['0'] := by
      unfold digits
      rw [hs, Nat.toDigits_of_base_le (by decide) (by omega), Nat.mul_div_cancel _ (by decide),
        Nat.mul_mod_left]
      rfl
    rw [hd, ih, List.replicate_succ', List.append_assoc]

/-- A power of ten may be part of the number or stand beside it. -/
theorem nearestDecimal_mul_pow {n : Nat} (hn : n ≠ 0) (k : Nat) :
    nearestDecimal (n * 10 ^ k) 0 = nearestDecimal n k := by
  have hpos : 0 < n := Nat.pos_iff_ne_zero.mpr hn
  have hne : n * 10 ^ k ≠ 0 := Nat.mul_ne_zero hn (Nat.pos_iff_ne_zero.mp (Nat.pow_pos (by decide)))
  have hk : (0 : Int) ≤ k := Int.natCast_nonneg k
  simp only [nearestDecimal, hn, hne, digits_mul_pow hpos k, List.length_append,
    List.length_replicate, Int.natCast_add, Int.add_zero, Int.le_refl, hk, ↓reduceIte,
    Int.toNat_zero, Int.toNat_natCast, Nat.pow_zero, Nat.mul_one]

theorem positional_of_nonneg {n : Nat} (hn : 0 < n) (k : Nat) :
    positional n k = digits (n * 10 ^ k) := by
  rw [positional, if_pos (Int.natCast_nonneg k), Int.toNat_natCast, digits_mul_pow hn]

theorem exists_digit_positional (n : Nat) (e : Int) :
    ∃ c cs, positional n e = c :: cs ∧ isDigit c = true := by
  have hd : ∀ c ∈ digits n, isDigit c = true := fun c => isDigit_of_mem_digits
  unfold positional
  split
  · obtain ⟨d, ds, hds⟩ := List.exists_cons_of_ne_nil (digits_ne_nil n)
    rw [hds]
    exact ⟨d, _, rfl, hd d (by simp [hds])⟩
  · exact exists_digit_pointed _ hd (digits_ne_nil n)

/-! ### Texts and magnitudes -/

theorem toLower_of_isDigit {c : Char} (h : isDigit c = true) : c.toLower = c := by
  obtain ⟨d, hd⟩ := exists_digit? h
  have hc : '0' ≤ c ∧ c ≤ '9' := by
    unfold digit? at hd
    split at hd
    · assumption
    · cases hd
  have h9 : c.val ≤ '9'.val := hc.2
  unfold Char.toLower
  rw [dif_neg]
  intro ha
  exact absurd (UInt32.le_trans ha.1 h9) (by decide)

/-- A text that begins with a digit is none of the words. -/
theorem readMagnitude_of_isDigit {c : Char} {cs : List Char} (h : isDigit c = true) :
    readMagnitude (c :: cs) = (scaled? (c :: cs)).map fun (n, e) => nearestDecimal n e := by
  have hword : ∀ w ws, isDigit w = false → (c :: cs).map Char.toLower ≠ w :: ws := by
    rintro w ws hw he
    rw [List.map_cons, toLower_of_isDigit h, List.cons.injEq] at he
    rw [← he.1, h] at hw
    cases hw
  unfold readMagnitude
  dsimp only
  rw [if_neg (not_or.mpr ⟨hword _ _ (by decide), hword _ _ (by decide)⟩),
    if_neg (hword _ _ (by decide))]

theorem readMagnitude_positional {n : Nat} (hn : n ≠ 0) (e : Int) :
    readMagnitude (positional n e) = some (nearestDecimal n e) := by
  have hd : ∀ m, ∀ c ∈ digits m, isDigit c = true := fun m c => isDigit_of_mem_digits
  obtain ⟨c, cs, hcs, hc⟩ := exists_digit_positional n e
  rw [hcs, readMagnitude_of_isDigit hc, ← hcs]
  by_cases he : 0 ≤ e
  · obtain ⟨k, rfl⟩ := Int.eq_ofNat_of_zero_le he
    rw [positional_of_nonneg (Nat.pos_iff_ne_zero.mpr hn),
      scaled?_digits (hd _) (digits_ne_nil _), value_digits, Option.map_some]
    exact congrArg some (nearestDecimal_mul_pow hn k)
  · have hp : 0 < (-e).toNat := by omega
    have hneg : -((-e).toNat : Int) = e := by omega
    rw [positional, if_neg he, scaled?_pointed (hd n) hp, value_digits, hneg, Option.map_some]

theorem nearestDecimal_zero (e : Int) : nearestDecimal 0 e = 0 := rfl

theorem shortest_ne_zero {m : Nat} (h0 : 0 < m) (hm : m < infinityMagnitude) :
    (shortest m).1 ≠ 0 := by
  intro h
  have hm' := nearestDecimal_shortest h0 hm
  rw [h, nearestDecimal_zero] at hm'
  omega

/-- The text of a magnitude that is no NaN is read back. -/
theorem readMagnitude_magnitudeChars {m : Nat} (hm : m ≤ infinityMagnitude) :
    readMagnitude (magnitudeChars m) = some m := by
  unfold magnitudeChars
  rw [if_neg (Nat.not_lt.mpr hm)]
  split
  · rename_i h
    rw [h]
    rfl
  · rename_i hinf
    split
    · rename_i h
      rw [h]
      rfl
    · rename_i h0
      have hpos : 0 < m := Nat.pos_iff_ne_zero.mpr h0
      have hlt : m < infinityMagnitude := Nat.lt_of_le_of_ne hm hinf
      rw [readMagnitude_positional (shortest_ne_zero hpos hlt), nearestDecimal_shortest hpos hlt]

/-- A magnitude is written without a sign. -/
theorem exists_unsigned_magnitudeChars (m : Nat) :
    ∃ c cs, magnitudeChars m = c :: cs ∧ c ≠ '-' ∧ c ≠ '+' := by
  unfold magnitudeChars
  split
  · exact ⟨'N', ['a', 'N'], by decide⟩
  · split
    · exact ⟨'i', ['n', 'f'], by decide⟩
    · split
      · exact ⟨'0', [], by decide⟩
      · obtain ⟨c, cs, hcs, hc⟩ := exists_digit_positional (shortest m).1 (shortest m).2
        refine ⟨c, cs, hcs, ?_, ?_⟩ <;>
          · rintro rfl
            exact absurd hc (by decide)

theorem read_of_unsigned {c : Char} {cs : List Char} (hm : c ≠ '-') (hp : c ≠ '+') :
    read (c :: cs) = (readMagnitude (c :: cs)).map (ofMagnitude false) := by
  unfold read
  split
  · rename_i he
    exact absurd (List.cons.inj he).1 hm
  · rename_i he
    exact absurd (List.cons.inj he).1 hp
  · rfl

theorem ofMagnitude_magnitude (x : Binary64) : ofMagnitude x.isNegative x.magnitude = x := by
  have hx := x.bits.toNat_lt
  have hm : x.magnitude % 2 ^ 63 = x.magnitude := Nat.mod_mod _ _
  unfold ofMagnitude
  rw [hm]
  have hb : (if x.isNegative = true then x.magnitude + 2 ^ 63 else x.magnitude) = x.bits.toNat := by
    unfold isNegative magnitude
    simp only [decide_eq_true_eq]
    split <;> omega
  rw [hb, UInt64.ofNat_toNat]

/-- Every number but a NaN is read back from its text, the infinities and both zeros included. -/
theorem read_chars {x : Binary64} (h : x.isNaN = false) : read x.chars = some x := by
  have hm : x.magnitude ≤ infinityMagnitude := by
    unfold isNaN at h
    simpa using h
  obtain ⟨c, cs, hcs, hminus, hplus⟩ := exists_unsigned_magnitudeChars x.magnitude
  unfold chars
  cases hs : x.isNegative with
  | true =>
    rw [if_pos ⟨rfl, h⟩, read, readMagnitude_magnitudeChars hm, Option.map_some, ← hs,
      ofMagnitude_magnitude]
  | false =>
    rw [if_neg (by simp), hcs, read_of_unsigned hminus hplus, ← hcs,
      readMagnitude_magnitudeChars hm, Option.map_some, ← hs, ofMagnitude_magnitude]

/-- Every NaN is read back as the one that text stands for. -/
theorem read_chars_of_isNaN {x : Binary64} (h : x.isNaN = true) :
    read x.chars = some (nan false) := by
  have hm : infinityMagnitude < x.magnitude := by
    unfold isNaN at h
    simpa using h
  unfold chars magnitudeChars
  rw [if_neg (by simp [h]), if_pos hm]
  rfl

theorem isNaN_nan : (nan false).isNaN = true := by decide

end Binary64
end BrokerLink
