import BrokerLink.Numeral.Whole

/-!
# Reading the text of a whole number

The digits of a number spell it, and a run of digits is accumulated to what it spells as
long as that stays in the range. So the text of a number of 32 or 64 bits is read back.
-/

namespace BrokerLink
namespace Numeral

theorem digit?_digitChar {d : Nat} (h : d < 10) : digit? (Nat.digitChar d) = some d := by
  have hall : ∀ d, d < 10 → digit? (Nat.digitChar d) = some d := by decide
  exact hall d h

/-- Behind `n`, the digits of `m` shift it by as many places as they have. -/
theorem valueFrom_digits (n m : Nat) :
    valueFrom n (digits m) = n * 10 ^ (digits m).length + m := by
  induction m using Nat.strongRecOn generalizing n with
  | ind m ih =>
    unfold digits at ih ⊢
    by_cases h : m < 10
    · rw [Nat.toDigits_of_lt_base h]
      simp only [valueFrom, digit?_digitChar h, List.length_singleton, Nat.pow_one]
    · have hd : m % 10 < 10 := Nat.mod_lt _ (by decide)
      rw [Nat.toDigits_of_base_le (by decide) (Nat.le_of_not_lt h), valueFrom_append,
        ih (m / 10) (by omega)]
      simp only [valueFrom, digit?_digitChar hd, List.length_append, List.length_singleton,
        Nat.pow_succ, ← Nat.mul_assoc]
      omega

theorem value_digits (m : Nat) : value (digits m) = m := by
  simp only [value, valueFrom_digits, Nat.zero_mul, Nat.zero_add]

theorem digits_injective {m n : Nat} (h : digits m = digits n) : m = n := by
  rw [← value_digits m, ← value_digits n, h]

theorem digits_ne_nil (n : Nat) : digits n ≠ [] := Nat.toDigits_ne_nil

theorem isDigit_of_mem_digits {n : Nat} {c : Char} (h : c ∈ digits n) : isDigit c = true := by
  have hd := Nat.isDigit_of_mem_toDigits (by decide) (by decide) h
  rw [Char.isDigit, Bool.and_eq_true, decide_eq_true_iff, decide_eq_true_iff] at hd
  have hc : '0' ≤ c ∧ c ≤ '9' := hd
  simp only [isDigit, digit?, hc, and_self, ↓reduceIte, Option.isSome_some]

theorem exists_digit? {c : Char} (h : isDigit c = true) : ∃ d, digit? c = some d :=
  Option.isSome_iff_exists.mp h

theorem le_valueFrom (n : Nat) (cs : List Char) : n ≤ valueFrom n cs := by
  induction cs generalizing n with
  | nil => exact Nat.le_refl n
  | cons c cs ih =>
    simp only [valueFrom]
    split
    · rename_i d hd
      have h := ih (n * 10 + d)
      omega
    · exact ih n

theorem valueFrom_replicate_zero (n : Nat) (cs : List Char) :
    valueFrom 0 (List.replicate n '0' ++ cs) = valueFrom 0 cs := by
  induction n with
  | zero => rfl
  | succ n ih =>
    have h0 : digit? '0' = some 0 := by decide
    simp only [List.replicate_succ, List.cons_append, valueFrom, h0]
    exact ih

/-- A point splits a run of digits in two, and the zeros in front of them mean nothing. -/
theorem exists_pointed {ds : List Char} {places : Nat} (hd : ∀ c ∈ ds, isDigit c = true)
    (hp : 0 < places) :
    ∃ whole fraction, pointed places ds = whole ++ '.' :: fraction ∧ whole ≠ [] ∧
      (∀ c ∈ whole, isDigit c = true) ∧ (∀ c ∈ fraction, isDigit c = true) ∧
      fraction.length = places ∧ value (whole ++ fraction) = value ds := by
  have hne : places ≠ 0 := Nat.pos_iff_ne_zero.mp hp
  simp only [pointed, hne, ↓reduceIte]
  generalize hf : List.replicate (places + 1 - ds.length) '0' ++ ds = filled
  have hfilled : ∀ c ∈ filled, isDigit c = true := by
    rw [← hf]
    intro c hc
    rcases List.mem_append.mp hc with hc | hc
    · rw [List.eq_of_mem_replicate hc]
      decide
    · exact hd c hc
  have hlength : places < filled.length := by
    rw [← hf, List.length_append, List.length_replicate]
    omega
  refine ⟨_, _, rfl, ?_, fun c hc => hfilled c (List.mem_of_mem_take hc),
    fun c hc => hfilled c (List.mem_of_mem_drop hc), ?_, ?_⟩
  · rw [Ne, List.take_eq_nil_iff, not_or, ← List.length_eq_zero_iff]
    omega
  · rw [List.length_drop]
    omega
  · rw [List.take_append_drop, ← hf]
    exact valueFrom_replicate_zero _ ds

theorem exists_digit_pointed {ds : List Char} (places : Nat) (hd : ∀ c ∈ ds, isDigit c = true)
    (hne : ds ≠ []) : ∃ c cs, pointed places ds = c :: cs ∧ isDigit c = true := by
  rcases Nat.eq_zero_or_pos places with rfl | hp
  · obtain ⟨d, ds, rfl⟩ := List.exists_cons_of_ne_nil hne
    exact ⟨d, ds, by simp [pointed], hd d (by simp)⟩
  · obtain ⟨whole, fraction, he, hw, hwd, -⟩ := exists_pointed hd hp
    obtain ⟨d, ds, rfl⟩ := List.exists_cons_of_ne_nil hw
    exact ⟨d, _, he, hwd d (by simp)⟩

/-- Digits are accumulated if what they spell is within the limit: every shorter run spells less. -/
theorem accumulate_eq_ok {limit : Nat} (beyond : WholeFault) {n : Nat} {cs : List Char}
    (hd : ∀ c ∈ cs, isDigit c = true) (h : valueFrom n cs ≤ limit) :
    accumulate limit beyond n cs = .ok (valueFrom n cs) := by
  induction cs generalizing n with
  | nil => rfl
  | cons c cs ih =>
    obtain ⟨hc, hcs⟩ := List.forall_mem_cons.mp hd
    obtain ⟨d, hd'⟩ := exists_digit? hc
    simp only [accumulate, valueFrom, hd'] at h ⊢
    rw [if_pos (Nat.le_trans (le_valueFrom _ cs) h)]
    exact ih hcs h

/-- Nothing else is accumulated than digits that spell a number within the limit. -/
theorem accumulate_eq_ok_iff {limit n m : Nat} {beyond : WholeFault} {cs : List Char}
    (hn : n ≤ limit) : accumulate limit beyond n cs = .ok m ↔
      (∀ c ∈ cs, isDigit c = true) ∧ valueFrom n cs = m ∧ m ≤ limit := by
  constructor
  · intro h
    refine ⟨?_, ?_, accumulate_le hn h⟩
    · induction cs generalizing n with
      | nil => exact fun _ hc => absurd hc List.not_mem_nil
      | cons c cs ih =>
        unfold accumulate at h
        split at h
        · cases h
        · rename_i d hd
          split at h
          · rename_i hle
            refine List.forall_mem_cons.mpr ⟨?_, ih hle h⟩
            rw [isDigit, hd]
            rfl
          · cases h
    · induction cs generalizing n with
      | nil =>
        cases h
        rfl
      | cons c cs ih =>
        unfold accumulate at h
        split at h
        · cases h
        · rename_i d hd
          split at h
          · rename_i hle
            simp only [valueFrom, hd]
            exact ih hle h
          · cases h
  · rintro ⟨hd, rfl, hle⟩
    exact accumulate_eq_ok beyond hd hle

theorem magnitude_eq_ok_iff {limit m : Nat} {beyond : WholeFault} {cs : List Char} :
    magnitude limit beyond cs = .ok m ↔
      cs ≠ [] ∧ (∀ c ∈ cs, isDigit c = true) ∧ value cs = m ∧ m ≤ limit := by
  cases cs with
  | nil => exact ⟨nofun, fun h => absurd rfl h.1⟩
  | cons c cs =>
    rw [magnitude, accumulate_eq_ok_iff (Nat.zero_le limit)]
    · exact (and_iff_right (List.cons_ne_nil c cs)).symm
    · exact List.cons_ne_nil c cs

theorem magnitude_digits {limit n : Nat} (beyond : WholeFault) (h : n ≤ limit) :
    magnitude limit beyond (digits n) = .ok n := by
  have hv : valueFrom 0 (digits n) = n := value_digits n
  have ha : accumulate limit beyond 0 (digits n) = .ok n := by
    rw [accumulate_eq_ok beyond (fun c => isDigit_of_mem_digits) (by rwa [hv]), hv]
  cases hc : digits n with
  | nil => exact absurd hc (digits_ne_nil n)
  | cons c cs =>
    rw [hc] at ha
    exact ha

/-- A text that begins with a digit has no sign. -/
theorem whole_of_isDigit (lo hi : Int) {cs : List Char} (h : ∀ c ∈ cs, isDigit c = true) :
    whole lo hi cs = (magnitude hi.toNat .tooLarge cs).map Int.ofNat := by
  unfold whole
  split
  · exact absurd (h '-' (by simp)) (by decide)
  · exact absurd (h '+' (by simp)) (by decide)
  · rfl

theorem whole_wholeText {lo hi n : Int} (hl : lo ≤ n) (hh : n ≤ hi) :
    whole lo hi (wholeText n) = .ok n := by
  unfold wholeText
  by_cases hn : n < 0
  · rw [if_pos hn, whole, if_pos (by omega), magnitude_digits _ (by omega)]
    have he : -(n.natAbs : Int) = n := by omega
    exact congrArg Except.ok he
  · rw [if_neg hn, whole_of_isDigit lo hi (fun c => isDigit_of_mem_digits),
      magnitude_digits _ (by omega)]
    exact congrArg Except.ok (Int.natAbs_of_nonneg (by omega))

theorem int32_wholeText (n : Int32) : int32 (wholeText n.toInt) = .ok n := by
  have hl := Int32.le_toInt n
  have hh := Int32.toInt_lt n
  rw [int32, whole_wholeText (by omega) (by omega)]
  exact congrArg Except.ok (Int32.ofInt_toInt n)

theorem int64_wholeText (n : Int64) : int64 (wholeText n.toInt) = .ok n := by
  have hl := Int64.le_toInt n
  have hh := Int64.toInt_lt n
  rw [int64, whole_wholeText (by omega) (by omega)]
  exact congrArg Except.ok (Int64.ofInt_toInt n)

/-! ### What is read as a number -/

/-- A text that spells a whole number: an optional sign and one digit or more. -/
inductive Spells : List Char → Int → Prop
  | plain {ds : List Char} (nonempty : ds ≠ []) (digits : ∀ c ∈ ds, isDigit c = true) :
      Spells ds (value ds)
  | plus {ds : List Char} (nonempty : ds ≠ []) (digits : ∀ c ∈ ds, isDigit c = true) :
      Spells ('+' :: ds) (value ds)
  | minus {ds : List Char} (nonempty : ds ≠ []) (digits : ∀ c ∈ ds, isDigit c = true) :
      Spells ('-' :: ds) (-(value ds))

theorem magnitude_map_eq_ok_iff {limit : Nat} {beyond : WholeFault} {cs : List Char}
    {f : Nat → Int} {n : Int} : (magnitude limit beyond cs).map f = .ok n ↔
      cs ≠ [] ∧ (∀ c ∈ cs, isDigit c = true) ∧ f (value cs) = n ∧ value cs ≤ limit := by
  cases h : magnitude limit beyond cs with
  | error fault =>
    refine ⟨nofun, fun ⟨hne, hd, _, hle⟩ => ?_⟩
    rw [magnitude_eq_ok_iff.mpr ⟨hne, hd, rfl, hle⟩] at h
    cases h
  | ok m =>
    obtain ⟨hne, hd, rfl, hle⟩ := magnitude_eq_ok_iff.mp h
    constructor
    · intro hf
      exact ⟨hne, hd, Except.ok.inj hf, hle⟩
    · rintro ⟨-, -, hf, -⟩
      exact congrArg Except.ok hf

theorem map_neg_natCast (x : Except WholeFault Nat) :
    (do let m ← x; pure (m : Int) : Except WholeFault Int).map (fun m => -m)
      = Except.map (fun m : Nat => -(m : Int)) x := by
  cases x <;> rfl

/-- What is read is what is spelled, if it is in the range. -/
theorem whole_eq_ok_iff {lo hi n : Int} {cs : List Char} (hlo : lo < 0) (hhi : 0 ≤ hi) :
    whole lo hi cs = .ok n ↔ Spells cs n ∧ lo ≤ n ∧ n ≤ hi := by
  unfold whole
  split
  · rename_i ds
    rw [if_pos hlo, map_neg_natCast, magnitude_map_eq_ok_iff]
    constructor
    · rintro ⟨hne, hd, rfl, hle⟩
      exact ⟨.minus hne hd, by omega, by omega⟩
    · rintro ⟨hs, hl, -⟩
      cases hs with
      | plain hne hd => exact absurd (hd '-' (List.mem_cons_self ..)) (by decide)
      | minus hne hd => exact ⟨hne, hd, rfl, by omega⟩
  · rename_i ds
    rw [magnitude_map_eq_ok_iff, Int.ofNat_eq_natCast]
    constructor
    · rintro ⟨hne, hd, rfl, hle⟩
      exact ⟨.plus hne hd, by omega, by omega⟩
    · rintro ⟨hs, -, hh⟩
      cases hs with
      | plain hne hd => exact absurd (hd '+' (List.mem_cons_self ..)) (by decide)
      | plus hne hd => exact ⟨hne, hd, rfl, by omega⟩
  · rename_i hminus hplus
    rw [magnitude_map_eq_ok_iff, Int.ofNat_eq_natCast]
    constructor
    · rintro ⟨hne, hd, rfl, hle⟩
      exact ⟨.plain hne hd, by omega, by omega⟩
    · rintro ⟨hs, -, hh⟩
      cases hs with
      | plain hne hd => exact ⟨hne, hd, rfl, by omega⟩
      | plus hne hd => exact absurd rfl (hplus _)
      | minus hne hd => exact absurd rfl (hminus _)

theorem int32_eq_ok_iff {cs : List Char} {n : Int32} :
    int32 cs = .ok n ↔ Spells cs n.toInt := by
  have hl := Int32.le_toInt n
  have hh := Int32.toInt_lt n
  unfold int32
  constructor
  · intro h
    cases hw : whole (-2147483648) 2147483647 cs with
    | error fault =>
      rw [hw] at h
      cases h
    | ok m =>
      rw [hw] at h
      cases h
      obtain ⟨hs, hlo, hhi⟩ := (whole_eq_ok_iff (by decide) (by decide)).mp hw
      rwa [Int32.toInt_ofInt_of_le (by omega) (by omega)]
  · intro hs
    rw [(whole_eq_ok_iff (by decide) (by decide)).mpr ⟨hs, by omega, by omega⟩]
    exact congrArg Except.ok (Int32.ofInt_toInt n)

end Numeral
end BrokerLink
