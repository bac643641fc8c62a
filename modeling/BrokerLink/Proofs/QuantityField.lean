import Mathlib.Data.Rat.Floor
import Mathlib.Tactic.Positivity
import BrokerLink.Proofs.FieldReads
import BrokerLink.Proofs.PlacedAlike

/-!
# The quantity of a placed order

The field of a placed order that says how much is to be bought or sold is read back as the
number that it was. Servers that know no fractions are sent the whole part instead, cut off
toward zero, as a number of 64 bits. A quantity has up to 96: a whole part that needs more
than 64 is sent as zero, and the order is not refused.
-/

namespace BrokerLink

/-! ### The whole part -/

/-- The whole part of a number, whatever its sign. -/
def towardZero (x : ℚ) : ℤ := if 0 ≤ x then ⌊x⌋ else ⌈x⌉

theorem towardZero_neg (x : ℚ) : towardZero (-x) = -towardZero x := by
  unfold towardZero
  rcases lt_trichotomy x 0 with h | rfl | h
  · rw [if_pos (by linarith), if_neg (by linarith), Int.floor_neg]
  · simp
  · rw [if_neg (by linarith), if_pos (by linarith), Int.ceil_neg]

namespace Decimal

variable {d : Decimal}

theorem truncate_eq_towardZero (d : Decimal) : d.truncate = towardZero d.toRat := by
  obtain ⟨negative, m, scale, hm, hs⟩ := d
  have hnonneg : (0 : ℚ) ≤ (m : ℚ) / 10 ^ scale := by positivity
  have hwhole : towardZero ((m : ℚ) / 10 ^ scale) = (m / 10 ^ scale : ℕ) := by
    have hfloor := Rat.floor_natCast_div_natCast m (10 ^ scale)
    rw [towardZero, if_pos hnonneg]
    exact_mod_cast hfloor
  cases negative with
  | true =>
    have hneg : toRat ⟨true, m, scale, hm, hs⟩ = -((m : ℚ) / 10 ^ scale) := by
      simp [toRat, neg_div]
    rw [hneg, towardZero_neg, hwhole]
    rfl
  | false =>
    have hpos : toRat ⟨false, m, scale, hm, hs⟩ = (m : ℚ) / 10 ^ scale := by
      simp [toRat]
    rw [hpos, hwhole]
    rfl

theorem toRat_unsignedZero (d : Decimal) : (unsignedZero d).toRat = d.toRat := by
  unfold unsignedZero
  split
  · rename_i hm
    simp [toRat, hm]
  · rfl

/-- The text of a number of 64 bits is that of a decimal, which has room for it. -/
theorem exists_chars_eq_wholeText (n : Int64) :
    ∃ d : Decimal, d.chars = Numeral.wholeText n.toInt ∧ d.toRat = n.toInt := by
  have hl := Int64.le_toInt n
  have hh := Int64.toInt_lt n
  refine ⟨⟨decide (n.toInt < 0), n.toInt.natAbs, 0, by omega, by omega⟩, ?_, ?_⟩
  · simp [chars, Numeral.wholeText, Numeral.pointed]
  · by_cases hn : n.toInt < 0
    · have habs : ((n.toInt.natAbs : ℤ) : ℚ) = ((-n.toInt : ℤ) : ℚ) := by
        congr 1
        omega
      simp only [toRat, decide_eq_true hn, if_true, pow_zero, div_one, neg_one_mul,
        ← Int.cast_natCast (R := ℚ), habs, Int.cast_neg, neg_neg]
    · have habs : ((n.toInt.natAbs : ℤ) : ℚ) = (n.toInt : ℚ) := by
        congr 1
        omega
      simp only [toRat, decide_eq_false hn, Bool.false_eq_true, if_false, pow_zero, div_one,
        one_mul, ← Int.cast_natCast (R := ℚ), habs]

end Decimal

namespace Reader

/-- A whole number of 64 bits is read as a decimal of the same value. -/
theorem exists_reads_decimal (n : Int64) :
    ∃ q : Decimal, decimal.Reads (fieldText n) q ∧ q.toRat = n.toInt := by
  obtain ⟨d, hchars, hvalue⟩ := Decimal.exists_chars_eq_wholeText n
  have ht : fieldText n = String.ofList d.chars := congrArg String.ofList hchars.symm
  have hparse : orEmpty Decimal.zero parseDecimal (fieldText n) = .ok (Decimal.unsignedZero d) := by
    rw [ht, orEmpty_ofList (Decimal.chars_ne_nil _), parseDecimal, String.toList_ofList,
      Decimal.read, Decimal.readPlain_chars]
    rfl
  refine ⟨_, reads_parsed (Utf8.zero_notMem_int64 n) hparse, ?_⟩
  rw [Decimal.toRat_unsignedZero, hvalue]

/-- Passing over fields takes as many of them, and no others. -/
theorem readsAll_skips {front : Fields} (h : ∀ s ∈ front, 0 ∉ Utf8.encode s) :
    (skips front.length).ReadsAll front () := by
  induction front with
  | nil => exact fun rest => rfl
  | cons s front ih =>
    obtain ⟨hs, hfront⟩ := List.forall_mem_cons.mp h
    have hskip : skip.Reads s () := fun rest => run_field_encode (fun _ => done ()) rest hs
    intro rest
    rw [List.length_cons, skips, hskip.run_cons]
    exact ih hfront rest

end Reader

/-! ### The field of a placed order -/

namespace OrderTerms

/-- The whole part fits 64 bits. -/
def HasNarrowQuantity (t : OrderTerms) : Prop :=
  -2 ^ 63 ≤ towardZero t.quantity.toRat ∧ towardZero t.quantity.toRat < 2 ^ 63

end OrderTerms

namespace Request

open Reader

variable {version : Version} {id : Int32} {c : Contract} {o : Order}

/-- How many fields stand before the quantity of a placed order: the code, the layout, the id, the
contract and the action. -/
def quantityPlace (version : Version) : Nat :=
  1 + (if version.supports Since.orderContainer then 0 else 1) + 1
    + (if version.supports Since.orderByContractId then 1 else 0) + 10
    + (if version.supports Since.tradingClass then 1 else 0)
    + (if version.supports Since.securityIds then 2 else 0) + 1

theorem length_ifSupported (carried : Bool) (fields : Fields) :
    (ifSupported carried fields).length = if carried then fields.length else 0 := by
  cases carried <;> rfl

theorem exists_fields_eq_quantity (version : Version) (id : Int32) (c : Contract) (o : Order) :
    ∃ front back, (placeOrder id c o).fields version
        = front ++ o.terms.quantityField version :: back ∧
      front.length = quantityPlace version := by
  have hlayout : (Order.layoutFields version).length
      = if version.supports Since.orderContainer then 0 else 1 := by
    unfold Order.layoutFields
    split
    · rfl
    · split <;> rfl
  obtain ⟨back, hterms⟩ : ∃ back, o.terms.fields version
      = fieldText o.terms.action :: o.terms.quantityField version :: back := ⟨_, rfl⟩
  refine ⟨fieldText (placeOrder id c o).code :: Order.layoutFields version
      ++ (fieldText id :: c.orderFields version) ++ [fieldText o.terms.action],
    ?back, ?fields, ?length⟩
  case fields =>
    simp only [fields, body, Order.placeFields, Order.mainFields, hterms, List.append_assoc,
      List.cons_append, List.nil_append]
    rfl
  case length =>
    simp only [Contract.orderFields, Contract.fields, quantityPlace, length_ifSupported, hlayout,
      List.length_append, List.length_cons, List.length_nil, Nat.zero_add, Nat.reduceAdd, if_true]
    omega

/-- What the field says is what is read of it, and it is the quantity or its whole part. -/
theorem exists_reads_quantity (version : Version) (t : OrderTerms) :
    ∃ q : Decimal, decimal.Reads (t.quantityField version) q ∧
      (Since.fractionalPositions ≤ version → q.toRat = t.quantity.toRat) ∧
      (version < Since.fractionalPositions → t.HasNarrowQuantity →
        q.toRat = towardZero t.quantity.toRat) ∧
      (version < Since.fractionalPositions → ¬t.HasNarrowQuantity → q.toRat = 0) := by
  unfold OrderTerms.quantityField
  by_cases hs : Since.fractionalPositions ≤ version
  · have hnot : ¬version < Since.fractionalPositions := Int.not_lt.mpr hs
    rw [if_pos ((Version.supports_iff _ _).mpr hs)]
    refine ⟨t.quantity.normalize, ?_, fun _ => t.quantity.toRat_normalize, fun h => absurd h hnot,
      fun h => absurd h hnot⟩
    exact reads_parsed (Utf8.zero_notMem_decimal _) (parse_fieldText_decimal _)
  · rw [if_neg (mt (Version.supports_iff _ _).mp hs)]
    obtain ⟨q, hq, hvalue⟩ := exists_reads_decimal (t.quantity.truncateInt64?.getD 0)
    have htruncate := t.quantity.truncate_eq_towardZero
    refine ⟨q, hq, fun h => absurd h hs, fun _ hn => ?_, fun _ hn => ?_⟩
    · obtain ⟨hl, hh⟩ := hn
      rw [← htruncate] at hl hh ⊢
      rw [hvalue, Decimal.truncateInt64?, if_pos (by omega), Option.getD_some,
        Int64.toInt_ofInt_of_le hl hh]
    · unfold OrderTerms.HasNarrowQuantity at hn
      rw [← htruncate] at hn
      rw [hvalue, Decimal.truncateInt64?, if_neg (by omega)]
      rfl

/-- The field stands at its place in the payload of every order that is placed. -/
theorem exists_run_quantity {f : Frame} {q : Decimal}
    (h : (placeOrder id c o).frame version = .ok f)
    (hq : decimal.Reads (o.terms.quantityField version) q) :
    ∃ rest, (skips (quantityPlace version) >>= fun _ => decimal).run f.payload = (.ok q, rest) := by
  obtain ⟨front, back, hfields, hplace⟩ := exists_fields_eq_quantity version id c o
  have hzero := f.zero_notMem
  rw [fields_of_frame h, hfields, List.forall_mem_append] at hzero
  have hpayload : f.payload
      = Fields.payload (front ++ o.terms.quantityField version :: back) ++ [] := by
    rw [List.append_nil, ← hfields, ← fields_of_frame h]
    rfl
  refine ⟨Fields.payload back ++ [], ?_⟩
  rw [hpayload, ← hplace, (readsAll_skips hzero.1).run_append, Fields.payload_cons_append]
  exact hq _

/-- A server that knows fractions reads the quantity of a placed order as the number that it is, and
any other one reads its whole part, if that fits 64 bits. One that does not is read as zero. -/
theorem quantity_is_read_back {f : Frame} (h : (placeOrder id c o).frame version = .ok f) :
    ∃ q rest, (skips (quantityPlace version) >>= fun _ => decimal).run f.payload = (.ok q, rest) ∧
      (Since.fractionalPositions ≤ version → q.toRat = o.terms.quantity.toRat) ∧
      (version < Since.fractionalPositions → o.terms.HasNarrowQuantity →
        q.toRat = towardZero o.terms.quantity.toRat) ∧
      (version < Since.fractionalPositions → ¬o.terms.HasNarrowQuantity → q.toRat = 0) := by
  obtain ⟨q, hq, hvalue⟩ := exists_reads_quantity version o.terms
  obtain ⟨rest, hrun⟩ := exists_run_quantity h hq
  exact ⟨q, rest, hrun, hvalue⟩

/-- A quantity with a sign and a fraction. -/
def negativeOrder : Order where
  terms := { quantity := ⟨true, 271828, 5, by decide, by decide⟩ }

/-- At version 100 the fraction is cut off. -/
theorem quantity_is_read_back_negative :
    ∃ f q rest, (placeOrder 1 {} negativeOrder).frame 100 = .ok f ∧
      (skips (quantityPlace 100) >>= fun _ => decimal).run f.payload = (.ok q, rest) ∧
      q.toRat = -2 := by
  obtain ⟨f, hf, -⟩ := exists_frame 100 (placeOrder 1 {} negativeOrder)
    (by decide) (by decide +kernel) (by decide +kernel)
  have hwhole : towardZero negativeOrder.terms.quantity.toRat = -2 := by
    rw [← Decimal.truncate_eq_towardZero]
    decide
  have hnarrow : negativeOrder.terms.HasNarrowQuantity := by
    unfold OrderTerms.HasNarrowQuantity
    rw [hwhole]
    decide
  obtain ⟨q, rest, hrun, -, hread, -⟩ := quantity_is_read_back hf
  refine ⟨f, q, rest, hf, hrun, ?_⟩
  rw [hread (by decide) hnarrow, hwhole]
  norm_num

/-- One more than 64 bits have room for. -/
def wideOrder : Order where
  terms :=
    { quantity := { Decimal.zero with mantissa := 2 ^ 63, mantissa_lt := by decide } }

/-- At version 100 the order is placed, and what is read is zero instead of the whole part. -/
theorem wide_quantity_is_read_as_zero :
    ∃ f q rest, (placeOrder 1 {} wideOrder).frame 100 = .ok f ∧
      (skips (quantityPlace 100) >>= fun _ => decimal).run f.payload = (.ok q, rest) ∧
      q.toRat = 0 ∧ towardZero wideOrder.terms.quantity.toRat = 2 ^ 63 := by
  obtain ⟨f, hf, -⟩ := exists_frame 100 (placeOrder 1 {} wideOrder)
    (by decide) (by decide +kernel) (by decide +kernel)
  have hreads : decimal.Reads (wideOrder.terms.quantityField 100) Decimal.zero :=
    reads_parsed (by decide) (by decide)
  obtain ⟨rest, hrun⟩ := exists_run_quantity hf hreads
  refine ⟨f, _, rest, hf, hrun, by simp [Decimal.toRat, Decimal.zero], ?_⟩
  rw [← Decimal.truncate_eq_towardZero]
  decide

end Request
end BrokerLink
