import BrokerLink.Proofs.RecordEvents

/-!
# Values of option computations

A record of an option computation carries two, four or eight numbers, and which of them it
leaves out is told by the version, its layout and its tick together. A number that it carries
is the value at its position, unless it stands for none: the largest number does at every
position, -2 does for a sensitivity and -1 for any other value. So no number that stands for
none is ever told as a value, and none of the others is lost or told at another position.
-/

namespace BrokerLink

open Reader Record

theorem TickType.isModel_iff {t : TickType} :
    t.isModel = true ↔ t = modelOption ∨ t = delayedModelOptionComputation := by
  cases t <;> decide

theorem Spelled.value_eq_zero {v : SpelledFloat} (h : v.text = "") : v.value = Binary64.zero := by
  have hp := v.parses
  rw [h, orEmpty_empty] at hp
  exact (Except.ok.inj hp).symm

namespace Record

theorem computed_eq_none_iff {mark x : Binary64} :
    computed mark x = none ↔ x = mark ∨ x = Binary64.largest := by
  unfold computed
  split
  · rename_i h
    exact ⟨fun _ => h, fun _ => rfl⟩
  · rename_i h
    exact ⟨nofun, fun hx => absurd hx h⟩

theorem computed_of_ne {mark x : Binary64} (hm : x ≠ mark) (hl : x ≠ Binary64.largest) :
    computed mark x = some x := if_neg (not_or.mpr ⟨hm, hl⟩)

end Record

/-- The values of an option computation. -/
inductive ComputedValue where
  | impliedVolatility
  | delta
  | price
  | dividendValue
  | gamma
  | vega
  | theta
  | underlyingPrice
  deriving DecidableEq, Repr

namespace ComputedValue

/-- Which of the numbers of the record it is. -/
def position : ComputedValue → Nat
  | impliedVolatility => 0
  | delta => 1
  | price => 2
  | dividendValue => 3
  | gamma => 4
  | vega => 5
  | theta => 6
  | underlyingPrice => 7

/-- Whether it says how sensitive the price of the option is. -/
def isGreek : ComputedValue → Bool
  | delta | gamma | vega | theta => true
  | impliedVolatility | price | dividendValue | underlyingPrice => false

/-- The number that the server writes if it did not compute the value. -/
def notComputed (q : ComputedValue) : Binary64 :=
  if q.isGreek then Binary64.minusTwo else Binary64.minusOne

/-- What it is in a computation. -/
def of (q : ComputedValue) (c : OptionComputation) : Option Binary64 :=
  match q with
  | impliedVolatility => c.impliedVolatility
  | delta => c.delta
  | price => c.price
  | dividendValue => c.dividendValue
  | gamma => c.gamma
  | vega => c.vega
  | theta => c.theta
  | underlyingPrice => c.underlyingPrice

/-- What a record with these numbers tells of the value. -/
def told (q : ComputedValue) (values : List SpelledFloat) : Option Binary64 :=
  values[q.position]?.bind fun v => computed q.notComputed v.value

theorem notComputed_eq (q : ComputedValue) :
    q.notComputed = Binary64.minusOne ∨ q.notComputed = Binary64.minusTwo := by
  cases q <;> decide

/-- What is not finite is told as it is. -/
theorem computed_of_not_finite {q : ComputedValue} {x : Binary64}
    (hx : x.isNaN = true ∨ x.isInfinite = true) : computed q.notComputed x = some x := by
  refine computed_of_ne ?_ ?_
  · rintro rfl
    rcases q.notComputed_eq with h | h <;> rw [h] at hx <;> revert hx <;> decide
  · rintro rfl
    revert hx
    decide

/-- The value is told of the number at its position, which only stands for none if it is the
largest or the one that the server writes for this value. -/
structure IsTold (q : ComputedValue) (values : List SpelledFloat)
    (c : OptionComputation) : Prop where
  none_iff : q.of c = none ↔ values[q.position]? = none ∨
    ∃ v, values[q.position]? = some v ∧ (v.value = q.notComputed ∨ v.value = Binary64.largest)
  unchanged : ∀ v, values[q.position]? = some v → v.value ≠ q.notComputed →
    v.value ≠ Binary64.largest → q.of c = some v.value
  empty : ∀ v, values[q.position]? = some v → v.text = "" → q.of c = some Binary64.zero
  /-- The number that stands for none at other positions. -/
  otherMark : ∀ v, values[q.position]? = some v →
    v.value = (if q.isGreek then Binary64.minusOne else Binary64.minusTwo) →
    q.of c = some v.value
  notFinite : ∀ v, values[q.position]? = some v →
    v.value.isNaN = true ∨ v.value.isInfinite = true → q.of c = some v.value

theorem isTold_of_eq {q : ComputedValue} {values : List SpelledFloat}
    {c : OptionComputation} (h : q.of c = q.told values) : q.IsTold values c := by
  have hvalue : ∀ v, values[q.position]? = some v →
      q.of c = computed q.notComputed v.value := by
    intro v hv
    rw [h, told, hv, Option.bind_some]
  have hunchanged : ∀ v, values[q.position]? = some v → v.value ≠ q.notComputed →
      v.value ≠ Binary64.largest → q.of c = some v.value := by
    intro v hv hm hl
    rw [hvalue v hv, computed_of_ne hm hl]
  refine ⟨?_, hunchanged, ?_, ?_, ?_⟩
  · cases hv : values[q.position]? with
    | none => simp [h, told, hv]
    | some v => simp [hvalue v hv, computed_eq_none_iff]
  · intro v hv htext
    have hzero := Spelled.value_eq_zero htext
    rw [← hzero]
    refine hunchanged v hv ?_ ?_
    · rw [hzero]
      cases q <;> decide
    · rw [hzero]
      decide
  · intro v hv hmark
    refine hunchanged v hv ?_ ?_
    · rw [hmark]
      cases q <;> decide
    · rw [hmark]
      cases q <;> decide
  · intro v hv hx
    rw [hvalue v hv, computed_of_not_finite hx]

end ComputedValue

namespace Record

variable {version : Version}

/-! ### Which numbers are carried -/

/-- How many numbers a record of a layout carries. -/
def valueCount (layout : Int) (tick : TickType) : Nat :=
  if 6 ≤ layout then 8 else if tick.isModel then 4 else 2

theorem spells_priceLike : priceLike.Spells (fun t : SpelledFloat => [t.text])
    fun t => computed Binary64.minusOne t.value := spells_float.map _

theorem spells_greek : greek.Spells (fun t : SpelledFloat => [t.text])
    fun t => computed Binary64.minusTwo t.value := spells_float.map _

/-- A computation is made of as many numbers as are carried, each value of the one at its
position. -/
theorem exists_values_of_takes {layout : Int} {tick : TickType} {fields : Fields}
    {c : OptionComputation} (h : (optionComputation layout tick).Takes fields c) :
    ∃ values : List SpelledFloat, values.length = valueCount layout tick ∧
      fields = values.map Spelled.text ∧ ∀ q : ComputedValue, q.of c = q.told values := by
  simp only [optionComputation, spells_priceLike.takes_bind, spells_greek.takes_bind,
    (spells_priceLike.since _ _).takes_bind, (spells_greek.since _ _).takes_bind, pure_eq,
    takes_done] at h
  obtain ⟨volatility, _, rfl, delta, _, rfl, price, _, rfl, dividend, _, rfl, gamma, _, rfl,
    vega, _, rfl, theta, _, rfl, underlying, _, rfl, rfl, rfl⟩ := h
  by_cases hl : 6 ≤ layout
  · refine ⟨[volatility, delta, price, dividend, gamma, vega, theta, underlying], ?_, ?_, ?_⟩
    · simp [valueCount, hl]
    · simp [hl, ifSupported]
    · intro q
      cases q <;> simp [ComputedValue.of, hl] <;> rfl
  · by_cases hm : tick.isModel = true
    · refine ⟨[volatility, delta, price, dividend], ?_, ?_, ?_⟩
      · simp [valueCount, hl, hm]
      · simp [hl, hm, ifSupported]
      · intro q
        cases q <;> simp [ComputedValue.of, hl, hm] <;> rfl
    · refine ⟨[volatility, delta], ?_, ?_, ?_⟩
      · simp [valueCount, hl, hm]
      · simp [hl, hm, ifSupported]
      · intro q
        cases q <;> simp [ComputedValue.of, hl, hm] <;> rfl

/-- A record of an option computation in texts. -/
structure SpelledComputation where
  layout : SpelledInt32
  id : SpelledInt32
  code : SpelledInt32
  tick : TickType
  isTick : code.value = tick.code
  basis : SpelledInt32
  values : List SpelledFloat

namespace SpelledComputation

/-- Newer servers leave the layout out and say what the values are based on. -/
def fields (version : Version) (t : SpelledComputation) : Fields :=
  ifSupported (decide (version < Since.priceBasedVolatility)) [t.layout.text]
    ++ [t.id.text, t.code.text]
    ++ ifSupported (version.supports Since.priceBasedVolatility) [t.basis.text]
    ++ t.values.map Spelled.text

/-- The layout of the record, the newest one if it is left out. -/
def usedLayout (version : Version) (t : SpelledComputation) : Int :=
  if version < Since.priceBasedVolatility then t.layout.value.toInt else newestLayout

theorem exists_of_takes {fields : Fields} {e : Event}
    (h : (tickOptionComputation version).Takes fields e) :
    ∃ (t : SpelledComputation) (c : OptionComputation), fields = t.fields version ∧
      t.values.length = valueCount (t.usedLayout version) t.tick ∧
      e = .tickOptionComputation t.id.value t.tick
        (if version.supports Since.priceBasedVolatility then t.basis.value else 0) c ∧
      ∀ q : ComputedValue, q.of c = q.told t.values := by
  rw [tickOptionComputation, (spells_layoutBefore _ _).takes_bind] at h
  obtain ⟨layout, _, rfl, h⟩ := h
  rw [spells_int32.takes_bind] at h
  obtain ⟨id, _, rfl, h⟩ := h
  rw [takes_bind] at h
  obtain ⟨_, _, tick, rfl, htick, h⟩ := h
  obtain ⟨code, rfl, hcode⟩ := SpelledPrice.exists_code htick
  rw [(spells_int32.since _ _).takes_bind] at h
  obtain ⟨basis, _, rfl, h⟩ := h
  rw [takes_bind] at h
  obtain ⟨_, _, c, rfl, hc, rfl, rfl⟩ := h
  obtain ⟨values, hlength, rfl, hvalues⟩ := exists_values_of_takes hc
  refine ⟨⟨layout, id, code, tick, hcode, basis, values⟩, c, ?_, hlength, rfl, hvalues⟩
  simp [SpelledComputation.fields]

theorem valueCount_usedLayout (t : SpelledComputation) :
    valueCount (t.usedLayout version) t.tick =
      if Since.priceBasedVolatility ≤ version ∨ 6 ≤ t.layout.value.toInt then 8
      else if t.tick = .modelOption ∨ t.tick = .delayedModelOptionComputation then 4 else 2 := by
  by_cases hv : version < Since.priceBasedVolatility
  · have hnot : ¬ Since.priceBasedVolatility ≤ version := Int.not_le.mpr hv
    simp only [valueCount, usedLayout, if_pos hv, hnot, false_or, TickType.isModel_iff]
  · have hle : Since.priceBasedVolatility ≤ version := Int.not_lt.mp hv
    have hnewest : (6 : Int) ≤ newestLayout := by decide
    simp only [valueCount, usedLayout, if_neg hv, hle, true_or, if_true, if_pos hnewest]

end SpelledComputation

/-- An accepted record of an option computation carries as many numbers as its version, its layout
and its tick call for, and tells each value of the number at its position. What the values are based
on is told by newer servers only. -/
theorem computed_values_are_told {payload : List UInt8} {es : List Event}
    (h : decode version payload = .ok es)
    (hk : (int32.run payload).1 = .ok RecordKind.tickOptionComputation.code) :
    ∃ (kind : SpelledInt32) (t : SpelledComputation) (c : OptionComputation),
      payload = Fields.payload (kind.text :: t.fields version) ∧
      t.values.length =
        (if Since.priceBasedVolatility ≤ version ∨ 6 ≤ t.layout.value.toInt then 8
        else if t.tick = .modelOption ∨ t.tick = .delayedModelOptionComputation then 4 else 2) ∧
      es = [.tickOptionComputation t.id.value t.tick
        (if Since.priceBasedVolatility ≤ version then t.basis.value else 0) c] ∧
      ∀ q : ComputedValue, q.IsTold t.values c := by
  obtain ⟨kind, fields, rfl, htakes⟩ := exists_takes_of_decode h hk
  obtain ⟨_, _, e, rfl, he, rfl, rfl⟩ := takes_bind.mp htakes
  obtain ⟨t, c, rfl, hlength, rfl, hvalues⟩ := SpelledComputation.exists_of_takes he
  refine ⟨kind, t, c, ?_, ?_, ?_, fun q => ComputedValue.isTold_of_eq (hvalues q)⟩
  · rw [List.append_nil]
  · rw [hlength, SpelledComputation.valueCount_usedLayout]
  · simp only [Version.supports_iff]

/-- A model without its dividend, from a server that writes four values for one. -/
def modelValues : List UInt8 := Fields.payload ["21", "5", "9001", "13", "", "-1", "-2", "-1"]

theorem computed_values_are_told_model :
    ∃ es, decode 155 modelValues = .ok es ∧
      ∃ (kind : SpelledInt32) (t : SpelledComputation) (c : OptionComputation),
        modelValues = Fields.payload (kind.text :: t.fields 155) ∧
        t.values.length =
          (if Since.priceBasedVolatility ≤ 155 ∨ 6 ≤ t.layout.value.toInt then 8
          else if t.tick = .modelOption ∨ t.tick = .delayedModelOptionComputation then 4 else 2) ∧
        es = [.tickOptionComputation t.id.value t.tick
          (if Since.priceBasedVolatility ≤ 155 then t.basis.value else 0) c] ∧
        ∀ q : ComputedValue, q.IsTold t.values c := by
  have hd : ∃ es, decode 155 modelValues = .ok es := ⟨_, by rfl⟩
  obtain ⟨es, hes⟩ := hd
  exact ⟨es, hes, computed_values_are_told hes (by rfl)⟩

end Record
end BrokerLink
