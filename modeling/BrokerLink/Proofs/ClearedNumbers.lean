import BrokerLink.Order
import BrokerLink.Field.Text

/-!
# Numbers that stand for none

The largest number of a type stands for none wherever it is met. A number that may be unset is
*cleared* by putting none in the place of that number, and a record by clearing every number of it
that may be unset. Records that are equal once they are cleared have the same numbers set, and to
the same.
-/

namespace BrokerLink

section
variable {α : Type} [DecidableEq α] {unset : α} {x y : Option α}

/-- None in the place of the number that stands for it. -/
def clear (unset : α) (x : Option α) : Option α := x.bind (Reader.setUnless unset)

@[simp] theorem clear_none : clear unset none = none := rfl

theorem clear_some (unset a : α) : clear unset (some a) = if a = unset then none else some a := rfl

@[simp] theorem clear_unset : clear unset (some unset) = none := if_pos rfl

@[simp] theorem clear_setUnless (a : α) :
    clear unset (Reader.setUnless unset a) = Reader.setUnless unset a := by
  unfold Reader.setUnless
  split
  · rfl
  · rename_i h
    rw [clear_some, if_neg h]

theorem clear_eq_ite (unset : α) (x : Option α) :
    clear unset x = if x = some unset then none else x := by
  cases x with
  | none => rfl
  | some a => simp [clear_some]

/-- Only the number that stands for none is cleared. -/
theorem clear_cases (unset : α) (x : Option α) :
    clear unset x = x ∨ clear unset x = none ∧ x = some unset := by
  cases x with
  | none => exact .inl rfl
  | some a =>
    rw [clear_some]
    split
    · rename_i h
      exact .inr ⟨rfl, congrArg some h⟩
    · exact .inl rfl

/-- What is not changed by clearing does not hold the number that stands for none. -/
theorem clear_eq_self_iff : clear unset x = x ↔ x ≠ some unset := by
  cases x with
  | none => simp
  | some a => simp [clear_some]

/-- Either nothing was to be cleared, or one of them is none and the other one stands for it. -/
theorem eq_or_of_clear_eq (h : clear unset x = clear unset y) :
    x = y ∨ x = none ∧ y = some unset ∨ x = some unset ∧ y = none := by
  rcases clear_cases unset x with hx | ⟨hx, hx'⟩ <;>
    rcases clear_cases unset y with hy | ⟨hy, hy'⟩
  · exact .inl (hx.symm.trans (h.trans hy))
  · exact .inr (.inl ⟨hx.symm.trans (h.trans hy), hy'⟩)
  · exact .inr (.inr ⟨hx', hy.symm.trans (h.symm.trans hx)⟩)
  · exact .inl (hx'.trans hy'.symm)

@[simp] theorem isSet_clear (unset : α) (x : Option α) :
    isSet unset (clear unset x) = isSet unset x := by
  rcases clear_cases unset x with hx | ⟨hx, rfl⟩
  · rw [hx]
  · simp [isSet]

/-- Nothing is written for none and for the number that stands for it. -/
theorem fieldText_clear [FieldText α] (hu : fieldText unset = "") (x : Option α) :
    fieldText (clear unset x) = fieldText x := by
  rcases clear_cases unset x with hx | ⟨hx, rfl⟩
  · rw [hx]
  · rw [hx, fieldText_none, fieldText_some, hu]

end

/-- A price is set if it is not the largest float. -/
abbrev clearPrice (x : Option Binary64) : Option Binary64 := clear Binary64.largest x

/-- A whole number is set if it is not the largest one. -/
abbrev clearNumber (n : Option Int32) : Option Int32 := clear Int32.maxValue n

@[simp] theorem fieldText_clearPrice (x : Option Binary64) :
    fieldText (clearPrice x) = fieldText x := fieldText_clear fieldText_float_unset x

@[simp] theorem fieldText_clearNumber (n : Option Int32) :
    fieldText (clearNumber n) = fieldText n := fieldText_clear fieldText_int32_unset n

/-! ### Contracts and orders -/

def Contract.cleared (c : Contract) : Contract := { c with strike := clearPrice c.strike }

def OrderTerms.cleared (t : OrderTerms) : OrderTerms :=
  { t with limitPrice := clearPrice t.limitPrice, auxPrice := clearPrice t.auxPrice }

def OrderSettlement.cleared (s : OrderSettlement) : OrderSettlement :=
  { s with percentOffset := clearPrice s.percentOffset }

def StockPeg.cleared (p : StockPeg) : StockPeg where
  startingPrice := clearPrice p.startingPrice
  stockRefPrice := clearPrice p.stockRefPrice
  delta := clearPrice p.delta
  rangeLower := clearPrice p.rangeLower
  rangeUpper := clearPrice p.rangeUpper

def FillRules.cleared (r : FillRules) : FillRules :=
  { r with minQuantity := clearNumber r.minQuantity }

def VolatilityTerms.cleared (t : VolatilityTerms) : VolatilityTerms :=
  { t with
    volatility := clearPrice t.volatility
    volatilityType := clearNumber t.volatilityType
    deltaNeutralAuxPrice := clearPrice t.deltaNeutralAuxPrice
    referencePriceType := clearNumber t.referencePriceType }

def TrailTerms.cleared (t : TrailTerms) : TrailTerms where
  stopPrice := clearPrice t.stopPrice
  percent := clearPrice t.percent

def ComboLegPrice.cleared (p : ComboLegPrice) : ComboLegPrice := { price := clearPrice p.price }

def ComboTerms.cleared (t : ComboTerms) : ComboTerms :=
  { t with
    basisPoints := clearPrice t.basisPoints
    basisPointsType := clearNumber t.basisPointsType
    legPrices := t.legPrices.map (·.cleared) }

def ScaleExtension.cleared (e : ScaleExtension) : ScaleExtension :=
  { e with
    priceAdjustValue := clearPrice e.priceAdjustValue
    priceAdjustInterval := clearNumber e.priceAdjustInterval
    profitOffset := clearPrice e.profitOffset
    initPosition := clearNumber e.initPosition
    initFillQuantity := clearNumber e.initFillQuantity }

def ScaleTerms.cleared (t : ScaleTerms) : ScaleTerms :=
  { t with
    initLevelSize := clearNumber t.initLevelSize
    subsLevelSize := clearNumber t.subsLevelSize
    priceIncrement := clearPrice t.priceIncrement
    extension := t.extension.cleared }

def OrderAdjustment.cleared (a : OrderAdjustment) : OrderAdjustment :=
  { a with
    triggerPrice := clearPrice a.triggerPrice
    limitPriceOffset := clearPrice a.limitPriceOffset
    stopPrice := clearPrice a.stopPrice
    stopLimitPrice := clearPrice a.stopLimitPrice
    trailingAmount := clearPrice a.trailingAmount }

def Order.cleared (o : Order) : Order :=
  { o with
    terms := o.terms.cleared
    settlement := o.settlement.cleared
    stockPeg := o.stockPeg.cleared
    fill := o.fill.cleared
    volatility := o.volatility.cleared
    trail := o.trail.cleared
    combo := o.combo.cleared
    scale := o.scale.cleared
    adjustment := o.adjustment.cleared
    displaySize := clearNumber o.displaySize
    cashQuantity := clearPrice o.cashQuantity }

@[simp] theorem ScaleTerms.hasExtension_cleared (t : ScaleTerms) :
    t.cleared.hasExtension = t.hasExtension := by
  unfold hasExtension cleared
  cases t.priceIncrement with
  | none => rfl
  | some x =>
    by_cases h : x = Binary64.largest
    · simp [h]
    · simp [clear_some, h]

end BrokerLink
