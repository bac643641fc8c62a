import BrokerLink.Proofs.ClearedNumbers
import BrokerLink.Proofs.SameFields

/-!
# Unset numbers of placed orders

A number of an order can be unset in two ways: it is not there, or it is the largest of its type.
What an order requires of a server does not depend on which of the two it is, nor does any of its
fields but three: where a number must always be sent, one that is not there becomes zero and the
largest is left empty. These are the display size, and before servers allowed them to be unset the
two prices of the order.
-/

namespace BrokerLink

variable {version : Version}

/-! ### Requirements -/

namespace OrderGate

@[simp] theorem usesScaleExtension_cleared (t : ScaleTerms) :
    usesScaleExtension t.cleared = usesScaleExtension t := by
  unfold usesScaleExtension
  rw [ScaleTerms.hasExtension_cleared]
  simp [ScaleTerms.cleared, ScaleExtension.cleared, isPriceSet, isNumberSet]

theorem any_isPriceSet_cleared (ps : List ComboLegPrice) :
    ((ps.map (·.cleared)).any fun p => isPriceSet p.price)
      = ps.any fun p => isPriceSet p.price := by
  rw [List.any_map]
  congr 1
  funext p
  exact isSet_clear Binary64.largest p.price

/-- No feature is used by a number that is unset, in whichever way. -/
theorem uses_cleared (c : Contract) (o : Order) :
    ∀ g ∈ all, g.uses c.cleared o.cleared = g.uses c o := by
  have hlevel := isSet_clear Int32.maxValue o.scale.initLevelSize
  have hincrement := isSet_clear Binary64.largest o.scale.priceIncrement
  have hsubsequent := isSet_clear Int32.maxValue o.scale.subsLevelSize
  have hextension := usesScaleExtension_cleared o.scale
  have hlegs := any_isPriceSet_cleared o.combo.legPrices
  have hpercent := isSet_clear Binary64.largest o.trail.percent
  have hcash := isSet_clear Binary64.largest o.cashQuantity
  simp only [all, List.forall_mem_cons]
  and_intros
  -- only six of the features are about numbers that may be unset
  all_goals first
    | rfl
    | exact congrArg₂ or hlevel hincrement
    | exact hsubsequent
    | exact hextension
    | exact congrArg _ hlegs
    | exact hpercent
    | exact hcash
    | exact List.forall_mem_nil _

theorem uses_congr {c c' : Contract} {o o' : Order} (hc : c.cleared = c'.cleared)
    (ho : o.cleared = o'.cleared) : ∀ g ∈ all, g.uses c o = g.uses c' o' := by
  intro g hg
  rw [← uses_cleared c o g hg, hc, ho, uses_cleared c' o' g hg]

theorem firstUnmet_congr {c c' : Contract} {o o' : Order} (hc : c.cleared = c'.cleared)
    (ho : o.cleared = o'.cleared) : firstUnmet version c o = firstUnmet version c' o' := by
  unfold firstUnmet
  rw [← List.head?_filter, ← List.head?_filter]
  apply congrArg List.head?
  apply List.filter_congr
  intro g hg
  rw [uses_congr hc ho g hg]

end OrderGate

/-! ### Fields -/

theorem Contract.orderFields_cleared (c : Contract) :
    c.cleared.orderFields version = c.orderFields version := by
  simp [orderFields, fields, cleared]

/-- The prices are cleared if a server of this version may be sent them unset. -/
def OrderTerms.clearedFor (version : Version) (t : OrderTerms) : OrderTerms :=
  { t.cleared with
    limitPrice := if version.supports Since.comboLegPrices then clearPrice t.limitPrice
      else t.limitPrice
    auxPrice := if version.supports Since.trailingPercent then clearPrice t.auxPrice
      else t.auxPrice }

theorem OrderTerms.priceField_clear (mayBeUnset : Bool) (x : Option Binary64) :
    priceField mayBeUnset (if mayBeUnset then clearPrice x else x) = priceField mayBeUnset x := by
  cases mayBeUnset with
  | true => exact fieldText_clearPrice x
  | false => rfl

theorem OrderTerms.fields_clearedFor (t : OrderTerms) :
    (t.clearedFor version).fields version = t.fields version := by
  unfold fields clearedFor
  dsimp only
  rw [priceField_clear, priceField_clear]
  rfl

theorem ComboTerms.fields_cleared (legs : List ComboLeg) (t : ComboTerms) :
    t.cleared.fields version legs = t.fields version legs := by
  have hprices : (t.legPrices.map (·.cleared)).map (fun l => fieldText l.price)
      = t.legPrices.map fun l => fieldText l.price := by
    rw [List.map_map]
    exact List.map_congr_left fun l _ => fieldText_clearPrice l.price
  simp [fields, cleared, hprices]

theorem VolatilityTerms.fields_cleared (t : VolatilityTerms) :
    t.cleared.fields version = t.fields version := by
  simp [fields, cleared]

theorem ScaleTerms.fields_cleared (t : ScaleTerms) :
    t.cleared.fields version = t.fields version := by
  have hext : t.cleared.extension.fields = t.extension.fields := by
    simp [cleared, ScaleExtension.cleared, ScaleExtension.fields]
  unfold fields extendedFields
  rw [hext, hasExtension_cleared]
  simp [cleared, levelFields]

namespace Order

variable {id : Int32} {c c' : Contract} {o o' : Order}

/-- All numbers are cleared but those that a server of this version is always sent. -/
def clearedFor (version : Version) (o : Order) : Order :=
  { o.cleared with terms := o.terms.clearedFor version, displaySize := o.displaySize }

theorem mainFields_clearedFor (c : Contract) (o : Order) :
    mainFields version c.cleared (o.clearedFor version) = mainFields version c o := by
  have hterms : (o.clearedFor version).terms.fields version = o.terms.fields version :=
    OrderTerms.fields_clearedFor o.terms
  have hcombo : (o.clearedFor version).combo.fields version c.cleared.comboLegs
      = o.combo.fields version c.comboLegs := ComboTerms.fields_cleared c.comboLegs o.combo
  unfold mainFields
  rw [c.orderFields_cleared, hterms, hcombo]
  rfl

theorem fillFields_clearedFor (o : Order) :
    fillFields version (o.clearedFor version) = fillFields version o := by
  simp [fillFields, clearedFor, cleared, FillRules.cleared, OrderSettlement.cleared,
    StockPeg.cleared, StockPeg.fields]

theorem strategyFields_clearedFor (c : Contract) (o : Order) :
    strategyFields version c.cleared (o.clearedFor version) = strategyFields version c o := by
  have hvolatility : (o.clearedFor version).volatility.fields version
      = o.volatility.fields version := VolatilityTerms.fields_cleared o.volatility
  have htrail : (o.clearedFor version).trail.fields version = o.trail.fields version := by
    simp [clearedFor, cleared, TrailTerms.cleared, TrailTerms.fields]
  have hscale : (o.clearedFor version).scale.fields version = o.scale.fields version :=
    ScaleTerms.fields_cleared o.scale
  unfold strategyFields
  rw [hvolatility, htrail, hscale]
  rfl

theorem triggerFields_clearedFor (o : Order) :
    (o.clearedFor version).triggerFields = o.triggerFields := by
  have hadjustment : (o.clearedFor version).adjustment.fields = o.adjustment.fields := by
    simp [clearedFor, cleared, OrderAdjustment.cleared, OrderAdjustment.fields]
  unfold triggerFields
  rw [hadjustment]
  rfl

theorem recentFields_clearedFor (o : Order) :
    recentFields version (o.clearedFor version) = recentFields version o := by
  simp [recentFields, clearedFor, cleared]

/-- Clearing changes no field. -/
theorem placeFields_clearedFor (id : Int32) (c : Contract) (o : Order) :
    placeFields version id c.cleared (o.clearedFor version) = placeFields version id c o := by
  unfold placeFields
  rw [mainFields_clearedFor, fillFields_clearedFor, strategyFields_clearedFor,
    triggerFields_clearedFor, recentFields_clearedFor]

/-- A number that is always sent tells in which way it is unset. -/
theorem eq_of_text_getD {α : Type} [DecidableEq α] [FieldText α] {unset default : α}
    {x y : Option α} (hu : fieldText unset = "") (hd : fieldText default ≠ "")
    (h : clear unset x = clear unset y)
    (ht : fieldText (x.getD default) = fieldText (y.getD default)) : x = y := by
  rcases eq_or_of_clear_eq h with h | ⟨rfl, rfl⟩ | ⟨rfl, rfl⟩
  · exact h
  · exact absurd (ht.trans hu) hd
  · exact absurd (ht.symm.trans hu) hd

theorem price_eq_of_field {mayBeUnset : Bool} {x y : Option Binary64}
    (h : clearPrice x = clearPrice y)
    (ht : OrderTerms.priceField mayBeUnset x = OrderTerms.priceField mayBeUnset y) :
    (if mayBeUnset then clearPrice x else x) = if mayBeUnset then clearPrice y else y := by
  cases mayBeUnset with
  | true => exact h
  | false => exact eq_of_text_getD fieldText_float_unset (by decide) h ht

/-- Orders that are placed alike are so because the numbers that are always sent are the same. -/
theorem clearedFor_eq_of_placeFields (hc : c.cleared = c'.cleared) (ho : o.cleared = o'.cleared)
    (h : placeFields version id c o = placeFields version id c' o') :
    o.clearedFor version = o'.clearedFor version := by
  have hsecType : c.secType = c'.secType := congrArg (fun c => c.secType) hc
  have horderType : o.terms.orderType = o'.terms.orderType :=
    congrArg (fun o => o.terms.orderType) ho
  have hcombo : c.isCombo = c'.isCombo := by rw [Contract.isCombo, Contract.isCombo, hsecType]
  have hpegged : o.isPegged = o'.isPegged := by rw [isPegged, isPegged, horderType]
  have halike := placedAlike_of_placeFields (fun _ => hcombo) (fun _ => hpegged) h
  have hlimit := price_eq_of_field (congrArg (fun o => o.terms.limitPrice) ho)
    halike.main.terms.limitPrice
  have haux := price_eq_of_field (congrArg (fun o => o.terms.auxPrice) ho)
    halike.main.terms.auxPrice
  have hsize : o.displaySize = o'.displaySize :=
    eq_of_text_getD fieldText_int32_unset (by decide) (congrArg Order.displaySize ho)
      halike.main.displaySize
  have hterms : o.terms.clearedFor version = o'.terms.clearedFor version := by
    have h : o.terms.cleared = o'.terms.cleared := congrArg Order.terms ho
    rw [OrderTerms.clearedFor, OrderTerms.clearedFor, h, hlimit, haux]
  rw [clearedFor, clearedFor, ho, hterms, hsize]

end Order

/-! ### Placed orders -/

namespace Request

variable {id : Int32} {c c' : Contract} {o o' : Order}

theorem requirements_congr (h : ∀ g ∈ OrderGate.all, g.uses c o = g.uses c' o') :
    (placeOrder id c o).requirements = (placeOrder id c' o').requirements := by
  apply List.map_congr_left
  intro g hg
  rw [OrderGate.toRequirement, OrderGate.toRequirement, h g hg]

/-- The first requirement that is not met is the first row of the table that the order uses and the
server lacks. -/
theorem firstUnmet_placeOrder (id : Int32) (c : Contract) (o : Order) :
    (placeOrder id c o).firstUnmet version
      = (OrderGate.firstUnmet version c o).map (OrderGate.toRequirement c o) := by
  have hrow : (fun q : Requirement => !q.isMet version) ∘ OrderGate.toRequirement c o
      = fun g => !version.supports g.since && g.uses c o := by
    funext g
    simp [Requirement.isMet, OrderGate.toRequirement, Bool.and_comm]
  unfold firstUnmet Requirement.firstUnmet OrderGate.firstUnmet requirements
  rw [List.find?_map, hrow]

/-- Orders that require the same are refused alike, or they are placed by their fields. -/
theorem frame_placeOrder_congr
    (hreq : (placeOrder id c o).requirements = (placeOrder id c' o').requirements)
    (hfields : OrderGate.firstUnmet version c o = none →
      Order.placeFields version id c o = Order.placeFields version id c' o') :
    (placeOrder id c o).frame version = (placeOrder id c' o').frame version := by
  have hunmet : (placeOrder id c o).firstUnmet version
      = (placeOrder id c' o').firstUnmet version := by
    rw [firstUnmet, hreq, ← firstUnmet]
  unfold frame
  rw [← hunmet]
  cases hu : OrderGate.firstUnmet version c o with
  | some g =>
    rw [firstUnmet_placeOrder, hu]
    rfl
  | none =>
    rw [firstUnmet_placeOrder, hu]
    have h : (placeOrder id c o).fields version = (placeOrder id c' o').fields version :=
      congrArg (List.cons _) (hfields hu)
    rw [h]
    rfl

/-- Between orders that are the same but for the way in which their numbers are unset, a server
tells the difference only by a number that it must always be sent. All of them require the same,
and if that is too much they are refused alike; if not, they make the same frame exactly if the
numbers that are always sent are the same. -/
theorem unset_alike_unless_always_sent (hc : c.cleared = c'.cleared) (ho : o.cleared = o'.cleared) :
    OrderGate.firstUnmet version c o = OrderGate.firstUnmet version c' o' ∧
    (OrderGate.firstUnmet version c o ≠ none ∨ o.clearedFor version = o'.clearedFor version →
      (placeOrder id c o).frame version = (placeOrder id c' o').frame version) ∧
    ∀ f f', (placeOrder id c o).frame version = .ok f →
      (placeOrder id c' o').frame version = .ok f' → f.bytes = f'.bytes →
        o.clearedFor version = o'.clearedFor version := by
  refine ⟨OrderGate.firstUnmet_congr hc ho, ?_, ?_⟩
  · intro h
    apply frame_placeOrder_congr (requirements_congr (OrderGate.uses_congr hc ho))
    intro hu
    have hsent : o.clearedFor version = o'.clearedFor version := h.resolve_left (not_not_intro hu)
    rw [← Order.placeFields_clearedFor id c o, hc, hsent, Order.placeFields_clearedFor]
  · intro f f' hf hf' hb
    have hfields := fields_eq_of_bytes_eq hf hf' hb
    exact Order.clearedFor_eq_of_placeFields hc ho (List.cons.inj hfields).2

/-- A share, with a strike in the way of none. -/
def unsetStrike : Contract where
  symbol := "IBM"
  strike := some Binary64.largest

/-- A trail and a quantity in cash that are there, but are unset. -/
def unsetTrail : Order where
  trail := { percent := some Binary64.largest }
  cashQuantity := some Binary64.largest

/-- A server of version 60 knows neither of the two, and is sent what it knows. -/
theorem unset_alike_unless_always_sent_trail :
    unsetStrike.cleared = Contract.cleared { symbol := "IBM" } ∧
    unsetTrail.cleared = Order.cleared {} ∧
    OrderGate.firstUnmet 60 unsetStrike unsetTrail = none ∧
    (placeOrder 7 unsetStrike unsetTrail).frame 60
      = (placeOrder 7 { symbol := "IBM" } {}).frame 60 := by
  have hc : unsetStrike.cleared = Contract.cleared { symbol := "IBM" } := rfl
  have ho : unsetTrail.cleared = Order.cleared {} := rfl
  have hsent : unsetTrail.clearedFor 60 = Order.clearedFor 60 {} := rfl
  have hframe : (placeOrder 7 unsetStrike unsetTrail).frame 60
      = (placeOrder 7 { symbol := "IBM" } {}).frame 60 :=
    (unset_alike_unless_always_sent hc ho).2.1 (.inr hsent)
  exact ⟨hc, ho, by decide, hframe⟩

/-- A display size that is not there becomes zero, and one that stands for none is left empty. -/
theorem unset_displaySize_is_told :
    ∃ f f' : Frame, (placeOrder 1 {} {}).frame 157 = .ok f ∧
      (placeOrder 1 {} { displaySize := some Int32.maxValue }).frame 157 = .ok f' ∧
      Order.cleared {} = Order.cleared { displaySize := some Int32.maxValue } ∧
      f.bytes ≠ f'.bytes := by
  obtain ⟨f, hf, -⟩ := exists_frame 157 (placeOrder 1 {} {})
    (by decide) (by decide +kernel) (by decide +kernel)
  obtain ⟨f', hf', -⟩ := exists_frame 157
    (placeOrder 1 {} { displaySize := some Int32.maxValue })
    (by decide) (by decide +kernel) (by decide +kernel)
  exact ⟨f, f', hf, hf', rfl, fun hb => absurd (fields_eq_of_bytes_eq hf hf' hb) (by decide)⟩

end Request
end BrokerLink
