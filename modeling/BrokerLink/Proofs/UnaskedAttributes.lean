import BrokerLink.Proofs.UnsetInOrders

/-!
# Attributes that no feature asks for

An older server is not sent every attribute of an order. For most of those that it is not
sent the table of features has a row, and an order that sets one is refused. For a few
there is no row, and for a few others the row looks at something else: at ids above zero
only, at prices that are set, at the type that an order is adjusted to. Such attributes
are dropped without a word: the order is placed, or refused, as it would be without them.
-/

namespace BrokerLink

variable {version : Version}

/-! ### What is left of an order -/

/-- An attribute that the server knows or that a row asks for is kept, any other is reset. -/
def ifAsked {α : Type} (isKnown : Bool) (asks : α → Bool) (default a : α) : α :=
  if isKnown || asks a then a else default

theorem ifAsked_of_known {α : Type} {isKnown : Bool} {asks : α → Bool} {default a : α}
    (h : isKnown = true) : ifAsked isKnown asks default a = a := by
  unfold ifAsked
  rw [h]
  rfl

/-- It does not make a difference to the row. -/
theorem asks_ifAsked {α : Type} {asks : α → Bool} {default : α} (h : asks default = false)
    (isKnown : Bool) (a : α) : asks (ifAsked isKnown asks default a) = asks a := by
  unfold ifAsked
  split
  · rfl
  · rename_i hn
    rw [Bool.or_eq_true, not_or] at hn
    rw [h, eq_false_of_ne_true hn.2]

/-- What the rows for ids look at. -/
def OrderGate.isIdSet (id : Int32) : Bool := decide (0 < id)

/-- What the row for the prices of legs looks at. -/
def OrderGate.hasPriceSet (prices : List ComboLegPrice) : Bool :=
  prices.any fun l => isPriceSet l.price

open OrderGate (isIdSet hasPriceSet)

def Contract.withoutUnasked (version : Version) (c : Contract) : Contract :=
  { c with
    contractId := ifAsked (version.supports Since.orderByContractId) isIdSet 0 c.contractId }

def DeltaNeutralLeg.withoutUnasked (version : Version) (l : DeltaNeutralLeg) : DeltaNeutralLeg :=
  { l with
    contractId :=
      ifAsked (version.supports Since.deltaNeutralContractId) isIdSet 0 l.contractId
    shortSaleSlot :=
      ifAsked (version.supports Since.deltaNeutralOpenClose) isIdSet 0 l.shortSaleSlot }

def ComboTerms.withoutUnasked (version : Version) (t : ComboTerms) : ComboTerms :=
  { t with
    legPrices := ifAsked (version.supports Since.comboLegPrices) hasPriceSet [] t.legPrices
    routingParams := if version.supports Since.smartComboRouting then t.routingParams else [] }

/-- Of an adjustment only the type is asked for. -/
def OrderAdjustment.withoutUnasked (version : Version) (a : OrderAdjustment) : OrderAdjustment :=
  if version.supports Since.benchmarkPegs then a else { orderType := a.orderType }

/-- An order without the attributes that a server of the version is not sent and that no row of the
table asks for. -/
def Order.withoutUnasked (version : Version) (o : Order) : Order :=
  { o with
    volatility :=
      { o.volatility with
        deltaNeutralLeg := o.volatility.deltaNeutralLeg.withoutUnasked version }
    combo := o.combo.withoutUnasked version
    clearing := if version.supports Since.clearingAccounts then o.clearing else {}
    adjustment := o.adjustment.withoutUnasked version
    miscOptions := if version.supports Since.linking then o.miscOptions else [] }

/-! ### Requirements -/

theorem OrderAdjustment.orderType_withoutUnasked (version : Version) (a : OrderAdjustment) :
    (a.withoutUnasked version).orderType = a.orderType := by
  unfold withoutUnasked
  split <;> rfl

/-- The features that an order uses are those that it uses without them. -/
theorem OrderGate.uses_withoutUnasked (version : Version) (c : Contract) (o : Order) :
    ∀ g ∈ all, g.uses (c.withoutUnasked version) (o.withoutUnasked version) = g.uses c o := by
  have hzero : isIdSet 0 = false := rfl
  have hid := asks_ifAsked hzero (version.supports Since.orderByContractId) c.contractId
  have hhedge := asks_ifAsked hzero (version.supports Since.deltaNeutralContractId)
    o.volatility.deltaNeutralLeg.contractId
  have hslot := asks_ifAsked hzero (version.supports Since.deltaNeutralOpenClose)
    o.volatility.deltaNeutralLeg.shortSaleSlot
  have hnone : hasPriceSet [] = false := rfl
  have hprices := asks_ifAsked hnone (version.supports Since.comboLegPrices) o.combo.legPrices
  have htype := o.adjustment.orderType_withoutUnasked version
  simp only [all, List.forall_mem_cons]
  and_intros
  -- five rows look at an attribute that may be dropped
  all_goals first
    | rfl
    | exact hid
    | exact congrArg₂ or (congrArg₂ or (congrArg₂ or hhedge rfl) rfl) rfl
    | exact congrArg₂ and rfl hprices
    | exact congrArg₂ or (congrArg₂ or rfl hslot) rfl
    | exact congrArg₂ or rfl (congrArg (fun s : String => !s.isEmpty) htype)
    | exact List.forall_mem_nil _

/-! ### Fields -/

theorem Contract.orderFields_withoutUnasked (c : Contract) :
    (c.withoutUnasked version).orderFields version = c.orderFields version := by
  have hid : ifSupported (version.supports Since.orderByContractId)
        [fieldText (c.withoutUnasked version).contractId]
      = ifSupported (version.supports Since.orderByContractId) [fieldText c.contractId] :=
    ifSupported_single fun hs => congrArg fieldText (ifAsked_of_known hs)
  unfold orderFields fields
  dsimp only
  rw [hid]
  rfl

theorem DeltaNeutralLeg.fields_withoutUnasked (l : DeltaNeutralLeg) :
    (l.withoutUnasked version).fields version = l.fields version := by
  unfold fields
  exact congrArg₂ List.append
    (ifSupported_cons (fun hs => congrArg fieldText (ifAsked_of_known hs)) rfl)
    (ifSupported_congr fun hs => by rw [withoutUnasked, ifAsked_of_known hs])

theorem VolatilityTerms.fields_withoutUnasked (t : VolatilityTerms) :
    VolatilityTerms.fields version
        { t with deltaNeutralLeg := t.deltaNeutralLeg.withoutUnasked version }
      = t.fields version := by
  unfold fields
  dsimp only
  rw [DeltaNeutralLeg.fields_withoutUnasked]

theorem ComboTerms.fields_withoutUnasked (legs : List ComboLeg) (t : ComboTerms) :
    (t.withoutUnasked version).fields version legs = t.fields version legs := by
  have hprices : version.supports Since.comboLegPrices = true →
      (t.withoutUnasked version).legPrices = t.legPrices := ifAsked_of_known
  have hparams : version.supports Since.smartComboRouting = true →
      (t.withoutUnasked version).routingParams = t.routingParams := fun hs => if_pos hs
  unfold fields
  rw [ifSupported_congr fun hs => by rw [hprices hs],
    ifSupported_congr fun hs => congrArg TagValue.pairs (hparams hs)]

namespace Order

theorem mainFields_withoutUnasked (c : Contract) (o : Order) :
    mainFields version (c.withoutUnasked version) (o.withoutUnasked version)
      = mainFields version c o := by
  have hcombo : (o.withoutUnasked version).combo.fields version
        (c.withoutUnasked version).comboLegs
      = o.combo.fields version c.comboLegs := ComboTerms.fields_withoutUnasked c.comboLegs o.combo
  unfold mainFields
  rw [c.orderFields_withoutUnasked, hcombo]
  rfl

theorem strategyFields_withoutUnasked (c : Contract) (o : Order) :
    strategyFields version (c.withoutUnasked version) (o.withoutUnasked version)
      = strategyFields version c o := by
  have hvolatility : (o.withoutUnasked version).volatility.fields version
      = o.volatility.fields version := VolatilityTerms.fields_withoutUnasked o.volatility
  have hclearing : (o.withoutUnasked version).clearing.fields version
      = o.clearing.fields version := by
    refine ifSupported_congr fun hs => ?_
    have h : (o.withoutUnasked version).clearing = o.clearing := if_pos hs
    rw [h]
  have hmisc : ifSupported (version.supports Since.linking)
        [TagValue.joined (o.withoutUnasked version).miscOptions]
      = ifSupported (version.supports Since.linking) [TagValue.joined o.miscOptions] :=
    ifSupported_single fun hs => congrArg TagValue.joined (if_pos hs)
  unfold strategyFields
  rw [hvolatility, hclearing, hmisc]
  rfl

theorem triggerFields_withoutUnasked (o : Order)
    (h : version.supports Since.benchmarkPegs = true) :
    (o.withoutUnasked version).triggerFields = o.triggerFields := by
  have hadjustment : (o.withoutUnasked version).adjustment = o.adjustment := if_pos h
  unfold triggerFields
  rw [hadjustment]
  rfl

/-- None of them is among the fields. -/
theorem placeFields_withoutUnasked (id : Int32) (c : Contract) (o : Order) :
    placeFields version id (c.withoutUnasked version) (o.withoutUnasked version)
      = placeFields version id c o := by
  have htrigger : ifSupported (version.supports Since.benchmarkPegs)
        (o.withoutUnasked version).triggerFields
      = ifSupported (version.supports Since.benchmarkPegs) o.triggerFields :=
    ifSupported_congr (triggerFields_withoutUnasked o)
  unfold placeFields
  rw [mainFields_withoutUnasked, strategyFields_withoutUnasked, htrigger]
  rfl

end Order

/-- An order comes out as it does without the attributes that no row of the table asks for. -/
theorem Request.frame_withoutUnasked (id : Int32) (c : Contract) (o : Order) :
    (placeOrder id (c.withoutUnasked version) (o.withoutUnasked version)).frame version
      = (placeOrder id c o).frame version :=
  frame_placeOrder_congr (requirements_congr (OrderGate.uses_withoutUnasked version c o))
    fun _ => Order.placeFields_withoutUnasked id c o

end BrokerLink
