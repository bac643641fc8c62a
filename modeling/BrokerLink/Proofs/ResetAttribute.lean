import BrokerLink.Proofs.OlderLayout
import BrokerLink.Proofs.UnaskedAttributes

/-!
# Which attributes are dropped

What the newest server would be told of an order, an older one is told too, or the order
is refused, but for a few attributes. Attributes are reset to their defaults; if that can
be seen at the newest version, then it can be seen at every older one, or the order uses a
feature that is missing there. The table of features has a row for most of what the older
layouts leave out; `Covered` names what it does not speak of, and that is dropped.
-/

namespace BrokerLink

/-! ### Attributes that are reset -/

/-- In `s'` an attribute is as in `s`, or as in the default `d`. -/
def KeptOrReset {σ α : Type} (d s s' : σ) (get : σ → α) : Prop := get s' = get s ∨ get s' = get d

/-- An attribute that is carried or has the text of the default differs from what it is reset to
only where it is carried. -/
theorem KeptOrReset.same_text {σ α β : Type} {d s s' : σ} {get : σ → α} (text : α → β)
    {carried : Prop} (h : KeptOrReset d s s' get) (hu : carried ∨ text (get s) = text (get d))
    (he : carried → text (get s) = text (get s')) : text (get s) = text (get s') := by
  rcases hu with hc | hu
  · exact he hc
  · rcases h with h | h
    · rw [h]
    · rw [h, hu]

/-- An attribute that has the text of the default is not told apart from it. -/
theorem KeptOrReset.same_of_default {σ α β : Type} {d s s' : σ} {get : σ → α} (text : α → β)
    (h : KeptOrReset d s s' get) (hu : text (get s) = text (get d)) :
    text (get s) = text (get s') := by
  have hf : False → text (get s) = text (get s') := False.elim
  exact h.same_text text (.inr hu) hf

/-- An attribute in a field of its own. -/
theorem KeptOrReset.same_field {σ α : Type} [FieldText α] {d s s' : σ} {get : σ → α}
    {carried : Prop} (h : KeptOrReset d s s' get) (hu : carried ∨ get s = get d)
    (he : carried → fieldText (get s) = fieldText (get s')) :
    fieldText (get s) = fieldText (get s') :=
  h.same_text fieldText (hu.imp_right (congrArg fieldText)) he

theorem KeptOrReset.eq_of_default {σ α : Type} {d s s' : σ} {get : σ → α}
    (h : KeptOrReset d s s' get) (hu : get s = get d) : get s = get s' := h.same_of_default id hu

theorem KeptOrReset.same {σ α : Type} {d s s' : σ} {get : σ → α} {carried : Prop}
    (h : KeptOrReset d s s' get) (hu : carried ∨ get s = get d) (he : carried → get s = get s') :
    get s = get s' := h.same_text id hu he

/-- Attributes of a contract are reset. Those that every layout carries may change in any way. -/
structure Contract.Reset (c c' : Contract) : Prop where
  contractId : KeptOrReset {} c c' (·.contractId)
  secType : KeptOrReset {} c c' (·.secType)
  tradingClass : KeptOrReset {} c c' (·.tradingClass)
  secIdType : KeptOrReset {} c c' (·.secIdType)
  secId : KeptOrReset {} c c' (·.secId)
  comboLegs : c'.comboLegs = [] ∨
    List.Forall₂ (fun l l' => KeptOrReset {} l l' (·.exemptCode)) c.comboLegs c'.comboLegs
  deltaNeutral : KeptOrReset {} c c' (·.deltaNeutral)

structure DeltaNeutralLeg.Reset (l l' : DeltaNeutralLeg) : Prop where
  contractId : KeptOrReset {} l l' (·.contractId)
  settlingFirm : KeptOrReset {} l l' (·.settlingFirm)
  clearingAccount : KeptOrReset {} l l' (·.clearingAccount)
  clearingIntent : KeptOrReset {} l l' (·.clearingIntent)
  openClose : KeptOrReset {} l l' (·.openClose)
  shortSale : KeptOrReset {} l l' (·.shortSale)
  shortSaleSlot : KeptOrReset {} l l' (·.shortSaleSlot)
  designatedLocation : KeptOrReset {} l l' (·.designatedLocation)

structure ScaleTerms.Reset (t t' : ScaleTerms) : Prop where
  subsLevelSize : KeptOrReset {} t t' (·.subsLevelSize)
  priceAdjustValue : KeptOrReset {} t t' (·.extension.priceAdjustValue)
  priceAdjustInterval : KeptOrReset {} t t' (·.extension.priceAdjustInterval)
  profitOffset : KeptOrReset {} t t' (·.extension.profitOffset)
  autoReset : KeptOrReset {} t t' (·.extension.autoReset)
  initPosition : KeptOrReset {} t t' (·.extension.initPosition)
  initFillQuantity : KeptOrReset {} t t' (·.extension.initFillQuantity)
  randomPercent : KeptOrReset {} t t' (·.extension.randomPercent)
  table : KeptOrReset {} t t' (·.table)
  activeStartTime : KeptOrReset {} t t' (·.activeStartTime)
  activeStopTime : KeptOrReset {} t t' (·.activeStopTime)

/-- Attributes of an order are reset. All others may change in any way: those that every layout
carries, the parameters of what is named by one of these, and those of which `Covered` speaks. -/
structure Order.Reset (o o' : Order) : Prop where
  quantity : KeptOrReset {} o o' (·.terms.quantity)
  orderType : KeptOrReset {} o o' (·.terms.orderType)
  limitPrice : KeptOrReset {} o o' (·.terms.limitPrice)
  auxPrice : KeptOrReset {} o o' (·.terms.auxPrice)
  modelCode : KeptOrReset {} o o' (·.settlement.modelCode)
  exemptCode : KeptOrReset {} o o' (·.shortSale.exemptCode)
  deltaNeutralLeg : o.volatility.deltaNeutralLeg.Reset o'.volatility.deltaNeutralLeg
  percent : KeptOrReset {} o o' (·.trail.percent)
  scale : o.scale.Reset o'.scale
  hedgeKind : KeptOrReset {} o o' (·.hedge.kind)
  optOutSmartRouting : KeptOrReset {} o o' (·.optOutSmartRouting)
  notHeld : KeptOrReset {} o o' (·.notHeld)
  strategy : KeptOrReset {} o o' (·.algo.strategy)
  algoId : KeptOrReset {} o o' (·.algo.id)
  whatIf : KeptOrReset {} o o' (·.whatIf)
  solicited : KeptOrReset {} o o' (·.solicited)
  randomizeSize : KeptOrReset {} o o' (·.randomizeSize)
  randomizePrice : KeptOrReset {} o o' (·.randomizePrice)
  conditions : KeptOrReset {} o o' (·.conditions.conditions)
  adjustedType : KeptOrReset {} o o' (·.adjustment.orderType)
  externalOperator : KeptOrReset {} o o' (·.externalOperator)
  tierName : KeptOrReset {} o o' (·.softDollarTier.name)
  tierValue : KeptOrReset {} o o' (·.softDollarTier.value)
  cashQuantity : KeptOrReset {} o o' (·.cashQuantity)
  decisionMaker : KeptOrReset {} o o' (·.decision.decisionMaker)
  decisionAlgo : KeptOrReset {} o o' (·.decision.decisionAlgo)
  executionTrader : KeptOrReset {} o o' (·.decision.executionTrader)
  executionAlgo : KeptOrReset {} o o' (·.decision.executionAlgo)
  hedgePriceOptOut : KeptOrReset {} o o' (·.hedgePriceOptOut)
  omsContainer : KeptOrReset {} o o' (·.omsContainer)
  discretionaryUpToLimit : KeptOrReset {} o o' (·.discretionaryUpToLimit)
  priceManagement : KeptOrReset {} o o' (·.priceManagement)

theorem Contract.Reset.refl (c : Contract) : c.Reset c := by
  have hlegs : List.Forall₂ (fun l l' => KeptOrReset {} l l' fun l : ComboLeg => l.exemptCode)
      c.comboLegs c.comboLegs := List.forall₂_same.mpr fun _ _ => .inl rfl
  constructor <;> first | exact .inr hlegs | exact .inl rfl

theorem Order.Reset.refl (o : Order) : o.Reset o := by
  have hleg : o.volatility.deltaNeutralLeg.Reset o.volatility.deltaNeutralLeg := by
    constructor <;> exact .inl rfl
  have hscale : o.scale.Reset o.scale := by
    constructor <;> exact .inl rfl
  constructor <;> first | exact hleg | exact hscale | exact .inl rfl

/-- Nothing is reset that a server of the version is not sent, or not sent as it is, and that the
table of features does not speak of. -/
structure Order.Covered (version : Version) (c c' : Contract) (o o' : Order) : Prop where
  -- older servers are sent the whole part of a quantity, or zero if it is beyond 64 bits, and zero
  -- for a price that is not set
  quantity : version.supports Since.fractionalPositions = true ∨
    o'.terms.quantity = o.terms.quantity ∨ o.terms.quantity.truncateInt64?.getD 0 ≠ 0
  limitPrice : version.supports Since.comboLegPrices = true ∨
    o'.terms.limitPrice = o.terms.limitPrice ∨ o.terms.limitPrice ≠ some .zero
  auxPrice : version.supports Since.trailingPercent = true ∨
    o'.terms.auxPrice = o.terms.auxPrice ∨ o.terms.auxPrice ≠ some .zero
  -- the table has no row for these
  clearing : version.supports Since.clearingAccounts = true ∨ o'.clearing = o.clearing
  miscOptions : version.supports Since.linking = true ∨ o'.miscOptions = o.miscOptions
  routingParams : version.supports Since.smartComboRouting = true ∨
    o'.combo.routingParams = o.combo.routingParams ∨ c.isCombo = false
  -- the rows for these look at prices that are set, at the adjusted type and at ids above zero
  legPrices : version.supports Since.comboLegPrices = true ∨
    o'.combo.legPrices = o.combo.legPrices ∨ c.isCombo = false
  adjustment : version.supports Since.benchmarkPegs = true ∨
    o'.adjustment = { o.adjustment with orderType := o'.adjustment.orderType }
  contractId : version.supports Since.orderByContractId = true ∨ c'.contractId = c.contractId
  hedgeContractId : version.supports Since.deltaNeutralContractId = true ∨
    o'.volatility.deltaNeutralLeg.contractId = o.volatility.deltaNeutralLeg.contractId
  hedgeShortSaleSlot : version.supports Since.deltaNeutralOpenClose = true ∨
    o'.volatility.deltaNeutralLeg.shortSaleSlot = o.volatility.deltaNeutralLeg.shortSaleSlot

/-! ### What an admitted order does not use -/

theorem eq_empty_of_not_isEmpty {s : String} (h : (!s.isEmpty) = false) : s = "" := by
  rw [Bool.not_eq_false', String.isEmpty_iff] at h
  exact h

theorem OrderGate.fieldText_of_price {x : Option Binary64} (h : isPriceSet x = false) :
    fieldText x = "" := by
  cases x with
  | none => rfl
  | some x =>
    have hx : x = Binary64.largest := by simpa [isPriceSet, isSet] using h
    rw [hx, fieldText_some, fieldText_float_unset]

theorem OrderGate.fieldText_of_number {n : Option Int32} (h : isNumberSet n = false) :
    fieldText n = "" := by
  cases n with
  | none => rfl
  | some n =>
    have hn : n = Int32.maxValue := by simpa [isNumberSet, isSet] using h
    rw [hn, fieldText_some, fieldText_int32_unset]

/-- An order that uses no feature a server lacks: each attribute is one the server knows, or is not
set. -/
structure Order.Admitted (version : Version) (c : Contract) (o : Order) : Prop where
  whatIf : version.supports Since.whatIfOrders = true ∨ o.whatIf = false
  deltaNeutral : version.supports Since.deltaNeutral = true ∨ c.deltaNeutral = none
  subsLevelSize : version.supports Since.scaleSubsequentLevels = true ∨
    fieldText o.scale.subsLevelSize = ""
  strategy : version.supports Since.algoOrders = true ∨ o.algo.strategy = ""
  notHeld : version.supports Since.notHeld = true ∨ o.notHeld = false
  secIdType : version.supports Since.securityIds = true ∨ c.secIdType = ""
  secId : version.supports Since.securityIds = true ∨ c.secId = ""
  exemptCode : version.supports Since.oldExemptCode = true ∨ o.shortSale.exemptCode = -1
  legExemptCode : version.supports Since.oldExemptCode = true ∨
    ∀ l ∈ c.comboLegs, l.exemptCode = -1
  hedgeKind : version.supports Since.hedgeOrders = true ∨ o.hedge.kind = ""
  optOutSmartRouting : version.supports Since.optOutSmartRouting = true ∨
    o.optOutSmartRouting = false
  settlingFirm : version.supports Since.deltaNeutralContractId = true ∨
    o.volatility.deltaNeutralLeg.settlingFirm = ""
  clearingAccount : version.supports Since.deltaNeutralContractId = true ∨
    o.volatility.deltaNeutralLeg.clearingAccount = ""
  clearingIntent : version.supports Since.deltaNeutralContractId = true ∨
    o.volatility.deltaNeutralLeg.clearingIntent = ""
  scaleExtension : version.supports Since.scaleExtension = true ∨
    (o.scale.hasExtension = true → fieldText o.scale.extension.priceAdjustValue = "" ∧
      fieldText o.scale.extension.priceAdjustInterval = "" ∧
      fieldText o.scale.extension.profitOffset = "" ∧ o.scale.extension.autoReset = false ∧
      fieldText o.scale.extension.initPosition = "" ∧
      fieldText o.scale.extension.initFillQuantity = "" ∧
      o.scale.extension.randomPercent = false)
  percent : version.supports Since.trailingPercent = true ∨ fieldText o.trail.percent = ""
  openClose : version.supports Since.deltaNeutralOpenClose = true ∨
    o.volatility.deltaNeutralLeg.openClose = ""
  shortSale : version.supports Since.deltaNeutralOpenClose = true ∨
    o.volatility.deltaNeutralLeg.shortSale = false
  designatedLocation : version.supports Since.deltaNeutralOpenClose = true ∨
    o.volatility.deltaNeutralLeg.designatedLocation = ""
  tradingClass : version.supports Since.tradingClass = true ∨ c.tradingClass = ""
  table : version.supports Since.scaleTable = true ∨ o.scale.table = ""
  activeStartTime : version.supports Since.scaleTable = true ∨ o.scale.activeStartTime = ""
  activeStopTime : version.supports Since.scaleTable = true ∨ o.scale.activeStopTime = ""
  algoId : version.supports Since.algoId = true ∨ o.algo.id = ""
  solicited : version.supports Since.solicitedOrders = true ∨ o.solicited = false
  randomizeSize : version.supports Since.randomizedOrders = true ∨ o.randomizeSize = false
  randomizePrice : version.supports Since.randomizedOrders = true ∨ o.randomizePrice = false
  conditions : version.supports Since.benchmarkPegs = true ∨ o.conditions.conditions = []
  isPegged : version.supports Since.benchmarkPegs = true ∨ o.isPegged = false
  adjustedType : version.supports Since.benchmarkPegs = true ∨ o.adjustment.orderType = ""
  modelCode : version.supports Since.models = true ∨ o.settlement.modelCode = ""
  externalOperator : version.supports Since.externalOperator = true ∨ o.externalOperator = ""
  tierName : version.supports Since.softDollarTiers = true ∨ o.softDollarTier.name = ""
  tierValue : version.supports Since.softDollarTiers = true ∨ o.softDollarTier.value = ""
  cashQuantity : version.supports Since.cashQuantity = true ∨ fieldText o.cashQuantity = ""
  decisionMaker : version.supports Since.decisionMaker = true ∨ o.decision.decisionMaker = ""
  decisionAlgo : version.supports Since.decisionMaker = true ∨ o.decision.decisionAlgo = ""
  executionTrader : version.supports Since.executionTrader = true ∨
    o.decision.executionTrader = ""
  executionAlgo : version.supports Since.executionTrader = true ∨ o.decision.executionAlgo = ""
  hedgePriceOptOut : version.supports Since.hedgePriceOptOut = true ∨ o.hedgePriceOptOut = false
  omsContainer : version.supports Since.orderContainer = true ∨ o.omsContainer = false
  discretionaryUpToLimit : version.supports Since.discretionaryPegs = true ∨
    o.discretionaryUpToLimit = false
  priceManagement : version.supports Since.priceManagement = true ∨ o.priceManagement = none

variable {version : Version} {c c' : Contract} {o o' : Order}

/-- Every row of the table holds of an order that meets all requirements. -/
theorem OrderGate.unused {id : Int32}
    (hu : (Request.placeOrder id c o).firstUnmet version = none) :
    ∀ g ∈ OrderGate.all, version.supports g.since = true ∨ g.uses c o = false := by
  intro g hg
  have hm := Requirement.firstUnmet_eq_none_iff.mp hu (g.toRequirement c o)
    (List.mem_map_of_mem hg)
  unfold Requirement.isMet toRequirement at hm
  rw [Bool.or_eq_true, Bool.not_eq_true'] at hm
  exact hm.symm

theorem Order.admitted_of_firstUnmet {id : Int32}
    (hu : (Request.placeOrder id c o).firstUnmet version = none) : Admitted version c o := by
  have hall := OrderGate.unused hu
  simp only [OrderGate.all, List.forall_mem_cons, Bool.or_eq_false_iff] at hall
  obtain ⟨-, -, h3, h4, h5, h6, h7, h8, -, h10, h11, h12, h13, h14, -, h16, h17, h18, h19, h20,
    h21, h22, h23, h24, h25, h26, h27, h28, h29, h30, h31, h32, h33, -⟩ := hall
  have hexempt : ∀ p : Prop, (version.supports Since.exemptCode = true ∨ p) →
      (version.supports Since.oldExemptCode = true ∨ p) := by
    intro p hp
    refine hp.imp_left fun hs => ?_
    rw [Version.supports_iff] at hs ⊢
    exact Int.le_trans (by decide) hs
  refine
    { whatIf := h3
      deltaNeutral := h4.imp_right fun h => by simpa using h
      subsLevelSize := h5.imp_right OrderGate.fieldText_of_number
      strategy := h6.imp_right eq_empty_of_not_isEmpty
      notHeld := h7
      secIdType := h8.imp_right fun h => eq_empty_of_not_isEmpty h.1
      secId := h8.imp_right fun h => eq_empty_of_not_isEmpty h.2
      exemptCode := hexempt _ (h10.imp_right fun h => by simpa using h.1)
      legExemptCode := hexempt _ (h10.imp_right fun h => by simpa using h.2)
      hedgeKind := h11.imp_right eq_empty_of_not_isEmpty
      optOutSmartRouting := h12
      settlingFirm := h13.imp_right fun h => eq_empty_of_not_isEmpty h.1.1.2
      clearingAccount := h13.imp_right fun h => eq_empty_of_not_isEmpty h.1.2
      clearingIntent := h13.imp_right fun h => eq_empty_of_not_isEmpty h.2
      scaleExtension := h14.imp_right fun h hx => ?_
      percent := h16.imp_right OrderGate.fieldText_of_price
      openClose := h17.imp_right fun h => eq_empty_of_not_isEmpty h.1.1.1
      shortSale := h17.imp_right fun h => h.1.1.2
      designatedLocation := h17.imp_right fun h => eq_empty_of_not_isEmpty h.2
      tradingClass := h18.imp_right eq_empty_of_not_isEmpty
      table := h19.imp_right fun h => eq_empty_of_not_isEmpty h.1.1
      activeStartTime := h19.imp_right fun h => eq_empty_of_not_isEmpty h.1.2
      activeStopTime := h19.imp_right fun h => eq_empty_of_not_isEmpty h.2
      algoId := h20.imp_right eq_empty_of_not_isEmpty
      solicited := h21
      randomizeSize := h22.imp_right fun h => h.1
      randomizePrice := h22.imp_right fun h => h.2
      conditions := h23.imp_right fun h => by simpa using h.1.1
      isPegged := h23.imp_right fun h => h.1.2
      adjustedType := h23.imp_right fun h => eq_empty_of_not_isEmpty h.2
      modelCode := h24.imp_right eq_empty_of_not_isEmpty
      externalOperator := h25.imp_right eq_empty_of_not_isEmpty
      tierName := h26.imp_right fun h => eq_empty_of_not_isEmpty h.1
      tierValue := h26.imp_right fun h => eq_empty_of_not_isEmpty h.2
      cashQuantity := h27.imp_right OrderGate.fieldText_of_price
      decisionMaker := h28.imp_right fun h => eq_empty_of_not_isEmpty h.1
      decisionAlgo := h28.imp_right fun h => eq_empty_of_not_isEmpty h.2
      executionTrader := h29.imp_right fun h => eq_empty_of_not_isEmpty h.1
      executionAlgo := h29.imp_right fun h => eq_empty_of_not_isEmpty h.2
      hedgePriceOptOut := h30
      omsContainer := h31
      discretionaryUpToLimit := h32
      priceManagement := h33.imp_right fun h => by simpa using h }
  unfold OrderGate.usesScaleExtension at h
  rw [hx, Bool.true_and] at h
  simp only [Bool.or_eq_false_iff] at h
  obtain ⟨⟨⟨⟨⟨⟨h1, h2⟩, h3⟩, h4⟩, h5⟩, h6⟩, h7⟩ := h
  exact ⟨OrderGate.fieldText_of_price h1, OrderGate.fieldText_of_number h2,
    OrderGate.fieldText_of_price h3, h4, OrderGate.fieldText_of_number h5,
    OrderGate.fieldText_of_number h6, h7⟩

/-! ### From a version to the newest -/

theorem fieldText_int64_injective {m n : Int64} (h : fieldText m = fieldText n) : m = n := by
  have hm := Reader.parse_fieldText_int64 m
  rw [h, Reader.parse_fieldText_int64 n, Except.ok.injEq] at hm
  exact hm.symm

/-- Zero is written like no other number. -/
theorem eq_zero_of_fieldText {x : Binary64} (h : fieldText x = fieldText Binary64.zero) :
    x = Binary64.zero := by
  have hzero : fieldText Binary64.zero ≠ "" := by decide
  have hx := Reader.parse_fieldText_float x
  rw [h, Reader.parse_fieldText_float Binary64.zero, Except.ok.injEq] at hx
  have hl : x ≠ Binary64.largest := by
    rintro rfl
    exact hzero (h.symm.trans fieldText_float_unset)
  have hcanonical : x.canonical = Binary64.zero := by
    rw [if_neg (by decide), if_neg hl] at hx
    exact hx.symm
  have hn := x.isNaN_canonical
  rw [hcanonical] at hn
  rw [← hcanonical, Binary64.canonical, ← hn]
  rfl

theorem OrderTerms.price_newest {carried : Bool} {p p' : Option Binary64}
    (hr : p' = p ∨ p' = none) (hk : carried = true ∨ p' = p ∨ p ≠ some .zero)
    (h : priceField carried p = priceField carried p') : fieldText p = fieldText p' := by
  cases carried with
  | true => exact h
  | false =>
    rcases hr with rfl | rfl
    · rfl
    cases p with
    | none => rfl
    | some x =>
      have hx : x = Binary64.zero := eq_zero_of_fieldText h
      rw [hx] at hk
      rcases hk with hk | hk | hk
      · cases hk
      · cases hk
      · exact absurd rfl hk

theorem OrderTerms.quantity_newest {t t' : OrderTerms}
    (hr : t'.quantity = t.quantity ∨ t'.quantity = .zero)
    (hk : version.supports Since.fractionalPositions = true ∨ t'.quantity = t.quantity ∨
      t.quantity.truncateInt64?.getD 0 ≠ 0)
    (h : t.quantityField version = t'.quantityField version) :
    fieldText t.quantity = fieldText t'.quantity := by
  unfold quantityField at h
  by_cases hs : version.supports Since.fractionalPositions = true
  · rwa [if_pos hs, if_pos hs] at h
  · rw [if_neg hs, if_neg hs] at h
    have ht := fieldText_int64_injective h
    rcases hr with hr | hr
    · rw [hr]
    · rw [hr] at ht
      have hz : Decimal.zero.truncateInt64?.getD 0 = 0 := by decide
      rcases hk with hk | hk | hk
      · exact absurd hk hs
      · rw [hk]
      · exact absurd (ht.trans hz) hk

theorem Contract.Alike.newest (h : c.Alike version c') (hr : c.Reset c')
    (ha : Order.Admitted version c o) (hk : Order.Covered version c c' o o') :
    c.Alike Version.newest c' :=
  { h with
    contractId := fun _ => hk.contractId.elim h.contractId fun he => by rw [he]
    tradingClass := fun _ => hr.tradingClass.same ha.tradingClass h.tradingClass
    secIdType := fun _ => hr.secIdType.same ha.secIdType h.secIdType
    secId := fun _ => hr.secId.same ha.secId h.secId }

theorem OrderTerms.Alike.newest (h : o.terms.Alike version o'.terms) (hr : o.Reset o')
    (hk : Order.Covered version c c' o o') : o.terms.Alike Version.newest o'.terms :=
  { h with
    quantity := quantity_newest hr.quantity hk.quantity h.quantity
    limitPrice := price_newest hr.limitPrice hk.limitPrice h.limitPrice
    auxPrice := price_newest hr.auxPrice hk.auxPrice h.auxPrice }

/-- Legs are compared one by one; with the legs reset, there are none to compare. -/
theorem ComboLeg.alike_newest {legs legs' : List ComboLeg}
    (h : List.Forall₂ (Alike version) legs legs')
    (hr : legs' = [] ∨ List.Forall₂ (fun l l' => KeptOrReset {} l l' (·.exemptCode)) legs legs')
    (hu : version.supports Since.oldExemptCode = true ∨ ∀ l ∈ legs, l.exemptCode = -1) :
    List.Forall₂ (Alike Version.newest) legs legs' := by
  induction h with
  | nil => exact .nil
  | cons hl hrest ih =>
    rcases hr with hr | hr
    · cases hr
    · cases hr with
      | cons hreset hresets =>
        refine .cons { hl with exemptCode := fun _ => ?_ } (ih (.inr hresets) ?_)
        · exact hreset.same_field (hu.imp_right fun h => h _ List.mem_cons_self) hl.exemptCode
        · exact hu.imp_right fun h l hl => h l (List.mem_cons_of_mem _ hl)

theorem ComboTerms.Alike.newest
    (h : o.combo.Alike version c.comboLegs c'.comboLegs o'.combo) (hr : c.Reset c')
    (ha : Order.Admitted version c o) (hk : Order.Covered version c c' o o')
    (hc : c.isCombo = true) :
    o.combo.Alike Version.newest c.comboLegs c'.comboLegs o'.combo := by
  refine ⟨ComboLeg.alike_newest h.legs hr.comboLegs ha.legExemptCode, fun _ => ?_, fun _ => ?_⟩
  · rcases hk.legPrices with hs | he | hn
    · exact h.prices hs
    · rw [he]
      exact List.forall₂_refl _
    · rw [hc] at hn
      cases hn
  · rcases hk.routingParams with hs | he | hn
    · exact h.params hs
    · exact he.symm
    · rw [hc] at hn
      cases hn

/-- Whether a word that is reset or kept is a certain one can be seen from its text. -/
theorem beq_word_eq {α : Type} [DecidableEq α] [FieldText α] {t t' : Option α} {w : α}
    (hw : fieldText w ≠ "") (hr : t' = t ∨ t' = none) (h : fieldText t = fieldText t') :
    (t == some w) = (t' == some w) := by
  rcases hr with rfl | rfl
  · rfl
  · have ht : t ≠ some w := by
      rintro rfl
      exact hw h
    rw [beq_false_of_ne ht]
    rfl

theorem Contract.Reset.isCombo_eq (hr : c.Reset c')
    (h : fieldText c.secType = fieldText c'.secType) : c.isCombo = c'.isCombo :=
  beq_word_eq (by decide) hr.secType h

theorem Order.Reset.isPegged_eq (hr : o.Reset o')
    (h : fieldText o.terms.orderType = fieldText o'.terms.orderType) :
    o.isPegged = o'.isPegged :=
  beq_word_eq (by decide) hr.orderType h

theorem DeltaNeutralLeg.Alike.newest
    (h : o.volatility.deltaNeutralLeg.Alike version o'.volatility.deltaNeutralLeg)
    (hr : o.volatility.deltaNeutralLeg.Reset o'.volatility.deltaNeutralLeg)
    (ha : Order.Admitted version c o) (hk : Order.Covered version c c' o o') :
    o.volatility.deltaNeutralLeg.Alike Version.newest o'.volatility.deltaNeutralLeg where
  contractId _ := hk.hedgeContractId.elim h.contractId fun he => by rw [he]
  settlingFirm _ := hr.settlingFirm.same ha.settlingFirm h.settlingFirm
  clearingAccount _ := hr.clearingAccount.same ha.clearingAccount h.clearingAccount
  clearingIntent _ := hr.clearingIntent.same ha.clearingIntent h.clearingIntent
  openClose _ := hr.openClose.same ha.openClose h.openClose
  shortSale _ := hr.shortSale.same_field ha.shortSale h.shortSale
  shortSaleSlot _ := hk.hedgeShortSaleSlot.elim h.shortSaleSlot fun he => by rw [he]
  designatedLocation _ := hr.designatedLocation.same ha.designatedLocation h.designatedLocation

/-- An extension that a server is not sent says nothing, neither before the reset nor after it. -/
theorem ScaleTerms.extension_newest {t t' : ScaleTerms} (h : t.Alike version t')
    (hr : t.Reset t')
    (ha : version.supports Since.scaleExtension = true ∨
      (t.hasExtension = true → fieldText t.extension.priceAdjustValue = "" ∧
        fieldText t.extension.priceAdjustInterval = "" ∧
        fieldText t.extension.profitOffset = "" ∧ t.extension.autoReset = false ∧
        fieldText t.extension.initPosition = "" ∧
        fieldText t.extension.initFillQuantity = "" ∧ t.extension.randomPercent = false))
    (hx : t.hasExtension = true) : t.extension.fields = t'.extension.fields := by
  rcases ha with hs | ha
  · exact h.extension hs hx
  · obtain ⟨h1, h2, h3, h4, h5, h6, h7⟩ := ha hx
    unfold ScaleExtension.fields
    rw [hr.priceAdjustValue.same_of_default fieldText h1,
      hr.priceAdjustInterval.same_of_default fieldText h2,
      hr.profitOffset.same_of_default fieldText h3,
      hr.autoReset.same_of_default fieldText (congrArg fieldText h4),
      hr.initPosition.same_of_default fieldText h5,
      hr.initFillQuantity.same_of_default fieldText h6,
      hr.randomPercent.same_of_default fieldText (congrArg fieldText h7)]

theorem ScaleTerms.Alike.newest (h : o.scale.Alike version o'.scale) (hr : o.scale.Reset o'.scale)
    (ha : Order.Admitted version c o) : o.scale.Alike Version.newest o'.scale :=
  { h with
    subsLevelSize := fun _ => hr.subsLevelSize.same_text fieldText ha.subsLevelSize h.subsLevelSize
    extension := fun _ => extension_newest h hr ha.scaleExtension
    table := fun _ => hr.table.same ha.table h.table
    activeStartTime := fun _ => hr.activeStartTime.same ha.activeStartTime h.activeStartTime
    activeStopTime := fun _ => hr.activeStopTime.same ha.activeStopTime h.activeStopTime }

/-- What is named by nothing has no parameters to tell apart. -/
theorem HedgeTerms.Alike.newest
    (h : version.supports Since.hedgeOrders = true → o.hedge.Alike o'.hedge) (hr : o.Reset o')
    (ha : Order.Admitted version c o) : o.hedge.Alike o'.hedge := by
  rcases ha.hedgeKind with hs | hu
  · exact h hs
  · have hkind : o.hedge.kind = o'.hedge.kind :=
      hr.hedgeKind.eq_of_default hu
    refine ⟨hkind, fun he => ?_⟩
    rw [hu] at he
    cases he

theorem AlgoTerms.Alike.newest
    (h : version.supports Since.algoOrders = true → o.algo.Alike o'.algo) (hr : o.Reset o')
    (ha : Order.Admitted version c o) : o.algo.Alike o'.algo := by
  rcases ha.strategy with hs | hu
  · exact h hs
  · have hstrategy : o.algo.strategy = o'.algo.strategy :=
      hr.strategy.eq_of_default hu
    refine ⟨hstrategy, fun he => ?_⟩
    rw [hu] at he
    cases he

namespace Order

theorem MainAlike.newest (h : MainAlike version c c' o o') (hrc : c.Reset c') (hr : o.Reset o')
    (ha : Admitted version c o) (hk : Covered version c c' o o') :
    MainAlike Version.newest c c' o o' :=
  { h with
    contract := h.contract.newest hrc ha hk
    terms := OrderTerms.Alike.newest h.terms hr hk
    combo := fun hc => ComboTerms.Alike.newest (h.combo hc) hrc ha hk hc }

theorem FillAlike.newest (h : FillAlike version o o') (hr : o.Reset o')
    (ha : Admitted version c o) : FillAlike Version.newest o o' :=
  { h with
    modelCode := fun _ => hr.modelCode.same ha.modelCode h.modelCode
    shortSale :=
      { h.shortSale with
        exemptCode := fun _ => hr.exemptCode.same_field ha.exemptCode h.shortSale.exemptCode } }

theorem StrategyAlike.newest (h : StrategyAlike version c c' o o') (hrc : c.Reset c')
    (hr : o.Reset o') (ha : Admitted version c o) (hk : Covered version c c' o o') :
    StrategyAlike Version.newest c c' o o' where
  volatility :=
    { h.volatility with
      deltaNeutralLeg := fun he =>
        (h.volatility.deltaNeutralLeg he).newest hr.deltaNeutralLeg ha hk }
  trail :=
    { h.trail with
      percent := fun _ => hr.percent.same_text fieldText ha.percent h.trail.percent }
  scale := h.scale.newest hr.scale ha
  hedge _ := HedgeTerms.Alike.newest h.hedge hr ha
  optOutSmartRouting _ :=
    hr.optOutSmartRouting.same_field ha.optOutSmartRouting h.optOutSmartRouting
  clearing _ := hk.clearing.elim h.clearing fun he => by rw [he]; exact ⟨rfl, rfl⟩
  notHeld _ := hr.notHeld.same_field ha.notHeld h.notHeld
  deltaNeutral _ := by
    rcases ha.deltaNeutral with hs | hu
    · exact h.deltaNeutral hs
    · have hsame : c.deltaNeutral = c'.deltaNeutral :=
        hrc.deltaNeutral.eq_of_default hu
      unfold Contract.deltaNeutralFields
      rw [hsame]
  algo _ := AlgoTerms.Alike.newest h.algo hr ha
  algoId _ := hr.algoId.same ha.algoId h.algoId
  whatIf _ := hr.whatIf.same_field ha.whatIf h.whatIf
  miscOptions _ := hk.miscOptions.elim h.miscOptions fun he => by rw [he]
  solicited _ := hr.solicited.same_field ha.solicited h.solicited
  randomized _ :=
    ⟨hr.randomizeSize.same_field ha.randomizeSize fun hs => (h.randomized hs).1,
      hr.randomizePrice.same_field ha.randomizePrice fun hs => (h.randomized hs).2⟩

/-- Where no triggers are sent, an order has none. -/
theorem TriggerAlike.newest
    (h : version.supports Since.benchmarkPegs = true → TriggerAlike o o') (hr : o.Reset o')
    (ha : Admitted version c o) (hk : Covered version c c' o o')
    (hp : o.isPegged = o'.isPegged) : TriggerAlike o o' := by
  by_cases hs : version.supports Since.benchmarkPegs = true
  · exact h hs
  have hconditions : o.conditions.conditions = [] := ha.conditions.resolve_left hs
  have hconditions' : o.conditions.conditions = o'.conditions.conditions :=
    hr.conditions.eq_of_default hconditions
  have htype : o.adjustment.orderType = o'.adjustment.orderType :=
    hr.adjustedType.eq_of_default (ha.adjustedType.resolve_left hs)
  have hadjustment : o'.adjustment = o.adjustment := by
    rw [hk.adjustment.resolve_left hs, ← htype]
  refine ⟨hp, fun hpegged => ?_, ⟨?_, fun he => ?_⟩, by rw [hadjustment]⟩
  · rw [ha.isPegged.resolve_left hs] at hpegged
    cases hpegged
  · rw [← hconditions', hconditions]
    exact .nil
  · rw [hconditions] at he
    cases he

theorem RecentAlike.newest (h : RecentAlike version o o') (hr : o.Reset o')
    (ha : Admitted version c o) : RecentAlike Version.newest o o' where
  externalOperator _ := hr.externalOperator.same ha.externalOperator h.externalOperator
  tierName _ := hr.tierName.same ha.tierName h.tierName
  tierValue _ := hr.tierValue.same ha.tierValue h.tierValue
  cashQuantity _ := hr.cashQuantity.same_text fieldText ha.cashQuantity h.cashQuantity
  decisionMaker _ := hr.decisionMaker.same ha.decisionMaker h.decisionMaker
  decisionAlgo _ := hr.decisionAlgo.same ha.decisionAlgo h.decisionAlgo
  executionTrader _ := hr.executionTrader.same ha.executionTrader h.executionTrader
  executionAlgo _ := hr.executionAlgo.same ha.executionAlgo h.executionAlgo
  hedgePriceOptOut _ := hr.hedgePriceOptOut.same_field ha.hedgePriceOptOut h.hedgePriceOptOut
  omsContainer _ := hr.omsContainer.same_field ha.omsContainer h.omsContainer
  discretionaryUpToLimit _ :=
    hr.discretionaryUpToLimit.same_field ha.discretionaryUpToLimit h.discretionaryUpToLimit
  priceManagement _ := hr.priceManagement.same_field ha.priceManagement h.priceManagement

/-- What is alike at a version is alike at the newest, if an order is admitted there and what is
reset is covered. -/
theorem PlacedAlike.newest {id : Int32} (h : PlacedAlike version id id c c' o o')
    (hrc : c.Reset c') (hr : o.Reset o') (ha : Admitted version c o)
    (hk : Covered version c c' o o') : PlacedAlike Version.newest id id c c' o o' where
  id := h.id
  main := h.main.newest hrc hr ha hk
  fill := h.fill.newest hr ha
  strategy := h.strategy.newest hrc hr ha hk
  trigger _ := TriggerAlike.newest h.trigger hr ha hk (hr.isPegged_eq h.main.terms.orderType)
  recent := h.recent.newest hr ha

end Order

namespace Request

/-- What no row of the table asks for is dropped where it is not known: the order comes out as it
does without it. And no reset but of what the table does not speak of is dropped: if the newest
server can see it, then one of the version can, or is not sent the order for a feature that it
lacks. -/
theorem only_unasked_resets_are_dropped (version : Version) (id : Int32) (c : Contract)
    (o : Order) :
    (placeOrder id (c.withoutUnasked version) (o.withoutUnasked version)).frame version
        = (placeOrder id c o).frame version ∧
    ∀ (c' : Contract) (o' : Order) (f f' : Frame),
      version ≤ Version.newest → c.Reset c' → o.Reset o' →
      ((placeOrder id c o).firstUnmet version = none → Order.Covered version c c' o o') →
      (placeOrder id c o).frame Version.newest = .ok f →
      (placeOrder id c' o').frame Version.newest = .ok f' → f.bytes ≠ f'.bytes →
      (∃ feature, (placeOrder id c o).frame version = .error (.unsupported id feature)) ∨
        ∃ g, (placeOrder id c o).frame version = .ok g ∧
          ∀ g', (placeOrder id c' o').frame version = .ok g' → g.bytes ≠ g'.bytes := by
  refine ⟨frame_withoutUnasked id c o, ?_⟩
  intro c' o' f f' hv hrc hr hk hf hf' hne
  cases hu : (placeOrder id c o).firstUnmet version with
  | some unmet =>
    refine .inl ⟨unmet.feature, ?_⟩
    unfold frame
    rw [hu]
    rfl
  | none =>
    obtain ⟨g, hg⟩ := exists_frame_older hv hf hu
    refine .inr ⟨g, hg, fun g' hg' hb => hne ?_⟩
    -- bytes that are the same at this version would be the same at the newest
    have hfields := fields_eq_of_bytes_eq hg hg' hb
    have halike := Order.placedAlike_of_placeFields hrc.isCombo_eq hr.isPegged_eq
      (List.cons.inj hfields).2
    have hnewest := (halike.newest hrc hr (Order.admitted_of_firstUnmet hu) (hk hu)).fields_eq
    have hsame : f.fields = f'.fields := by
      rw [fields_of_frame hf, fields_of_frame hf']
      exact congrArg (List.cons _) hnewest
    unfold Frame.bytes Frame.header Frame.payload
    rw [hsame]

/-- An order that is not to be held, for a hundred shares. -/
def notHeldOrder : Order where
  terms :=
    { action := some .buy
      quantity := { Decimal.zero with mantissa := 100, mantissa_lt := by decide } }
  notHeld := true

/-- That it is not to be held can be seen at version 100. -/
theorem only_unasked_resets_are_dropped_notHeld :
    ∃ f f' : Frame, (placeOrder 1 {} notHeldOrder).frame Version.newest = .ok f ∧
      (placeOrder 1 {} { notHeldOrder with notHeld := false }).frame Version.newest = .ok f' ∧
      f.bytes ≠ f'.bytes ∧
      ((∃ feature, (placeOrder 1 {} notHeldOrder).frame 100 = .error (.unsupported 1 feature)) ∨
        ∃ g, (placeOrder 1 {} notHeldOrder).frame 100 = .ok g ∧
          ∀ g', (placeOrder 1 {} { notHeldOrder with notHeld := false }).frame 100 = .ok g' →
            g.bytes ≠ g'.bytes) := by
  obtain ⟨f, hf, -⟩ := exists_frame Version.newest (placeOrder 1 {} notHeldOrder)
    (by decide) (by decide +kernel) (by decide +kernel)
  obtain ⟨f', hf', -⟩ := exists_frame Version.newest
    (placeOrder 1 {} { notHeldOrder with notHeld := false })
    (by decide) (by decide +kernel) (by decide +kernel)
  have hne : f.bytes ≠ f'.bytes := fun hb =>
    absurd (fields_eq_of_bytes_eq hf hf' hb) (by decide +kernel)
  have hreset : notHeldOrder.Reset { notHeldOrder with notHeld := false } :=
    { Order.Reset.refl notHeldOrder with notHeld := .inr rfl }
  have hcovered : Order.Covered 100 {} {} notHeldOrder { notHeldOrder with notHeld := false } := by
    constructor <;> first | exact .inr rfl | exact .inr (.inl rfl)
  exact ⟨f, f', hf, hf', hne,
    (only_unasked_resets_are_dropped 100 1 {} notHeldOrder).2 {} _ f f' (by decide)
      (Contract.Reset.refl {}) hreset (fun _ => hcovered) hf hf' hne⟩

/-- Orders that are the same without what no row asks for are sent as the same frame to a server
that has the features they use. -/
theorem exists_frame_of_unasked {version : Version} {id : Int32} {c : Contract} {o o' : Order}
    {f : Frame} (hv : version ≤ Version.newest)
    (hf : (placeOrder id c o).frame Version.newest = .ok f)
    (hu : (placeOrder id c o).firstUnmet version = none)
    (ho : o.withoutUnasked version = o'.withoutUnasked version) :
    ∃ g, (placeOrder id c o).frame version = .ok g ∧
      (placeOrder id c o').frame version = .ok g := by
  obtain ⟨g, hg⟩ := exists_frame_older hv hf hu
  refine ⟨g, hg, ?_⟩
  rw [← frame_withoutUnasked id c o', ← ho, frame_withoutUnasked]
  exact hg

/-- An order with a trigger price of five, and with no type to be adjusted to. -/
def triggeredOrder : Order where
  adjustment := { triggerPrice := some ⟨0x4014000000000000⟩ }

/-- An order with one option. -/
def optionOrder : Order where
  miscOptions := [⟨"a", "1"⟩]

/-- At version 101 a trigger price without an adjusted type is neither sent nor reported: the order
is placed like the one that has none, which the newest server can tell apart. So it is with options
at version 69. -/
theorem unasked_attributes_are_dropped :
    (∃ f f' g : Frame, (placeOrder 1 {} triggeredOrder).frame 157 = .ok f ∧
      (placeOrder 1 {} {}).frame 157 = .ok f' ∧ f.bytes ≠ f'.bytes ∧
      (placeOrder 1 {} triggeredOrder).frame 101 = .ok g ∧
      (placeOrder 1 {} {}).frame 101 = .ok g) ∧
    ∃ f f' g : Frame, (placeOrder 1 {} optionOrder).frame 157 = .ok f ∧
      (placeOrder 1 {} {}).frame 157 = .ok f' ∧ f.bytes ≠ f'.bytes ∧
      (placeOrder 1 {} optionOrder).frame 69 = .ok g ∧
      (placeOrder 1 {} {}).frame 69 = .ok g := by
  obtain ⟨f', hf', -⟩ := exists_frame 157 (placeOrder 1 {} {})
    (by decide) (by decide +kernel) (by decide +kernel)
  constructor
  · obtain ⟨f, hf, -⟩ := exists_frame 157 (placeOrder 1 {} triggeredOrder)
      (by decide) (by decide +kernel) (by decide +kernel)
    have hsame : triggeredOrder.withoutUnasked 101 = Order.withoutUnasked 101 {} := rfl
    obtain ⟨g, hg, hg'⟩ := exists_frame_of_unasked (by decide) hf (by decide) hsame
    have hne : f.bytes ≠ f'.bytes := fun hb =>
      absurd (fields_eq_of_bytes_eq hf hf' hb) (by decide +kernel)
    exact ⟨f, f', g, hf, hf', hne, hg, hg'⟩
  · obtain ⟨f, hf, -⟩ := exists_frame 157 (placeOrder 1 {} optionOrder)
      (by decide) (by decide +kernel) (by decide +kernel)
    have hsame : optionOrder.withoutUnasked 69 = Order.withoutUnasked 69 {} := rfl
    obtain ⟨g, hg, hg'⟩ := exists_frame_of_unasked (by decide) hf (by decide) hsame
    have hne : f.bytes ≠ f'.bytes := fun hb =>
      absurd (fields_eq_of_bytes_eq hf hf' hb) (by decide +kernel)
    exact ⟨f, f', g, hf, hf', hne, hg, hg'⟩

end Request
end BrokerLink
