import BrokerLink.Json.Instrument
import BrokerLink.Order

/-!
# Forms of orders

An order has one flat form with a member for each attribute of each group. A
condition is an object that also names its kind.
-/

namespace BrokerLink

open Member

instance : JsonForm OrderType := JsonForm.ofWord

instance : JsonForm TimeInForce := JsonForm.ofWord

instance : JsonForm Origin := JsonForm.ofCoded

instance : JsonForm TriggerMethod := JsonForm.ofCoded

def SoftDollarTier.form : RecordForm SoftDollarTier where
  members :=
    [required "name" (·.name) fun s v => { s with name := v },
     required "value" (·.value) fun s v => { s with value := v },
     required "displayName" (·.displayName) fun s v => { s with displayName := v }]
  base := {}

instance : JsonForm SoftDollarTier := SoftDollarTier.form.toForm

def ComboLegPrice.form : RecordForm ComboLegPrice where
  members :=
    [omittable "price" (·.price) fun s v => { s with price := v }]
  base := {}

instance : JsonForm ComboLegPrice := ComboLegPrice.form.toForm

namespace OrderCondition

/-- The attributes of a condition, of which each kind has some. -/
structure Attributes where
  conjunction : Bool := false
  isMore : Bool := false
  price : Binary64 := .zero
  time : String := ""
  percent : Int32 := 0
  secType : String := ""
  exchange : String := ""
  symbol : String := ""
  volume : Int32 := 0
  changePercent : Binary64 := .zero
  contractId : Int32 := 0
  triggerMethod : TriggerMethod := .standard

/-- The condition of a kind with attributes. -/
def ofAttributes (a : Attributes) : ConditionKind → OrderCondition
  | .price => .price a.conjunction a.isMore a.price a.contractId a.exchange a.triggerMethod
  | .time => .time a.conjunction a.isMore a.time
  | .margin => .margin a.conjunction a.isMore a.percent
  | .execution => .execution a.conjunction a.secType a.exchange a.symbol
  | .volume => .volume a.conjunction a.isMore a.volume a.contractId a.exchange
  | .percentChange =>
    .percentChange a.conjunction a.isMore a.changePercent a.contractId a.exchange

/-- The attributes of a condition; those its kind does not have are at their defaults. -/
def attributes : OrderCondition → Attributes
  | .price conjunction isMore limit contractId exchange triggerMethod =>
    { conjunction, isMore, price := limit, contractId, exchange, triggerMethod }
  | .time conjunction isMore moment => { conjunction, isMore, time := moment }
  | .margin conjunction isMore percent => { conjunction, isMore, percent }
  | .execution conjunction secType exchange symbol => { conjunction, secType, exchange, symbol }
  | .volume conjunction isMore amount contractId exchange =>
    { conjunction, isMore, volume := amount, contractId, exchange }
  | .percentChange conjunction isMore changePercent contractId exchange =>
    { conjunction, isMore, changePercent, contractId, exchange }

def conjunctionMember : Member Attributes :=
  required "conjunction" (·.conjunction) fun s v => { s with conjunction := v }

def isMoreMember : Member Attributes :=
  required "is_more" (·.isMore) fun s v => { s with isMore := v }

def priceMember : Member Attributes :=
  required "price" (·.price) fun s v => { s with price := v }

def timeMember : Member Attributes :=
  required "time" (·.time) fun s v => { s with time := v }

def percentMember : Member Attributes :=
  required "percent" (·.percent) fun s v => { s with percent := v }

def secTypeMember : Member Attributes :=
  required "sec_type" (·.secType) fun s v => { s with secType := v }

def exchangeMember : Member Attributes :=
  required "exchange" (·.exchange) fun s v => { s with exchange := v }

def symbolMember : Member Attributes :=
  required "symbol" (·.symbol) fun s v => { s with symbol := v }

def volumeMember : Member Attributes :=
  required "volume" (·.volume) fun s v => { s with volume := v }

def changePercentMember : Member Attributes :=
  required "change_percent" (·.changePercent) fun s v => { s with changePercent := v }

def contractIdMember : Member Attributes :=
  required "con_id" (·.contractId) fun s v => { s with contractId := v }

/-- In a condition an empty object under the name of a method stands for nothing, as a null does. -/
def triggerMethodMember : Member Attributes :=
  { required "trigger_method" (·.triggerMethod) fun s v => { s with triggerMethod := v } with
    read := fun j s =>
      (JsonForm.coded? (fun content => content.isNull || content.isEmptyObject) j).map fun v =>
        { s with triggerMethod := v } }

def kindKey : ConditionKind → String
  | .price => "price"
  | .time => "time"
  | .margin => "margin"
  | .execution => "execution"
  | .volume => "volume"
  | .percentChange => "percentChange"

def members : ConditionKind → List (Member Attributes)
  | .price =>
    [conjunctionMember, isMoreMember, priceMember, contractIdMember,
     exchangeMember, triggerMethodMember]
  | .time => [conjunctionMember, isMoreMember, timeMember]
  | .margin => [conjunctionMember, isMoreMember, percentMember]
  | .execution => [conjunctionMember, secTypeMember, exchangeMember, symbolMember]
  | .volume => [conjunctionMember, isMoreMember, volumeMember, contractIdMember, exchangeMember]
  | .percentChange =>
    [conjunctionMember, isMoreMember, changePercentMember, contractIdMember, exchangeMember]

/-- The form of the attributes of a kind. -/
def attributesForm (kind : ConditionKind) : RecordForm Attributes :=
  { members := members kind, base := {} }

def ofKey? (key : String) : Option ConditionKind :=
  (Coded.all : List ConditionKind).find? fun k => kindKey k == key

/-- Reads the attributes of the kind with a key. -/
def ofKeyed? (key : String) (attributes : Json) : Option OrderCondition := do
  let kind ← ofKey? key
  let a ← (attributesForm kind).read attributes
  return ofAttributes a kind

/-- The kind comes as a member of its own, or as the first item. -/
instance : JsonForm OrderCondition where
  toJson c :=
    .object (("type", .text (kindKey c.kind)) :: (attributesForm c.kind).write c.attributes)
  ofJson?
    | .object found =>
      match Json.find? "type" found with
      | some (.text key) => ofKeyed? key (.object found)
      | _ => none
    | .array (.text key :: items) => ofKeyed? key (.array items)
    | _ => none

end OrderCondition

def Order.form : RecordForm Order where
  members :=
    [required "orderId" (·.identity.orderId) fun s v => { s with identity.orderId := v },
     required "clientId" (·.identity.clientId) fun s v => { s with identity.clientId := v },
     required "permId" (·.identity.permanentId) fun s v => { s with identity.permanentId := v },
     required "parentId" (·.identity.parentId) fun s v => { s with identity.parentId := v },
     nullable "action" (·.terms.action) fun s v => { s with terms.action := v },
     required "totalQuantity" (·.terms.quantity) fun s v => { s with terms.quantity := v },
     nullable "orderType" (·.terms.orderType) fun s v => { s with terms.orderType := v },
     nullable "lmtPrice" (·.terms.limitPrice) fun s v => { s with terms.limitPrice := v },
     nullable "auxPrice" (·.terms.auxPrice) fun s v => { s with terms.auxPrice := v },
     nullable "tif" (·.placement.timeInForce) fun s v => { s with placement.timeInForce := v },
     required "activeStartTime" (·.scale.activeStartTime) fun s v =>
       { s with scale.activeStartTime := v },
     required "activeStopTime" (·.scale.activeStopTime) fun s v =>
       { s with scale.activeStopTime := v },
     required "ocaGroup" (·.placement.ocaGroup) fun s v => { s with placement.ocaGroup := v },
     required "ocaType" (·.fill.ocaType) fun s v => { s with fill.ocaType := v },
     required "orderRef" (·.placement.orderRef) fun s v => { s with placement.orderRef := v },
     required "transmit" (·.transmit) fun s v => { s with transmit := v },
     required "blockOrder" (·.blockOrder) fun s v => { s with blockOrder := v },
     required "sweepToFill" (·.fill.sweepToFill) fun s v => { s with fill.sweepToFill := v },
     nullable "displaySize" (·.displaySize) fun s v => { s with displaySize := v },
     required "triggerMethod" (·.triggerMethod) fun s v => { s with triggerMethod := v },
     required "outsideRth" (·.exposure.outsideRegularHours) fun s v =>
       { s with exposure.outsideRegularHours := v },
     required "hidden" (·.exposure.hidden) fun s v => { s with exposure.hidden := v },
     required "goodAfterTime" (·.exposure.goodAfterTime) fun s v =>
       { s with exposure.goodAfterTime := v },
     required "goodTillDate" (·.settlement.goodTillDate) fun s v =>
       { s with settlement.goodTillDate := v },
     required "rule80a" (·.settlement.rule80A) fun s v => { s with settlement.rule80A := v },
     required "allOrNone" (·.fill.allOrNone) fun s v => { s with fill.allOrNone := v },
     nullable "minQty" (·.fill.minQuantity) fun s v => { s with fill.minQuantity := v },
     nullable "percentOffset" (·.settlement.percentOffset) fun s v =>
       { s with settlement.percentOffset := v },
     required "overridePercentageConstraints" (·.overridePercentageConstraints) fun s v =>
       { s with overridePercentageConstraints := v },
     nullable "trailStopPrice" (·.trail.stopPrice) fun s v => { s with trail.stopPrice := v },
     nullable "trailingPercent" (·.trail.percent) fun s v => { s with trail.percent := v },
     required "faGroup" (·.advisor.group) fun s v => { s with advisor.group := v },
     required "faMethod" (·.advisor.method) fun s v => { s with advisor.method := v },
     required "faPercentage" (·.advisor.percentage) fun s v => { s with advisor.percentage := v },
     required "openClose" (·.placement.openClose) fun s v => { s with placement.openClose := v },
     required "origin" (·.placement.origin) fun s v => { s with placement.origin := v },
     required "shortSaleSlot" (·.shortSale.slot) fun s v => { s with shortSale.slot := v },
     required "designatedLocation" (·.shortSale.designatedLocation) fun s v =>
       { s with shortSale.designatedLocation := v },
     required "exemptCode" (·.shortSale.exemptCode) fun s v => { s with shortSale.exemptCode := v },
     required "discretionaryAmt" (·.exposure.discretionaryAmount) fun s v =>
       { s with exposure.discretionaryAmount := v },
     required "optOutSmartRouting" (·.optOutSmartRouting) fun s v =>
       { s with optOutSmartRouting := v },
     required "auctionStrategy" (·.auctionStrategy) fun s v => { s with auctionStrategy := v },
     nullable "startingPrice" (·.stockPeg.startingPrice) fun s v =>
       { s with stockPeg.startingPrice := v },
     nullable "stockRefPrice" (·.stockPeg.stockRefPrice) fun s v =>
       { s with stockPeg.stockRefPrice := v },
     nullable "delta" (·.stockPeg.delta) fun s v => { s with stockPeg.delta := v },
     nullable "stockRangeLower" (·.stockPeg.rangeLower) fun s v =>
       { s with stockPeg.rangeLower := v },
     nullable "stockRangeUpper" (·.stockPeg.rangeUpper) fun s v =>
       { s with stockPeg.rangeUpper := v },
     required "randomizeSize" (·.randomizeSize) fun s v => { s with randomizeSize := v },
     required "randomizePrice" (·.randomizePrice) fun s v => { s with randomizePrice := v },
     nullable "volatility" (·.volatility.volatility) fun s v =>
       { s with volatility.volatility := v },
     nullable "volatilityType" (·.volatility.volatilityType) fun s v =>
       { s with volatility.volatilityType := v },
     required "deltaNeutralOrderType" (·.volatility.deltaNeutralOrderType) fun s v =>
       { s with volatility.deltaNeutralOrderType := v },
     nullable "deltaNeutralAuxPrice" (·.volatility.deltaNeutralAuxPrice) fun s v =>
       { s with volatility.deltaNeutralAuxPrice := v },
     required "deltaNeutralConId" (·.volatility.deltaNeutralLeg.contractId) fun s v =>
       { s with volatility.deltaNeutralLeg.contractId := v },
     required "deltaNeutralSettlingFirm" (·.volatility.deltaNeutralLeg.settlingFirm) fun s v =>
       { s with volatility.deltaNeutralLeg.settlingFirm := v },
     required "deltaNeutralClearingAccount" (·.volatility.deltaNeutralLeg.clearingAccount)
       fun s v =>
       { s with volatility.deltaNeutralLeg.clearingAccount := v },
     required "deltaNeutralClearingIntent" (·.volatility.deltaNeutralLeg.clearingIntent) fun s v =>
       { s with volatility.deltaNeutralLeg.clearingIntent := v },
     required "deltaNeutralOpenClose" (·.volatility.deltaNeutralLeg.openClose) fun s v =>
       { s with volatility.deltaNeutralLeg.openClose := v },
     required "deltaNeutralShortSale" (·.volatility.deltaNeutralLeg.shortSale) fun s v =>
       { s with volatility.deltaNeutralLeg.shortSale := v },
     required "deltaNeutralShortSaleSlot" (·.volatility.deltaNeutralLeg.shortSaleSlot) fun s v =>
       { s with volatility.deltaNeutralLeg.shortSaleSlot := v },
     required "deltaNeutralDesignatedLocation"
       (·.volatility.deltaNeutralLeg.designatedLocation) fun s v =>
       { s with volatility.deltaNeutralLeg.designatedLocation := v },
     required "continuousUpdate" (·.volatility.continuousUpdate) fun s v =>
       { s with volatility.continuousUpdate := v },
     nullable "referencePriceType" (·.volatility.referencePriceType) fun s v =>
       { s with volatility.referencePriceType := v },
     nullable "basisPoints" (·.combo.basisPoints) fun s v => { s with combo.basisPoints := v },
     nullable "basisPointsType" (·.combo.basisPointsType) fun s v =>
       { s with combo.basisPointsType := v },
     required "orderComboLegs" (·.combo.legPrices) fun s v => { s with combo.legPrices := v },
     required "smartComboRoutingParams" (·.combo.routingParams) fun s v =>
       { s with combo.routingParams := v },
     nullable "scaleInitLevelSize" (·.scale.initLevelSize) fun s v =>
       { s with scale.initLevelSize := v },
     nullable "scaleSubsLevelSize" (·.scale.subsLevelSize) fun s v =>
       { s with scale.subsLevelSize := v },
     nullable "scalePriceIncrement" (·.scale.priceIncrement) fun s v =>
       { s with scale.priceIncrement := v },
     nullable "scalePriceAdjustValue" (·.scale.extension.priceAdjustValue) fun s v =>
       { s with scale.extension.priceAdjustValue := v },
     nullable "scalePriceAdjustInterval" (·.scale.extension.priceAdjustInterval) fun s v =>
       { s with scale.extension.priceAdjustInterval := v },
     nullable "scaleProfitOffset" (·.scale.extension.profitOffset) fun s v =>
       { s with scale.extension.profitOffset := v },
     required "scaleAutoReset" (·.scale.extension.autoReset) fun s v =>
       { s with scale.extension.autoReset := v },
     nullable "scaleInitPosition" (·.scale.extension.initPosition) fun s v =>
       { s with scale.extension.initPosition := v },
     nullable "scaleInitFillQty" (·.scale.extension.initFillQuantity) fun s v =>
       { s with scale.extension.initFillQuantity := v },
     required "scaleRandomPercent" (·.scale.extension.randomPercent) fun s v =>
       { s with scale.extension.randomPercent := v },
     required "scaleTable" (·.scale.table) fun s v => { s with scale.table := v },
     required "hedgeType" (·.hedge.kind) fun s v => { s with hedge.kind := v },
     required "hedgeParam" (·.hedge.param) fun s v => { s with hedge.param := v },
     required "account" (·.placement.account) fun s v => { s with placement.account := v },
     required "settlingFirm" (·.settlement.settlingFirm) fun s v =>
       { s with settlement.settlingFirm := v },
     required "clearingAccount" (·.clearing.account) fun s v => { s with clearing.account := v },
     required "clearingIntent" (·.clearing.intent) fun s v => { s with clearing.intent := v },
     required "algoStrategy" (·.algo.strategy) fun s v => { s with algo.strategy := v },
     required "algoParams" (·.algo.params) fun s v => { s with algo.params := v },
     required "algoId" (·.algo.id) fun s v => { s with algo.id := v },
     required "whatIf" (·.whatIf) fun s v => { s with whatIf := v },
     required "notHeld" (·.notHeld) fun s v => { s with notHeld := v },
     required "solicited" (·.solicited) fun s v => { s with solicited := v },
     required "modelCode" (·.settlement.modelCode) fun s v => { s with settlement.modelCode := v },
     required "orderMiscOptions" (·.miscOptions) fun s v => { s with miscOptions := v },
     required "referenceContractId" (·.benchmark.referenceContractId) fun s v =>
       { s with benchmark.referenceContractId := v },
     required "peggedChangeAmount" (·.benchmark.changeAmount) fun s v =>
       { s with benchmark.changeAmount := v },
     required "isPeggedChangeAmountDecrease" (·.benchmark.changeAmountDecrease) fun s v =>
       { s with benchmark.changeAmountDecrease := v },
     required "referenceChangeAmount" (·.benchmark.referenceChangeAmount) fun s v =>
       { s with benchmark.referenceChangeAmount := v },
     required "referenceExchangeId" (·.benchmark.referenceExchange) fun s v =>
       { s with benchmark.referenceExchange := v },
     required "adjustedOrderType" (·.adjustment.orderType) fun s v =>
       { s with adjustment.orderType := v },
     nullable "triggerPrice" (·.adjustment.triggerPrice) fun s v =>
       { s with adjustment.triggerPrice := v },
     nullable "lmtPriceOffset" (·.adjustment.limitPriceOffset) fun s v =>
       { s with adjustment.limitPriceOffset := v },
     nullable "adjustedStopPrice" (·.adjustment.stopPrice) fun s v =>
       { s with adjustment.stopPrice := v },
     nullable "adjustedStopLimitPrice" (·.adjustment.stopLimitPrice) fun s v =>
       { s with adjustment.stopLimitPrice := v },
     nullable "adjustedTrailingAmount" (·.adjustment.trailingAmount) fun s v =>
       { s with adjustment.trailingAmount := v },
     required "adjustableTrailingUnit" (·.adjustment.trailingUnit) fun s v =>
       { s with adjustment.trailingUnit := v },
     required "conditions" (·.conditions.conditions) fun s v =>
       { s with conditions.conditions := v },
     required "conditionsIgnoreRth" (·.conditions.ignoreRegularHours) fun s v =>
       { s with conditions.ignoreRegularHours := v },
     required "conditionsCancelOrder" (·.conditions.cancelOrder) fun s v =>
       { s with conditions.cancelOrder := v },
     required "extOperator" (·.externalOperator) fun s v => { s with externalOperator := v },
     required "softDollarTier" (·.softDollarTier) fun s v => { s with softDollarTier := v },
     nullable "cashQty" (·.cashQuantity) fun s v => { s with cashQuantity := v },
     required "mifid2DecisionMaker" (·.decision.decisionMaker) fun s v =>
       { s with decision.decisionMaker := v },
     required "mifid2DecisionAlgo" (·.decision.decisionAlgo) fun s v =>
       { s with decision.decisionAlgo := v },
     required "mifid2ExecutionTrader" (·.decision.executionTrader) fun s v =>
       { s with decision.executionTrader := v },
     required "mifid2ExecutionAlgo" (·.decision.executionAlgo) fun s v =>
       { s with decision.executionAlgo := v },
     required "dontUseAutoPriceForHedge" (·.hedgePriceOptOut) fun s v =>
       { s with hedgePriceOptOut := v },
     required "isOmsContainer" (·.omsContainer) fun s v => { s with omsContainer := v },
     required "discretionaryUpToLimitPrice" (·.discretionaryUpToLimit) fun s v =>
       { s with discretionaryUpToLimit := v },
     nullable "usePriceMgmtAlgo" (·.priceManagement) fun s v => { s with priceManagement := v },
     required "autoCancelDate" (·.completion.autoCancelDate) fun s v =>
       { s with completion.autoCancelDate := v },
     nullable "filledQuantity" (·.completion.filledQuantity) fun s v =>
       { s with completion.filledQuantity := v },
     required "refFuturesConId" (·.completion.refFuturesContractId) fun s v =>
       { s with completion.refFuturesContractId := v },
     required "autoCancelParent" (·.completion.autoCancelParent) fun s v =>
       { s with completion.autoCancelParent := v },
     required "shareholder" (·.completion.shareholder) fun s v =>
       { s with completion.shareholder := v },
     required "imbalanceOnly" (·.completion.imbalanceOnly) fun s v =>
       { s with completion.imbalanceOnly := v },
     required "routeMarketableToBbo" (·.completion.routeMarketableToBbo) fun s v =>
       { s with completion.routeMarketableToBbo := v },
     required "parentPermId" (·.identity.parentPermanentId) fun s v =>
       { s with identity.parentPermanentId := v }]
  base := {}
  isPartial := true

instance : JsonForm Order := Order.form.toForm

def OrderState.form : RecordForm OrderState where
  members :=
    [required "status" (·.status) fun s v => { s with status := v },
     required "initMarginBefore" (·.initMarginBefore) fun s v => { s with initMarginBefore := v },
     required "maintMarginBefore" (·.maintMarginBefore) fun s v =>
       { s with maintMarginBefore := v },
     required "equityWithLoanBefore" (·.equityWithLoanBefore) fun s v =>
       { s with equityWithLoanBefore := v },
     required "initMarginChange" (·.initMarginChange) fun s v => { s with initMarginChange := v },
     required "maintMarginChange" (·.maintMarginChange) fun s v =>
       { s with maintMarginChange := v },
     required "equityWithLoanChange" (·.equityWithLoanChange) fun s v =>
       { s with equityWithLoanChange := v },
     required "initMarginAfter" (·.initMarginAfter) fun s v => { s with initMarginAfter := v },
     required "maintMarginAfter" (·.maintMarginAfter) fun s v => { s with maintMarginAfter := v },
     required "equityWithLoanAfter" (·.equityWithLoanAfter) fun s v =>
       { s with equityWithLoanAfter := v },
     omittable "commission" (·.commission) fun s v => { s with commission := v },
     omittable "minCommission" (·.minCommission) fun s v => { s with minCommission := v },
     omittable "maxCommission" (·.maxCommission) fun s v => { s with maxCommission := v },
     required "commissionCurrency" (·.commissionCurrency) fun s v =>
       { s with commissionCurrency := v },
     required "warningText" (·.warningText) fun s v => { s with warningText := v },
     required "completedTime" (·.completedTime) fun s v => { s with completedTime := v },
     required "completedStatus" (·.completedStatus) fun s v => { s with completedStatus := v }]
  base := {}

instance : JsonForm OrderState := OrderState.form.toForm

end BrokerLink
