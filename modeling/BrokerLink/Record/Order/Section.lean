import BrokerLink.Record.Contract
import BrokerLink.Record.MarketData

/-!
# Sections of order records

The two records that carry a whole order share their sections, each about one group of
attributes. A section depends on the layout of the record, on the version of the
server, and some on what was read before: the parts of a hedge, of a scale, of an
algorithm, of a peg to a benchmark and of conditions are there only if the order has
one.
-/

namespace BrokerLink
namespace Record

open Reader

/-- The contract of an order. -/
def orderContract (layout : Int) : Reader Contract :=
  contract
    { contractId := 17 ≤ layout, multiplier := 32 ≤ layout, localSymbol := 2 ≤ layout,
      tradingClass := 32 ≤ layout }

/-- Before layout 29 both prices are always there. -/
def orderPrice (layout : Int) : Reader (Option Binary64) :=
  if layout < 29 then do
    let x ← float
    return some x
  else float?

def orderTerms (layout : Int) : Reader OrderTerms := do
  let action ← word?
  let quantity ← decimal
  let orderType ← word?
  let limitPrice ← orderPrice layout
  let auxPrice ← orderPrice layout
  return { action, quantity, orderType, limitPrice, auxPrice }

/-- Who an order comes from; a customer if the code is not known. -/
def origin : Reader Origin := do
  let n ← int32
  return (Coded.ofCode? n).getD .customer

def orderPlacement : Reader OrderPlacement := do
  let timeInForce ← word?
  let ocaGroup ← string
  let account ← string
  let openClose ← string
  let origin ← origin
  let orderRef ← string
  return { timeInForce, ocaGroup, account, openClose, origin, orderRef }

/-- A flag that stood elsewhere before layout 18, where another field has its place. -/
def outsideRegularHours (layout : Int) : Reader Bool :=
  if layout < 18 then do
    skip
    return false
  else bool

/-- The permanent id and how the order is shown. -/
def orderExposure (layout : Int) : Reader (Int64 × OrderExposure) := do
  let carried := decide (4 ≤ layout)
  let permanentId ← since carried 0 int64
  let outsideRegularHours ← since carried false (outsideRegularHours layout)
  let hidden ← since carried false bool
  let discretionaryAmount ← since carried Binary64.zero float
  let goodAfterTime ← since (5 ≤ layout) "" string
  return (permanentId, { outsideRegularHours, hidden, discretionaryAmount, goodAfterTime })

/-- The group, the method and the percentage; a profile after them is passed over. -/
def advisorAllocation (layout : Int) : Reader AdvisorAllocation :=
  since (7 ≤ layout) {} do
    let group ← string
    let method ← string
    let percentage ← string
    skip
    return { group, method, percentage }

def orderSettlement (version : Version) (layout : Int) : Reader OrderSettlement := do
  let modelCode ← since (version.supports Since.models) "" string
  let goodTillDate ← since (8 ≤ layout) "" string
  let rule80A ← since (9 ≤ layout) "" string
  let percentOffset ← since (9 ≤ layout) none float?
  let settlingFirm ← since (9 ≤ layout) "" string
  return { modelCode, goodTillDate, rule80A, percentOffset, settlingFirm }

/-- One version of the server sends an exempt code of another meaning, which is passed over. -/
def exemptCode (version : Version) (layout : Int) : Reader Int32 :=
  if version = Since.oldExemptCode then do
    skip
    return -1
  else since (23 ≤ layout) (-1) int32

def shortSale (version : Version) (layout : Int) : Reader ShortSale :=
  since (9 ≤ layout) {} do
    let slot ← int32
    let designatedLocation ← string
    let exemptCode ← exemptCode version layout
    return { slot, designatedLocation, exemptCode }

def stockPeg (layout : Int) : Reader StockPeg :=
  since (9 ≤ layout) {} do
    let startingPrice ← float?
    let stockRefPrice ← float?
    let delta ← float?
    let rangeLower ← float?
    let rangeUpper ← float?
    return { startingPrice, stockRefPrice, delta, rangeLower, rangeUpper }

def fillRules (layout : Int) : Reader FillRules :=
  since (9 ≤ layout) {} do
    let sweepToFill ← bool
    let allOrNone ← bool
    let minQuantity ← int32?
    let ocaType ← int32
    return { sweepToFill, allOrNone, minQuantity, ocaType }

/-- The hedge of a volatility order, if there is one. Only an open order tells who clears it and
whether it opens a position. -/
def deltaNeutralLeg (layout : Int) (isOpen hasLeg : Bool) : Reader DeltaNeutralLeg := do
  let identified := decide (27 ≤ layout) && hasLeg
  let contractId ← since identified 0 int32
  let settlingFirm ← since (identified && isOpen) "" string
  let clearingAccount ← since (identified && isOpen) "" string
  let clearingIntent ← since (identified && isOpen) "" string
  let sold := decide (31 ≤ layout) && hasLeg
  let openClose ← since (sold && isOpen) "" string
  let shortSale ← since sold false bool
  let shortSaleSlot ← since sold 0 int32
  let designatedLocation ← since sold "" string
  return { contractId, settlingFirm, clearingAccount, clearingIntent, openClose, shortSale,
           shortSaleSlot, designatedLocation }

/-- The type of order for a hedge, which in layout 11 is only a flag. -/
def hedgeOrderType (layout : Int) : Reader String :=
  if layout = 11 then do
    let n ← int32
    return if n = 0 then "NONE" else "MKT"
  else string

/-- A range of stock prices, which one old version of the server sends a second time. -/
def secondStockRange (version : Version) : Reader (Option (Binary64 × Binary64)) :=
  since (decide (version = 26)) none do
    let lower ← float
    let upper ← float
    return some (lower, upper)

/-- The terms of a volatility order, and the second range of stock prices. -/
def volatilityTerms (version : Version) (layout : Int) (isOpen : Bool) :
    Reader (VolatilityTerms × Option (Binary64 × Binary64)) :=
  since (11 ≤ layout) ({}, none) do
    let volatility ← float?
    let volatilityType ← int32?
    let deltaNeutralOrderType ← hedgeOrderType layout
    let deltaNeutralAuxPrice ← since (decide (layout ≠ 11)) none float?
    let deltaNeutralLeg ← deltaNeutralLeg layout isOpen (!deltaNeutralOrderType.isEmpty)
    let continuousUpdate ← bool
    let range ← secondStockRange version
    let referencePriceType ← int32?
    return ({ volatility, volatilityType, deltaNeutralOrderType, deltaNeutralAuxPrice,
              deltaNeutralLeg, continuousUpdate, referencePriceType }, range)

def trailTerms (layout : Int) : Reader TrailTerms := do
  let stopPrice ← since (13 ≤ layout) none float?
  let percent ← since (30 ≤ layout) none float?
  return { stopPrice, percent }

def comboLeg : Reader ComboLeg := do
  let contractId ← int32
  let ratio ← int32
  let action ← word?
  let exchange ← string
  let openClose ← int32
  let shortSaleSlot ← int32
  let designatedLocation ← string
  let exemptCode ← int32
  return { contractId, ratio, action, exchange,
           openClose := (Coded.ofCode? openClose).getD .unknown,
           shortSaleSlot, designatedLocation, exemptCode }

def comboLegPrice : Reader ComboLegPrice := do
  let price ← float?
  return { price }

/-- The description of a combination, its legs and their prices. -/
def comboLegs (layout : Int) : Reader (String × List ComboLeg × List ComboLegPrice) := do
  let description ← since (14 ≤ layout) "" string
  let legs ← since (29 ≤ layout) [] (list comboLeg)
  let prices ← since (29 ≤ layout) [] (list comboLegPrice)
  return (description, legs, prices)

def routingParams (layout : Int) : Reader (List TagValue) := since (26 ≤ layout) [] tagValues

def scaleExtension : Reader ScaleExtension := do
  let priceAdjustValue ← float?
  let priceAdjustInterval ← int32?
  let profitOffset ← float?
  let autoReset ← bool
  let initPosition ← int32?
  let initFillQuantity ← int32?
  let randomPercent ← bool
  return { priceAdjustValue, priceAdjustInterval, profitOffset, autoReset, initPosition,
           initFillQuantity, randomPercent }

/-- The sizes of the levels of a scale; before layout 20 a number of components and only one
size. -/
def scaleLevels (layout : Int) : Reader (Option Int32 × Option Int32) :=
  if 20 ≤ layout then do
    let initial ← int32?
    let subsequent ← int32?
    return (initial, subsequent)
  else do
    skip
    let initial ← int32?
    return (initial, none)

/-- The extension follows only a positive price increment. -/
def scaleTerms (layout : Int) : Reader ScaleTerms :=
  since (15 ≤ layout) {} do
    let (initLevelSize, subsLevelSize) ← scaleLevels layout
    let priceIncrement ← float?
    let terms : ScaleTerms := { initLevelSize, subsLevelSize, priceIncrement }
    let extension ← since (decide (28 ≤ layout) && terms.hasExtension) {} scaleExtension
    return { terms with extension }

/-- The parameter of a hedge follows only a kind of hedge. -/
def hedgeTerms (layout : Int) : Reader HedgeTerms :=
  since (24 ≤ layout) {} do
    let kind ← string
    let param ← since (!kind.isEmpty) "" string
    return { kind, param }

/-- What follows the hedge: clearing, a flag, a delta-neutral contract, an algorithm. -/
structure ClearingSection where
  clearing : ClearingTerms := {}
  notHeld : Bool := false
  deltaNeutral : Option DeltaNeutralContract := none
  algo : AlgoTerms := {}
  solicited : Bool := false
  deriving DecidableEq, Inhabited

/-- A flag and, if it is set, the contract. -/
def deltaNeutralPart : Reader (Option DeltaNeutralContract) := do
  let isPresent ← bool
  since isPresent none do
    let c ← deltaNeutralContract
    return some c

/-- The parameters follow only a strategy. -/
def algoTerms : Reader AlgoTerms := do
  let strategy ← string
  let params ← since (!strategy.isEmpty) [] tagValues
  return { strategy, params }

def clearingSection (layout : Int) : Reader ClearingSection := do
  let account ← since (19 ≤ layout) "" string
  let intent ← since (19 ≤ layout) "" string
  let notHeld ← since (22 ≤ layout) false bool
  let deltaNeutral ← since (20 ≤ layout) none deltaNeutralPart
  let algo ← since (21 ≤ layout) {} algoTerms
  let solicited ← since (33 ≤ layout) false bool
  return { clearing := { account, intent }, notHeld, deltaNeutral, algo, solicited }

/-- The margins before and through an order, which only newer servers send. -/
def marginChanges (version : Version) (state : OrderState) : Reader OrderState :=
  since (version.supports Since.whatIfChanges) state do
    let initMarginBefore ← string
    let maintMarginBefore ← string
    let equityWithLoanBefore ← string
    let initMarginChange ← string
    let maintMarginChange ← string
    let equityWithLoanChange ← string
    return { state with
      initMarginBefore, maintMarginBefore, equityWithLoanBefore, initMarginChange,
      maintMarginChange, equityWithLoanChange }

/-- The state of an order, with its margins and commissions. -/
def orderState (version : Version) : Reader OrderState := do
  let status ← string
  let state ← marginChanges version { status }
  let initMarginAfter ← string
  let maintMarginAfter ← string
  let equityWithLoanAfter ← string
  let commission ← float?
  let minCommission ← float?
  let maxCommission ← float?
  let commissionCurrency ← string
  let warningText ← string
  return { state with
    initMarginAfter, maintMarginAfter, equityWithLoanAfter, commission, minCommission,
    maxCommission, commissionCurrency, warningText }

/-- Whether size and price are randomized. -/
def randomizeFlags (layout : Int) : Reader (Bool × Bool) :=
  since (34 ≤ layout) (false, false) do
    let size ← bool
    let price ← bool
    return (size, price)

/-- The peg to a benchmark, which only an order of that type has. -/
def benchmarkPeg (version : Version) (orderType : Option OrderType) : Reader BenchmarkPeg :=
  since (version.supports Since.benchmarkPegs && orderType == some .peggedToBenchmark) {} do
    let referenceContractId ← int32
    let changeAmountDecrease ← bool
    let changeAmount ← float
    let referenceChangeAmount ← float
    let referenceExchange ← string
    return { referenceContractId, changeAmountDecrease, changeAmount, referenceChangeAmount,
             referenceExchange }

def conditionKind : Reader ConditionKind := do
  let n ← int32
  match (Coded.ofCode? n : Option ConditionKind) with
  | some k => return k
  | none => fail (.unknownCondition n.toInt)

/-- Conditions are joined by the letter *a* for *and*; everything else is *or*. -/
def conjunction : Reader Bool := do
  let s ← string
  return Text.eqIgnoringCase s "a"

/-- The fields of a condition after its kind and conjunction. -/
def conditionBody (conjunction : Bool) : ConditionKind → Reader OrderCondition
  | .price => do
    let isMore ← bool
    let price ← float
    let contractId ← int32
    let exchange ← string
    let triggerMethod ← triggerMethod
    return .price conjunction isMore price contractId exchange triggerMethod
  | .time => do
    let isMore ← bool
    let time ← string
    return .time conjunction isMore time
  | .margin => do
    let isMore ← bool
    let percent ← int32
    return .margin conjunction isMore percent
  | .execution => do
    let secType ← string
    let exchange ← string
    let symbol ← string
    return .execution conjunction secType exchange symbol
  | .volume => do
    let isMore ← bool
    let volume ← int32
    let contractId ← int32
    let exchange ← string
    return .volume conjunction isMore volume contractId exchange
  | .percentChange => do
    let isMore ← bool
    let changePercent ← float
    let contractId ← int32
    let exchange ← string
    return .percentChange conjunction isMore changePercent contractId exchange

def orderCondition : Reader OrderCondition := do
  let kind ← conditionKind
  let conjunction ← conjunction
  conditionBody conjunction kind

/-- The two flags follow only if there is a condition. -/
def orderConditions (version : Version) : Reader OrderConditions :=
  since (version.supports Since.benchmarkPegs) {} do
    let conditions ← list orderCondition
    since (!conditions.isEmpty) {} do
      let ignoreRegularHours ← bool
      let cancelOrder ← bool
      return { conditions, ignoreRegularHours, cancelOrder }

/-- What an order is adjusted to, and the stop price of a trailing order between its fields. -/
def orderAdjustment : Reader (OrderAdjustment × Option Binary64) := do
  let orderType ← string
  let triggerPrice ← float?
  let trailStopPrice ← float?
  let limitPriceOffset ← float?
  let stopPrice ← float?
  let stopLimitPrice ← float?
  let trailingAmount ← float?
  let trailingUnit ← int32
  return ({ orderType, triggerPrice, limitPriceOffset, stopPrice, stopLimitPrice, trailingAmount,
            trailingUnit }, trailStopPrice)

def softDollarTier : Reader SoftDollarTier := do
  let name ← string
  let value ← string
  let displayName ← string
  return { name, value, displayName }

/-- The quantity in cash, and whether hedges are priced by the client and orders are containers. -/
def cashSection (version : Version) : Reader (Option Binary64 × Bool × Bool) := do
  let cashQuantity ← since (version.supports Since.cashQuantity) none float?
  let hedgePriceOptOut ← since (version.supports Since.hedgePriceOptOut) false bool
  let omsContainer ← since (version.supports Since.orderContainer) false bool
  return (cashQuantity, hedgePriceOptOut, omsContainer)

end Record
end BrokerLink
