import BrokerLink.Instrument
import BrokerLink.Order.Condition

/-!
# Orders

An order has over a hundred attributes. They are grouped by what they are about; a
group is also what is written and read together. A number that may be unset is an
`Option`.
-/

namespace BrokerLink

/-- How an order is known: by its client, and by the server. -/
structure OrderIdentity where
  orderId : Int32 := 0
  clientId : Int32 := 0
  permanentId : Int64 := 0
  parentId : Int32 := 0
  parentPermanentId : Int64 := 0
  deriving DecidableEq, Inhabited

/-- What is to be bought or sold, and at which price. -/
structure OrderTerms where
  action : Option Action := none
  quantity : Decimal := .zero
  orderType : Option OrderType := none
  limitPrice : Option Binary64 := none
  auxPrice : Option Binary64 := none
  deriving DecidableEq, Inhabited

/-- For whom and under which name an order is placed. -/
structure OrderPlacement where
  timeInForce : Option TimeInForce := none
  ocaGroup : String := ""
  account : String := ""
  openClose : String := ""
  origin : Origin := .customer
  orderRef : String := ""
  deriving DecidableEq, Inhabited

/-- When an order works and what of it is shown. -/
structure OrderExposure where
  outsideRegularHours : Bool := false
  hidden : Bool := false
  discretionaryAmount : Binary64 := .zero
  goodAfterTime : String := ""
  deriving DecidableEq, Inhabited

/-- How a financial advisor's order is shared out. -/
structure AdvisorAllocation where
  group : String := ""
  method : String := ""
  percentage : String := ""
  deriving DecidableEq, Inhabited

/-- The end of an order, and who settles it. -/
structure OrderSettlement where
  modelCode : String := ""
  goodTillDate : String := ""
  rule80A : String := ""
  percentOffset : Option Binary64 := none
  settlingFirm : String := ""
  deriving DecidableEq, Inhabited

/-- Where the shares of a short sale come from. -/
structure ShortSale where
  slot : Int32 := 0
  designatedLocation : String := ""
  exemptCode : Int32 := -1
  deriving DecidableEq, Inhabited

/-- Prices of box orders and of orders pegged to a stock. -/
structure StockPeg where
  startingPrice : Option Binary64 := none
  stockRefPrice : Option Binary64 := none
  delta : Option Binary64 := none
  rangeLower : Option Binary64 := none
  rangeUpper : Option Binary64 := none
  deriving DecidableEq, Inhabited

/-- A second range of stock prices takes the place of the first. -/
def StockPeg.withRange (p : StockPeg) : Option (Binary64 × Binary64) → StockPeg
  | some (lower, upper) => { p with rangeLower := some lower, rangeUpper := some upper }
  | none => p

/-- How much of an order may be filled at once. -/
structure FillRules where
  sweepToFill : Bool := false
  allOrNone : Bool := false
  minQuantity : Option Int32 := none
  ocaType : Int32 := 0
  deriving DecidableEq, Inhabited

/-- The hedge of a volatility order, sent with a type of order for it. -/
structure DeltaNeutralLeg where
  contractId : Int32 := 0
  settlingFirm : String := ""
  clearingAccount : String := ""
  clearingIntent : String := ""
  openClose : String := ""
  shortSale : Bool := false
  shortSaleSlot : Int32 := 0
  designatedLocation : String := ""
  deriving DecidableEq, Inhabited

/-- Terms of a volatility order. -/
structure VolatilityTerms where
  volatility : Option Binary64 := none
  volatilityType : Option Int32 := none
  deltaNeutralOrderType : String := ""
  deltaNeutralAuxPrice : Option Binary64 := none
  deltaNeutralLeg : DeltaNeutralLeg := {}
  continuousUpdate : Bool := false
  referencePriceType : Option Int32 := none
  deriving DecidableEq, Inhabited

/-- Terms of a trailing order. -/
structure TrailTerms where
  stopPrice : Option Binary64 := none
  percent : Option Binary64 := none
  deriving DecidableEq, Inhabited

/-- The price of one leg of a combination order. -/
structure ComboLegPrice where
  price : Option Binary64 := none
  deriving DecidableEq, Inhabited

/-- What a combination order adds. -/
structure ComboTerms where
  basisPoints : Option Binary64 := none
  basisPointsType : Option Int32 := none
  legPrices : List ComboLegPrice := []
  routingParams : List TagValue := []
  deriving DecidableEq, Inhabited

/-- What a scale order with a price increment may add. -/
structure ScaleExtension where
  priceAdjustValue : Option Binary64 := none
  priceAdjustInterval : Option Int32 := none
  profitOffset : Option Binary64 := none
  autoReset : Bool := false
  initPosition : Option Int32 := none
  initFillQuantity : Option Int32 := none
  randomPercent : Bool := false
  deriving DecidableEq, Inhabited

/-- Terms of a scale order. -/
structure ScaleTerms where
  initLevelSize : Option Int32 := none
  subsLevelSize : Option Int32 := none
  priceIncrement : Option Binary64 := none
  extension : ScaleExtension := {}
  table : String := ""
  activeStartTime : String := ""
  activeStopTime : String := ""
  deriving DecidableEq, Inhabited

/-- An order that hedges another. -/
structure HedgeTerms where
  kind : String := ""
  param : String := ""
  deriving DecidableEq, Inhabited

/-- Who clears an order. -/
structure ClearingTerms where
  account : String := ""
  intent : String := ""
  deriving DecidableEq, Inhabited

/-- The algorithm that works an order. -/
structure AlgoTerms where
  strategy : String := ""
  params : List TagValue := []
  id : String := ""
  deriving DecidableEq, Inhabited

/-- Terms of an order pegged to a benchmark. -/
structure BenchmarkPeg where
  referenceContractId : Int32 := 0
  changeAmountDecrease : Bool := false
  changeAmount : Binary64 := .zero
  referenceChangeAmount : Binary64 := .zero
  referenceExchange : String := ""
  deriving DecidableEq, Inhabited

/-- What an order turns into when its trigger price is met. -/
structure OrderAdjustment where
  orderType : String := ""
  triggerPrice : Option Binary64 := none
  limitPriceOffset : Option Binary64 := none
  stopPrice : Option Binary64 := none
  stopLimitPrice : Option Binary64 := none
  trailingAmount : Option Binary64 := none
  trailingUnit : Int32 := 0
  deriving DecidableEq, Inhabited

/-- A tier of soft-dollar commissions. -/
structure SoftDollarTier where
  name : String := ""
  value : String := ""
  displayName : String := ""
  deriving DecidableEq, Inhabited

/-- Who decided on an order and who executes it. -/
structure DecisionMakers where
  decisionMaker : String := ""
  decisionAlgo : String := ""
  executionTrader : String := ""
  executionAlgo : String := ""
  deriving DecidableEq, Inhabited

/-- What the server reports only of completed orders. -/
structure OrderCompletion where
  autoCancelDate : String := ""
  filledQuantity : Option Decimal := none
  refFuturesContractId : Int32 := 0
  autoCancelParent : Bool := false
  shareholder : String := ""
  imbalanceOnly : Bool := false
  routeMarketableToBbo : Bool := false
  deriving DecidableEq, Inhabited

/-- An order. -/
structure Order where
  identity : OrderIdentity := {}
  terms : OrderTerms := {}
  placement : OrderPlacement := {}
  exposure : OrderExposure := {}
  advisor : AdvisorAllocation := {}
  settlement : OrderSettlement := {}
  shortSale : ShortSale := {}
  stockPeg : StockPeg := {}
  fill : FillRules := {}
  volatility : VolatilityTerms := {}
  trail : TrailTerms := {}
  combo : ComboTerms := {}
  scale : ScaleTerms := {}
  hedge : HedgeTerms := {}
  clearing : ClearingTerms := {}
  algo : AlgoTerms := {}
  benchmark : BenchmarkPeg := {}
  adjustment : OrderAdjustment := {}
  conditions : OrderConditions := {}
  softDollarTier : SoftDollarTier := {}
  decision : DecisionMakers := {}
  completion : OrderCompletion := {}
  displaySize : Option Int32 := none
  triggerMethod : TriggerMethod := .standard
  auctionStrategy : Int32 := 0
  cashQuantity : Option Binary64 := none
  externalOperator : String := ""
  miscOptions : List TagValue := []
  transmit : Bool := true
  blockOrder : Bool := false
  overridePercentageConstraints : Bool := false
  optOutSmartRouting : Bool := false
  randomizeSize : Bool := false
  randomizePrice : Bool := false
  whatIf : Bool := false
  notHeld : Bool := false
  solicited : Bool := false
  hedgePriceOptOut : Bool := false
  omsContainer : Bool := false
  discretionaryUpToLimit : Bool := false
  priceManagement : Option Bool := none
  deriving Inhabited

/-- A number that is present and is not the one that stands for none. -/
def isSet {α : Type} [DecidableEq α] (unset : α) : Option α → Bool
  | some a => decide (a ≠ unset)
  | none => false

namespace ScaleTerms

/-- The extension means something only with a positive price increment. -/
def hasExtension (s : ScaleTerms) : Bool :=
  match s.priceIncrement with
  | some x => x.isPositive && decide (x ≠ Binary64.largest)
  | none => false

end ScaleTerms

/-- The state of an order at the server, with what it would cost. -/
structure OrderState where
  status : String := ""
  initMarginBefore : String := ""
  maintMarginBefore : String := ""
  equityWithLoanBefore : String := ""
  initMarginChange : String := ""
  maintMarginChange : String := ""
  equityWithLoanChange : String := ""
  initMarginAfter : String := ""
  maintMarginAfter : String := ""
  equityWithLoanAfter : String := ""
  commission : Option Binary64 := none
  minCommission : Option Binary64 := none
  maxCommission : Option Binary64 := none
  commissionCurrency : String := ""
  warningText : String := ""
  completedTime : String := ""
  completedStatus : String := ""
  deriving DecidableEq, Inhabited

end BrokerLink
