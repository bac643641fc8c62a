import BrokerLink.Record.Order.Section

/-!
# Records of orders

An open order and a completed one are read from the same sections. A completed order
always has the newest layout; it leaves out what only a living order has, and ends
with how it was completed.
-/

namespace BrokerLink
namespace Record

open Reader

def orderStatus (version : Version) : Reader Event := do
  let layout ← layoutBefore version Since.marketCapPrice newestLayout
  let orderId ← int32
  let status ← string
  let filled ← decimal
  let remaining ← decimal
  let averageFillPrice ← float
  let permanentId ← since (2 ≤ layout) 0 int64
  let parentId ← since (3 ≤ layout) 0 int32
  let lastFillPrice ← since (4 ≤ layout) Binary64.zero float
  let clientId ← since (5 ≤ layout) 0 int32
  let whyHeld ← since (6 ≤ layout) "" string
  let marketCapPrice ← since (version.supports Since.marketCapPrice) Binary64.zero float
  return .orderStatus orderId
    { status, filled, remaining, averageFillPrice, permanentId, parentId, lastFillPrice, clientId,
      whyHeld, marketCapPrice }

def openOrder (version : Version) : Reader Event := do
  let layout ← layoutBefore version Since.orderContainer version
  let orderId ← int32
  let contract ← orderContract layout
  let terms ← orderTerms layout
  let placement ← orderPlacement
  let clientId ← since (3 ≤ layout) 0 int32
  let (permanentId, exposure) ← orderExposure layout
  -- the allocation of shares
  since (6 ≤ layout) () skip
  let advisor ← advisorAllocation layout
  let settlement ← orderSettlement version layout
  let shortSale ← shortSale version layout
  let auctionStrategy ← since (9 ≤ layout) 0 int32
  let stockPeg ← stockPeg layout
  let displaySize ← since (9 ≤ layout) none int32?
  -- an older flag for outside regular hours
  since (decide (9 ≤ layout) && decide (layout < 18)) () skip
  let blockOrder ← since (9 ≤ layout) false bool
  let fill ← fillRules layout
  -- three flags that no longer mean anything
  since (9 ≤ layout) () (skips 3)
  let parentId ← since (10 ≤ layout) 0 int32
  let triggerMethod ← since (10 ≤ layout) .standard triggerMethod
  let (volatility, secondRange) ← volatilityTerms version layout true
  let trail ← trailTerms layout
  let basisPoints ← since (14 ≤ layout) none float?
  let basisPointsType ← since (14 ≤ layout) none int32?
  let (comboLegsDescription, comboLegs, legPrices) ← comboLegs layout
  let routingParams ← routingParams layout
  let scale ← scaleTerms layout
  let hedge ← hedgeTerms layout
  let optOutSmartRouting ← since (25 ≤ layout) false bool
  let ending ← clearingSection layout
  let whatIf ← since (16 ≤ layout) false bool
  let state ← since (16 ≤ layout) {} (orderState version)
  let (randomizeSize, randomizePrice) ← randomizeFlags layout
  let benchmark ← benchmarkPeg version terms.orderType
  let conditions ← orderConditions version
  let (adjustment, stopPrice) ←
    since (version.supports Since.benchmarkPegs) ({}, trail.stopPrice) orderAdjustment
  let softDollarTier ← since (version.supports Since.softDollarTiers) {} softDollarTier
  let (cashQuantity, hedgePriceOptOut, omsContainer) ← cashSection version
  let discretionaryUpToLimit ← since (version.supports Since.discretionaryPegs) false bool
  let priceManagement ← since (version.supports Since.priceManagement) none int32?
  return .openOrder orderId
    { contract with comboLegsDescription, comboLegs, deltaNeutral := ending.deltaNeutral }
    { identity := { orderId, clientId, permanentId, parentId }
      terms, placement, exposure, advisor, settlement, shortSale
      stockPeg := stockPeg.withRange secondRange
      fill, volatility
      trail := { trail with stopPrice }
      combo := { basisPoints, basisPointsType, legPrices, routingParams }
      scale, hedge
      clearing := ending.clearing
      algo := ending.algo
      benchmark, adjustment, conditions, softDollarTier, displaySize, triggerMethod
      auctionStrategy, cashQuantity, blockOrder, optOutSmartRouting, randomizeSize, randomizePrice
      whatIf
      notHeld := ending.notHeld
      solicited := ending.solicited
      hedgePriceOptOut, omsContainer, discretionaryUpToLimit
      priceManagement := priceManagement.map fun n => decide (n ≠ 0) }
    state

/-- What a record says about the completion of an order. -/
structure CompletionSection where
  completion : OrderCompletion := {}
  parentPermanentId : Int64 := 0
  completedTime : String := ""
  completedStatus : String := ""
  deriving DecidableEq, Inhabited

def completionSection : Reader CompletionSection := do
  let autoCancelDate ← string
  let filledQuantity ← decimal?
  let refFuturesContractId ← int32
  let autoCancelParent ← bool
  let shareholder ← string
  let imbalanceOnly ← bool
  let routeMarketableToBbo ← bool
  let parentPermanentId ← int64
  let completedTime ← string
  let completedStatus ← string
  return { completion := { autoCancelDate, filledQuantity, refFuturesContractId, autoCancelParent,
                           shareholder, imbalanceOnly, routeMarketableToBbo },
           parentPermanentId, completedTime, completedStatus }

def completedOrder (version : Version) : Reader Event := do
  let layout := newestLayout
  let contract ← orderContract layout
  let terms ← orderTerms layout
  let placement ← orderPlacement
  let (permanentId, exposure) ← orderExposure layout
  let advisor ← advisorAllocation layout
  let settlement ← orderSettlement version layout
  let shortSale ← shortSale version layout
  let stockPeg ← stockPeg layout
  let displaySize ← int32?
  let fill ← fillRules layout
  let triggerMethod ← triggerMethod
  let (volatility, secondRange) ← volatilityTerms version layout false
  -- a stop price that a later field replaces
  let trail ← trailTerms layout
  let (comboLegsDescription, comboLegs, legPrices) ← comboLegs layout
  let routingParams ← routingParams layout
  let scale ← scaleTerms layout
  let hedge ← hedgeTerms layout
  let ending ← clearingSection layout
  let status ← string
  let (randomizeSize, randomizePrice) ← randomizeFlags layout
  let benchmark ← benchmarkPeg version terms.orderType
  let conditions ← orderConditions version
  let stopPrice ← float?
  let limitPriceOffset ← float?
  let (cashQuantity, hedgePriceOptOut, omsContainer) ← cashSection version
  let completed ← completionSection
  return .completedOrder
    { contract with comboLegsDescription, comboLegs, deltaNeutral := ending.deltaNeutral }
    { identity := { permanentId, parentPermanentId := completed.parentPermanentId }
      terms, placement, exposure, advisor, settlement, shortSale
      stockPeg := stockPeg.withRange secondRange
      fill, volatility
      trail := { trail with stopPrice }
      combo := { legPrices, routingParams }
      scale, hedge
      clearing := ending.clearing
      algo := ending.algo
      benchmark
      adjustment := { limitPriceOffset }
      conditions
      completion := completed.completion
      displaySize, triggerMethod, cashQuantity, randomizeSize, randomizePrice
      notHeld := ending.notHeld
      solicited := ending.solicited
      hedgePriceOptOut, omsContainer }
    { status, completedTime := completed.completedTime
      completedStatus := completed.completedStatus }

def orderBound : Reader Event := do
  let orderId ← int64
  let clientId ← int32
  let clientOrderId ← int32
  return .orderBound orderId clientId clientOrderId

end Record
end BrokerLink
