import BrokerLink.Request.Order.Gate
import BrokerLink.Request.Order.Section

/-!
# Placing an order

The fields of an order as it is placed, in four parts: what is traded and how, how it
is shown and filled, its special types, and what newer servers add.
-/

namespace BrokerLink
namespace Order

/-- Whether the order is pegged to a benchmark. -/
def isPegged (o : Order) : Bool := o.terms.orderType == some .peggedToBenchmark

/-- The version of the layout, which servers with containers are no longer told. -/
def layoutFields (version : Version) : Fields :=
  if version.supports Since.orderContainer then []
  else if version.supports Since.notHeld then ["45"]
  else ["27"]

/-- The contract, the terms, and for a combination its legs. -/
def mainFields (version : Version) (c : Contract) (o : Order) : Fields :=
  c.orderFields version
    ++ o.terms.fields version
    ++ o.placement.fields
    ++ [fieldText o.transmit, fieldText o.identity.parentId, fieldText o.blockOrder,
      fieldText o.fill.sweepToFill, fieldText (o.displaySize.getD 0), fieldText o.triggerMethod,
      fieldText o.exposure.outsideRegularHours, fieldText o.exposure.hidden]
    ++ if c.isCombo then o.combo.fields version c.comboLegs else []

/-- From the discretionary amount to the constraints on percentages. The places of an allocation of
shares, of two flags and of a price cap are kept. -/
def fillFields (version : Version) (o : Order) : Fields :=
  ["", fieldText o.exposure.discretionaryAmount, o.exposure.goodAfterTime,
    o.settlement.goodTillDate]
    ++ o.advisor.fields
    ++ ifSupported (version.supports Since.models) [o.settlement.modelCode]
    ++ o.shortSale.fields version
    ++ [fieldText o.fill.ocaType, o.settlement.rule80A, o.settlement.settlingFirm,
      fieldText o.fill.allOrNone, fieldText o.fill.minQuantity,
      fieldText o.settlement.percentOffset, fieldText false, fieldText false, "",
      fieldText o.auctionStrategy]
    ++ o.stockPeg.fields
    ++ [fieldText o.overridePercentageConstraints]

/-- Volatility, trail, scale, hedge, clearing and algorithm. -/
def strategyFields (version : Version) (c : Contract) (o : Order) : Fields :=
  o.volatility.fields version
    ++ o.trail.fields version
    ++ o.scale.fields version
    ++ o.hedge.fields version
    ++ ifSupported (version.supports Since.optOutSmartRouting) [fieldText o.optOutSmartRouting]
    ++ o.clearing.fields version
    ++ ifSupported (version.supports Since.notHeld) [fieldText o.notHeld]
    ++ ifSupported (version.supports Since.deltaNeutral) c.deltaNeutralFields
    ++ o.algo.fields version
    ++ o.algo.idFields version
    ++ ifSupported (version.supports Since.whatIfOrders) [fieldText o.whatIf]
    ++ ifSupported (version.supports Since.linking) [TagValue.joined o.miscOptions]
    ++ ifSupported (version.supports Since.solicitedOrders) [fieldText o.solicited]
    ++ ifSupported (version.supports Since.randomizedOrders)
      [fieldText o.randomizeSize, fieldText o.randomizePrice]

/-- The peg to a benchmark, the conditions, and what the order is adjusted to. -/
def triggerFields (o : Order) : Fields :=
  (if o.isPegged then o.benchmark.fields else [])
    ++ o.conditions.fields
    ++ o.adjustment.fields

/-- What servers learned one by one. -/
def recentFields (version : Version) (o : Order) : Fields :=
  ifSupported (version.supports Since.externalOperator) [o.externalOperator]
    ++ ifSupported (version.supports Since.softDollarTiers)
      [o.softDollarTier.name, o.softDollarTier.value]
    ++ ifSupported (version.supports Since.cashQuantity) [fieldText o.cashQuantity]
    ++ o.decision.fields version
    ++ ifSupported (version.supports Since.hedgePriceOptOut) [fieldText o.hedgePriceOptOut]
    ++ ifSupported (version.supports Since.orderContainer) [fieldText o.omsContainer]
    ++ ifSupported (version.supports Since.discretionaryPegs) [fieldText o.discretionaryUpToLimit]
    ++ ifSupported (version.supports Since.priceManagement) [fieldText o.priceManagement]

/-- The fields of an order placed under an id. -/
def placeFields (version : Version) (id : Int32) (c : Contract) (o : Order) : Fields :=
  layoutFields version
    ++ [fieldText id]
    ++ mainFields version c o
    ++ fillFields version o
    ++ strategyFields version c o
    ++ ifSupported (version.supports Since.benchmarkPegs) o.triggerFields
    ++ recentFields version o

end Order
end BrokerLink
