import BrokerLink.Order
import BrokerLink.Request.Contract
import BrokerLink.Version

/-!
# Sections of a placed order

An order is sent section by section, each about one group of attributes. Attributes
that a server does not know are left out, and so are the parts of a hedge, of a
scale, of an algorithm, of a peg to a benchmark and of conditions if the order has
none.
-/

namespace BrokerLink

namespace Contract

/-- The contract of an order. -/
def orderFields (version : Version) (c : Contract) : Fields :=
  c.fields
      { contractId := version.supports Since.orderByContractId
        primaryExchange := true
        tradingClass := version.supports Since.tradingClass }
    ++ ifSupported (version.supports Since.securityIds) [c.secIdType, c.secId]

end Contract

namespace ComboLeg

def orderFields (version : Version) (l : ComboLeg) : Fields :=
  [fieldText l.contractId, fieldText l.ratio, fieldText l.action, l.exchange,
    fieldText l.openClose, fieldText l.shortSaleSlot, l.designatedLocation]
    ++ ifSupported (version.supports Since.oldExemptCode) [fieldText l.exemptCode]

end ComboLeg

namespace OrderTerms

/-- Older servers know only whole quantities; the fraction is cut off, and what is beyond 64 bits
becomes zero. -/
def quantityField (version : Version) (t : OrderTerms) : String :=
  if version.supports Since.fractionalPositions then fieldText t.quantity
  else fieldText (t.quantity.truncateInt64?.getD 0)

/-- A price that older servers must always be sent. -/
def priceField (mayBeUnset : Bool) (price : Option Binary64) : String :=
  if mayBeUnset then fieldText price else fieldText (price.getD Binary64.zero)

def fields (version : Version) (t : OrderTerms) : Fields :=
  [fieldText t.action, t.quantityField version, fieldText t.orderType,
    priceField (version.supports Since.comboLegPrices) t.limitPrice,
    priceField (version.supports Since.trailingPercent) t.auxPrice]

end OrderTerms

namespace OrderPlacement

def fields (p : OrderPlacement) : Fields :=
  [fieldText p.timeInForce, p.ocaGroup, p.account, p.openClose, fieldText p.origin, p.orderRef]

end OrderPlacement

namespace ComboTerms

/-- The legs of a combination, their prices, and how it is routed. -/
def fields (version : Version) (legs : List ComboLeg) (t : ComboTerms) : Fields :=
  fieldText legs.length :: legs.flatMap (·.orderFields version)
    ++ ifSupported (version.supports Since.comboLegPrices)
      (fieldText t.legPrices.length :: t.legPrices.map fun l => fieldText l.price)
    ++ ifSupported (version.supports Since.smartComboRouting) (TagValue.pairs t.routingParams)

end ComboTerms

namespace AdvisorAllocation

/-- The allocation, behind which the place of a profile is left empty. -/
def fields (a : AdvisorAllocation) : Fields := [a.group, a.method, a.percentage, ""]

end AdvisorAllocation

namespace ShortSale

def fields (version : Version) (s : ShortSale) : Fields :=
  [fieldText s.slot, s.designatedLocation]
    ++ ifSupported (version.supports Since.oldExemptCode) [fieldText s.exemptCode]

end ShortSale

namespace StockPeg

def fields (p : StockPeg) : Fields :=
  [fieldText p.startingPrice, fieldText p.stockRefPrice, fieldText p.delta,
    fieldText p.rangeLower, fieldText p.rangeUpper]

end StockPeg

namespace DeltaNeutralLeg

/-- The hedge of a volatility order that has one. -/
def fields (version : Version) (l : DeltaNeutralLeg) : Fields :=
  ifSupported (version.supports Since.deltaNeutralContractId)
      [fieldText l.contractId, l.settlingFirm, l.clearingAccount, l.clearingIntent]
    ++ ifSupported (version.supports Since.deltaNeutralOpenClose)
      [l.openClose, fieldText l.shortSale, fieldText l.shortSaleSlot, l.designatedLocation]

end DeltaNeutralLeg

namespace VolatilityTerms

def fields (version : Version) (t : VolatilityTerms) : Fields :=
  [fieldText t.volatility, fieldText t.volatilityType, t.deltaNeutralOrderType,
    fieldText t.deltaNeutralAuxPrice]
    ++ (if t.deltaNeutralOrderType.isEmpty then [] else t.deltaNeutralLeg.fields version)
    ++ [fieldText t.continuousUpdate, fieldText t.referencePriceType]

end VolatilityTerms

namespace TrailTerms

def fields (version : Version) (t : TrailTerms) : Fields :=
  fieldText t.stopPrice
    :: ifSupported (version.supports Since.trailingPercent) [fieldText t.percent]

end TrailTerms

namespace ScaleExtension

def fields (e : ScaleExtension) : Fields :=
  [fieldText e.priceAdjustValue, fieldText e.priceAdjustInterval, fieldText e.profitOffset,
    fieldText e.autoReset, fieldText e.initPosition, fieldText e.initFillQuantity,
    fieldText e.randomPercent]

end ScaleExtension

namespace ScaleTerms

/-- The sizes of the levels; older servers know only the first, behind a place left empty. -/
def levelFields (version : Version) (t : ScaleTerms) : Fields :=
  if version.supports Since.scaleSubsequentLevels then
    [fieldText t.initLevelSize, fieldText t.subsLevelSize]
  else ["", fieldText t.initLevelSize]

/-- The extension is sent only with a positive price increment. -/
def extendedFields (version : Version) (t : ScaleTerms) : Fields :=
  t.levelFields version ++ [fieldText t.priceIncrement]
    ++ ifSupported (version.supports Since.scaleExtension && t.hasExtension) t.extension.fields

def fields (version : Version) (t : ScaleTerms) : Fields :=
  t.extendedFields version
    ++ ifSupported (version.supports Since.scaleTable)
      [t.table, t.activeStartTime, t.activeStopTime]

end ScaleTerms

namespace HedgeTerms

/-- The parameter of a hedge is sent only with a kind of hedge. -/
def fields (version : Version) (t : HedgeTerms) : Fields :=
  ifSupported (version.supports Since.hedgeOrders)
    (t.kind :: if t.kind.isEmpty then [] else [t.param])

end HedgeTerms

namespace ClearingTerms

def fields (version : Version) (t : ClearingTerms) : Fields :=
  ifSupported (version.supports Since.clearingAccounts) [t.account, t.intent]

end ClearingTerms

namespace AlgoTerms

/-- The parameters of an algorithm are sent only with a strategy. -/
def strategyFields (t : AlgoTerms) : Fields :=
  t.strategy :: if t.strategy.isEmpty then [] else TagValue.pairs t.params

def fields (version : Version) (t : AlgoTerms) : Fields :=
  ifSupported (version.supports Since.algoOrders) t.strategyFields

def idFields (version : Version) (t : AlgoTerms) : Fields :=
  ifSupported (version.supports Since.algoId) [t.id]

end AlgoTerms

namespace BenchmarkPeg

def fields (p : BenchmarkPeg) : Fields :=
  [fieldText p.referenceContractId, fieldText p.changeAmountDecrease, fieldText p.changeAmount,
    fieldText p.referenceChangeAmount, p.referenceExchange]

end BenchmarkPeg

namespace OrderCondition

/-- The fields of a condition after its kind and conjunction. -/
def bodyFields : OrderCondition → Fields
  | .price _ isMore limit contractId exchange triggerMethod =>
    [fieldText isMore, fieldText limit, fieldText contractId, exchange, fieldText triggerMethod]
  | .time _ isMore moment => [fieldText isMore, moment]
  | .margin _ isMore percent => [fieldText isMore, fieldText percent]
  | .execution _ secType exchange symbol => [secType, exchange, symbol]
  | .volume _ isMore amount contractId exchange =>
    [fieldText isMore, fieldText amount, fieldText contractId, exchange]
  | .percentChange _ isMore changePercent contractId exchange =>
    [fieldText isMore, fieldText changePercent, fieldText contractId, exchange]

def fields (c : OrderCondition) : Fields :=
  fieldText c.kind :: (if c.conjunction then "a" else "o") :: c.bodyFields

end OrderCondition

namespace OrderConditions

/-- The number of conditions and the conditions; the two flags are sent only if there is one. -/
def fields (c : OrderConditions) : Fields :=
  fieldText c.conditions.length :: c.conditions.flatMap (·.fields)
    ++ if c.conditions.isEmpty then []
      else [fieldText c.ignoreRegularHours, fieldText c.cancelOrder]

end OrderConditions

namespace OrderAdjustment

def fields (a : OrderAdjustment) : Fields :=
  [a.orderType, fieldText a.triggerPrice, fieldText a.limitPriceOffset, fieldText a.stopPrice,
    fieldText a.stopLimitPrice, fieldText a.trailingAmount, fieldText a.trailingUnit]

end OrderAdjustment

namespace DecisionMakers

def fields (version : Version) (d : DecisionMakers) : Fields :=
  ifSupported (version.supports Since.decisionMaker) [d.decisionMaker, d.decisionAlgo]
    ++ ifSupported (version.supports Since.executionTrader) [d.executionTrader, d.executionAlgo]

end DecisionMakers
end BrokerLink
