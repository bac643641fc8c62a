import BrokerLink.Record.Part

/-!
# Records about instruments

The details of contracts and of bonds, contracts found by symbol, chains of options,
and rules of price steps.
-/

namespace BrokerLink
namespace Record

open Reader

/-- The id of a request, which older layouts do not have. -/
def laterId (layout : Int) : Reader Int32 := since (3 ≤ layout) noId int32

def sizeMultiplier (version : Version) : Reader (Option Int32) :=
  since (version.supports Since.sizeMultiplier) none int32?

def aggregationGroup (version : Version) : Reader (Option Int32) :=
  since (version.supports Since.aggregationGroup) none int32?

def marketRuleIds (version : Version) : Reader String :=
  since (version.supports Since.marketRules) "" string

def contractData (version : Version) : Reader Event := do
  let layout ← layout
  let id ← laterId layout
  let symbol ← string
  let secType ← word?
  let (lastTradeDate, lastTradeTime, _) ← lastTrade
  let strike ← float?
  let right ← word?
  let exchange ← string
  let currency ← string
  let localSymbol ← string
  let marketName ← string
  let tradingClass ← string
  let contractId ← int32
  let minTick ← float
  let sizeMultiplier ← sizeMultiplier version
  let multiplier ← string
  let orderTypes ← string
  let validExchanges ← string
  let priceMagnifier ← since (2 ≤ layout) 0 int32
  let underContractId ← since (4 ≤ layout) 0 int32
  let longName ← since (5 ≤ layout) "" string
  let primaryExchange ← since (5 ≤ layout) "" string
  let contractMonth ← since (6 ≤ layout) "" string
  let industry ← since (6 ≤ layout) "" string
  let category ← since (6 ≤ layout) "" string
  let subcategory ← since (6 ≤ layout) "" string
  let timeZoneId ← since (6 ≤ layout) "" string
  let tradingHours ← since (6 ≤ layout) "" string
  let liquidHours ← since (6 ≤ layout) "" string
  let evRule ← since (8 ≤ layout) "" string
  let evMultiplier ← since (8 ≤ layout) none float?
  let secIds ← since (7 ≤ layout) [] tagValues
  let aggregationGroup ← aggregationGroup version
  let underSymbol ← since (version.supports Since.underlyingInfo) "" string
  let underSecType ← since (version.supports Since.underlyingInfo) "" string
  let marketRuleIds ← marketRuleIds version
  let realExpirationDate ← since (version.supports Since.realExpirationDate) "" string
  let stockType ← since (version.supports Since.stockType) "" string
  return .contractDetails id
    { contract := { contractId, symbol, secType, lastTradeDate, strike, right, multiplier, exchange,
                    primaryExchange, currency, localSymbol, tradingClass }
      marketName, minTick, orderTypes, validExchanges, priceMagnifier, underContractId, longName
      contractMonth, industry, category, subcategory, timeZoneId, tradingHours, liquidHours, evRule
      evMultiplier, sizeMultiplier, aggregationGroup, underSymbol, underSecType, marketRuleIds
      realExpirationDate, lastTradeTime, stockType, secIds }

/-- The details of a bond, whose maturity may name a time zone. -/
def bondContractData (version : Version) : Reader Event := do
  let layout ← layout
  let id ← laterId layout
  let symbol ← string
  let secType ← word?
  let cusip ← string
  let coupon ← float
  let (maturity, lastTradeTime, timeZoneId) ← lastTrade
  let issueDate ← string
  let ratings ← string
  let bondType ← string
  let couponType ← string
  let convertible ← bool
  let callable ← bool
  let putable ← bool
  let descAppend ← string
  let exchange ← string
  let currency ← string
  let marketName ← string
  let tradingClass ← string
  let contractId ← int32
  let minTick ← float
  let sizeMultiplier ← sizeMultiplier version
  let orderTypes ← string
  let validExchanges ← string
  let nextOptionDate ← since (2 ≤ layout) "" string
  let nextOptionType ← since (2 ≤ layout) "" string
  let nextOptionPartial ← since (2 ≤ layout) false bool
  let notes ← since (2 ≤ layout) "" string
  let longName ← since (4 ≤ layout) "" string
  let evRule ← since (6 ≤ layout) "" string
  let evMultiplier ← since (6 ≤ layout) none float?
  let secIds ← since (5 ≤ layout) [] tagValues
  let aggregationGroup ← aggregationGroup version
  let marketRuleIds ← marketRuleIds version
  return .bondContractDetails id
    { contract := { contractId, symbol, secType, exchange, currency, tradingClass }
      marketName, minTick, orderTypes, validExchanges, longName, timeZoneId, evRule, evMultiplier
      sizeMultiplier, aggregationGroup, marketRuleIds, lastTradeTime, secIds
      bond := { cusip, ratings, descAppend, bondType, couponType, callable, putable, coupon
                convertible, maturity, issueDate, nextOptionDate, nextOptionType
                nextOptionPartial, notes } }

def contractDataEnd : Reader Event := do
  let id ← skipThenId
  return .contractDetailsEnd id

def contractDescription : Reader ContractDescription := do
  let contractId ← int32
  let symbol ← string
  let secType ← word?
  let primaryExchange ← string
  let currency ← string
  let derivativeSecTypes ← list string
  return { contract := { contractId, symbol, secType, primaryExchange, currency },
           derivativeSecTypes }

def symbolSamples : Reader Event := do
  let id ← int32
  let descriptions ← list contractDescription
  return .symbolSamples id descriptions

def optionChain : Reader Event := do
  let id ← int32
  let exchange ← string
  let underlyingContractId ← int32
  let tradingClass ← string
  let multiplier ← string
  let expirations ← list string
  let strikes ← list float
  return .optionChain id
    { exchange, underlyingContractId, tradingClass, multiplier, expirations, strikes }

def optionChainEnd : Reader Event := do
  let id ← int32
  return .optionChainEnd id

def priceIncrement : Reader PriceIncrement := do
  let lowEdge ← float
  let increment ← float
  return { lowEdge, increment }

def marketRule : Reader Event := do
  let ruleId ← int32
  let increments ← list priceIncrement
  return .marketRule ruleId increments

end Record
end BrokerLink
