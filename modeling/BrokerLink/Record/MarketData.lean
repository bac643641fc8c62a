import BrokerLink.Record.Part

/-!
# Records of market data

Ticks of every sort, market depth, and what the server says about where data comes
from. A price tick may bring a size tick with it, so one record makes two events.
-/

namespace BrokerLink
namespace Record

open Reader

/-- The attributes of a price tick, of which older servers know only the first, and that only as the
whole mask. -/
def tickAttributes (version : Version) (mask : Int32) : TickAttributes :=
  if version.supports Since.pastLimit then
    { canAutoExecute := maskBit mask 0
      pastLimit := maskBit mask 1
      preOpen := version.supports Since.preOpenQuotes && maskBit mask 2 }
  else { canAutoExecute := mask == 1 }

/-- The size that a price tick of a later layout brings with it. -/
def pairedSize (layout : Int) (id : Int32) (tick : TickType) (size : Decimal) : List Event :=
  if 2 ≤ layout then
    match tick.sizeTick with
    | some sizeTick => [.tickSize id sizeTick size]
    | none => []
  else []

def tickPrice (version : Version) : Reader (List Event) := do
  let layout ← layout
  let id ← int32
  let tick ← tick
  let price ← float
  let size ← since (2 ≤ layout) Decimal.zero decimal
  let mask ← since (3 ≤ layout) 0 int32
  return .tickPrice id tick price (tickAttributes version mask) :: pairedSize layout id tick size

def tickSize : Reader Event := do
  let id ← skipThenId
  let tick ← tick
  let size ← decimal
  return .tickSize id tick size

/-- A value of an option computation, unless it is a number that stands for none: the largest, or
the one that the server writes for what it did not compute. -/
def computed (notComputed x : Binary64) : Option Binary64 :=
  if x = notComputed ∨ x = Binary64.largest then none else some x

/-- A price, which -1 marks as not computed. -/
def priceLike : Reader (Option Binary64) := do
  let x ← float
  return computed Binary64.minusOne x

/-- A sensitivity, which -2 marks as not computed. -/
def greek : Reader (Option Binary64) := do
  let x ← float
  return computed Binary64.minusTwo x

def optionComputation (layout : Int) (tick : TickType) : Reader OptionComputation := do
  let impliedVolatility ← priceLike
  let delta ← greek
  let carriesPrice := decide (6 ≤ layout) || tick.isModel
  let price ← since carriesPrice none priceLike
  let dividendValue ← since carriesPrice none priceLike
  let gamma ← since (6 ≤ layout) none greek
  let vega ← since (6 ≤ layout) none greek
  let theta ← since (6 ≤ layout) none greek
  let underlyingPrice ← since (6 ≤ layout) none priceLike
  return { impliedVolatility, delta, price, dividendValue, gamma, vega, theta, underlyingPrice }

def tickOptionComputation (version : Version) : Reader Event := do
  let layout ← layoutBefore version Since.priceBasedVolatility newestLayout
  let id ← int32
  let tick ← tick
  let basis ← since (version.supports Since.priceBasedVolatility) 0 int32
  let values ← optionComputation layout tick
  return .tickOptionComputation id tick basis values

def tickGeneric : Reader Event := do
  let id ← skipThenId
  let tick ← tick
  let value ← float
  return .tickGeneric id tick value

def tickString : Reader Event := do
  let id ← skipThenId
  let tick ← tick
  let value ← string
  return .tickString id tick value

def tickEfp : Reader Event := do
  let id ← skipThenId
  let tick ← tick
  let basisPoints ← float
  let formattedBasisPoints ← string
  let impliedFuturesPrice ← float
  let holdDays ← int32
  let futureLastTradeDate ← string
  let dividendImpact ← float
  let dividendsToLastTradeDate ← float
  return .tickEfp id tick
    { basisPoints, formattedBasisPoints, impliedFuturesPrice, holdDays, futureLastTradeDate,
      dividendImpact, dividendsToLastTradeDate }

def tickSnapshotEnd : Reader Event := do
  let id ← skipThenId
  return .tickSnapshotEnd id

def tickRequestParams : Reader Event := do
  let id ← int32
  let minTick ← float
  let bboExchange ← string
  let snapshotPermissions ← int32
  return .tickReqParams id minTick bboExchange snapshotPermissions

def tickNews : Reader Event := do
  let id ← int32
  let time ← int64
  let providerCode ← string
  let articleId ← string
  let headline ← string
  let extraData ← string
  return .tickNews id time providerCode articleId headline extraData

def marketDataType : Reader Event := do
  let id ← skipThenId
  let code ← int32
  return .marketDataType id code

/-- A trade without its time. -/
def tradeAt (time : Int64) : Reader HistoricalTrade := do
  let price ← float
  let size ← decimal
  let mask ← int32
  let exchange ← string
  let specialConditions ← string
  return { time, price, size, attributes := .ofMask mask, exchange, specialConditions }

/-- A quote without its time, the attributes last. -/
def quoteAt (time : Int64) : Reader HistoricalQuote := do
  let bidPrice ← float
  let askPrice ← float
  let bidSize ← decimal
  let askSize ← decimal
  let mask ← int32
  return { time, attributes := .ofMask mask, bidPrice, askPrice, bidSize, askSize }

/-- A tick of a stream: 1 and 2 are trades, 3 is a quote and 4 a mid-point; of another type there is
nothing to tell. -/
def tickByTick : Reader (List Event) := do
  let id ← int32
  let kind ← int32
  let time ← int64
  if kind = 1 ∨ kind = 2 then
    let trade ← tradeAt time
    return [.tickByTickAllLast id kind trade]
  else if kind = 3 then
    let quote ← quoteAt time
    return [.tickByTickBidAsk id quote]
  else if kind = 4 then
    let midPoint ← float
    return [.tickByTickMidPoint id time midPoint]
  else return []

def marketDepth : Reader Event := do
  let id ← skipThenId
  let position ← int32
  let operation ← int32
  let side ← int32
  let price ← float
  let size ← decimal
  return .updateMktDepth id position operation side price size

def marketDepthL2 (version : Version) : Reader Event := do
  let id ← skipThenId
  let position ← int32
  let marketMaker ← string
  let operation ← int32
  let side ← int32
  let price ← float
  let size ← decimal
  let isSmartDepth ← since (version.supports Since.smartDepth) false bool
  return .updateMktDepthL2 id position marketMaker operation side price size isSmartDepth

/-- An exchange that offers depth; older servers say only whether the data is of the second kind. -/
def depthExchange (version : Version) : Reader DepthExchange := do
  let exchange ← string
  let secType ← string
  if version.supports Since.serviceDataType then
    let listingExchange ← string
    let serviceDataType ← string
    let aggregationGroup ← int32?
    return { exchange, secType, listingExchange, serviceDataType, aggregationGroup }
  else
    let isDeep2 ← bool
    return { exchange, secType, listingExchange := "",
             serviceDataType := if isDeep2 then "Deep2" else "Deep", aggregationGroup := none }

def marketDepthExchanges (version : Version) : Reader Event := do
  let exchanges ← list (depthExchange version)
  return .mktDepthExchanges exchanges

def smartComponent : Reader SmartComponent := do
  let bitNumber ← int32
  let exchange ← string
  let exchangeLetter ← string
  return { bitNumber, exchange, exchangeLetter }

def smartComponents : Reader Event := do
  let id ← int32
  let components ← list smartComponent
  return .smartComponents id components

def rerouteMarketData : Reader Event := do
  let id ← int32
  let contractId ← int32
  let exchange ← string
  return .rerouteMktDataReq id contractId exchange

def rerouteMarketDepth : Reader Event := do
  let id ← int32
  let contractId ← int32
  let exchange ← string
  return .rerouteMktDepthReq id contractId exchange

def deltaNeutralContract : Reader DeltaNeutralContract := do
  let contractId ← int32
  let delta ← float
  let price ← float
  return { contractId, delta, price }

def deltaNeutralValidation : Reader Event := do
  let id ← skipThenId
  let contract ← deltaNeutralContract
  return .deltaNeutralValidation id contract

end Record
end BrokerLink
