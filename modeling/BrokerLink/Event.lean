import BrokerLink.Directory
import BrokerLink.Error
import BrokerLink.Execution
import BrokerLink.Market
import BrokerLink.Order

/-!
# Events

Everything an observer of a link is told. Two events are of the link itself; every
other one comes from a record that the server sent. `id` is the id of the request
that is answered.
-/

namespace BrokerLink

/-- What is known of an option at one moment. A value that the server did not compute is absent. -/
structure OptionComputation where
  impliedVolatility : Option Binary64 := none
  delta : Option Binary64 := none
  price : Option Binary64 := none
  dividendValue : Option Binary64 := none
  gamma : Option Binary64 := none
  vega : Option Binary64 := none
  theta : Option Binary64 := none
  underlyingPrice : Option Binary64 := none
  deriving DecidableEq, Inhabited

/-- An exchange of a future for the physical. -/
structure FuturePhysical where
  basisPoints : Binary64
  formattedBasisPoints : String
  impliedFuturesPrice : Binary64
  holdDays : Int32
  futureLastTradeDate : String
  dividendImpact : Binary64
  dividendsToLastTradeDate : Binary64
  deriving DecidableEq, Inhabited

/-- How much of an order has been filled. -/
structure OrderProgress where
  status : String
  filled : Decimal
  remaining : Decimal
  averageFillPrice : Binary64
  permanentId : Int64 := 0
  parentId : Int32 := 0
  lastFillPrice : Binary64 := .zero
  clientId : Int32 := 0
  whyHeld : String := ""
  marketCapPrice : Binary64 := .zero
  deriving DecidableEq, Inhabited

/-- A position in a portfolio and what it is worth. -/
structure Holding where
  contract : Contract
  position : Decimal
  marketPrice : Binary64
  marketValue : Binary64
  averageCost : Binary64 := .zero
  unrealizedPnl : Binary64 := .zero
  realizedPnl : Binary64 := .zero
  accountName : String := ""
  deriving DecidableEq, Inhabited

/-- Where options of an underlying trade, when they expire and at which prices. -/
structure OptionChain where
  exchange : String
  underlyingContractId : Int32
  tradingClass : String
  multiplier : String
  expirations : List String
  strikes : List Binary64
  deriving DecidableEq, Inhabited

/-- What an observer is told. -/
inductive Event where
  -- the link
  /-- The link is ready for use. -/
  | connectAck
  /-- No event follows. -/
  | connectionClosed
  | error (id code : Int32) (message : String)
  | nextValidId (orderId : Int32)
  | managedAccounts (accounts : List String)
  | currentTime (time : Int64)
  -- market data
  | tickPrice (id : Int32) (tick : TickType) (price : Binary64) (attributes : TickAttributes)
  | tickSize (id : Int32) (tick : TickType) (size : Decimal)
  /-- The basis is 0 for returns and 1 for prices. -/
  | tickOptionComputation (id : Int32) (tick : TickType) (basis : Int32)
    (values : OptionComputation)
  | tickGeneric (id : Int32) (tick : TickType) (value : Binary64)
  | tickString (id : Int32) (tick : TickType) (value : String)
  | tickEfp (id : Int32) (tick : TickType) (values : FuturePhysical)
  | tickSnapshotEnd (id : Int32)
  | tickReqParams (id : Int32) (minTick : Binary64) (bboExchange : String)
      (snapshotPermissions : Int32)
  | tickNews (id : Int32) (time : Int64) (providerCode articleId headline extraData : String)
  | marketDataType (id : Int32) (code : Int32)
  | tickByTickAllLast (id : Int32) (tick : Int32) (trade : HistoricalTrade)
  | tickByTickBidAsk (id : Int32) (quote : HistoricalQuote)
  | tickByTickMidPoint (id : Int32) (time : Int64) (midPoint : Binary64)
  | updateMktDepth (id position operation side : Int32) (price : Binary64) (size : Decimal)
  | updateMktDepthL2 (id position : Int32) (marketMaker : String) (operation side : Int32)
      (price : Binary64) (size : Decimal) (isSmartDepth : Bool)
  | mktDepthExchanges (exchanges : List DepthExchange)
  | smartComponents (id : Int32) (components : List SmartComponent)
  | rerouteMktDataReq (id contractId : Int32) (exchange : String)
  | rerouteMktDepthReq (id contractId : Int32) (exchange : String)
  | deltaNeutralValidation (id : Int32) (contract : DeltaNeutralContract)
  -- orders
  | orderStatus (orderId : Int32) (progress : OrderProgress)
  | openOrder (orderId : Int32) (contract : Contract) (order : Order) (state : OrderState)
  | openOrderEnd
  | completedOrder (contract : Contract) (order : Order) (state : OrderState)
  | completedOrdersEnd
  | orderBound (orderId : Int64) (clientId clientOrderId : Int32)
  | execDetails (id : Int32) (contract : Contract) (execution : Execution)
  | execDetailsEnd (id : Int32)
  | commissionReport (report : CommissionReport)
  -- accounts
  | updateAccountValue (key value currency accountName : String)
  | updatePortfolio (holding : Holding)
  | updateAccountTime (time : String)
  | accountDownloadEnd (account : String)
  | accountSummary (id : Int32) (account tag value currency : String)
  | accountSummaryEnd (id : Int32)
  | position (account : String) (contract : Contract) (position : Decimal) (averageCost : Binary64)
  | positionEnd
  | positionMulti (id : Int32) (account modelCode : String) (contract : Contract)
      (position : Decimal) (averageCost : Binary64)
  | positionMultiEnd (id : Int32)
  | accountUpdateMulti (id : Int32) (account modelCode key value currency : String)
  | accountUpdateMultiEnd (id : Int32)
  | pnl (id : Int32) (daily : Binary64) (unrealized realized : Option Binary64)
  | pnlSingle (id : Int32) (position : Decimal) (daily : Binary64)
      (unrealized realized : Option Binary64) (value : Binary64)
  | familyCodes (codes : List FamilyCode)
  | softDollarTiers (id : Int32) (tiers : List SoftDollarTier)
  -- contracts
  | contractDetails (id : Int32) (details : ContractDetails)
  | bondContractDetails (id : Int32) (details : ContractDetails)
  | contractDetailsEnd (id : Int32)
  | symbolSamples (id : Int32) (descriptions : List ContractDescription)
  | optionChain (id : Int32) (chain : OptionChain)
  | optionChainEnd (id : Int32)
  | marketRule (ruleId : Int32) (increments : List PriceIncrement)
  -- history
  | historicalData (id : Int32) (bar : Bar)
  | historicalDataEnd (id : Int32) (first last : String)
  | historicalDataUpdate (id : Int32) (bar : Bar)
  | headTimestamp (id : Int32) (time : String)
  | histogramData (id : Int32) (entries : List HistogramEntry)
  | historicalTicks (id : Int32) (ticks : List HistoricalTick) (done : Bool)
  | historicalTicksBidAsk (id : Int32) (quotes : List HistoricalQuote) (done : Bool)
  | historicalTicksLast (id : Int32) (trades : List HistoricalTrade) (done : Bool)
  | realtimeBar (id : Int32) (bar : RealTimeBar)
  -- scans
  | scannerParameters (document : String)
  | scannerData (id : Int32) (row : ScannerRow)
  | scannerDataEnd (id : Int32)
  | fundamentalData (id : Int32) (data : String)
  -- news
  | updateNewsBulletin (bulletinId kind : Int32) (message exchange : String)
  | newsArticle (id kind : Int32) (text : String)
  | newsProviders (providers : List NewsProvider)
  | historicalNews (id : Int32) (time providerCode articleId headline : String)
  | historicalNewsEnd (id : Int32) (hasMore : Bool)
  -- financial advisors
  | receiveFa (code : Int32) (document : String)
  | replaceFaEnd (id : Int32) (text : String)
  -- display groups
  | displayGroupList (id : Int32) (groups : String)
  | displayGroupUpdated (id : Int32) (contractInfo : String)
  -- verification
  | verifyMessageApi (data : String)
  | verifyCompleted (isSuccessful : Bool) (errorText : String)
  | verifyAndAuthMessageApi (data challenge : String)
  | verifyAndAuthCompleted (isSuccessful : Bool) (errorText : String)

namespace Event

/-- How an error is reported: a fault that the client found with its id and code, any other as a
bad message. -/
def ofError : LinkError → Event
  | .client id fault detail => error id fault.code (fault.text detail)
  | e => error noId ClientFault.badMessage.code e.message

end Event
end BrokerLink
