import BrokerLink.Execution
import BrokerLink.Market
import BrokerLink.Request.Query

/-!
# Requests

Everything a client can ask of a server. A request has a code, the features it
requires, and its fields, which depend on the version of the server. It becomes a
frame only if every requirement is met and its fields make a frame, and requirements
are checked first.
-/

namespace BrokerLink

/-- What a client asks of a server. `id` is the number under which it will be answered. -/
inductive Request where
  -- the connection
  /-- The first request after the handshake. -/
  | startApi (clientId : Int32) (optionalCapabilities : String)
  | currentTime
  /-- From 1, the least detail, to 5. -/
  | serverLogLevel (level : Int32)
  | ids (count : Int32)
  -- market data
  | marketData (id : Int32) (contract : Contract) (genericTicks : String)
      (snapshot regulatorySnapshot : Bool) (options : List TagValue)
  | cancelMarketData (id : Int32)
  | marketDepth (id : Int32) (contract : Contract) (rows : Int32) (isSmartDepth : Bool)
      (options : List TagValue)
  | cancelMarketDepth (id : Int32) (isSmartDepth : Bool)
  | marketDataType (type : MarketDataType)
  /-- The type of tick is `Last`, `AllLast`, `BidAsk` or `MidPoint`. -/
  | tickByTick (id : Int32) (contract : Contract) (tickType : String) (count : Int32)
      (ignoreSize : Bool)
  | cancelTickByTick (id : Int32)
  | smartComponents (id : Int32) (bboExchange : String)
  | depthExchanges
  -- orders
  | placeOrder (id : Int32) (contract : Contract) (order : Order)
  | cancelOrder (id : Int32)
  | openOrders
  | autoOpenOrders (autoBind : Bool)
  | allOpenOrders
  | globalCancel
  | completedOrders (apiOnly : Bool)
  /-- The action is 1 to exercise and 2 to let lapse. -/
  | exerciseOptions (id : Int32) (contract : Contract) (action quantity : Int32)
      (account : String) (overrideDefaults : Bool)
  | executions (id : Int32) (filter : ExecutionFilter)
  -- accounts
  | accountUpdates (subscribe : Bool) (account : String)
  /-- The tags are a comma-separated list. -/
  | accountSummary (id : Int32) (group tags : String)
  | cancelAccountSummary (id : Int32)
  | accountUpdatesMulti (id : Int32) (account modelCode : String) (ledgerAndValue : Bool)
  | cancelAccountUpdatesMulti (id : Int32)
  | positions
  | cancelPositions
  | positionsMulti (id : Int32) (account modelCode : String)
  | cancelPositionsMulti (id : Int32)
  | profitAndLoss (id : Int32) (account modelCode : String)
  | cancelProfitAndLoss (id : Int32)
  | profitAndLossSingle (id : Int32) (account modelCode : String) (contractId : Int32)
  | cancelProfitAndLossSingle (id : Int32)
  | managedAccounts
  | familyCodes
  | softDollarTiers (id : Int32)
  -- contracts
  | contractDetails (id : Int32) (contract : Contract)
  | matchingSymbols (id : Int32) (pattern : String)
  | optionParameters (id : Int32) (underlyingSymbol exchange underlyingSecType : String)
      (underlyingContractId : Int32)
  | marketRule (ruleId : Int32)
  -- history
  | historicalData (id : Int32) (contract : Contract) (query : BarQuery)
  | cancelHistoricalData (id : Int32)
  | headTimestamp (id : Int32) (contract : Contract) (whatToShow : String) (regularHours : Bool)
      (dateFormat : Int32)
  | cancelHeadTimestamp (id : Int32)
  | histogram (id : Int32) (contract : Contract) (regularHours : Bool) (period : String)
  | cancelHistogram (id : Int32)
  | historicalTicks (id : Int32) (contract : Contract) (start finish : String) (count : Int32)
      (whatToShow : String) (regularHours ignoreSize : Bool) (options : List TagValue)
  | realTimeBars (id : Int32) (contract : Contract) (barSize : Int32) (whatToShow : String)
      (regularHours : Bool) (options : List TagValue)
  | cancelRealTimeBars (id : Int32)
  -- scans
  | scannerParameters
  | scannerSubscription (id : Int32) (subscription : ScannerSubscription)
      (filterOptions options : List TagValue)
  | cancelScannerSubscription (id : Int32)
  -- the value of options
  | impliedVolatility (id : Int32) (contract : Contract) (premium underPrice : Binary64)
      (options : List TagValue)
  | optionPrice (id : Int32) (contract : Contract) (volatility underPrice : Binary64)
      (options : List TagValue)
  | cancelImpliedVolatility (id : Int32)
  | cancelOptionPrice (id : Int32)
  -- fundamentals
  | fundamentalData (id : Int32) (contract : Contract) (reportType : String)
      (options : List TagValue)
  | cancelFundamentalData (id : Int32)
  -- news
  | newsBulletins (all : Bool)
  | cancelNewsBulletins
  | newsProviders
  | newsArticle (id : Int32) (providerCode articleId : String) (options : List TagValue)
  | historicalNews (id contractId : Int32) (providerCodes start finish : String) (count : Int32)
      (options : List TagValue)
  -- financial advisors
  | advisorDocument (document : AdvisorDocument)
  | replaceAdvisorDocument (id : Int32) (document : AdvisorDocument) (content : String)
  -- display groups
  | displayGroups (id : Int32)
  | subscribeToGroup (id groupId : Int32)
  | updateDisplayGroup (id : Int32) (contractInfo : String)
  | unsubscribeFromGroup (id : Int32)
  -- verification
  | verify (program programVersion : String)
  | verifyMessage (data : String)
  | verifyAndAuth (program programVersion vendorKey : String)
  | verifyAndAuthMessage (data response : String)

namespace Request

/-- The first field of a request. -/
def code : Request → Int32
  | .startApi .. => 71
  | .currentTime => 49
  | .serverLogLevel .. => 14
  | .ids .. => 8
  | .marketData .. => 1
  | .cancelMarketData .. => 2
  | .marketDepth .. => 10
  | .cancelMarketDepth .. => 11
  | .marketDataType .. => 59
  | .tickByTick .. => 97
  | .cancelTickByTick .. => 98
  | .smartComponents .. => 83
  | .depthExchanges => 82
  | .placeOrder .. => 3
  | .cancelOrder .. => 4
  | .openOrders => 5
  | .autoOpenOrders .. => 15
  | .allOpenOrders => 16
  | .globalCancel => 58
  | .completedOrders .. => 99
  | .exerciseOptions .. => 21
  | .executions .. => 7
  | .accountUpdates .. => 6
  | .accountSummary .. => 62
  | .cancelAccountSummary .. => 63
  | .accountUpdatesMulti .. => 76
  | .cancelAccountUpdatesMulti .. => 77
  | .positions => 61
  | .cancelPositions => 64
  | .positionsMulti .. => 74
  | .cancelPositionsMulti .. => 75
  | .profitAndLoss .. => 92
  | .cancelProfitAndLoss .. => 93
  | .profitAndLossSingle .. => 94
  | .cancelProfitAndLossSingle .. => 95
  | .managedAccounts => 17
  | .familyCodes => 80
  | .softDollarTiers .. => 79
  | .contractDetails .. => 9
  | .matchingSymbols .. => 81
  | .optionParameters .. => 78
  | .marketRule .. => 91
  | .historicalData .. => 20
  | .cancelHistoricalData .. => 25
  | .headTimestamp .. => 87
  | .cancelHeadTimestamp .. => 90
  | .histogram .. => 88
  | .cancelHistogram .. => 89
  | .historicalTicks .. => 96
  | .realTimeBars .. => 50
  | .cancelRealTimeBars .. => 51
  | .scannerParameters => 24
  | .scannerSubscription .. => 22
  | .cancelScannerSubscription .. => 23
  | .impliedVolatility .. => 54
  | .optionPrice .. => 55
  | .cancelImpliedVolatility .. => 56
  | .cancelOptionPrice .. => 57
  | .fundamentalData .. => 52
  | .cancelFundamentalData .. => 53
  | .newsBulletins .. => 12
  | .cancelNewsBulletins => 13
  | .newsProviders => 85
  | .newsArticle .. => 84
  | .historicalNews .. => 86
  | .advisorDocument .. => 18
  | .replaceAdvisorDocument .. => 19
  | .displayGroups .. => 67
  | .subscribeToGroup .. => 68
  | .updateDisplayGroup .. => 69
  | .unsubscribeFromGroup .. => 70
  | .verify .. => 65
  | .verifyMessage .. => 66
  | .verifyAndAuth .. => 72
  | .verifyAndAuthMessage .. => 73

/-- The number under which a request will be answered, or none. -/
def id : Request → Int32
  | .marketData id _ _ _ _ _ => id
  | .cancelMarketData id => id
  | .marketDepth id _ _ _ _ => id
  | .cancelMarketDepth id _ => id
  | .tickByTick id _ _ _ _ => id
  | .cancelTickByTick id => id
  | .smartComponents id _ => id
  | .placeOrder id _ _ => id
  | .cancelOrder id => id
  | .exerciseOptions id _ _ _ _ _ => id
  | .executions id _ => id
  | .accountSummary id _ _ => id
  | .cancelAccountSummary id => id
  | .accountUpdatesMulti id _ _ _ => id
  | .cancelAccountUpdatesMulti id => id
  | .positionsMulti id _ _ => id
  | .cancelPositionsMulti id => id
  | .profitAndLoss id _ _ => id
  | .cancelProfitAndLoss id => id
  | .profitAndLossSingle id _ _ _ => id
  | .cancelProfitAndLossSingle id => id
  | .softDollarTiers id => id
  | .contractDetails id _ => id
  | .matchingSymbols id _ => id
  | .optionParameters id _ _ _ _ => id
  | .historicalData id _ _ => id
  | .cancelHistoricalData id => id
  | .headTimestamp id _ _ _ _ => id
  | .cancelHeadTimestamp id => id
  | .histogram id _ _ _ => id
  | .cancelHistogram id => id
  | .historicalTicks id _ _ _ _ _ _ _ _ => id
  | .realTimeBars id _ _ _ _ _ => id
  | .cancelRealTimeBars id => id
  | .scannerSubscription id _ _ _ => id
  | .cancelScannerSubscription id => id
  | .impliedVolatility id _ _ _ _ => id
  | .optionPrice id _ _ _ _ => id
  | .cancelImpliedVolatility id => id
  | .cancelOptionPrice id => id
  | .fundamentalData id _ _ _ => id
  | .cancelFundamentalData id => id
  | .newsArticle id _ _ _ => id
  | .historicalNews id _ _ _ _ _ _ => id
  | .replaceAdvisorDocument id _ _ => id
  | .displayGroups id => id
  | .subscribeToGroup id _ => id
  | .updateDisplayGroup id _ => id
  | .unsubscribeFromGroup id => id
  | _ => noId

/-- The id that is named when a requirement is not met. -/
def subject : Request → Int32
  | .marketData id _ _ _ _ _ => id
  | .marketDepth id _ _ _ _ => id
  | .cancelMarketDepth id _ => id
  | .placeOrder id _ _ => id
  | .exerciseOptions id _ _ _ _ _ => id
  | .contractDetails id _ => id
  | .historicalData id _ _ => id
  | .realTimeBars id _ _ _ _ _ => id
  | .scannerSubscription id _ _ _ => id
  | .impliedVolatility id _ _ _ _ => id
  | .optionPrice id _ _ _ _ => id
  | .cancelImpliedVolatility id => id
  | .cancelOptionPrice id => id
  | .fundamentalData id _ _ _ => id
  | .cancelFundamentalData id => id
  | _ => noId

/-- The features that a request requires, in the order in which they are checked. -/
def requirements : Request → List Requirement
  | .marketData _ contract _ _ _ _ =>
    [{ since := Since.deltaNeutral
       feature := "delta-neutral orders"
       used := contract.deltaNeutral.isSome },
     { since := Since.marketDataByContractId
       feature := "conId parameter"
       used := decide (0 < contract.contractId) },
     { since := Since.tradingClass
       feature := "tradingClass parameter in reqMktData"
       used := !contract.tradingClass.isEmpty }]
  | .marketDepth _ contract _ isSmartDepth _ =>
    [{ since := Since.tradingClass
       feature := "conId and tradingClass parameters in reqMktDepth"
       used := contract.namesClassOrId },
     { since := Since.smartDepth, feature := "SMART depth request", used := isSmartDepth },
     { since := Since.depthPrimaryExchange
       feature := "primaryExchange parameter in reqMktDepth"
       used := !contract.primaryExchange.isEmpty }]
  | .cancelMarketDepth _ isSmartDepth =>
    [{ since := Since.smartDepth, feature := "SMART depth cancel", used := isSmartDepth }]
  | .marketDataType .. =>
    [{ since := Since.marketDataType, feature := "market data type requests" }]
  | .tickByTick _ _ _ count ignoreSize =>
    [{ since := Since.tickByTick, feature := "tick-by-tick data requests" },
     { since := Since.tickByTickIgnoreSize
       feature := "ignoreSize and numberOfTicks parameters in tick-by-tick data requests"
       used := count != 0 || ignoreSize }]
  | .cancelTickByTick .. =>
    [{ since := Since.tickByTick, feature := "tick-by-tick data cancels" }]
  | .smartComponents .. =>
    [{ since := Since.smartComponents, feature := "smart components request" }]
  | .depthExchanges =>
    [{ since := Since.depthExchanges, feature := "market depth exchanges request" }]
  | .placeOrder _ contract order =>
    OrderGate.all.map (OrderGate.toRequirement contract order)
  | .globalCancel =>
    [{ since := Since.globalCancel, feature := "globalCancel requests" }]
  | .completedOrders .. =>
    [{ since := Since.completedOrders, feature := "completed orders requests" }]
  | .exerciseOptions _ contract _ _ _ _ =>
    [{ since := Since.tradingClass
       feature := "conId, multiplier, tradingClass parameter in exerciseOptions"
       used := contract.namesClassOrId }]
  | .accountSummary .. =>
    [{ since := Since.accountSummary, feature := "account summary requests" }]
  | .cancelAccountSummary .. =>
    [{ since := Since.accountSummary, feature := "account summary cancellation" }]
  | .accountUpdatesMulti .. =>
    [{ since := Since.models, feature := "account updates multi requests" }]
  | .cancelAccountUpdatesMulti .. =>
    [{ since := Since.models, feature := "cancel account updates multi request" }]
  | .positions =>
    [{ since := Since.positions, feature := "positions request" }]
  | .cancelPositions =>
    [{ since := Since.positions, feature := "positions cancellation" }]
  | .positionsMulti .. =>
    [{ since := Since.models, feature := "positions multi request" }]
  | .cancelPositionsMulti .. =>
    [{ since := Since.models, feature := "cancel positions multi request" }]
  | .profitAndLoss .. =>
    [{ since := Since.profitAndLoss, feature := "PnL request" }]
  | .cancelProfitAndLoss .. =>
    [{ since := Since.profitAndLoss, feature := "PnL request" }]
  | .profitAndLossSingle .. =>
    [{ since := Since.profitAndLoss, feature := "PnL request" }]
  | .cancelProfitAndLossSingle .. =>
    [{ since := Since.profitAndLoss, feature := "PnL request" }]
  | .familyCodes =>
    [{ since := Since.familyCodes, feature := "family codes request" }]
  | .softDollarTiers .. =>
    [{ since := Since.softDollarTiers, feature := "soft dollar tier request" }]
  | .contractDetails _ contract =>
    [{ since := Since.securityIds
       feature := "secIdType and secId parameters"
       used := !contract.secIdType.isEmpty || !contract.secId.isEmpty },
     { since := Since.tradingClass
       feature := "tradingClass parameter in reqContractDetails"
       used := !contract.tradingClass.isEmpty },
     { since := Since.linking
       feature := "primaryExchange parameter in reqContractDetails"
       used := !contract.primaryExchange.isEmpty }]
  | .matchingSymbols .. =>
    [{ since := Since.matchingSymbols, feature := "matching symbols request" }]
  | .optionParameters .. =>
    [{ since := Since.optionParameters, feature := "security definition option request" }]
  | .marketRule .. =>
    [{ since := Since.marketRules, feature := "market rule requests" }]
  | .historicalData _ contract query =>
    [{ since := Since.tradingClass
       feature := "conId and tradingClass parameters in reqHistoricalData"
       used := contract.namesClassOrId },
     { since := Since.syntheticBars
       feature := "keepUpToDate parameter in reqHistoricalData"
       used := query.keepUpToDate }]
  | .headTimestamp .. =>
    [{ since := Since.headTimestamp, feature := "head time stamp requests" }]
  | .cancelHeadTimestamp .. =>
    [{ since := Since.cancelHeadTimestamp, feature := "head time stamp requests" }]
  | .histogram .. =>
    [{ since := Since.histograms, feature := "histogram requests" }]
  | .cancelHistogram .. =>
    [{ since := Since.histograms, feature := "histogram requests" }]
  | .historicalTicks .. =>
    [{ since := Since.historicalTicks, feature := "historical ticks requests" }]
  | .realTimeBars _ contract _ _ _ _ =>
    [{ since := Since.tradingClass
       feature := "conId and tradingClass parameter in reqRealTimeBars"
       used := contract.namesClassOrId }]
  | .scannerSubscription _ _ filterOptions _ =>
    [{ since := Since.genericScannerFilters
       feature := "API scanner subscription generic filter options"
       used := !filterOptions.isEmpty }]
  | .impliedVolatility _ contract _ _ _ =>
    [{ since := Since.impliedVolatility, feature := "calculateImpliedVolatility req" },
     { since := Since.tradingClass
       feature := "tradingClass parameter in calculateImpliedVolatility"
       used := !contract.tradingClass.isEmpty }]
  | .optionPrice _ contract _ _ _ =>
    [{ since := Since.optionPrice, feature := "calculateOptionPrice req" },
     { since := Since.tradingClass
       feature := "tradingClass parameter in calculateOptionPrice"
       used := !contract.tradingClass.isEmpty }]
  | .cancelImpliedVolatility .. =>
    [{ since := Since.cancelImpliedVolatility, feature := "calculateImpliedVolatility req" }]
  | .cancelOptionPrice .. =>
    [{ since := Since.cancelOptionPrice, feature := "calculateOptionPrice req" }]
  | .fundamentalData _ contract _ _ =>
    [{ since := Since.fundamentalData, feature := "fundamental data request" },
     { since := Since.tradingClass
       feature := "conId parameter in reqFundamentalData"
       used := decide (0 < contract.contractId) }]
  | .cancelFundamentalData .. =>
    [{ since := Since.fundamentalData, feature := "fundamental data request" }]
  | .newsProviders =>
    [{ since := Since.newsProviders, feature := "news providers request" }]
  | .newsArticle .. =>
    [{ since := Since.newsArticles, feature := "news article request" }]
  | .historicalNews .. =>
    [{ since := Since.historicalNews, feature := "historical news request" }]
  | .displayGroups .. =>
    [{ since := Since.linking, feature := "queryDisplayGroups request" }]
  | .subscribeToGroup .. =>
    [{ since := Since.linking, feature := "subscribeToGroupEvents request" }]
  | .updateDisplayGroup .. =>
    [{ since := Since.linking, feature := "updateDisplayGroup request" }]
  | .unsubscribeFromGroup .. =>
    [{ since := Since.linking, feature := "unsubscribeFromGroupEvents request" }]
  | .verify .. =>
    [{ since := Since.linking, feature := "verification request" }]
  | .verifyMessage .. =>
    [{ since := Since.linking, feature := "verification message sending" }]
  | .verifyAndAuth .. =>
    [{ since := Since.linkingWithKey, feature := "verification and authentication request" }]
  | .verifyAndAuthMessage .. =>
    [{ since := Since.linkingWithKey, feature := "verification and authentication message" }]
  | _ => []

/-- The fields of a request after its code. -/
def body (version : Version) : Request → Fields
  | .startApi clientId optionalCapabilities =>
    ["2", fieldText clientId]
      ++ ifSupported (version.supports Since.optionalCapabilities) [optionalCapabilities]
  | .currentTime => ["1"]
  | .serverLogLevel level => ["1", fieldText level]
  | .ids count => ["1", fieldText count]
  | .marketData id contract genericTicks snapshot regulatorySnapshot options =>
    ["11", fieldText id]
      ++ contract.fields
        { contractId := version.supports Since.marketDataByContractId
          primaryExchange := true
          tradingClass := version.supports Since.tradingClass }
      ++ contract.briefLegs
      ++ ifSupported (version.supports Since.deltaNeutral) contract.deltaNeutralFields
      ++ [genericTicks, fieldText snapshot]
      ++ ifSupported (version.supports Since.smartComponents) [fieldText regulatorySnapshot]
      ++ ifSupported (version.supports Since.linking) [TagValue.joined options]
  | .cancelMarketData id => ["2", fieldText id]
  | .marketDepth id contract rows isSmartDepth options =>
    ["5", fieldText id]
      ++ contract.fields
        { contractId := version.supports Since.tradingClass
          primaryExchange := version.supports Since.depthPrimaryExchange
          tradingClass := version.supports Since.tradingClass }
      ++ [fieldText rows]
      ++ ifSupported (version.supports Since.smartDepth) [fieldText isSmartDepth]
      ++ ifSupported (version.supports Since.linking) [TagValue.joined options]
  | .cancelMarketDepth id isSmartDepth =>
    ["1", fieldText id]
      ++ ifSupported (version.supports Since.smartDepth) [fieldText isSmartDepth]
  | .marketDataType type => ["1", fieldText type]
  | .tickByTick id contract tickType count ignoreSize =>
    [fieldText id]
      ++ contract.fields { primaryExchange := true }
      ++ [tickType]
      ++ ifSupported (version.supports Since.tickByTickIgnoreSize)
        [fieldText count, fieldText ignoreSize]
  | .cancelTickByTick id => [fieldText id]
  | .smartComponents id bboExchange => [fieldText id, bboExchange]
  | .depthExchanges => []
  | .placeOrder id contract order => Order.placeFields version id contract order
  | .cancelOrder id => ["1", fieldText id]
  | .openOrders => ["1"]
  | .autoOpenOrders autoBind => ["1", fieldText autoBind]
  | .allOpenOrders => ["1"]
  | .globalCancel => ["1"]
  | .completedOrders apiOnly => [fieldText apiOnly]
  | .exerciseOptions id contract action quantity account overrideDefaults =>
    ["2", fieldText id]
      ++ contract.fields
        { contractId := version.supports Since.tradingClass
          tradingClass := version.supports Since.tradingClass }
      ++ [fieldText action, fieldText quantity, account, fieldText overrideDefaults]
  | .executions id filter =>
    ["3"]
      ++ ifSupported (version.supports Since.executionDataChain) [fieldText id]
      ++ filter.fields
  | .accountUpdates subscribe account => ["2", fieldText subscribe, account]
  | .accountSummary id group tags => ["1", fieldText id, group, tags]
  | .cancelAccountSummary id => ["1", fieldText id]
  | .accountUpdatesMulti id account modelCode ledgerAndValue =>
    ["1", fieldText id, account, modelCode, fieldText ledgerAndValue]
  | .cancelAccountUpdatesMulti id => ["1", fieldText id]
  | .positions => ["1"]
  | .cancelPositions => ["1"]
  | .positionsMulti id account modelCode => ["1", fieldText id, account, modelCode]
  | .cancelPositionsMulti id => ["1", fieldText id]
  | .profitAndLoss id account modelCode => [fieldText id, account, modelCode]
  | .cancelProfitAndLoss id => [fieldText id]
  | .profitAndLossSingle id account modelCode contractId =>
    [fieldText id, account, modelCode, fieldText contractId]
  | .cancelProfitAndLossSingle id => [fieldText id]
  | .managedAccounts => ["1"]
  | .familyCodes => []
  | .softDollarTiers id => [fieldText id]
  | .contractDetails id contract =>
    ["8"]
      ++ ifSupported (version.supports Since.contractDataChain) [fieldText id]
      ++ contract.lookupFields version
  | .matchingSymbols id pattern => [fieldText id, pattern]
  | .optionParameters id underlyingSymbol exchange underlyingSecType underlyingContractId =>
    [fieldText id, underlyingSymbol, exchange, underlyingSecType, fieldText underlyingContractId]
  | .marketRule ruleId => [fieldText ruleId]
  | .historicalData id contract query => query.fields version id contract
  | .cancelHistoricalData id => ["1", fieldText id]
  | .headTimestamp id contract whatToShow regularHours dateFormat =>
    [fieldText id]
      ++ contract.wholeFields
      ++ [fieldText regularHours, whatToShow, fieldText dateFormat]
  | .cancelHeadTimestamp id => [fieldText id]
  | .histogram id contract regularHours period =>
    [fieldText id] ++ contract.wholeFields ++ [fieldText regularHours, period]
  | .cancelHistogram id => [fieldText id]
  | .historicalTicks id contract start finish count whatToShow regularHours ignoreSize options =>
    [fieldText id]
      ++ contract.wholeFields
      ++ [start, finish, fieldText count, whatToShow, fieldText regularHours,
        fieldText ignoreSize, TagValue.joined options]
  | .realTimeBars id contract barSize whatToShow regularHours options =>
    ["3", fieldText id]
      ++ contract.fields
        { contractId := version.supports Since.tradingClass
          primaryExchange := true
          tradingClass := version.supports Since.tradingClass }
      ++ [fieldText barSize, whatToShow, fieldText regularHours]
      ++ ifSupported (version.supports Since.linking) [TagValue.joined options]
  | .cancelRealTimeBars id => ["1", fieldText id]
  | .scannerParameters => ["1"]
  | .scannerSubscription id subscription filterOptions options =>
    ifSupported (!version.supports Since.genericScannerFilters) ["4"]
      ++ [fieldText id]
      ++ subscription.fields
      ++ ifSupported (version.supports Since.genericScannerFilters)
        [TagValue.joined filterOptions]
      ++ ifSupported (version.supports Since.linking) [TagValue.joined options]
  | .cancelScannerSubscription id => ["1", fieldText id]
  | .impliedVolatility id contract premium underPrice options =>
    optionCalculation version id contract premium underPrice options
  | .optionPrice id contract volatility underPrice options =>
    optionCalculation version id contract volatility underPrice options
  | .cancelImpliedVolatility id => ["1", fieldText id]
  | .cancelOptionPrice id => ["1", fieldText id]
  | .fundamentalData id contract reportType options =>
    ["2", fieldText id]
      ++ ifSupported (version.supports Since.tradingClass) [fieldText contract.contractId]
      ++ [contract.symbol, fieldText contract.secType, contract.exchange,
        contract.primaryExchange, contract.currency, contract.localSymbol, reportType]
      ++ countedOptions version options
  | .cancelFundamentalData id => ["1", fieldText id]
  | .newsBulletins all => ["1", fieldText all]
  | .cancelNewsBulletins => ["1"]
  | .newsProviders => []
  | .newsArticle id providerCode articleId options =>
    [fieldText id, providerCode, articleId]
      ++ ifSupported (version.supports Since.newsQueryOrigins) [TagValue.joined options]
  | .historicalNews id contractId providerCodes start finish count options =>
    [fieldText id, fieldText contractId, providerCodes, start, finish, fieldText count]
      ++ ifSupported (version.supports Since.newsQueryOrigins) [TagValue.joined options]
  | .advisorDocument document => ["1", fieldText document]
  | .replaceAdvisorDocument id document content =>
    ["1", fieldText document, content]
      ++ ifSupported (version.supports Since.advisorReplacementEnd) [fieldText id]
  | .displayGroups id => ["1", fieldText id]
  | .subscribeToGroup id groupId => ["1", fieldText id, fieldText groupId]
  | .updateDisplayGroup id contractInfo => ["1", fieldText id, contractInfo]
  | .unsubscribeFromGroup id => ["1", fieldText id]
  | .verify program programVersion => ["1", program, programVersion]
  | .verifyMessage data => ["1", data]
  | .verifyAndAuth program programVersion vendorKey => ["1", program, programVersion, vendorKey]
  | .verifyAndAuthMessage data response => ["1", data, response]

/-- The fields of a request. -/
def fields (version : Version) (r : Request) : Fields := fieldText r.code :: r.body version

/-- The first feature that a request requires and a server lacks. -/
def firstUnmet (version : Version) (r : Request) : Option Requirement :=
  Requirement.firstUnmet version r.requirements

/-- The frame of a request, unless the server lacks a feature or the fields make no frame. -/
def frame (version : Version) (r : Request) : Except LinkError Frame :=
  match r.firstUnmet version with
  | some unmet => .error (.unsupported r.subject unmet.feature)
  | none => (Frame.ofFields (r.fields version)).mapError .encoding

end Request
end BrokerLink
