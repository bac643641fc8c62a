import BrokerLink.Field.Text

/-!
# Kinds of record

The first field of a record is the number of its kind. A number that is not in this
table is of a kind the client does not know, whose records are passed over.
-/

namespace BrokerLink

/-- The kinds of record that are known. -/
inductive RecordKind where
  | tickPrice
  | tickSize
  | orderStatus
  | error
  | openOrder
  | accountValue
  | portfolioValue
  | accountUpdateTime
  | nextValidId
  | contractData
  | executionData
  | marketDepth
  | marketDepthL2
  | newsBulletins
  | managedAccounts
  | advisorDocument
  | historicalData
  | bondContractData
  | scannerParameters
  | scannerData
  | tickOptionComputation
  | tickGeneric
  | tickString
  | tickEfp
  | currentTime
  | realTimeBars
  | fundamentalData
  | contractDataEnd
  | openOrderEnd
  | accountDownloadEnd
  | executionDataEnd
  | deltaNeutralValidation
  | tickSnapshotEnd
  | marketDataType
  | commissionReport
  | positionData
  | positionEnd
  | accountSummary
  | accountSummaryEnd
  | verifyMessage
  | verifyCompleted
  | displayGroupList
  | displayGroupUpdated
  | verifyAndAuthMessage
  | verifyAndAuthCompleted
  | positionMulti
  | positionMultiEnd
  | accountUpdateMulti
  | accountUpdateMultiEnd
  | optionChain
  | optionChainEnd
  | softDollarTiers
  | familyCodes
  | symbolSamples
  | marketDepthExchanges
  | tickRequestParams
  | smartComponents
  | newsArticle
  | tickNews
  | newsProviders
  | historicalNews
  | historicalNewsEnd
  | headTimestamp
  | histogramData
  | historicalDataUpdate
  | rerouteMarketData
  | rerouteMarketDepth
  | marketRule
  | profitAndLoss
  | profitAndLossSingle
  | historicalTicks
  | historicalTicksBidAsk
  | historicalTicksLast
  | tickByTick
  | orderBound
  | completedOrder
  | completedOrdersEnd
  | advisorReplacementEnd
  deriving DecidableEq, Repr

namespace RecordKind

def all : List RecordKind :=
  [.tickPrice, .tickSize, .orderStatus, .error, .openOrder, .accountValue, .portfolioValue,
    .accountUpdateTime, .nextValidId, .contractData, .executionData, .marketDepth,
    .marketDepthL2, .newsBulletins, .managedAccounts, .advisorDocument, .historicalData,
    .bondContractData, .scannerParameters, .scannerData, .tickOptionComputation, .tickGeneric,
    .tickString, .tickEfp, .currentTime, .realTimeBars, .fundamentalData, .contractDataEnd,
    .openOrderEnd, .accountDownloadEnd, .executionDataEnd, .deltaNeutralValidation,
    .tickSnapshotEnd, .marketDataType, .commissionReport, .positionData, .positionEnd,
    .accountSummary, .accountSummaryEnd, .verifyMessage, .verifyCompleted, .displayGroupList,
    .displayGroupUpdated, .verifyAndAuthMessage, .verifyAndAuthCompleted, .positionMulti,
    .positionMultiEnd, .accountUpdateMulti, .accountUpdateMultiEnd, .optionChain,
    .optionChainEnd, .softDollarTiers, .familyCodes, .symbolSamples, .marketDepthExchanges,
    .tickRequestParams, .smartComponents, .newsArticle, .tickNews, .newsProviders,
    .historicalNews, .historicalNewsEnd, .headTimestamp, .histogramData, .historicalDataUpdate,
    .rerouteMarketData, .rerouteMarketDepth, .marketRule, .profitAndLoss, .profitAndLossSingle,
    .historicalTicks, .historicalTicksBidAsk, .historicalTicksLast, .tickByTick, .orderBound,
    .completedOrder, .completedOrdersEnd, .advisorReplacementEnd]

def code : RecordKind → Int32
  | tickPrice => 1
  | tickSize => 2
  | orderStatus => 3
  | error => 4
  | openOrder => 5
  | accountValue => 6
  | portfolioValue => 7
  | accountUpdateTime => 8
  | nextValidId => 9
  | contractData => 10
  | executionData => 11
  | marketDepth => 12
  | marketDepthL2 => 13
  | newsBulletins => 14
  | managedAccounts => 15
  | advisorDocument => 16
  | historicalData => 17
  | bondContractData => 18
  | scannerParameters => 19
  | scannerData => 20
  | tickOptionComputation => 21
  | tickGeneric => 45
  | tickString => 46
  | tickEfp => 47
  | currentTime => 49
  | realTimeBars => 50
  | fundamentalData => 51
  | contractDataEnd => 52
  | openOrderEnd => 53
  | accountDownloadEnd => 54
  | executionDataEnd => 55
  | deltaNeutralValidation => 56
  | tickSnapshotEnd => 57
  | marketDataType => 58
  | commissionReport => 59
  | positionData => 61
  | positionEnd => 62
  | accountSummary => 63
  | accountSummaryEnd => 64
  | verifyMessage => 65
  | verifyCompleted => 66
  | displayGroupList => 67
  | displayGroupUpdated => 68
  | verifyAndAuthMessage => 69
  | verifyAndAuthCompleted => 70
  | positionMulti => 71
  | positionMultiEnd => 72
  | accountUpdateMulti => 73
  | accountUpdateMultiEnd => 74
  | optionChain => 75
  | optionChainEnd => 76
  | softDollarTiers => 77
  | familyCodes => 78
  | symbolSamples => 79
  | marketDepthExchanges => 80
  | tickRequestParams => 81
  | smartComponents => 82
  | newsArticle => 83
  | tickNews => 84
  | newsProviders => 85
  | historicalNews => 86
  | historicalNewsEnd => 87
  | headTimestamp => 88
  | histogramData => 89
  | historicalDataUpdate => 90
  | rerouteMarketData => 91
  | rerouteMarketDepth => 92
  | marketRule => 93
  | profitAndLoss => 94
  | profitAndLossSingle => 95
  | historicalTicks => 96
  | historicalTicksBidAsk => 97
  | historicalTicksLast => 98
  | tickByTick => 99
  | orderBound => 100
  | completedOrder => 101
  | completedOrdersEnd => 102
  | advisorReplacementEnd => 103

/-- The kind with a number. -/
def ofCode? (n : Int32) : Option RecordKind := all.find? fun k => k.code == n

theorem mem_all (k : RecordKind) : k ∈ all := by cases k <;> decide

theorem ofCode?_code (k : RecordKind) : ofCode? k.code = some k := by cases k <;> rfl

theorem code_of_ofCode? {n : Int32} {k : RecordKind} (h : ofCode? n = some k) : k.code = n := by
  simpa using List.find?_some h

end RecordKind
end BrokerLink
