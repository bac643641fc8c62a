/-!
# Server versions

Client and server agree on a version number when they connect. Records and
requests gained fields over time; each such change is named here with the first
version that has it. A server has a feature exactly if its version is at least
that number.
-/

namespace BrokerLink

/-- The version that a server announced. -/
abbrev Version := Int

namespace Version

/-- The oldest version this client offers. -/
def oldest : Version := 100

/-- The newest version this client speaks. -/
def newest : Version := 157

/-- Whether a server of this version has a feature introduced in version `since`. -/
def supports (version since : Version) : Bool := decide (since ≤ version)

@[simp] theorem supports_iff (version since : Version) :
    version.supports since = true ↔ since ≤ version := by
  simp [supports]

theorem supports_mono {version version' since : Version} (h : version ≤ version')
    (hs : version.supports since = true) : version'.supports since = true := by
  rw [supports_iff] at *
  exact Int.le_trans hs h

theorem supports_of_le {version since later : Version} (hs : version.supports later = true)
    (h : since ≤ later) : version.supports since = true := by
  rw [supports_iff] at *
  exact Int.le_trans h hs

end Version

/-! ### The first version of each feature -/

namespace Since

def scaleOrders : Version := 35
def shortSaleComboLegs : Version := 35
def whatIfOrders : Version := 36
def detailsByContractId : Version := 37
def clearingAccounts : Version := 39
def fundamentalData : Version := 40
def deltaNeutral : Version := 40
def contractDataChain : Version := 40
def scaleSubsequentLevels : Version := 40
def algoOrders : Version := 41
def executionDataChain : Version := 42
def notHeld : Version := 44
def securityIds : Version := 45
def orderByContractId : Version := 46
def marketDataByContractId : Version := 47
def impliedVolatility : Version := 49
def optionPrice : Version := 50
def cancelImpliedVolatility : Version := 50
def cancelOptionPrice : Version := 50
def oldExemptCode : Version := 51
def exemptCode : Version := 52
def globalCancel : Version := 53
def hedgeOrders : Version := 54
def marketDataType : Version := 55
def optOutSmartRouting : Version := 56
def smartComboRouting : Version := 57
def deltaNeutralContractId : Version := 58
def scaleExtension : Version := 60
def comboLegPrices : Version := 61
def trailingPercent : Version := 62
def deltaNeutralOpenClose : Version := 66
def positions : Version := 67
def accountSummary : Version := 67
def tradingClass : Version := 68
def scaleTable : Version := 69
def linking : Version := 70
def algoId : Version := 71
def optionalCapabilities : Version := 72
def solicitedOrders : Version := 73
def linkingWithKey : Version := 74
def primaryExchange : Version := 75
def randomizedOrders : Version := 76
def fractionalPositions : Version := 101
def benchmarkPegs : Version := 102
def models : Version := 103
def optionParameters : Version := 104
def externalOperator : Version := 105
def softDollarTiers : Version := 106
def familyCodes : Version := 107
def matchingSymbols : Version := 108
def pastLimit : Version := 109
def sizeMultiplier : Version := 110
def cashQuantity : Version := 111
def depthExchanges : Version := 112
def smartComponents : Version := 114
def newsProviders : Version := 115
def newsArticles : Version := 116
def historicalNews : Version := 117
def headTimestamp : Version := 118
def histograms : Version := 119
def serviceDataType : Version := 120
def aggregationGroup : Version := 121
def underlyingInfo : Version := 122
def cancelHeadTimestamp : Version := 123
def syntheticBars : Version := 124
def marketRules : Version := 126
def profitAndLoss : Version := 127
def newsQueryOrigins : Version := 128
def unrealizedProfit : Version := 129
def historicalTicks : Version := 130
def marketCapPrice : Version := 131
def preOpenQuotes : Version := 132
def realExpirationDate : Version := 134
def realizedProfit : Version := 135
def lastLiquidity : Version := 136
def tickByTick : Version := 137
def decisionMaker : Version := 138
def executionTrader : Version := 139
def tickByTickIgnoreSize : Version := 140
def hedgePriceOptOut : Version := 141
def whatIfChanges : Version := 142
def genericScannerFilters : Version := 143
def orderContainer : Version := 145
def smartDepth : Version := 146
def discretionaryPegs : Version := 148
def depthPrimaryExchange : Version := 149
def completedOrders : Version := 150
def priceManagement : Version := 151
def stockType : Version := 152
def priceBasedVolatility : Version := 156
def advisorReplacementEnd : Version := 157

end Since
end BrokerLink
