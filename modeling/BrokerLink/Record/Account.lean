import BrokerLink.Record.Contract
import BrokerLink.Record.Order.Section

/-!
# Records of accounts

Values, positions, and profit and loss.
-/

namespace BrokerLink
namespace Record

open Reader

def accountValue : Reader Event := do
  let layout ← layout
  let key ← string
  let value ← string
  let currency ← string
  let accountName ← since (2 ≤ layout) "" string
  return .updateAccountValue key value currency accountName

def portfolioValue : Reader Event := do
  let layout ← layout
  let contract ← contract
    { contractId := 6 ≤ layout, multiplier := 7 ≤ layout, exchange := false,
      primaryExchange := 7 ≤ layout, localSymbol := 2 ≤ layout, tradingClass := 8 ≤ layout }
  let position ← decimal
  let marketPrice ← float
  let marketValue ← float
  let averageCost ← since (3 ≤ layout) Binary64.zero float
  let unrealizedPnl ← since (3 ≤ layout) Binary64.zero float
  let realizedPnl ← since (3 ≤ layout) Binary64.zero float
  let accountName ← since (4 ≤ layout) "" string
  return .updatePortfolio
    { contract, position, marketPrice, marketValue, averageCost, unrealizedPnl, realizedPnl,
      accountName }

def accountUpdateTime : Reader Event := do
  skip
  let time ← string
  return .updateAccountTime time

def accountDownloadEnd : Reader Event := do
  skip
  let account ← string
  return .accountDownloadEnd account

def accountSummary : Reader Event := do
  let id ← skipThenId
  let account ← string
  let tag ← string
  let value ← string
  let currency ← string
  return .accountSummary id account tag value currency

def accountSummaryEnd : Reader Event := do
  let id ← skipThenId
  return .accountSummaryEnd id

def positionData : Reader Event := do
  let layout ← layout
  let account ← string
  let contract ← contract { tradingClass := 2 ≤ layout }
  let position ← decimal
  let averageCost ← since (3 ≤ layout) Binary64.zero float
  return .position account contract position averageCost

def positionEnd : Reader Event := do
  skip
  return .positionEnd

def positionMulti : Reader Event := do
  let id ← skipThenId
  let account ← string
  let contract ← contract {}
  let position ← decimal
  let averageCost ← float
  let modelCode ← string
  return .positionMulti id account modelCode contract position averageCost

def positionMultiEnd : Reader Event := do
  let id ← skipThenId
  return .positionMultiEnd id

def accountUpdateMulti : Reader Event := do
  let id ← skipThenId
  let account ← string
  let modelCode ← string
  let key ← string
  let value ← string
  let currency ← string
  return .accountUpdateMulti id account modelCode key value currency

def accountUpdateMultiEnd : Reader Event := do
  let id ← skipThenId
  return .accountUpdateMultiEnd id

def profitAndLoss (version : Version) : Reader Event := do
  let id ← int32
  let daily ← float
  let unrealized ← since (version.supports Since.unrealizedProfit) none float?
  let realized ← since (version.supports Since.realizedProfit) none float?
  return .pnl id daily unrealized realized

def profitAndLossSingle (version : Version) : Reader Event := do
  let id ← int32
  let position ← decimal
  let daily ← float
  let unrealized ← since (version.supports Since.unrealizedProfit) none float?
  let realized ← since (version.supports Since.realizedProfit) none float?
  let value ← float
  return .pnlSingle id position daily unrealized realized value

def familyCode : Reader FamilyCode := do
  let accountId ← string
  let familyCode ← string
  return { accountId, familyCode }

def familyCodes : Reader Event := do
  let codes ← list familyCode
  return .familyCodes codes

def softDollarTiers : Reader Event := do
  let id ← int32
  let tiers ← list softDollarTier
  return .softDollarTiers id tiers

end Record
end BrokerLink
