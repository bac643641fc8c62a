import BrokerLink.Record.Contract

/-!
# Records of executions

Fills and what they cost.
-/

namespace BrokerLink
namespace Record

open Reader

/-- A fill of the order with an id. -/
def execution (version : Version) (layout : Int) (orderId : Int32) : Reader Execution := do
  let execId ← string
  let time ← string
  let account ← string
  let exchange ← string
  let side ← string
  let shares ← decimal
  let price ← float
  let permanentId ← since (2 ≤ layout) 0 int64
  let clientId ← since (3 ≤ layout) 0 int32
  let liquidation ← since (4 ≤ layout) 0 int32
  let cumulativeQuantity ← since (6 ≤ layout) Decimal.zero decimal
  let averagePrice ← since (6 ≤ layout) Binary64.zero float
  let orderRef ← since (8 ≤ layout) "" string
  let evRule ← since (9 ≤ layout) "" string
  let evMultiplier ← since (9 ≤ layout) none float?
  let modelCode ← since (version.supports Since.models) "" string
  let lastLiquidity ← since (version.supports Since.lastLiquidity) 0 int32
  return { execId, time, account, exchange, side, shares, price, permanentId, clientId, orderId,
           liquidation, cumulativeQuantity, averagePrice, orderRef, evRule, evMultiplier,
           modelCode, lastLiquidity }

def executionData (version : Version) : Reader Event := do
  let layout ← layoutBefore version Since.lastLiquidity version
  let id ← since (7 ≤ layout) noId int32
  let orderId ← int32
  let contract ← contract
    { contractId := 5 ≤ layout, multiplier := 9 ≤ layout, tradingClass := 10 ≤ layout }
  let execution ← execution version layout orderId
  return .execDetails id contract execution

def executionDataEnd : Reader Event := do
  let id ← skipThenId
  return .execDetailsEnd id

def commissionReport : Reader Event := do
  skip
  let execId ← string
  let commission ← float
  let currency ← string
  let realizedPnl ← float?
  let yieldRate ← float?
  let yieldRedemptionDate ← int32
  return .commissionReport
    { execId, commission, currency, realizedPnl, yieldRate, yieldRedemptionDate }

end Record
end BrokerLink
