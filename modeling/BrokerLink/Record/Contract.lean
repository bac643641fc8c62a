import BrokerLink.Record.Part

/-!
# Contracts in records

Records of orders, fills and positions name a contract by the same fields in the same
order. They differ in which of them they carry.
-/

namespace BrokerLink

namespace Record

open Reader

def contract (carried : ContractLayout) : Reader Contract := do
  let contractId ← since carried.contractId 0 int32
  let symbol ← string
  let secType ← word?
  let lastTradeDate ← string
  let strike ← float?
  let right ← word?
  let multiplier ← since carried.multiplier "" string
  let exchange ← since carried.exchange "" string
  let primaryExchange ← since carried.primaryExchange "" string
  let currency ← string
  let localSymbol ← since carried.localSymbol "" string
  let tradingClass ← since carried.tradingClass "" string
  return { contractId, symbol, secType, lastTradeDate, strike, right, multiplier, exchange,
           primaryExchange, currency, localSymbol, tradingClass }

end Record
end BrokerLink
