import BrokerLink.Record.Part

/-!
# Records of scans

The rows of a market scan make one event each, and one that ends them. The documents
on scans and on fundamentals are passed on as they are.
-/

namespace BrokerLink
namespace Record

open Reader

def scannerParameters : Reader Event := do
  skip
  let document ← string
  return .scannerParameters document

def scannerRow (layout : Int) : Reader ScannerRow := do
  let rank ← int32
  let contractId ← since (3 ≤ layout) 0 int32
  let symbol ← string
  let secType ← word?
  let lastTradeDate ← string
  let strike ← float?
  let right ← word?
  let exchange ← string
  let currency ← string
  let localSymbol ← string
  let marketName ← string
  let tradingClass ← string
  let distance ← string
  let benchmark ← string
  let projection ← string
  let legs ← since (2 ≤ layout) "" string
  return { rank
           details :=
             { contract := { contractId, symbol, secType, lastTradeDate, strike, right, exchange,
                             currency, localSymbol, tradingClass }
               marketName }
           distance, benchmark, projection, legs }

def scannerData : Reader (List Event) := do
  let layout ← layout
  let id ← int32
  let rows ← list (scannerRow layout)
  return rows.map (Event.scannerData id) ++ [.scannerDataEnd id]

def fundamentalData : Reader Event := do
  let id ← skipThenId
  let data ← string
  return .fundamentalData id data

end Record
end BrokerLink
