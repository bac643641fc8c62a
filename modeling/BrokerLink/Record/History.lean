import BrokerLink.Record.Part

/-!
# Records of the past

Bars, ticks and histograms. A record of bars makes one event for each bar, in order,
and one that ends them.
-/

namespace BrokerLink
namespace Record

open Reader

/-- A bar. Older servers also say whether it has gaps, and in old layouts nothing counts the
trades. -/
def bar (version : Version) (layout : Int) : Reader Bar := do
  let time ← string
  let openPrice ← float
  let high ← float
  let low ← float
  let close ← float
  let volume ← decimal
  let wap ← decimal
  since (decide (version < Since.syntheticBars)) () skip
  let count ← since (3 ≤ layout) (-1) int32
  return { time, openPrice, high, low, close, volume, wap, count }

def historicalData (version : Version) : Reader (List Event) := do
  let layout ← layoutBefore version Since.syntheticBars newestLayout
  let id ← int32
  let first ← since (2 ≤ layout) "" string
  let last ← since (2 ≤ layout) "" string
  let bars ← list (bar version layout)
  return bars.map (Event.historicalData id) ++ [.historicalDataEnd id first last]

def historicalDataUpdate : Reader Event := do
  let id ← int32
  let count ← int32
  let time ← string
  let openPrice ← float
  let close ← float
  let high ← float
  let low ← float
  let wap ← decimal
  let volume ← decimal
  return .historicalDataUpdate id { time, openPrice, high, low, close, volume, wap, count }

def headTimestamp : Reader Event := do
  let id ← int32
  let time ← string
  return .headTimestamp id time

def histogramEntry : Reader HistogramEntry := do
  let price ← float
  let size ← decimal
  return { price, size }

def histogramData : Reader Event := do
  let id ← int32
  let entries ← list histogramEntry
  return .histogramData id entries

def historicalTick : Reader HistoricalTick := do
  let time ← int64
  skip
  let price ← float
  let size ← decimal
  return { time, price, size }

def historicalTicks : Reader Event := do
  let id ← int32
  let ticks ← list historicalTick
  let done ← bool
  return .historicalTicks id ticks done

def historicalQuote : Reader HistoricalQuote := do
  let time ← int64
  let mask ← int32
  let bidPrice ← float
  let askPrice ← float
  let bidSize ← decimal
  let askSize ← decimal
  return { time, attributes := .ofMask mask, bidPrice, askPrice, bidSize, askSize }

def historicalTicksBidAsk : Reader Event := do
  let id ← int32
  let quotes ← list historicalQuote
  let done ← bool
  return .historicalTicksBidAsk id quotes done

def historicalTrade : Reader HistoricalTrade := do
  let time ← int64
  let mask ← int32
  let price ← float
  let size ← decimal
  let exchange ← string
  let specialConditions ← string
  return { time, attributes := .ofMask mask, price, size, exchange, specialConditions }

def historicalTicksLast : Reader Event := do
  let id ← int32
  let trades ← list historicalTrade
  let done ← bool
  return .historicalTicksLast id trades done

def realTimeBar : Reader RealTimeBar := do
  let time ← int64
  let openPrice ← float
  let high ← float
  let low ← float
  let close ← float
  let volume ← decimal
  let wap ← decimal
  let count ← int32
  return { time, openPrice, high, low, close, volume, wap, count }

def realTimeBars : Reader Event := do
  let id ← skipThenId
  let bar ← realTimeBar
  return .realtimeBar id bar

end Record
end BrokerLink
