import BrokerLink.Instrument
import BrokerLink.MarketCode

/-!
# Market data

Bars, ticks with their attributes, market depth, histograms, and scans of the market.
-/

namespace BrokerLink

/-- Prices and volume over a span of time. -/
structure Bar where
  time : String := ""
  openPrice : Binary64 := .zero
  high : Binary64 := .zero
  low : Binary64 := .zero
  close : Binary64 := .zero
  volume : Decimal := .zero
  wap : Decimal := .zero
  count : Int32 := 0
  deriving DecidableEq, Inhabited

/-- A bar of five seconds, timed in seconds since 1970. -/
structure RealTimeBar where
  time : Int64
  openPrice : Binary64
  high : Binary64
  low : Binary64
  close : Binary64
  volume : Decimal
  wap : Decimal
  count : Int32
  deriving DecidableEq, Inhabited

/-- Whether a bit of a mask is set. -/
def maskBit (mask : Int32) (bit : Nat) : Bool := mask.toBitVec.getLsbD bit

/-- Attributes of a price tick. -/
structure TickAttributes where
  canAutoExecute : Bool := false
  pastLimit : Bool := false
  preOpen : Bool := false
  deriving DecidableEq, Inhabited

/-- Attributes of a quote. -/
structure QuoteAttributes where
  bidPastLow : Bool
  askPastHigh : Bool
  deriving DecidableEq, Inhabited

def QuoteAttributes.ofMask (mask : Int32) : QuoteAttributes := ⟨maskBit mask 0, maskBit mask 1⟩

/-- Attributes of a trade. -/
structure TradeAttributes where
  pastLimit : Bool
  unreported : Bool
  deriving DecidableEq, Inhabited

def TradeAttributes.ofMask (mask : Int32) : TradeAttributes := ⟨maskBit mask 0, maskBit mask 1⟩

/-- A past price. -/
structure HistoricalTick where
  time : Int64
  price : Binary64
  size : Decimal
  deriving DecidableEq, Inhabited

/-- A past quote. -/
structure HistoricalQuote where
  time : Int64
  attributes : QuoteAttributes
  bidPrice : Binary64
  askPrice : Binary64
  bidSize : Decimal
  askSize : Decimal
  deriving DecidableEq, Inhabited

/-- A past trade. -/
structure HistoricalTrade where
  time : Int64
  attributes : TradeAttributes
  price : Binary64
  size : Decimal
  exchange : String
  specialConditions : String
  deriving DecidableEq, Inhabited

/-- An exchange that offers market depth. -/
structure DepthExchange where
  exchange : String
  secType : String
  listingExchange : String
  serviceDataType : String
  aggregationGroup : Option Int32
  deriving DecidableEq, Inhabited

/-- One column of a histogram. -/
structure HistogramEntry where
  price : Binary64
  size : Decimal
  deriving DecidableEq, Inhabited

/-- What a market scan looks for. A negative number of rows leaves it to the server. -/
structure ScannerSubscription where
  numberOfRows : Int32 := -1
  instrument : String := ""
  locationCode : String := ""
  scanCode : String := ""
  abovePrice : Option Binary64 := none
  belowPrice : Option Binary64 := none
  aboveVolume : Option Int32 := none
  marketCapAbove : Option Binary64 := none
  marketCapBelow : Option Binary64 := none
  moodyRatingAbove : String := ""
  moodyRatingBelow : String := ""
  spRatingAbove : String := ""
  spRatingBelow : String := ""
  maturityDateAbove : String := ""
  maturityDateBelow : String := ""
  couponRateAbove : Option Binary64 := none
  couponRateBelow : Option Binary64 := none
  excludeConvertible : Bool := false
  averageOptionVolumeAbove : Option Int32 := none
  settingPairs : String := ""
  stockTypeFilter : String := ""
  deriving DecidableEq, Inhabited

/-- One row of a market scan. -/
structure ScannerRow where
  rank : Int32
  details : ContractDetails
  distance : String
  benchmark : String
  projection : String
  legs : String
  deriving Inhabited

end BrokerLink
