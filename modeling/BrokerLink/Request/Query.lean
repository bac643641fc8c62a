import BrokerLink.Execution
import BrokerLink.Market
import BrokerLink.Request.Order

/-!
# Parts of requests

The larger groups of fields of requests: what is asked about bars, about fills, about
a scan, about a contract, and about the value of an option.
-/

namespace BrokerLink

/-- Which bars of the past are asked for. -/
structure BarQuery where
  /-- As `yyyymmdd hh:mm:ss [zone]`; empty for now. -/
  finish : String := ""
  duration : String := ""
  barSize : String := ""
  whatToShow : String := ""
  regularHours : Bool := false
  /-- 1 for dates as text, 2 for seconds since 1970. -/
  dateFormat : Int32 := 0
  keepUpToDate : Bool := false
  options : List TagValue := []
  deriving DecidableEq, Inhabited

namespace BarQuery

/-- What is asked about the bars of a contract. -/
def fields (version : Version) (id : Int32) (c : Contract) (q : BarQuery) : Fields :=
  ifSupported (!version.supports Since.syntheticBars) ["6"]
    ++ [fieldText id]
    ++ c.fields
      { contractId := version.supports Since.tradingClass
        primaryExchange := true
        tradingClass := version.supports Since.tradingClass }
    ++ [fieldText c.includeExpired, q.finish, q.barSize, q.duration, fieldText q.regularHours,
      q.whatToShow, fieldText q.dateFormat]
    ++ c.briefLegs
    ++ ifSupported (version.supports Since.syntheticBars) [fieldText q.keepUpToDate]
    ++ ifSupported (version.supports Since.linking) [TagValue.joined q.options]

end BarQuery

namespace ExecutionFilter

def fields (f : ExecutionFilter) : Fields :=
  [fieldText f.clientId, f.accountCode, f.time, f.symbol, f.secType, f.exchange, f.side]

end ExecutionFilter

namespace ScannerSubscription

def fields (s : ScannerSubscription) : Fields :=
  [fieldText s.numberOfRows, s.instrument, s.locationCode, s.scanCode, fieldText s.abovePrice,
    fieldText s.belowPrice, fieldText s.aboveVolume, fieldText s.marketCapAbove,
    fieldText s.marketCapBelow, s.moodyRatingAbove, s.moodyRatingBelow, s.spRatingAbove,
    s.spRatingBelow, s.maturityDateAbove, s.maturityDateBelow, fieldText s.couponRateAbove,
    fieldText s.couponRateBelow, fieldText s.excludeConvertible,
    fieldText s.averageOptionVolumeAbove, s.settingPairs, s.stockTypeFilter]

end ScannerSubscription

namespace Contract

/-- The exchange of a contract that is looked up. Older servers take the primary exchange as part of
it, and only of a routed order. -/
def routeFields (version : Version) (c : Contract) : Fields :=
  if version.supports Since.primaryExchange then [c.exchange, c.primaryExchange]
  else if !c.primaryExchange.isEmpty && (c.exchange == "BEST" || c.exchange == "SMART") then
    [c.exchange ++ ":" ++ c.primaryExchange]
  else [c.exchange]

/-- A contract that is looked up. -/
def lookupFields (version : Version) (c : Contract) : Fields :=
  ifSupported (version.supports Since.detailsByContractId) [fieldText c.contractId]
    ++ [c.symbol, fieldText c.secType, c.lastTradeDate, fieldText c.strike, fieldText c.right,
      c.multiplier]
    ++ c.routeFields version
    ++ [c.currency, c.localSymbol]
    ++ ifSupported (version.supports Since.tradingClass) [c.tradingClass]
    ++ [fieldText c.includeExpired]
    ++ ifSupported (version.supports Since.securityIds) [c.secIdType, c.secId]

end Contract

/-- Options that travel as their number and one joined text. -/
def countedOptions (version : Version) (options : List TagValue) : Fields :=
  ifSupported (version.supports Since.linking)
    [fieldText options.length, TagValue.joined options]

/-- What a calculation of the value of an option is given. -/
def optionCalculation (version : Version) (id : Int32) (c : Contract) (input underPrice : Binary64)
    (options : List TagValue) : Fields :=
  ["3", fieldText id]
    ++ c.fields { primaryExchange := true, tradingClass := version.supports Since.tradingClass }
    ++ [fieldText input, fieldText underPrice]
    ++ countedOptions version options

end BrokerLink
