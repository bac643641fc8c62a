import BrokerLink.Field.Text

/-!
# Words and codes about orders
-/

namespace BrokerLink

/-- How an order is to be executed. -/
inductive OrderType where
  | market
  | limit
  | stop
  | stopLimit
  | trailingStop
  | trailingStopLimit
  | relative
  | marketOnClose
  | limitOnClose
  | marketOnOpen
  | limitOnOpen
  | peggedToMarket
  | peggedToMidpoint
  | peggedToBenchmark
  | peggedToStock
  | volatility
  | marketIfTouched
  | limitIfTouched
  | marketWithProtection
  | marketToLimit
  | midPrice
  | boxTop
  | snapToMarket
  | snapToMidpoint
  | snapToPrimary
  | peggedToPrimary
  | other (text : String)
  deriving DecidableEq, Repr

namespace OrderType

def ofText : String → OrderType
  | "MKT" => market
  | "LMT" => limit
  | "STP" => stop
  | "STP LMT" => stopLimit
  | "TRAIL" => trailingStop
  | "TRAIL LIMIT" => trailingStopLimit
  | "REL" => relative
  | "MOC" => marketOnClose
  | "LOC" => limitOnClose
  | "MOO" => marketOnOpen
  | "LOO" => limitOnOpen
  | "PEG MKT" => peggedToMarket
  | "PEG MID" => peggedToMidpoint
  | "PEG BENCH" => peggedToBenchmark
  | "PEG STK" => peggedToStock
  | "VOL" => volatility
  | "MIT" => marketIfTouched
  | "LIT" => limitIfTouched
  | "MKT PRT" => marketWithProtection
  | "MTL" => marketToLimit
  | "MIDPRICE" => midPrice
  | "BOX TOP" => boxTop
  | "SNAP MKT" => snapToMarket
  | "SNAP MID" => snapToMidpoint
  | "SNAP PRIM" => snapToPrimary
  | "PEG PRIM" => peggedToPrimary
  | s => other s

def text : OrderType → String
  | market => "MKT"
  | limit => "LMT"
  | stop => "STP"
  | stopLimit => "STP LMT"
  | trailingStop => "TRAIL"
  | trailingStopLimit => "TRAIL LIMIT"
  | relative => "REL"
  | marketOnClose => "MOC"
  | limitOnClose => "LOC"
  | marketOnOpen => "MOO"
  | limitOnOpen => "LOO"
  | peggedToMarket => "PEG MKT"
  | peggedToMidpoint => "PEG MID"
  | peggedToBenchmark => "PEG BENCH"
  | peggedToStock => "PEG STK"
  | volatility => "VOL"
  | marketIfTouched => "MIT"
  | limitIfTouched => "LIT"
  | marketWithProtection => "MKT PRT"
  | marketToLimit => "MTL"
  | midPrice => "MIDPRICE"
  | boxTop => "BOX TOP"
  | snapToMarket => "SNAP MKT"
  | snapToMidpoint => "SNAP MID"
  | snapToPrimary => "SNAP PRIM"
  | peggedToPrimary => "PEG PRIM"
  | other s => s

def name : OrderType → String
  | market => "Market"
  | limit => "Limit"
  | stop => "Stop"
  | stopLimit => "StopLimit"
  | trailingStop => "TrailingStop"
  | trailingStopLimit => "TrailingStopLimit"
  | relative => "Relative"
  | marketOnClose => "MarketOnClose"
  | limitOnClose => "LimitOnClose"
  | marketOnOpen => "MarketOnOpen"
  | limitOnOpen => "LimitOnOpen"
  | peggedToMarket => "PeggedToMarket"
  | peggedToMidpoint => "PeggedToMidpoint"
  | peggedToBenchmark => "PeggedToBenchmark"
  | peggedToStock => "PeggedToStock"
  | volatility => "Volatility"
  | marketIfTouched => "MarketIfTouched"
  | limitIfTouched => "LimitIfTouched"
  | marketWithProtection => "MarketWithProtection"
  | marketToLimit => "MarketToLimit"
  | midPrice => "MidPrice"
  | boxTop => "BoxTop"
  | snapToMarket => "SnapToMarket"
  | snapToMidpoint => "SnapToMidpoint"
  | snapToPrimary => "SnapToPrimary"
  | peggedToPrimary => "PeggedToPrimary"
  | other _ => "Other"

instance : Word OrderType := ⟨ofText, text, name⟩

instance : FieldText OrderType := ⟨text⟩

end OrderType

/-- How long an order stays in force. -/
inductive TimeInForce where
  | day
  | goodTillCancel
  | immediateOrCancel
  | goodTillDate
  | atTheOpening
  | fillOrKill
  | dayTillCancel
  | auction
  | other (text : String)
  deriving DecidableEq, Repr

namespace TimeInForce

def ofText : String → TimeInForce
  | "DAY" => day
  | "GTC" => goodTillCancel
  | "IOC" => immediateOrCancel
  | "GTD" => goodTillDate
  | "OPG" => atTheOpening
  | "FOK" => fillOrKill
  | "DTC" => dayTillCancel
  | "AUC" => auction
  | s => other s

def text : TimeInForce → String
  | day => "DAY"
  | goodTillCancel => "GTC"
  | immediateOrCancel => "IOC"
  | goodTillDate => "GTD"
  | atTheOpening => "OPG"
  | fillOrKill => "FOK"
  | dayTillCancel => "DTC"
  | auction => "AUC"
  | other s => s

def name : TimeInForce → String
  | day => "Day"
  | goodTillCancel => "GoodTillCancel"
  | immediateOrCancel => "ImmediateOrCancel"
  | goodTillDate => "GoodTillDate"
  | atTheOpening => "AtTheOpening"
  | fillOrKill => "FillOrKill"
  | dayTillCancel => "DayTillCancel"
  | auction => "Auction"
  | other _ => "Other"

instance : Word TimeInForce := ⟨ofText, text, name⟩

instance : FieldText TimeInForce := ⟨text⟩

end TimeInForce

/-- Whom an order is placed for. -/
inductive Origin where
  | customer
  | firm
  | unknown
  deriving DecidableEq, Repr

namespace Origin

def all : List Origin :=
  [.customer, .firm, .unknown]

def code : Origin → Int32
  | customer => 0
  | firm => 1
  | unknown => 2

def name : Origin → String
  | customer => "Customer"
  | firm => "Firm"
  | unknown => "Unknown"

instance : Coded Origin := ⟨all, code, name⟩

instance : FieldText Origin := ⟨fun a => fieldText a.code⟩

instance : Inhabited Origin := ⟨customer⟩

end Origin

/-- Which prices trigger a stop order or a price condition. -/
inductive TriggerMethod where
  | standard
  | doubleBidAsk
  | last
  | doubleLast
  | bidAsk
  | lastOrBidAsk
  | midPoint
  deriving DecidableEq, Repr

namespace TriggerMethod

def all : List TriggerMethod :=
  [.standard, .doubleBidAsk, .last, .doubleLast, .bidAsk, .lastOrBidAsk, .midPoint]

def code : TriggerMethod → Int32
  | standard => 0
  | doubleBidAsk => 1
  | last => 2
  | doubleLast => 3
  | bidAsk => 4
  | lastOrBidAsk => 7
  | midPoint => 8

def name : TriggerMethod → String
  | standard => "Default"
  | doubleBidAsk => "DoubleBidAsk"
  | last => "Last"
  | doubleLast => "DoubleLast"
  | bidAsk => "BidAsk"
  | lastOrBidAsk => "LastOrBidAsk"
  | midPoint => "MidPoint"

instance : Coded TriggerMethod := ⟨all, code, name⟩

instance : FieldText TriggerMethod := ⟨fun a => fieldText a.code⟩

instance : Inhabited TriggerMethod := ⟨standard⟩

end TriggerMethod

/-- The kinds of order condition. -/
inductive ConditionKind where
  | price
  | time
  | margin
  | execution
  | volume
  | percentChange
  deriving DecidableEq, Repr

namespace ConditionKind

def all : List ConditionKind :=
  [.price, .time, .margin, .execution, .volume, .percentChange]

def code : ConditionKind → Int32
  | price => 1
  | time => 3
  | margin => 4
  | execution => 5
  | volume => 6
  | percentChange => 7

def name : ConditionKind → String
  | price => "Price"
  | time => "Time"
  | margin => "Margin"
  | execution => "Execution"
  | volume => "Volume"
  | percentChange => "PercentChange"

instance : Coded ConditionKind := ⟨all, code, name⟩

instance : FieldText ConditionKind := ⟨fun a => fieldText a.code⟩

end ConditionKind

end BrokerLink
