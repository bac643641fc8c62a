import BrokerLink.Field.Text

/-!
# Words about instruments

What kind of security a contract is, which right an option gives, which side a leg or an
order takes, and whether a leg opens or closes a position.
-/

namespace BrokerLink

/-- The kind of security a contract is for. -/
inductive SecType where
  | stock
  | option
  | future
  | continuousFuture
  | forex
  | index
  | futureOption
  | bond
  | fund
  | warrant
  | commodity
  | cfd
  | combo
  | news
  | crypto
  | other (text : String)
  deriving DecidableEq, Repr

namespace SecType

def ofText : String → SecType
  | "STK" => stock
  | "OPT" => option
  | "FUT" => future
  | "CONTFUT" => continuousFuture
  | "CASH" => forex
  | "IND" => index
  | "FOP" => futureOption
  | "BOND" => bond
  | "FUND" => fund
  | "WAR" => warrant
  | "CMDTY" => commodity
  | "CFD" => cfd
  | "BAG" => combo
  | "NEWS" => news
  | "CRYPTO" => crypto
  | s => other s

def text : SecType → String
  | stock => "STK"
  | option => "OPT"
  | future => "FUT"
  | continuousFuture => "CONTFUT"
  | forex => "CASH"
  | index => "IND"
  | futureOption => "FOP"
  | bond => "BOND"
  | fund => "FUND"
  | warrant => "WAR"
  | commodity => "CMDTY"
  | cfd => "CFD"
  | combo => "BAG"
  | news => "NEWS"
  | crypto => "CRYPTO"
  | other s => s

def name : SecType → String
  | stock => "Stock"
  | option => "Option"
  | future => "Future"
  | continuousFuture => "ContinuousFuture"
  | forex => "Forex"
  | index => "Index"
  | futureOption => "FutureOption"
  | bond => "Bond"
  | fund => "Fund"
  | warrant => "Warrant"
  | commodity => "Commodity"
  | cfd => "Cfd"
  | combo => "Combo"
  | news => "News"
  | crypto => "Crypto"
  | other _ => "Other"

instance : Word SecType := ⟨ofText, text, name⟩

instance : FieldText SecType := ⟨text⟩

end SecType

/-- The right that an option gives. Both the letter and the word are understood; the letter is
written. -/
inductive Right where
  | call
  | put
  | other (text : String)
  deriving DecidableEq, Repr

namespace Right

def ofText : String → Right
  | "C" | "CALL" => call
  | "P" | "PUT" => put
  | s => other s

def text : Right → String
  | call => "C"
  | put => "P"
  | other s => s

def name : Right → String
  | call => "Call"
  | put => "Put"
  | other _ => "Other"

instance : Word Right := ⟨ofText, text, name⟩

instance : FieldText Right := ⟨text⟩

end Right

/-- The side of an order or of a combo leg. -/
inductive Action where
  | buy
  | sell
  | sellShort
  | sellLong
  | other (text : String)
  deriving DecidableEq, Repr

namespace Action

def ofText : String → Action
  | "BUY" => buy
  | "SELL" => sell
  | "SSHORT" => sellShort
  | "SLONG" => sellLong
  | s => other s

def text : Action → String
  | buy => "BUY"
  | sell => "SELL"
  | sellShort => "SSHORT"
  | sellLong => "SLONG"
  | other s => s

def name : Action → String
  | buy => "Buy"
  | sell => "Sell"
  | sellShort => "SellShort"
  | sellLong => "SellLong"
  | other _ => "Other"

instance : Word Action := ⟨ofText, text, name⟩

instance : FieldText Action := ⟨text⟩

end Action

/-- Whether a combo leg opens or closes a position. -/
inductive LegOpenClose where
  | same
  | opening
  | closing
  | unknown
  deriving DecidableEq, Repr

namespace LegOpenClose

def all : List LegOpenClose :=
  [.same, .opening, .closing, .unknown]

def code : LegOpenClose → Int32
  | same => 0
  | opening => 1
  | closing => 2
  | unknown => 3

def name : LegOpenClose → String
  | same => "Same"
  | opening => "Open"
  | closing => "Close"
  | unknown => "Unknown"

instance : Coded LegOpenClose := ⟨all, code, name⟩

instance : FieldText LegOpenClose := ⟨fun a => fieldText a.code⟩

instance : Inhabited LegOpenClose := ⟨same⟩

end LegOpenClose

end BrokerLink
