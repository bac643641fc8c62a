import BrokerLink.Instrument.Vocabulary

/-!
# Instruments

A contract names what is traded; a combination is a contract with legs. The details
of a contract are what the server knows about it, for bonds with terms of their own.
-/

namespace BrokerLink

/-- One leg of a combination. -/
structure ComboLeg where
  contractId : Int32 := 0
  ratio : Int32 := 0
  action : Option Action := none
  exchange : String := ""
  openClose : LegOpenClose := .same
  /-- 1 for the clearing broker, 2 for a third party. -/
  shortSaleSlot : Int32 := 0
  designatedLocation : String := ""
  exemptCode : Int32 := -1
  deriving DecidableEq, Inhabited

/-- The contract that makes a combination delta-neutral. -/
structure DeltaNeutralContract where
  contractId : Int32 := 0
  delta : Binary64 := .zero
  price : Binary64 := .zero
  deriving DecidableEq, Inhabited

/-- What is traded. The id alone is enough for most purposes; the other fields are used when it is
zero. -/
structure Contract where
  contractId : Int32 := 0
  symbol : String := ""
  secType : Option SecType := none
  lastTradeDate : String := ""
  strike : Option Binary64 := none
  right : Option Right := none
  multiplier : String := ""
  exchange : String := ""
  primaryExchange : String := ""
  currency : String := ""
  localSymbol : String := ""
  tradingClass : String := ""
  includeExpired : Bool := false
  secIdType : String := ""
  secId : String := ""
  comboLegsDescription : String := ""
  comboLegs : List ComboLeg := []
  deltaNeutral : Option DeltaNeutralContract := none
  deriving DecidableEq, Inhabited

namespace Contract

def isCombo (c : Contract) : Bool := c.secType == some .combo

def isBond (c : Contract) : Bool := c.secType == some .bond

end Contract

/-- Which optional fields of a contract a record or a request carries. -/
structure ContractLayout where
  contractId : Bool := true
  multiplier : Bool := true
  exchange : Bool := true
  primaryExchange : Bool := false
  localSymbol : Bool := true
  tradingClass : Bool := true

/-- What only bonds have. -/
structure BondTerms where
  cusip : String := ""
  ratings : String := ""
  descAppend : String := ""
  bondType : String := ""
  couponType : String := ""
  callable : Bool := false
  putable : Bool := false
  coupon : Binary64 := .zero
  convertible : Bool := false
  maturity : String := ""
  issueDate : String := ""
  nextOptionDate : String := ""
  nextOptionType : String := ""
  nextOptionPartial : Bool := false
  notes : String := ""
  deriving Inhabited

/-- What the server knows about a contract. -/
structure ContractDetails where
  contract : Contract := {}
  marketName : String := ""
  minTick : Binary64 := .zero
  orderTypes : String := ""
  validExchanges : String := ""
  priceMagnifier : Int32 := 0
  underContractId : Int32 := 0
  longName : String := ""
  contractMonth : String := ""
  industry : String := ""
  category : String := ""
  subcategory : String := ""
  timeZoneId : String := ""
  tradingHours : String := ""
  liquidHours : String := ""
  evRule : String := ""
  evMultiplier : Option Binary64 := none
  sizeMultiplier : Option Int32 := none
  aggregationGroup : Option Int32 := none
  underSymbol : String := ""
  underSecType : String := ""
  marketRuleIds : String := ""
  realExpirationDate : String := ""
  lastTradeTime : String := ""
  stockType : String := ""
  secIds : List TagValue := []
  bond : BondTerms := {}
  deriving Inhabited

/-- A contract found by its symbol, with the types of security derived from it. -/
structure ContractDescription where
  contract : Contract := {}
  derivativeSecTypes : List String := []
  deriving Inhabited

/-- The least price step from a price upward. -/
structure PriceIncrement where
  lowEdge : Binary64
  increment : Binary64
  deriving Inhabited

/-- The exchange behind one bit of a routing mask. -/
structure SmartComponent where
  bitNumber : Int32
  exchange : String
  exchangeLetter : String
  deriving Inhabited

end BrokerLink
