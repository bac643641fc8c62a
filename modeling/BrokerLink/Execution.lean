import BrokerLink.Field.Text

/-!
# Executions

A fill of an order, the filter that selects fills, and the report of a commission.
-/

namespace BrokerLink

/-- One fill. -/
structure Execution where
  execId : String := ""
  time : String := ""
  account : String := ""
  exchange : String := ""
  /-- `BOT` or `SLD`. -/
  side : String := ""
  shares : Decimal := .zero
  price : Binary64 := .zero
  permanentId : Int64 := 0
  clientId : Int32 := 0
  orderId : Int32 := 0
  liquidation : Int32 := 0
  cumulativeQuantity : Decimal := .zero
  averagePrice : Binary64 := .zero
  orderRef : String := ""
  evRule : String := ""
  evMultiplier : Option Binary64 := none
  modelCode : String := ""
  lastLiquidity : Int32 := 0
  deriving DecidableEq, Inhabited

/-- Which fills are asked for; an empty attribute matches everything. -/
structure ExecutionFilter where
  clientId : Int32 := 0
  accountCode : String := ""
  /-- Only executions after this time. -/
  time : String := ""
  symbol : String := ""
  secType : String := ""
  exchange : String := ""
  side : String := ""
  deriving DecidableEq, Inhabited

/-- What a fill cost. -/
structure CommissionReport where
  execId : String
  commission : Binary64
  currency : String
  realizedPnl : Option Binary64
  yieldRate : Option Binary64
  /-- As `yyyymmdd`; zero if there is none. -/
  yieldRedemptionDate : Int32
  deriving DecidableEq, Inhabited

end BrokerLink
