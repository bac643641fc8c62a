import BrokerLink.Order.Vocabulary

/-!
# Order conditions

An order may wait for conditions. Each has a conjunction: whether it is joined to the
next condition by *and* or by *or*.
-/

namespace BrokerLink

/-- What an order waits for. -/
inductive OrderCondition where
  | price (conjunction isMore : Bool) (price : Binary64) (contractId : Int32) (exchange : String)
      (triggerMethod : TriggerMethod)
  | time (conjunction isMore : Bool) (time : String)
  | margin (conjunction isMore : Bool) (percent : Int32)
  | execution (conjunction : Bool) (secType exchange symbol : String)
  | volume (conjunction isMore : Bool) (volume : Int32) (contractId : Int32) (exchange : String)
  | percentChange (conjunction isMore : Bool) (changePercent : Binary64) (contractId : Int32)
      (exchange : String)
  deriving DecidableEq

namespace OrderCondition

def kind : OrderCondition → ConditionKind
  | price .. => .price
  | time .. => .time
  | margin .. => .margin
  | execution .. => .execution
  | volume .. => .volume
  | percentChange .. => .percentChange

/-- Whether the next condition is joined by *and*. -/
def conjunction : OrderCondition → Bool
  | price conjunction .. => conjunction
  | time conjunction .. => conjunction
  | margin conjunction .. => conjunction
  | execution conjunction .. => conjunction
  | volume conjunction .. => conjunction
  | percentChange conjunction .. => conjunction

end OrderCondition

/-- The conditions of an order, and what they do: whether they may be met outside regular hours, and
whether they cancel the order instead of sending it. -/
structure OrderConditions where
  conditions : List OrderCondition := []
  ignoreRegularHours : Bool := false
  cancelOrder : Bool := false
  deriving DecidableEq, Inhabited

end BrokerLink
