import BrokerLink.Order
import BrokerLink.Request.Requirement

/-!
# What an order requires

An order uses features by what its attributes are set to. The table has a row for
each feature, in the order in which they are checked.
-/

namespace BrokerLink

/-- A feature of orders. -/
structure OrderGate where
  since : Version
  feature : String
  uses : Contract → Order → Bool

namespace OrderGate

/-- A price is set if it is there and is not the largest number. -/
def isPriceSet (x : Option Binary64) : Bool := isSet Binary64.largest x

/-- A number is set if it is there and is not the largest one. -/
def isNumberSet (n : Option Int32) : Bool := isSet Int32.maxValue n

/-- Whether the extension of a scale says anything. -/
def usesScaleExtension (s : ScaleTerms) : Bool :=
  s.hasExtension &&
    (isPriceSet s.extension.priceAdjustValue || isNumberSet s.extension.priceAdjustInterval
      || isPriceSet s.extension.profitOffset || s.extension.autoReset
      || isNumberSet s.extension.initPosition || isNumberSet s.extension.initFillQuantity
      || s.extension.randomPercent)

def all : List OrderGate :=
  [{ since := Since.scaleOrders
     feature := "Scale orders"
     uses := fun _ o => isNumberSet o.scale.initLevelSize || isPriceSet o.scale.priceIncrement },
   { since := Since.shortSaleComboLegs
     feature := "SSHORT flag for combo legs"
     uses := fun c _ =>
       c.comboLegs.any fun l => l.shortSaleSlot != 0 || !l.designatedLocation.isEmpty },
   { since := Since.whatIfOrders
     feature := "what-if orders"
     uses := fun _ o => o.whatIf },
   { since := Since.deltaNeutral
     feature := "delta-neutral orders"
     uses := fun c _ => c.deltaNeutral.isSome },
   { since := Since.scaleSubsequentLevels
     feature := "Subsequent Level Size for Scale orders"
     uses := fun _ o => isNumberSet o.scale.subsLevelSize },
   { since := Since.algoOrders
     feature := "algo orders"
     uses := fun _ o => !o.algo.strategy.isEmpty },
   { since := Since.notHeld
     feature := "notHeld parameter"
     uses := fun _ o => o.notHeld },
   { since := Since.securityIds
     feature := "secIdType and secId parameters"
     uses := fun c _ => !c.secIdType.isEmpty || !c.secId.isEmpty },
   { since := Since.orderByContractId
     feature := "conId parameter"
     uses := fun c _ => decide (0 < c.contractId) },
   { since := Since.exemptCode
     feature := "exemptCode parameter"
     uses := fun c o =>
       o.shortSale.exemptCode != -1 || c.comboLegs.any fun l => l.exemptCode != -1 },
   { since := Since.hedgeOrders
     feature := "hedge orders"
     uses := fun _ o => !o.hedge.kind.isEmpty },
   { since := Since.optOutSmartRouting
     feature := "optOutSmartRouting parameter"
     uses := fun _ o => o.optOutSmartRouting },
   { since := Since.deltaNeutralContractId
     feature := "deltaNeutral parameters: ConId, SettlingFirm, ClearingAccount, ClearingIntent"
     uses := fun _ o =>
       let leg := o.volatility.deltaNeutralLeg
       decide (0 < leg.contractId) || !leg.settlingFirm.isEmpty || !leg.clearingAccount.isEmpty
         || !leg.clearingIntent.isEmpty },
   { since := Since.scaleExtension
     feature :=
       "Scale order parameters: PriceAdjustValue, PriceAdjustInterval, ProfitOffset, AutoReset, "
         ++ "InitPosition, InitFillQty and RandomPercent"
     uses := fun _ o => usesScaleExtension o.scale },
   { since := Since.comboLegPrices
     feature := "per-leg prices for order combo legs"
     uses := fun c o => c.isCombo && o.combo.legPrices.any fun l => isPriceSet l.price },
   { since := Since.trailingPercent
     feature := "trailing percent parameter"
     uses := fun _ o => isPriceSet o.trail.percent },
   { since := Since.deltaNeutralOpenClose
     feature := "deltaNeutral parameters: OpenClose, ShortSale, ShortSaleSlot, DesignatedLocation"
     uses := fun _ o =>
       let leg := o.volatility.deltaNeutralLeg
       !leg.openClose.isEmpty || leg.shortSale || decide (0 < leg.shortSaleSlot)
         || !leg.designatedLocation.isEmpty },
   { since := Since.tradingClass
     feature := "tradingClass parameter in placeOrder"
     uses := fun c _ => !c.tradingClass.isEmpty },
   { since := Since.scaleTable
     feature := "scaleTable, activeStartTime and activeStopTime parameters"
     uses := fun _ o =>
       !o.scale.table.isEmpty || !o.scale.activeStartTime.isEmpty
         || !o.scale.activeStopTime.isEmpty },
   { since := Since.algoId
     feature := "algoId parameter"
     uses := fun _ o => !o.algo.id.isEmpty },
   { since := Since.solicitedOrders
     feature := "order solicited parameter"
     uses := fun _ o => o.solicited },
   { since := Since.randomizedOrders
     feature := "randomizing size and price"
     uses := fun _ o => o.randomizeSize || o.randomizePrice },
   { since := Since.benchmarkPegs
     feature := "conditional and pegged-to-benchmark orders"
     uses := fun _ o =>
       !o.conditions.conditions.isEmpty || o.terms.orderType == some .peggedToBenchmark
         || !o.adjustment.orderType.isEmpty },
   { since := Since.models
     feature := "model code parameter"
     uses := fun _ o => !o.settlement.modelCode.isEmpty },
   { since := Since.externalOperator
     feature := "ext operator parameter"
     uses := fun _ o => !o.externalOperator.isEmpty },
   { since := Since.softDollarTiers
     feature := "soft dollar tier"
     uses := fun _ o => !o.softDollarTier.name.isEmpty || !o.softDollarTier.value.isEmpty },
   { since := Since.cashQuantity
     feature := "cash quantity parameter"
     uses := fun _ o => isPriceSet o.cashQuantity },
   { since := Since.decisionMaker
     feature := "MIFID II decision maker parameters"
     uses := fun _ o => !o.decision.decisionMaker.isEmpty || !o.decision.decisionAlgo.isEmpty },
   { since := Since.executionTrader
     feature := "MIFID II execution parameters"
     uses := fun _ o => !o.decision.executionTrader.isEmpty || !o.decision.executionAlgo.isEmpty },
   { since := Since.hedgePriceOptOut
     feature := "dontUseAutoPriceForHedge parameter"
     uses := fun _ o => o.hedgePriceOptOut },
   { since := Since.orderContainer
     feature := "oms container parameter"
     uses := fun _ o => o.omsContainer },
   { since := Since.discretionaryPegs
     feature := "D-Peg orders"
     uses := fun _ o => o.discretionaryUpToLimit },
   { since := Since.priceManagement
     feature := "Use price management algo requests"
     uses := fun _ o => o.priceManagement.isSome }]

def toRequirement (c : Contract) (o : Order) (g : OrderGate) : Requirement :=
  { since := g.since, feature := g.feature, used := g.uses c o }

/-- The first feature that an order uses and a server lacks. -/
def firstUnmet (version : Version) (c : Contract) (o : Order) : Option OrderGate :=
  all.find? fun g => !version.supports g.since && g.uses c o

/-- The places in the table of the features that an order uses. -/
def usedIndices (c : Contract) (o : Order) : List Nat :=
  all.zipIdx.filterMap fun (g, i) => if g.uses c o then some i else none

end OrderGate
end BrokerLink
