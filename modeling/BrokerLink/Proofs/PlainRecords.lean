import BrokerLink.Proofs.PlainReader
import BrokerLink.Record

/-!
# Records are read by plain readers

Every part of a record, and so every record, is read by a plain reader, whatever the kind
of the record, its layout and the version of the server.
-/

namespace BrokerLink
namespace Record

open Reader

variable {version : Version} {layout : Int}

/-! ### Parts of records -/

instance : Plain Record.layout := by unfold Record.layout; infer_instance

instance (since : Version) (absent : Int) : Plain (layoutBefore version since absent) := by
  unfold layoutBefore; infer_instance

instance (r : Reader Event) [Plain r] : Plain (one r) := by unfold one; infer_instance

instance : Plain skipThenId := by unfold skipThenId; infer_instance

instance : Plain tick := by
  have h (n : Int32) : Plain (match (Coded.ofCode? n : Option TickType) with
      | some t => pure t
      | none => fail (.unknownTickType n.toInt)) := by
    split <;> infer_instance
  unfold tick
  infer_instance

instance : Plain triggerMethod := by unfold triggerMethod; infer_instance

instance : Plain lastTrade := by unfold lastTrade; infer_instance

instance (carried : ContractLayout) : Plain (contract carried) := by
  unfold contract; infer_instance

/-! ### Sections of orders -/

instance : Plain (orderContract layout) := by unfold orderContract; infer_instance

instance : Plain (orderTerms layout) := by unfold orderTerms orderPrice; infer_instance

instance : Plain orderPlacement := by unfold orderPlacement origin; infer_instance

instance : Plain (orderExposure layout) := by
  unfold orderExposure outsideRegularHours; infer_instance

instance : Plain (advisorAllocation layout) := by unfold advisorAllocation; infer_instance

instance : Plain (orderSettlement version layout) := by unfold orderSettlement; infer_instance

instance : Plain (shortSale version layout) := by unfold shortSale exemptCode; infer_instance

instance : Plain (stockPeg layout) := by unfold stockPeg; infer_instance

instance : Plain (fillRules layout) := by unfold fillRules; infer_instance

instance (isOpen hasLeg : Bool) : Plain (deltaNeutralLeg layout isOpen hasLeg) := by
  unfold deltaNeutralLeg; infer_instance

instance : Plain (hedgeOrderType layout) := by unfold hedgeOrderType; infer_instance

instance : Plain (secondStockRange version) := by unfold secondStockRange; infer_instance

instance (isOpen : Bool) : Plain (volatilityTerms version layout isOpen) := by
  unfold volatilityTerms; infer_instance

instance : Plain (trailTerms layout) := by unfold trailTerms; infer_instance

instance : Plain comboLeg := by unfold comboLeg; infer_instance

instance : Plain comboLegPrice := by unfold comboLegPrice; infer_instance

instance : Plain (comboLegs layout) := by
  have := plain_list comboLeg ⟨_, rfl⟩
  have := plain_list comboLegPrice ⟨_, rfl⟩
  unfold comboLegs
  infer_instance

instance : Plain (routingParams layout) := by unfold routingParams; infer_instance

instance : Plain scaleExtension := by unfold scaleExtension; infer_instance

instance : Plain (scaleLevels layout) := by unfold scaleLevels; infer_instance

instance : Plain (scaleTerms layout) := by unfold scaleTerms; infer_instance

instance : Plain (hedgeTerms layout) := by unfold hedgeTerms; infer_instance

instance : Plain deltaNeutralContract := by unfold deltaNeutralContract; infer_instance

instance : Plain deltaNeutralPart := by unfold deltaNeutralPart; infer_instance

instance : Plain algoTerms := by unfold algoTerms; infer_instance

instance : Plain (clearingSection layout) := by unfold clearingSection; infer_instance

instance (state : OrderState) : Plain (marginChanges version state) := by
  unfold marginChanges; infer_instance

instance : Plain (orderState version) := by unfold orderState; infer_instance

instance : Plain (randomizeFlags layout) := by unfold randomizeFlags; infer_instance

instance (orderType : Option OrderType) : Plain (benchmarkPeg version orderType) := by
  unfold benchmarkPeg; infer_instance

instance (conjunction : Bool) (kind : ConditionKind) : Plain (conditionBody conjunction kind) := by
  cases kind <;> unfold conditionBody <;> infer_instance

instance : Plain conditionKind := by
  have h (n : Int32) : Plain (match (Coded.ofCode? n : Option ConditionKind) with
      | some k => pure k
      | none => fail (.unknownCondition n.toInt)) := by
    split <;> infer_instance
  unfold conditionKind
  infer_instance

instance : Plain orderCondition := by
  unfold orderCondition conjunction
  infer_instance

instance : Plain (orderConditions version) := by
  have := plain_list orderCondition ⟨_, rfl⟩
  unfold orderConditions
  infer_instance

instance : Plain orderAdjustment := by unfold orderAdjustment; infer_instance

instance : Plain softDollarTier := by unfold softDollarTier; infer_instance

instance : Plain (cashSection version) := by unfold cashSection; infer_instance

instance : Plain completionSection := by unfold completionSection; infer_instance

instance (n : Nat) : Plain (skips n) := by
  induction n with
  | zero => exact inferInstanceAs (Plain (done ()))
  | succ n ih =>
    unfold skips
    infer_instance

/-! ### Parts of market data and of instruments -/

instance : Plain priceLike := by unfold priceLike; infer_instance

instance : Plain greek := by unfold greek; infer_instance

instance (tick : TickType) : Plain (optionComputation layout tick) := by
  unfold optionComputation; infer_instance

instance (time : Int64) : Plain (tradeAt time) := by unfold tradeAt; infer_instance

instance (time : Int64) : Plain (quoteAt time) := by unfold quoteAt; infer_instance

instance (orderId : Int32) : Plain (execution version layout orderId) := by
  unfold execution; infer_instance

instance : Plain realTimeBar := by unfold realTimeBar; infer_instance

instance : Plain success := by unfold success; infer_instance

instance : Plain (laterId layout) := by unfold laterId; infer_instance

instance : Plain (sizeMultiplier version) := by unfold sizeMultiplier; infer_instance

instance : Plain (aggregationGroup version) := by unfold aggregationGroup; infer_instance

instance : Plain (marketRuleIds version) := by unfold marketRuleIds; infer_instance

/-! ### Lists

Whatever the version and the layout, the first thing that an entry asks for is a field. -/

instance : Plain (list string) := plain_list string ⟨_, rfl⟩

instance : Plain (list float) := plain_list float ⟨_, rfl⟩

instance : Plain (depthExchange version) := by unfold depthExchange; infer_instance

instance : Plain (list (depthExchange version)) := plain_list _ ⟨_, rfl⟩

instance : Plain smartComponent := by unfold smartComponent; infer_instance

instance : Plain (list smartComponent) := plain_list _ ⟨_, rfl⟩

instance : Plain (bar version layout) := by unfold bar; infer_instance

instance : Plain (list (bar version layout)) := plain_list _ ⟨_, rfl⟩

instance : Plain histogramEntry := by unfold histogramEntry; infer_instance

instance : Plain (list histogramEntry) := plain_list _ ⟨_, rfl⟩

instance : Plain historicalTick := by unfold historicalTick; infer_instance

instance : Plain (list historicalTick) := plain_list _ ⟨_, rfl⟩

instance : Plain historicalQuote := by unfold historicalQuote; infer_instance

instance : Plain (list historicalQuote) := plain_list _ ⟨_, rfl⟩

instance : Plain historicalTrade := by unfold historicalTrade; infer_instance

instance : Plain (list historicalTrade) := plain_list _ ⟨_, rfl⟩

instance : Plain contractDescription := by unfold contractDescription; infer_instance

instance : Plain (list contractDescription) := plain_list _ ⟨_, rfl⟩

instance : Plain priceIncrement := by unfold priceIncrement; infer_instance

instance : Plain (list priceIncrement) := plain_list _ ⟨_, rfl⟩

instance : Plain newsProvider := by unfold newsProvider; infer_instance

instance : Plain (list newsProvider) := plain_list _ ⟨_, rfl⟩

instance : Plain familyCode := by unfold familyCode; infer_instance

instance : Plain (list familyCode) := plain_list _ ⟨_, rfl⟩

instance : Plain (list Record.softDollarTier) := plain_list _ ⟨_, rfl⟩

instance : Plain (scannerRow layout) := by unfold scannerRow; infer_instance

instance : Plain (list (scannerRow layout)) := plain_list _ ⟨_, rfl⟩

/-! ### Records

The long records are taken apart field by field. -/

instance : Plain (openOrder version) := by
  unfold openOrder
  repeat refine .bind inferInstance fun _ => ?_
  infer_instance

instance : Plain (contractData version) := by
  unfold contractData
  repeat refine .bind inferInstance fun _ => ?_
  infer_instance

instance : Plain (bondContractData version) := by
  unfold bondContractData
  repeat refine .bind inferInstance fun _ => ?_
  infer_instance

/-- The record of every kind is read by a plain reader, at every version. -/
instance (k : RecordKind) : Plain (events version k) := by
  cases k
  all_goals
    dsimp only [events, accountDownloadEnd, accountSummary, accountSummaryEnd, accountUpdateMulti,
      accountUpdateMultiEnd, accountUpdateTime, accountValue, advisorDocument,
      advisorReplacementEnd, commissionReport, completedOrder, contractDataEnd, currentTime,
      deltaNeutralValidation, displayGroupList, displayGroupUpdated, error, executionData,
      executionDataEnd, familyCodes, fundamentalData, headTimestamp, histogramData, historicalData,
      historicalDataUpdate, historicalNews, historicalNewsEnd, historicalTicks,
      historicalTicksBidAsk, historicalTicksLast, managedAccounts, marketDataType, marketDepth,
      marketDepthExchanges, marketDepthL2, marketRule, newsArticle, newsBulletins, newsProviders,
      nextValidId, optionChain, optionChainEnd, orderBound, orderStatus, portfolioValue,
      positionData, positionEnd, positionMulti, positionMultiEnd, profitAndLoss,
      profitAndLossSingle, realTimeBars, rerouteMarketData, rerouteMarketDepth, scannerData,
      scannerParameters, smartComponents, softDollarTiers, symbolSamples, tickByTick, tickEfp,
      tickGeneric, tickNews, tickOptionComputation, tickPrice, tickRequestParams, tickSize,
      tickSnapshotEnd, tickString, verifyAndAuthCompleted, verifyAndAuthMessage, verifyCompleted,
      verifyMessage]
    infer_instance

end Record
end BrokerLink
