import BrokerLink.Proofs.ReaderResult
import BrokerLink.Proofs.RecordEnd

/-!
# Which records tell which events

Every event that a record tells is one of its kind. The two events of the link itself
are told by no record.
-/

namespace BrokerLink

/-- The kinds of record that tell an event. -/
def Event.kinds : Event → List RecordKind
  | .connectAck => []
  | .connectionClosed => []
  | .error .. => [.error]
  | .nextValidId .. => [.nextValidId]
  | .managedAccounts .. => [.managedAccounts]
  | .currentTime .. => [.currentTime]
  | .tickPrice .. => [.tickPrice]
  | .tickSize .. => [.tickSize, .tickPrice]
  | .tickOptionComputation .. => [.tickOptionComputation]
  | .tickGeneric .. => [.tickGeneric]
  | .tickString .. => [.tickString]
  | .tickEfp .. => [.tickEfp]
  | .tickSnapshotEnd .. => [.tickSnapshotEnd]
  | .tickReqParams .. => [.tickRequestParams]
  | .tickNews .. => [.tickNews]
  | .marketDataType .. => [.marketDataType]
  | .tickByTickAllLast .. => [.tickByTick]
  | .tickByTickBidAsk .. => [.tickByTick]
  | .tickByTickMidPoint .. => [.tickByTick]
  | .updateMktDepth .. => [.marketDepth]
  | .updateMktDepthL2 .. => [.marketDepthL2]
  | .mktDepthExchanges .. => [.marketDepthExchanges]
  | .smartComponents .. => [.smartComponents]
  | .rerouteMktDataReq .. => [.rerouteMarketData]
  | .rerouteMktDepthReq .. => [.rerouteMarketDepth]
  | .deltaNeutralValidation .. => [.deltaNeutralValidation]
  | .orderStatus .. => [.orderStatus]
  | .openOrder .. => [.openOrder]
  | .openOrderEnd => [.openOrderEnd]
  | .completedOrder .. => [.completedOrder]
  | .completedOrdersEnd => [.completedOrdersEnd]
  | .orderBound .. => [.orderBound]
  | .execDetails .. => [.executionData]
  | .execDetailsEnd .. => [.executionDataEnd]
  | .commissionReport .. => [.commissionReport]
  | .updateAccountValue .. => [.accountValue]
  | .updatePortfolio .. => [.portfolioValue]
  | .updateAccountTime .. => [.accountUpdateTime]
  | .accountDownloadEnd .. => [.accountDownloadEnd]
  | .accountSummary .. => [.accountSummary]
  | .accountSummaryEnd .. => [.accountSummaryEnd]
  | .position .. => [.positionData]
  | .positionEnd => [.positionEnd]
  | .positionMulti .. => [.positionMulti]
  | .positionMultiEnd .. => [.positionMultiEnd]
  | .accountUpdateMulti .. => [.accountUpdateMulti]
  | .accountUpdateMultiEnd .. => [.accountUpdateMultiEnd]
  | .pnl .. => [.profitAndLoss]
  | .pnlSingle .. => [.profitAndLossSingle]
  | .familyCodes .. => [.familyCodes]
  | .softDollarTiers .. => [.softDollarTiers]
  | .contractDetails .. => [.contractData]
  | .bondContractDetails .. => [.bondContractData]
  | .contractDetailsEnd .. => [.contractDataEnd]
  | .symbolSamples .. => [.symbolSamples]
  | .optionChain .. => [.optionChain]
  | .optionChainEnd .. => [.optionChainEnd]
  | .marketRule .. => [.marketRule]
  | .historicalData .. => [.historicalData]
  | .historicalDataEnd .. => [.historicalData]
  | .historicalDataUpdate .. => [.historicalDataUpdate]
  | .headTimestamp .. => [.headTimestamp]
  | .histogramData .. => [.histogramData]
  | .historicalTicks .. => [.historicalTicks]
  | .historicalTicksBidAsk .. => [.historicalTicksBidAsk]
  | .historicalTicksLast .. => [.historicalTicksLast]
  | .realtimeBar .. => [.realTimeBars]
  | .scannerParameters .. => [.scannerParameters]
  | .scannerData .. => [.scannerData]
  | .scannerDataEnd .. => [.scannerData]
  | .fundamentalData .. => [.fundamentalData]
  | .updateNewsBulletin .. => [.newsBulletins]
  | .newsArticle .. => [.newsArticle]
  | .newsProviders .. => [.newsProviders]
  | .historicalNews .. => [.historicalNews]
  | .historicalNewsEnd .. => [.historicalNewsEnd]
  | .receiveFa .. => [.advisorDocument]
  | .replaceFaEnd .. => [.advisorReplacementEnd]
  | .displayGroupList .. => [.displayGroupList]
  | .displayGroupUpdated .. => [.displayGroupUpdated]
  | .verifyMessageApi .. => [.verifyMessage]
  | .verifyCompleted .. => [.verifyCompleted]
  | .verifyAndAuthMessageApi .. => [.verifyAndAuthMessage]
  | .verifyAndAuthCompleted .. => [.verifyAndAuthCompleted]

namespace Record

open Reader

/-- A record of one event tells that of its reader. -/
theorem gives_one {P : Event → Prop} {r : Reader Event} (h : r.Gives P) :
    (one r).Gives fun es => ∀ e ∈ es, P e :=
  h.andThen fun _ he => List.forall_mem_cons.mpr ⟨he, List.forall_mem_nil _⟩

theorem kinds_pairedSize (layout : Int) (id : Int32) (tick : TickType) (size : Decimal) :
    ∀ e ∈ pairedSize layout id tick size, RecordKind.tickPrice ∈ e.kinds := by
  unfold pairedSize
  split
  · split <;> simp [Event.kinds]
  · simp

theorem gives_kind_tickByTick :
    tickByTick.Gives fun es => ∀ e ∈ es, RecordKind.tickByTick ∈ e.kinds := by
  refine Gives.bind fun id => Gives.bind fun kind => Gives.bind fun time => ?_
  split
  · exact Gives.bind fun trade => by simp [Event.kinds]
  · split
    · exact Gives.bind fun quote => by simp [Event.kinds]
    · split
      · exact Gives.bind fun midPoint => by simp [Event.kinds]
      · simp

/-- The reader of every kind of record tells only events of that kind. -/
theorem gives_kind (version : Version) (k : RecordKind) :
    (events version k).Gives fun es => ∀ e ∈ es, k ∈ e.kinds := by
  cases k
  case tickPrice =>
    refine Gives.bind fun _ => Gives.bind fun _ => Gives.bind fun _ => Gives.bind fun _ =>
      Gives.bind fun _ => Gives.bind fun _ => ?_
    exact List.forall_mem_cons.mpr ⟨List.mem_cons_self, kinds_pairedSize _ _ _ _⟩
  case tickByTick => exact gives_kind_tickByTick
  case historicalData =>
    refine Gives.bind fun _ => Gives.bind fun _ => Gives.bind fun _ => Gives.bind fun _ =>
      Gives.bind fun bars => ?_
    simp [or_imp, forall_and, Event.kinds]
  case scannerData =>
    refine Gives.bind fun _ => Gives.bind fun _ => Gives.bind fun rows => ?_
    simp [or_imp, forall_and, Event.kinds]
  case error =>
    refine gives_one (Gives.bind fun layout => ?_)
    split
    · exact Gives.bind fun _ => List.mem_cons_self
    · exact Gives.bind fun _ => Gives.bind fun _ => Gives.bind fun _ => List.mem_cons_self
  case openOrderEnd => exact gives_one (Gives.bind fun _ => List.mem_cons_self)
  case completedOrdersEnd => exact gives_one (List.mem_cons_self)
  all_goals
    apply gives_one
    dsimp only [
      accountDownloadEnd, accountSummary, accountSummaryEnd, accountUpdateMulti,
      accountUpdateMultiEnd, accountUpdateTime, accountValue, advisorDocument,
      advisorReplacementEnd, bondContractData, commissionReport, completedOrder, contractData,
      contractDataEnd, currentTime, deltaNeutralValidation, displayGroupList,
      displayGroupUpdated, executionData, executionDataEnd, familyCodes, fundamentalData,
      headTimestamp, histogramData, historicalDataUpdate, historicalNews, historicalNewsEnd,
      historicalTicks, historicalTicksBidAsk, historicalTicksLast, managedAccounts,
      marketDataType, marketDepth, marketDepthExchanges, marketDepthL2, marketRule, newsArticle,
      newsBulletins, newsProviders, nextValidId, openOrder, optionChain, optionChainEnd,
      orderBound, orderStatus, portfolioValue, positionData, positionEnd, positionMulti,
      positionMultiEnd, profitAndLoss, profitAndLossSingle, realTimeBars, rerouteMarketData,
      rerouteMarketDepth, scannerParameters, smartComponents, softDollarTiers, symbolSamples,
      tickEfp, tickGeneric, tickNews, tickOptionComputation, tickRequestParams, tickSize,
      tickSnapshotEnd, tickString, verifyAndAuthCompleted, verifyAndAuthMessage,
      verifyCompleted, verifyMessage]
    repeat refine Gives.bind fun _ => ?_
    exact List.mem_cons_self

/-- Every event of a payload is of the kind that its first field names. -/
theorem kind_of_decode {version : Version} {payload : List UInt8} {es : List Event}
    (h : decode version payload = .ok es) :
    ∀ e ∈ es, ∃ k ∈ e.kinds, (int32.run payload).1 = .ok k.code := by
  intro e he
  obtain ⟨kind, rest, hi⟩ := exists_kind h
  cases hk : RecordKind.ofCode? kind with
  | none =>
    have hi' : runWith true int32 payload = (.ok kind, rest) := hi
    simp only [decode, decodeWith, hi', eventsOf, hk] at h
    split at h
    · cases h
    · cases h
      cases he
  | some k =>
    obtain rfl := RecordKind.code_of_ofCode? hk
    have hr := (decode_eq_ok_iff hi).mp h
    have hg := (gives_kind version k).of_run hr e he
    exact ⟨k, hg, by rw [hi]⟩

/-- No record tells an event of the link itself. -/
theorem ne_of_decode {version : Version} {payload : List UInt8} {es : List Event}
    (h : decode version payload = .ok es) :
    .connectAck ∉ es ∧ .connectionClosed ∉ es := by
  constructor
  · intro he
    obtain ⟨k, hk, -⟩ := kind_of_decode h _ he
    cases hk
  · intro he
    obtain ⟨k, hk, -⟩ := kind_of_decode h _ he
    cases hk

end Record
end BrokerLink
