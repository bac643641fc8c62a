import BrokerLink.Proofs.EventKind
import BrokerLink.Proofs.OrderSections
import BrokerLink.Proofs.PlainRecords
import BrokerLink.Proofs.Selection

/-!
# A completed order as part of an open one

The record of a completed order can be cut out of the record of the open one: its fields
are some of those of the open order, in the same order, and the fields about the
completion behind them.
-/

namespace BrokerLink

open Reader

/-! ### What a completed order keeps -/

/-- Who clears the hedge, and whether it opens a position, is only told of open orders. -/
def DeltaNeutralLeg.completed (leg : DeltaNeutralLeg) : DeltaNeutralLeg :=
  { leg with settlingFirm := "", clearingAccount := "", clearingIntent := "", openClose := "" }

def VolatilityTerms.completed (v : VolatilityTerms) : VolatilityTerms :=
  { v with deltaNeutralLeg := v.deltaNeutralLeg.completed }

namespace Record

/-- The order as it is told after its completion. -/
def CompletionSection.order (s : CompletionSection) (o : Order) : Order :=
  { o with
    identity := { permanentId := o.identity.permanentId, parentPermanentId := s.parentPermanentId }
    volatility := o.volatility.completed
    combo := { legPrices := o.combo.legPrices, routingParams := o.combo.routingParams }
    adjustment := { limitPriceOffset := o.adjustment.limitPriceOffset }
    softDollarTier := {}
    completion := s.completion
    auctionStrategy := 0
    blockOrder := false
    optOutSmartRouting := false
    whatIf := false
    discretionaryUpToLimit := false
    priceManagement := none }

/-- Of the state of an order, only the status is told after its completion. -/
def CompletionSection.state (s : CompletionSection) (st : OrderState) : OrderState :=
  { status := st.status, completedTime := s.completedTime, completedStatus := s.completedStatus }

open Selection

/-- What is kept of the hedge of a volatility order, if there is one. -/
def hedgeLegSelection (hasLeg : Bool) : Selection Unit := do
  let _contractId ← keep (since hasLeg 0 int32)
  let _settlingFirm ← drop (since hasLeg "" string)
  let _clearingAccount ← drop (since hasLeg "" string)
  let _clearingIntent ← drop (since hasLeg "" string)
  let _openClose ← drop (since hasLeg "" string)
  let _shortSale ← keep (since hasLeg false bool)
  let _shortSaleSlot ← keep (since hasLeg 0 int32)
  let _designatedLocation ← keep (since hasLeg "" string)

def volatilitySelection (version : Version) : Selection Unit := do
  let _volatility ← keep float?
  let _volatilityType ← keep int32?
  let hedgeOrderType ← keep (hedgeOrderType newestLayout)
  let _hedgeAuxPrice ← keep float?
  hedgeLegSelection (!hedgeOrderType.isEmpty)
  let _continuousUpdate ← keep bool
  let _range ← keep (secondStockRange version)
  let _referencePriceType ← keep int32?

/-- The status, without margins and commissions. -/
def stateSelection (version : Version) : Selection Unit := do
  let status ← keep string
  let _marginChanges ← drop (marginChanges version { status })
  let _initMarginAfter ← drop string
  let _maintMarginAfter ← drop string
  let _equityWithLoanAfter ← drop string
  let _commission ← drop float?
  let _minCommission ← drop float?
  let _maxCommission ← drop float?
  let _commissionCurrency ← drop string
  let _warningText ← drop string

/-- The fields of an open order that the record of the completed order has too. -/
def orderSelection (version : Version) : Selection Unit := do
  let _orderId ← drop int32
  let _contract ← keep (orderContract newestLayout)
  let terms ← keep (orderTerms newestLayout)
  let _placement ← keep orderPlacement
  let _clientId ← drop int32
  let _exposure ← keep (orderExposure newestLayout)
  let _sharesAllocation ← drop skip
  let _advisor ← keep (advisorAllocation newestLayout)
  let _settlement ← keep (orderSettlement version newestLayout)
  let _shortSale ← keep (shortSale version newestLayout)
  let _auctionStrategy ← drop int32
  let _stockPeg ← keep (stockPeg newestLayout)
  let _displaySize ← keep int32?
  let _blockOrder ← drop bool
  let _fill ← keep (fillRules newestLayout)
  let _threeFlags ← drop (skips 3)
  let _parentId ← drop int32
  let _triggerMethod ← keep triggerMethod
  volatilitySelection version
  let _trail ← keep (trailTerms newestLayout)
  let _basisPoints ← drop float?
  let _basisPointsType ← drop int32?
  let _comboLegs ← keep (comboLegs newestLayout)
  let _routingParams ← keep (routingParams newestLayout)
  let _scale ← keep (scaleTerms newestLayout)
  let _hedge ← keep (hedgeTerms newestLayout)
  let _optOutSmartRouting ← drop bool
  let _clearing ← keep (clearingSection newestLayout)
  let _whatIf ← drop bool
  stateSelection version
  let _randomize ← keep (randomizeFlags newestLayout)
  let _benchmark ← keep (benchmarkPeg version terms.orderType)
  let _conditions ← keep (orderConditions version)
  let _adjustedOrderType ← drop string
  let _triggerPrice ← drop float?
  let _trailStopPrice ← keep float?
  let _limitPriceOffset ← keep float?
  let _adjustedStopPrice ← drop float?
  let _adjustedStopLimitPrice ← drop float?
  let _adjustedTrailingAmount ← drop float?
  let _adjustedTrailingUnit ← drop int32
  let _softDollarTier ← drop softDollarTier
  let _cash ← keep (cashSection version)
  let _discretionaryUpToLimit ← drop (since (version.supports Since.discretionaryPegs) false bool)
  let _priceManagement ← drop (since (version.supports Since.priceManagement) none int32?)

/-- The same of a whole record, whose first field is its kind. -/
def completedSelection (version : Version) : Selection Unit := do
  let _kind ← drop int32
  orderSelection version

variable {version : Version}

theorem projects_hedgeLeg (hasLeg : Bool) :
    Projects [] (deltaNeutralLeg newestLayout true hasLeg) (hedgeLegSelection hasLeg)
      (deltaNeutralLeg newestLayout false hasLeg) fun leg _ leg' => leg' = leg.completed := by
  have h27 : decide (27 ≤ newestLayout) = true := by decide
  have h31 : decide (31 ≤ newestLayout) = true := by decide
  simp only [deltaNeutralLeg, hedgeLegSelection, h27, h31, Bool.true_and, Bool.and_true,
    Bool.and_false]
  refine .keep fun contractId => .drop fun settlingFirm => .drop fun clearingAccount =>
    .drop fun clearingIntent => .drop fun openClose => .keep fun shortSale =>
    .keep fun shortSaleSlot => .keep fun designatedLocation => .done rfl rfl

theorem projects_volatility :
    Projects [] (volatilityTerms version newestLayout true) (volatilitySelection version)
      (volatilityTerms version newestLayout false)
      fun terms _ terms' => terms' = (terms.1.completed, terms.2) := by
  have h11 : decide (11 ≤ newestLayout) = true := by decide
  have hne : decide (newestLayout ≠ 11) = true := by decide
  simp only [volatilityTerms, volatilitySelection, h11, hne, since_true]
  refine .keep fun volatility => .keep fun volatilityType => .keep fun hedgeOrderType =>
    .keep fun hedgeAuxPrice => (projects_hedgeLeg _).bind ?_
  rintro leg _ _ rfl
  exact .keep fun continuousUpdate => .keep fun range => .keep fun referencePriceType =>
    .done rfl rfl

theorem gives_status_marginChanges (state : OrderState) :
    (marginChanges version state).Gives fun state' => state'.status = state.status := by
  unfold marginChanges since
  split
  · exact Gives.bind fun _ => Gives.bind fun _ => Gives.bind fun _ => Gives.bind fun _ =>
      Gives.bind fun _ => Gives.bind fun _ => rfl
  · rfl

/-- What follows the status is dropped; the margins leave it as it was. -/
theorem projects_state :
    Projects [] (orderState version) (stateSelection version) string
      fun state _ status => status = state.status := by
  have hs : (string >>= done) = string := bind_done string
  rw [orderState, stateSelection, ← hs]
  refine .keep fun status => .dropGiven (gives_status_marginChanges _) fun state hstate => ?_
  exact .drop fun initMarginAfter => .drop fun maintMarginAfter => .drop fun equityWithLoanAfter =>
    .drop fun commission => .drop fun minCommission => .drop fun maxCommission =>
    .drop fun commissionCurrency => .drop fun warningText => .done rfl hstate.symm

/-- What the records of an order and of its completion tell. -/
def CompletionSection.Completes (s : CompletionSection) (whole part : Event) : Prop :=
  ∀ orderId contract order state, whole = .openOrder orderId contract order state →
    part = .completedOrder contract (s.order order) (s.state state)

variable {tail : List UInt8} {s : CompletionSection}

/-- Section by section: what both records have is kept, what only an open order has is dropped, and
the fields about the completion are read from the tail. -/
theorem projects_order (hv : Since.orderContainer ≤ version)
    (ht : completionSection.run tail = (.ok s, [])) :
    Projects tail (openOrder version) (orderSelection version) (completedOrder version)
      fun whole _ part => s.Completes whole part := by
  have hl : (34 : Int) ≤ version := Int.le_trans (by decide) hv
  have hn : 34 ≤ newestLayout := by decide
  have hlate : ¬ version < Since.orderContainer := Int.not_lt.mpr hv
  have hpegs : version.supports Since.benchmarkPegs = true :=
    Version.supports_iff _ _ |>.mpr (Int.le_trans (by decide) hv)
  have htiers : version.supports Since.softDollarTiers = true :=
    Version.supports_iff _ _ |>.mpr (Int.le_trans (by decide) hv)
  -- a late layout has every section, and of the adjustment only two fields are kept
  simp (disch := omega) only [openOrder, completedOrder, orderSelection, layoutBefore,
    if_neg hlate, done_bind, since_true, since_false, orderContract_late hl hn,
    orderTerms_late hl hn, orderExposure_late hl hn, advisorAllocation_late hl hn,
    orderSettlement_late hl hn, shortSale_late hl hn, stockPeg_late hl hn, fillRules_late hl hn,
    volatilityTerms_late hl hn, trailTerms_late hl hn, comboLegs_late hl hn,
    routingParams_late hl hn, scaleTerms_late hl hn, hedgeTerms_late hl hn,
    clearingSection_late hl hn, randomizeFlags_late hl hn, decide_eq_true, decide_eq_false,
    Bool.and_false, hpegs, htiers, orderAdjustment, bind_assoc, pure_bind]
  refine .drop fun orderId => .keep fun contract => .keep fun terms => .keep fun placement =>
    .drop fun clientId => .keep fun exposure => .drop fun shares => .keep fun advisor =>
    .keep fun settlement => .keep fun shortSale => .drop fun auctionStrategy =>
    .keep fun stockPeg => .keep fun displaySize => .drop fun blockOrder => .keep fun fill =>
    .drop fun threeFlags => .drop fun parentId => .keep fun triggerMethod =>
    projects_volatility.bind ?_
  rintro volatility _ _ rfl
  refine .keep fun trail => .drop fun basisPoints => .drop fun basisPointsType =>
    .keep fun comboLegs => .keep fun routingParams => .keep fun scale => .keep fun hedge =>
    .drop fun optOutSmartRouting => .keep fun clearing => .drop fun whatIf =>
    projects_state.bind ?_
  rintro state _ _ rfl
  refine .keep fun randomize => .keep fun benchmark => .keep fun conditions =>
    .drop fun orderType => .drop fun triggerPrice => .keep fun trailStopPrice =>
    .keep fun limitPriceOffset => .drop fun stopPrice => .drop fun stopLimitPrice =>
    .drop fun trailingAmount => .drop fun trailingUnit => .drop fun softDollarTier =>
    .keep fun cash => .drop fun discretionaryUpToLimit => .drop fun priceManagement =>
    .done (run_bind_done _ ht) ?_
  rintro _ _ _ _ ⟨⟩
  rfl

/-- The fields of an open order without those that only an open order has, and the fields about
its completion behind them, make the record of the completed order. -/
theorem completed_of_open {payload : List UInt8} {orderId : Int32} {contract : Contract}
    {order : Order} {state : OrderState} {ending : Fields} (hv : Since.orderContainer ≤ version)
    (hd : decode version payload = .ok [.openOrder orderId contract order state])
    (he : completionSection.run (Fields.payload ending) = (.ok s, [])) :
    ∃ fields kept, payload = Fields.payload fields ∧ kept.Sublist fields ∧
      (completedSelection version).run payload = (.ok (kept, ()), []) ∧
      decode version
          (Fields.payload (fieldText RecordKind.completedOrder.code :: (kept ++ ending)))
        = .ok [.completedOrder contract (s.order order) (s.state state)] := by
  obtain ⟨k, hk, hkind⟩ := kind_of_decode hd _ List.mem_cons_self
  obtain rfl := List.mem_singleton.mp hk
  have hi : int32.run payload = (.ok RecordKind.openOrder.code, (int32.run payload).2) :=
    Prod.ext hkind rfl
  obtain ⟨whole, mid, hw, hone⟩ := run_bind_inv ((decode_eq_ok_iff hi).mp hd)
  cases hone
  have hrecord : (int32 >>= fun _ => openOrder version).run payload
      = (.ok (.openOrder orderId contract order state), []) := by
    rw [run_bind_done _ hi, hw]
  have hproj : Projects (Fields.payload ending) (int32 >>= fun _ => openOrder version)
      (completedSelection version) (completedOrder version) fun whole _ part =>
        s.Completes whole part := .drop fun kind => projects_order hv he
  obtain ⟨fields, kept, ⟨⟩, completed, hp, hsub, hsel, hC, hrun⟩ := hproj hrecord
  refine ⟨fields, kept, by rw [hp, List.append_nil], hsub, hsel, ?_⟩
  have hkind' : int32.run (Fields.payload [fieldText RecordKind.completedOrder.code])
      = (.ok RecordKind.completedOrder.code, []) := by rfl
  have hfields : Fields.payload (fieldText RecordKind.completedOrder.code :: (kept ++ ending))
      = Fields.payload [fieldText RecordKind.completedOrder.code]
        ++ (Fields.payload kept ++ Fields.payload ending) := by
    rw [← Fields.payload_append, ← Fields.payload_append]
    rfl
  rw [hfields, decode_eq_ok_iff (run_append _ hkind'), List.nil_append,
    ← hC orderId contract order state rfl]
  exact run_bind_done _ hrun

/-- The record of an open order tells nothing else. -/
theorem exists_openOrder {payload : List UInt8} {es : List Event}
    (hk : (int32.run payload).1 = .ok RecordKind.openOrder.code)
    (hd : decode version payload = .ok es) :
    ∃ orderId contract order state, es = [.openOrder orderId contract order state] := by
  have hi : int32.run payload = (.ok RecordKind.openOrder.code, (int32.run payload).2) :=
    Prod.ext hk rfl
  have hg : (openOrder version).Gives fun e =>
      ∃ orderId contract order state, [e] = [.openOrder orderId contract order state] := by
    unfold openOrder
    repeat refine Gives.bind fun _ => ?_
    exact ⟨_, _, _, _, rfl⟩
  have hone : (events version .openOrder).Gives fun es =>
      ∃ orderId contract order state, es = [.openOrder orderId contract order state] :=
    (gives_bind (openOrder version) _).mpr hg
  exact hone.of_run ((decode_eq_ok_iff hi).mp hd)

theorem exists_eq_ok {ε α : Type} {outcome : Except ε α} (h : outcome.isOk = true) :
    ∃ a, outcome = .ok a := by
  cases outcome with
  | error e => cases h
  | ok a => exact ⟨a, rfl⟩

/-- A volatility order that is hedged by a limit order, with a condition on a price. -/
def openVolatilityOrder : Fields :=
  ["5", "42", "265598", "AAPL", "STK", "", "0", "", "", "SMART", "USD", "AAPL", "NMS", "BUY",
    "100", "VOL", "150.5", "", "DAY", "", "DU123", "", "0", "", "7", "123456", "0", "0", "0", "",
    "", "", "", "", "", "", "", "", "", "", "0", "", "-1", "0", "", "", "", "", "", "", "0", "0",
    "0", "", "3", "0", "0", "", "0", "0", "0.2", "1", "LMT", "1.5", "8314", "FIRM", "ACC", "IB",
    "O", "1", "1", "NY", "0", "", "", "", "", "", "", "0", "0", "0", "", "", "", "", "0", "", "",
    "0", "0", "", "0", "0", "Submitted", "", "", "", "", "", "", "", "", "", "", "", "", "", "",
    "0", "0", "1", "1", "a", "1", "200", "265598", "SMART", "2", "0", "1", "", "", "7.25", "", "",
    "", "", "0", "", "", "", "", "0", "0", "0", ""]

/-- What the record of that order has in common with the record of its completion. -/
def keptOfVolatilityOrder : Fields :=
  ["265598", "AAPL", "STK", "", "0", "", "", "SMART", "USD", "AAPL", "NMS", "BUY", "100", "VOL",
    "150.5", "", "DAY", "", "DU123", "", "0", "", "123456", "0", "0", "0", "", "", "", "", "", "",
    "", "", "", "", "0", "", "-1", "", "", "", "", "", "", "0", "0", "", "3", "0", "0.2", "1",
    "LMT", "1.5", "8314", "1", "1", "NY", "0", "", "", "", "", "0", "0", "0", "", "", "", "", "",
    "", "0", "0", "", "0", "Submitted", "0", "0", "1", "1", "a", "1", "200", "265598", "SMART",
    "2", "0", "1", "7.25", "", "", "0", "0"]

def filledEnding : Fields :=
  ["", "50", "0", "0", "", "0", "0", "0", "20240102 10:00:00", "Filled"]

/-- Once filled, the order keeps its hedge and its condition. -/
theorem completed_of_open_volatilityOrder :
    ∃ orderId contract order state, ∃ s : CompletionSection,
      decode 157 openVolatilityOrder.payload = .ok [.openOrder orderId contract order state] ∧
      completionSection.run filledEnding.payload = (.ok s, []) ∧
      decode 157 (Fields.payload ("101" :: (keptOfVolatilityOrder ++ filledEnding)))
        = .ok [.completedOrder contract (s.order order) (s.state state)] := by
  have hopen : (decode 157 openVolatilityOrder.payload).isOk = true := by decide +kernel
  have hending : (completionSection.run filledEnding.payload).1.isOk = true ∧
      (completionSection.run filledEnding.payload).2 = [] := by decide +kernel
  have hkept : ((completedSelection 157).run openVolatilityOrder.payload).1.toOption
      = some (keptOfVolatilityOrder, ()) := by decide +kernel
  obtain ⟨es, hes⟩ := exists_eq_ok hopen
  obtain ⟨s, hs⟩ := exists_eq_ok hending.1
  have he : completionSection.run filledEnding.payload = (.ok s, []) := Prod.ext hs hending.2
  obtain ⟨orderId, contract, order, state, rfl⟩ := exists_openOrder (by rfl) hes
  obtain ⟨-, kept, -, -, hsel, hcompleted⟩ := completed_of_open (by decide) hes he
  rw [hsel] at hkept
  cases hkept
  exact ⟨orderId, contract, order, state, s, hes, he, hcompleted⟩

end Record
end BrokerLink
