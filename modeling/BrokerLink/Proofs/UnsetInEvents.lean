import BrokerLink.Proofs.ClearedNumbers
import BrokerLink.Proofs.CompletedOrder
import BrokerLink.Proofs.EventKind
import BrokerLink.Proofs.OwnFields

/-!
# Unset numbers of events

A number that is read with the readers of what may be unset is never the one that stands for none.
So no event holds that one, but for the orders of old layouts: they were always sent their two
prices, and one old version of the server sent them a range of stock prices a second time. These
numbers are read as they are.
-/

namespace BrokerLink

/-! ### Events -/

def OrderState.cleared (s : OrderState) : OrderState :=
  { s with
    commission := clearPrice s.commission
    minCommission := clearPrice s.minCommission
    maxCommission := clearPrice s.maxCommission }

def ContractDetails.cleared (d : ContractDetails) : ContractDetails :=
  { d with
    contract := d.contract.cleared
    evMultiplier := clearPrice d.evMultiplier
    sizeMultiplier := clearNumber d.sizeMultiplier
    aggregationGroup := clearNumber d.aggregationGroup }

def ContractDescription.cleared (d : ContractDescription) : ContractDescription :=
  { d with contract := d.contract.cleared }

def Execution.cleared (x : Execution) : Execution :=
  { x with evMultiplier := clearPrice x.evMultiplier }

def CommissionReport.cleared (r : CommissionReport) : CommissionReport :=
  { r with realizedPnl := clearPrice r.realizedPnl, yieldRate := clearPrice r.yieldRate }

def OptionComputation.cleared (v : OptionComputation) : OptionComputation where
  impliedVolatility := clearPrice v.impliedVolatility
  delta := clearPrice v.delta
  price := clearPrice v.price
  dividendValue := clearPrice v.dividendValue
  gamma := clearPrice v.gamma
  vega := clearPrice v.vega
  theta := clearPrice v.theta
  underlyingPrice := clearPrice v.underlyingPrice

def DepthExchange.cleared (x : DepthExchange) : DepthExchange :=
  { x with aggregationGroup := clearNumber x.aggregationGroup }

def Holding.cleared (h : Holding) : Holding := { h with contract := h.contract.cleared }

def ScannerRow.cleared (r : ScannerRow) : ScannerRow := { r with details := r.details.cleared }

def Event.cleared : Event → Event
  | .tickOptionComputation id tick basis values =>
    .tickOptionComputation id tick basis values.cleared
  | .mktDepthExchanges exchanges => .mktDepthExchanges (exchanges.map (·.cleared))
  | .openOrder id contract order state =>
    .openOrder id contract.cleared order.cleared state.cleared
  | .completedOrder contract order state =>
    .completedOrder contract.cleared order.cleared state.cleared
  | .execDetails id contract execution => .execDetails id contract.cleared execution.cleared
  | .commissionReport report => .commissionReport report.cleared
  | .updatePortfolio holding => .updatePortfolio holding.cleared
  | .position account contract held averageCost =>
    .position account contract.cleared held averageCost
  | .positionMulti id account modelCode contract held averageCost =>
    .positionMulti id account modelCode contract.cleared held averageCost
  | .pnl id daily unrealized realized =>
    .pnl id daily (clearPrice unrealized) (clearPrice realized)
  | .pnlSingle id held daily unrealized realized value =>
    .pnlSingle id held daily (clearPrice unrealized) (clearPrice realized) value
  | .contractDetails id details => .contractDetails id details.cleared
  | .bondContractDetails id details => .bondContractDetails id details.cleared
  | .symbolSamples id descriptions => .symbolSamples id (descriptions.map (·.cleared))
  | .scannerData id row => .scannerData id row.cleared
  | e => e

/-! ### Orders of old layouts -/

/-- Before layout 29 the prices are not read as numbers that may be unset. -/
def OrderTerms.clearedIn (layout : Int) (t : OrderTerms) : OrderTerms :=
  if 29 ≤ layout then t.cleared else t

/-- Nor is the second range of stock prices, where there is one. -/
def StockPeg.clearedIn (version : Version) (layout : Int) (p : StockPeg) : StockPeg :=
  if version = 26 ∧ 11 ≤ layout then
    { p.cleared with rangeLower := p.rangeLower, rangeUpper := p.rangeUpper }
  else p.cleared

def Order.clearedIn (version : Version) (layout : Int) (o : Order) : Order :=
  { o.cleared with
    terms := o.terms.clearedIn layout
    stockPeg := o.stockPeg.clearedIn version layout }

/-- The event with its numbers cleared, all but those that are read as they are. A completed order
has the newest layout. -/
def Event.clearedIn (version : Version) (layout : Int) : Event → Event
  | .openOrder id contract order state =>
    .openOrder id contract.cleared (order.clearedIn version layout) state.cleared
  | .completedOrder contract order state =>
    .completedOrder contract.cleared (order.clearedIn version Record.newestLayout) state.cleared
  | e => e.cleared

section
variable {version : Version} {layout : Int} {c : Contract} {o : Order} {s : OrderState}

theorem Event.clearedIn_openOrder {id : Int32} (hc : c.cleared = c)
    (ho : o.clearedIn version layout = o) (hs : s.cleared = s) :
    (openOrder id c o s).clearedIn version layout = openOrder id c o s := by
  rw [clearedIn, hc, ho, hs]

theorem Event.clearedIn_completedOrder (hc : c.cleared = c)
    (ho : o.clearedIn version Record.newestLayout = o) (hs : s.cleared = s) :
    (completedOrder c o s).clearedIn version layout = completedOrder c o s := by
  rw [clearedIn, hc, ho, hs]

end

theorem StockPeg.clearedIn_withRange {version : Version} {layout : Int} {p : StockPeg}
    {range : Option (Binary64 × Binary64)} (hp : p.cleared = p)
    (hr : range.isSome = true → version = 26 ∧ 11 ≤ layout) :
    (p.withRange range).clearedIn version layout = p.withRange range := by
  cases range with
  | none =>
    unfold withRange clearedIn
    split
    · rw [hp]
    · exact hp
  | some bounds =>
    have hstarting : clearPrice p.startingPrice = p.startingPrice := congrArg startingPrice hp
    have hreference : clearPrice p.stockRefPrice = p.stockRefPrice := congrArg stockRefPrice hp
    have hdelta : clearPrice p.delta = p.delta := congrArg delta hp
    unfold clearedIn
    rw [if_pos (hr rfl)]
    simp only [withRange, cleared, hstarting, hreference, hdelta]

/-- An order has nothing to be cleared if none of its groups has. -/
theorem Order.clearedIn_eq_self {version : Version} {layout : Int} {o : Order}
    (hterms : o.terms.clearedIn layout = o.terms)
    (hsettlement : o.settlement.cleared = o.settlement)
    (hpeg : o.stockPeg.clearedIn version layout = o.stockPeg)
    (hfill : o.fill.cleared = o.fill) (hvolatility : o.volatility.cleared = o.volatility)
    (htrail : o.trail.cleared = o.trail) (hcombo : o.combo.cleared = o.combo)
    (hscale : o.scale.cleared = o.scale) (hadjustment : o.adjustment.cleared = o.adjustment)
    (hsize : clearNumber o.displaySize = o.displaySize)
    (hcash : clearPrice o.cashQuantity = o.cashQuantity) :
    o.clearedIn version layout = o := by
  unfold clearedIn cleared
  rw [hterms, hsettlement, hpeg, hfill, hvolatility, htrail, hcombo, hscale, hadjustment, hsize,
    hcash]

/-- The kinds of record that tell numbers that may be unset. -/
def RecordKind.tellsUnset : RecordKind → Bool
  | .tickOptionComputation | .marketDepthExchanges | .openOrder | .completedOrder
  | .executionData | .commissionReport | .portfolioValue | .positionData | .positionMulti
  | .profitAndLoss | .profitAndLossSingle | .contractData | .bondContractData | .symbolSamples
  | .scannerData => true
  | _ => false

/-- Nothing is to be cleared in the events of the other kinds. -/
theorem Event.cleared_of_kind {e : Event} {k : RecordKind} (hk : k ∈ e.kinds)
    (ht : k.tellsUnset = false) : e.cleared = e := by
  cases e <;> first | rfl | (obtain rfl := List.mem_singleton.mp hk; cases ht)

/-! ### Readers -/

namespace Reader

/-- What is read unless it is the number that stands for none is not that number. -/
theorem gives_setUnless {α : Type} [DecidableEq α] (unset : α)
    (parse : String → Except ReadFault α) :
    (parsed (orEmpty none fun s => (parse s).map (setUnless unset))).Gives
      fun x => clear unset x = x := by
  apply gives_parsed
  intro s x hs
  unfold orEmpty at hs
  split at hs
  · cases hs
    rfl
  · dsimp only at hs
    cases ha : parse s with
    | error fault =>
      rw [ha] at hs
      cases hs
    | ok a =>
      rw [ha] at hs
      cases hs
      exact clear_setUnless a

theorem gives_float? : float?.Gives fun x => clearPrice x = x := gives_setUnless _ parseFloat

theorem gives_int32? : int32?.Gives fun n => clearNumber n = n := gives_setUnless _ parseInt32

theorem gives_since_float? (carried : Bool) :
    (since carried none float?).Gives fun x => clearPrice x = x :=
  gives_float?.since rfl carried

theorem gives_since_int32? (carried : Bool) :
    (since carried none int32?).Gives fun n => clearNumber n = n :=
  gives_int32?.since rfl carried

end Reader

namespace Record

open Reader

/-! ### Parts of records -/

theorem gives_contract (carried : ContractLayout) :
    (contract carried).Gives fun c => c.cleared = c := by
  refine .bind fun _ => .bind fun _ => .bind fun _ => .bind fun _ => ?_
  refine gives_float?.andThen fun strike hstrike => ?_
  repeat refine Gives.bind fun _ => ?_
  simp only [pure_eq, gives_done, Contract.cleared, hstrike]

theorem clear_computed (notComputed x : Binary64) :
    clearPrice (computed notComputed x) = computed notComputed x := by
  unfold computed
  split
  · rfl
  · rename_i h
    rw [not_or] at h
    rw [clearPrice, clear_some, if_neg h.2]

theorem gives_priceLike : priceLike.Gives fun x => clearPrice x = x :=
  .bind fun x => clear_computed Binary64.minusOne x

theorem gives_greek : greek.Gives fun x => clearPrice x = x :=
  .bind fun x => clear_computed Binary64.minusTwo x

theorem gives_optionComputation (layout : Int) (tick : TickType) :
    (optionComputation layout tick).Gives fun v => v.cleared = v := by
  refine gives_priceLike.andThen fun _ hvolatility => gives_greek.andThen fun _ hdelta => ?_
  refine (gives_priceLike.since rfl _).andThen fun _ hprice => ?_
  refine (gives_priceLike.since rfl _).andThen fun _ hdividend => ?_
  refine (gives_greek.since rfl _).andThen fun _ hgamma => ?_
  refine (gives_greek.since rfl _).andThen fun _ hvega => ?_
  refine (gives_greek.since rfl _).andThen fun _ htheta => ?_
  refine (gives_priceLike.since rfl _).andThen fun _ hunderlying => ?_
  simp only [pure_eq, gives_done, OptionComputation.cleared, hvolatility, hdelta, hprice,
    hdividend, hgamma, hvega, htheta, hunderlying]

theorem gives_depthExchange (version : Version) :
    (depthExchange version).Gives fun x => x.cleared = x := by
  refine .bind fun _ => .bind fun _ => ?_
  split
  · refine .bind fun _ => .bind fun _ => gives_int32?.andThen fun _ hgroup => ?_
    simp only [pure_eq, gives_done, DepthExchange.cleared, hgroup]
  · exact .bind fun _ => rfl

theorem gives_execution (version : Version) (layout : Int) (orderId : Int32) :
    (execution version layout orderId).Gives fun x => x.cleared = x := by
  iterate 14 refine Gives.bind fun _ => ?_
  refine (gives_since_float? _).andThen fun _ hmultiplier => .bind fun _ => .bind fun _ => ?_
  simp only [pure_eq, gives_done, Execution.cleared, hmultiplier]

theorem gives_scannerRow (layout : Int) :
    (scannerRow layout).Gives fun r => r.cleared = r := by
  iterate 5 refine Gives.bind fun _ => ?_
  refine gives_float?.andThen fun _ hstrike => ?_
  repeat refine Gives.bind fun _ => ?_
  simp only [pure_eq, gives_done, ScannerRow.cleared, ContractDetails.cleared, Contract.cleared,
    hstrike]
  rfl

/-! ### Sections of orders -/

theorem gives_orderPrice (layout : Int) :
    (orderPrice layout).Gives fun x => 29 ≤ layout → clearPrice x = x := by
  unfold orderPrice
  split
  · refine .bind fun x => ?_
    intro h
    omega
  · exact gives_float?.imp fun x hx _ => hx

theorem gives_orderTerms (layout : Int) :
    (orderTerms layout).Gives fun t => t.clearedIn layout = t := by
  refine .bind fun _ => .bind fun _ => .bind fun _ => ?_
  refine (gives_orderPrice layout).andThen fun _ hlimit => ?_
  refine (gives_orderPrice layout).andThen fun _ haux => ?_
  simp only [pure_eq, gives_done, OrderTerms.clearedIn]
  split
  · rename_i h
    simp only [OrderTerms.cleared, hlimit h, haux h]
  · rfl

theorem gives_orderSettlement (version : Version) (layout : Int) :
    (orderSettlement version layout).Gives fun s => s.cleared = s := by
  refine .bind fun _ => .bind fun _ => .bind fun _ => ?_
  refine (gives_since_float? _).andThen fun _ hoffset => .bind fun _ => ?_
  simp only [pure_eq, gives_done, OrderSettlement.cleared, hoffset]

theorem gives_stockPeg (layout : Int) : (stockPeg layout).Gives fun p => p.cleared = p := by
  unfold stockPeg
  refine Gives.since ?_ ?_ _
  · refine gives_float?.andThen fun _ hstarting => gives_float?.andThen fun _ hreference => ?_
    refine gives_float?.andThen fun _ hdelta => gives_float?.andThen fun _ hlower => ?_
    refine gives_float?.andThen fun _ hupper => ?_
    simp only [pure_eq, gives_done, StockPeg.cleared, hstarting, hreference, hdelta, hlower,
      hupper]
  · rfl

theorem gives_fillRules (layout : Int) : (fillRules layout).Gives fun r => r.cleared = r := by
  unfold fillRules
  refine Gives.since ?_ ?_ _
  · refine .bind fun _ => .bind fun _ => gives_int32?.andThen fun _ hminimum => .bind fun _ => ?_
    simp only [pure_eq, gives_done, FillRules.cleared, hminimum]
  · rfl

/-- One old version of the server sends a second range with every volatility order. -/
theorem gives_secondStockRange (version : Version) :
    (secondStockRange version).Gives fun range => range.isSome = true → version = 26 := by
  unfold secondStockRange
  by_cases h : version = 26
  · exact .of_forall (fun _ _ => h) _
  · rw [decide_eq_false h]
    exact fun hs => absurd hs (by decide)

theorem gives_volatilityTerms (version : Version) (layout : Int) (isOpen : Bool) :
    (volatilityTerms version layout isOpen).Gives fun part =>
      part.1.cleared = part.1 ∧ (part.2.isSome = true → version = 26 ∧ 11 ≤ layout) := by
  unfold volatilityTerms
  by_cases hl : 11 ≤ layout
  · rw [decide_eq_true hl, since_true]
    refine gives_float?.andThen fun _ hvolatility => gives_int32?.andThen fun _ htype => ?_
    refine .bind fun _ => (gives_since_float? _).andThen fun _ hprice => ?_
    refine .bind fun _ => .bind fun _ => ?_
    refine (gives_secondStockRange version).andThen fun _ hrange => ?_
    refine gives_int32?.andThen fun _ hreference => ?_
    refine ⟨?_, fun hs => ⟨hrange hs, hl⟩⟩
    simp only [VolatilityTerms.cleared, hvolatility, htype, hprice, hreference]
  · rw [decide_eq_false hl, since_false]
    exact ⟨rfl, fun hs => absurd hs (by decide)⟩

theorem gives_trailTerms (layout : Int) : (trailTerms layout).Gives fun t => t.cleared = t := by
  refine (gives_since_float? _).andThen fun _ hstop => ?_
  refine (gives_since_float? _).andThen fun _ hpercent => ?_
  simp only [pure_eq, gives_done, TrailTerms.cleared, hstop, hpercent]

theorem gives_comboLegPrice : comboLegPrice.Gives fun p => p.cleared = p := by
  refine gives_float?.andThen fun _ hprice => ?_
  simp only [pure_eq, gives_done, ComboLegPrice.cleared, hprice]

theorem map_eq_self {α : Type} {clearAll : α → α} {as : List α}
    (h : ∀ a ∈ as, clearAll a = a) : as.map clearAll = as := by
  rw [List.map_congr_left h, List.map_id']

theorem gives_comboLegs (layout : Int) :
    (comboLegs layout).Gives fun part => part.2.2.map (·.cleared) = part.2.2 := by
  refine .bind fun _ => .bind fun _ => ?_
  refine (gives_comboLegPrice.list.since (List.forall_mem_nil _) _).andThen fun prices hprices => ?_
  exact map_eq_self hprices

theorem gives_scaleExtension : scaleExtension.Gives fun e => e.cleared = e := by
  refine gives_float?.andThen fun _ hvalue => gives_int32?.andThen fun _ hinterval => ?_
  refine gives_float?.andThen fun _ hoffset => .bind fun _ => ?_
  refine gives_int32?.andThen fun _ hposition => gives_int32?.andThen fun _ hfill => ?_
  refine .bind fun _ => ?_
  simp only [pure_eq, gives_done, ScaleExtension.cleared, hvalue, hinterval, hoffset, hposition,
    hfill]

theorem gives_scaleLevels (layout : Int) :
    (scaleLevels layout).Gives fun sizes =>
      clearNumber sizes.1 = sizes.1 ∧ clearNumber sizes.2 = sizes.2 := by
  unfold scaleLevels
  split
  · exact gives_int32?.andThen fun _ hinitial => gives_int32?.andThen fun _ hsubsequent =>
      ⟨hinitial, hsubsequent⟩
  · exact .bind fun _ => gives_int32?.andThen fun _ hinitial => ⟨hinitial, rfl⟩

theorem gives_scaleTerms (layout : Int) : (scaleTerms layout).Gives fun t => t.cleared = t := by
  unfold scaleTerms
  refine Gives.since ?_ ?_ _
  · refine (gives_scaleLevels layout).andThen fun _ hlevels => ?_
    refine gives_float?.andThen fun _ hincrement => ?_
    refine (gives_scaleExtension.since rfl _).andThen fun _ hextension => ?_
    simp only [pure_eq, gives_done, ScaleTerms.cleared, hlevels, hincrement, hextension]
  · rfl

theorem gives_orderState (version : Version) :
    (orderState version).Gives fun s => s.cleared = s := by
  iterate 5 refine Gives.bind fun _ => ?_
  refine gives_float?.andThen fun _ hcommission => gives_float?.andThen fun _ hmin => ?_
  refine gives_float?.andThen fun _ hmax => .bind fun _ => .bind fun _ => ?_
  simp only [pure_eq, gives_done, OrderState.cleared, hcommission, hmin, hmax]

theorem gives_orderAdjustment :
    orderAdjustment.Gives fun part => part.1.cleared = part.1 ∧ clearPrice part.2 = part.2 := by
  refine .bind fun _ => gives_float?.andThen fun _ htrigger => ?_
  refine gives_float?.andThen fun _ htrail => gives_float?.andThen fun _ hoffset => ?_
  refine gives_float?.andThen fun _ hstop => gives_float?.andThen fun _ hlimit => ?_
  refine gives_float?.andThen fun _ hamount => .bind fun _ => ⟨?_, htrail⟩
  simp only [OrderAdjustment.cleared, htrigger, hoffset, hstop, hlimit, hamount]

theorem gives_cashSection (version : Version) :
    (cashSection version).Gives fun part => clearPrice part.1 = part.1 :=
  (gives_since_float? _).andThen fun _ hcash => .bind fun _ => .bind fun _ => hcash

/-! ### Orders -/

variable {version : Version}

theorem clearedIn_of_openOrder {bs rest : List UInt8} {e : Event}
    (h : (openOrder version).run bs = (.ok e, rest)) :
    ∃ layout mid, (layoutBefore version Since.orderContainer version).run bs = (.ok layout, mid) ∧
      e.clearedIn version layout = e := by
  unfold openOrder at h
  obtain ⟨layout, mid, hl, h⟩ := run_bind_inv h
  refine ⟨layout, mid, hl, Gives.of_run (P := fun e => e.clearedIn version layout = e) ?_ h⟩
  refine .bind fun orderId => (gives_contract _).andThen fun contract hcontract => ?_
  refine (gives_orderTerms layout).andThen fun terms hterms => ?_
  iterate 5 refine Gives.bind fun _ => ?_
  refine (gives_orderSettlement version layout).andThen fun settlement hsettlement => ?_
  refine .bind fun _ => .bind fun _ => (gives_stockPeg layout).andThen fun peg hpeg => ?_
  refine (gives_since_int32? _).andThen fun displaySize hsize => .bind fun _ => .bind fun _ => ?_
  refine (gives_fillRules layout).andThen fun fill hfill => ?_
  iterate 3 refine Gives.bind fun _ => ?_
  refine (gives_volatilityTerms version layout true).andThen fun volatility hvolatility => ?_
  refine (gives_trailTerms layout).andThen fun trail htrail => ?_
  refine (gives_since_float? _).andThen fun basisPoints hbasis => ?_
  refine (gives_since_int32? _).andThen fun basisPointsType htype => ?_
  refine (gives_comboLegs layout).andThen fun legs hlegs => .bind fun _ => ?_
  refine (gives_scaleTerms layout).andThen fun scale hscale => ?_
  iterate 4 refine Gives.bind fun _ => ?_
  refine ((gives_orderState version).since rfl _).andThen fun state hstate => ?_
  iterate 3 refine Gives.bind fun _ => ?_
  have hstop : clearPrice trail.stopPrice = trail.stopPrice := congrArg TrailTerms.stopPrice htrail
  refine (gives_orderAdjustment.since ⟨rfl, hstop⟩ _).andThen fun adjustment hadjustment => ?_
  refine .bind fun _ => (gives_cashSection version).andThen fun cash hcash => ?_
  refine .bind fun _ => .bind fun _ => ?_
  have hstrike : clearPrice contract.strike = contract.strike := congrArg Contract.strike hcontract
  have hpercent : clearPrice trail.percent = trail.percent := congrArg TrailTerms.percent htrail
  refine Event.clearedIn_openOrder ?_ (Order.clearedIn_eq_self hterms hsettlement
    (StockPeg.clearedIn_withRange hpeg hvolatility.2) hfill hvolatility.1 ?_ ?_ hscale
    hadjustment.1 hsize hcash) hstate
  · simp only [Contract.cleared, hstrike]
  · simp only [TrailTerms.cleared, hadjustment.2, hpercent]
  · simp only [ComboTerms.cleared, hbasis, htype, hlegs]

theorem gives_completedOrder (layout : Int) :
    (completedOrder version).Gives fun e => e.clearedIn version layout = e := by
  refine (gives_contract _).andThen fun contract hcontract => ?_
  refine (gives_orderTerms newestLayout).andThen fun terms hterms => ?_
  iterate 3 refine Gives.bind fun _ => ?_
  refine (gives_orderSettlement version newestLayout).andThen fun settlement hsettlement => ?_
  refine .bind fun _ => (gives_stockPeg newestLayout).andThen fun peg hpeg => ?_
  refine gives_int32?.andThen fun displaySize hsize => ?_
  refine (gives_fillRules newestLayout).andThen fun fill hfill => .bind fun _ => ?_
  refine (gives_volatilityTerms version newestLayout false).andThen fun volatility hvolatility => ?_
  refine (gives_trailTerms newestLayout).andThen fun trail htrail => ?_
  refine (gives_comboLegs newestLayout).andThen fun legs hlegs => .bind fun _ => ?_
  refine (gives_scaleTerms newestLayout).andThen fun scale hscale => ?_
  iterate 6 refine Gives.bind fun _ => ?_
  refine gives_float?.andThen fun stopPrice hstop => gives_float?.andThen fun offset hoffset => ?_
  refine (gives_cashSection version).andThen fun cash hcash => .bind fun _ => ?_
  have hstrike : clearPrice contract.strike = contract.strike := congrArg Contract.strike hcontract
  have hpercent : clearPrice trail.percent = trail.percent := congrArg TrailTerms.percent htrail
  refine Event.clearedIn_completedOrder ?_ (Order.clearedIn_eq_self hterms hsettlement
    (StockPeg.clearedIn_withRange hpeg hvolatility.2) hfill hvolatility.1 ?_ ?_ hscale ?_ hsize
    hcash) rfl
  · simp only [Contract.cleared, hstrike]
  · simp only [TrailTerms.cleared, hstop, hpercent]
  · simp only [ComboTerms.cleared, hlegs, clear_none]
  · simp only [OrderAdjustment.cleared, hoffset, clear_none]

/-! ### All records -/

theorem gives_contractData (version : Version) :
    (contractData version).Gives fun e => e.cleared = e := by
  iterate 5 refine Gives.bind fun _ => ?_
  refine gives_float?.andThen fun strike hstrike => ?_
  iterate 8 refine Gives.bind fun _ => ?_
  refine (gives_since_int32? _).andThen fun size hsize => ?_
  iterate 15 refine Gives.bind fun _ => ?_
  refine (gives_since_float? _).andThen fun multiplier hmultiplier => .bind fun _ => ?_
  refine (gives_since_int32? _).andThen fun group hgroup => ?_
  repeat refine Gives.bind fun _ => ?_
  simp only [pure_eq, gives_done, Event.cleared, ContractDetails.cleared, Contract.cleared,
    hstrike, hsize, hmultiplier, hgroup]

theorem gives_bondContractData (version : Version) :
    (bondContractData version).Gives fun e => e.cleared = e := by
  iterate 21 refine Gives.bind fun _ => ?_
  refine (gives_since_int32? _).andThen fun size hsize => ?_
  iterate 8 refine Gives.bind fun _ => ?_
  refine (gives_since_float? _).andThen fun multiplier hmultiplier => .bind fun _ => ?_
  refine (gives_since_int32? _).andThen fun group hgroup => .bind fun _ => ?_
  simp only [pure_eq, gives_done, Event.cleared, ContractDetails.cleared, Contract.cleared,
    clear_none, hsize, hmultiplier, hgroup]

theorem gives_contractDescription : contractDescription.Gives fun d => d.cleared = d := by
  iterate 6 refine Gives.bind fun _ => ?_
  rfl

/-- In the records of all other kinds every number that may be unset is read as one. -/
theorem gives_cleared (version : Version) {k : RecordKind} (ho : k ≠ .openOrder)
    (hc : k ≠ .completedOrder) :
    (events version k).Gives fun es => ∀ e ∈ es, e.cleared = e := by
  cases ht : k.tellsUnset with
  | false => exact (gives_kind version k).imp fun es hes e he => Event.cleared_of_kind (hes e he) ht
  | true =>
    cases k
    case openOrder => exact absurd rfl ho
    case completedOrder => exact absurd rfl hc
    case contractData => exact gives_one (gives_contractData version)
    case bondContractData => exact gives_one (gives_bondContractData version)
    case tickOptionComputation =>
      refine gives_one (.bind fun layout => .bind fun _ => .bind fun tick => ?_)
      refine .bind fun _ => ?_
      refine (gives_optionComputation layout tick).andThen fun values hvalues => ?_
      exact congrArg _ hvalues
    case marketDepthExchanges =>
      refine gives_one ((gives_depthExchange version).list.andThen fun xs hxs => ?_)
      exact congrArg Event.mktDepthExchanges (map_eq_self hxs)
    case executionData =>
      refine gives_one (.bind fun layout => .bind fun _ => .bind fun orderId => ?_)
      refine (gives_contract _).andThen fun contract hcontract => ?_
      refine (gives_execution version layout orderId).andThen fun execution hexecution => ?_
      simp only [pure_eq, gives_done, Event.cleared, hcontract, hexecution]
    case commissionReport =>
      refine gives_one (.bind fun _ => .bind fun _ => .bind fun _ => .bind fun _ => ?_)
      refine gives_float?.andThen fun _ hrealized => gives_float?.andThen fun _ hyield => ?_
      refine .bind fun _ => ?_
      simp only [pure_eq, gives_done, Event.cleared, CommissionReport.cleared, hrealized, hyield]
    case portfolioValue =>
      refine gives_one (.bind fun _ => (gives_contract _).andThen fun _ hcontract => ?_)
      repeat refine Gives.bind fun _ => ?_
      simp only [pure_eq, gives_done, Event.cleared, Holding.cleared, hcontract]
    case positionData =>
      refine gives_one (.bind fun _ => .bind fun _ => ?_)
      refine (gives_contract _).andThen fun _ hcontract => .bind fun _ => .bind fun _ => ?_
      simp only [pure_eq, gives_done, Event.cleared, hcontract]
    case positionMulti =>
      refine gives_one (.bind fun _ => .bind fun _ => ?_)
      refine (gives_contract _).andThen fun _ hcontract => ?_
      refine .bind fun _ => .bind fun _ => .bind fun _ => ?_
      simp only [pure_eq, gives_done, Event.cleared, hcontract]
    case profitAndLoss =>
      refine gives_one (.bind fun _ => .bind fun _ => ?_)
      refine (gives_since_float? _).andThen fun _ hunrealized => ?_
      refine (gives_since_float? _).andThen fun _ hrealized => ?_
      simp only [pure_eq, gives_done, Event.cleared, hunrealized, hrealized]
    case profitAndLossSingle =>
      refine gives_one (.bind fun _ => .bind fun _ => .bind fun _ => ?_)
      refine (gives_since_float? _).andThen fun _ hunrealized => ?_
      refine (gives_since_float? _).andThen fun _ hrealized => .bind fun _ => ?_
      simp only [pure_eq, gives_done, Event.cleared, hunrealized, hrealized]
    case symbolSamples =>
      refine gives_one (.bind fun _ => ?_)
      refine gives_contractDescription.list.andThen fun ds hds => ?_
      exact congrArg (Event.symbolSamples _) (map_eq_self hds)
    case scannerData =>
      refine .bind fun layout => .bind fun id => ?_
      refine (gives_scannerRow layout).list.andThen fun rows hrows => ?_
      intro e he
      rcases List.mem_append.mp he with hrow | hend
      · obtain ⟨row, hr, rfl⟩ := List.mem_map.mp hrow
        exact congrArg (Event.scannerData id) (hrows row hr)
      · obtain rfl := List.mem_singleton.mp hend
        rfl
    all_goals cases ht

/-- The layout of an open order, which follows the kind of its record. Where there is none, every
field is there. -/
def orderLayout (version : Version) (payload : List UInt8) : Int :=
  match (int32 >>= fun _ => layoutBefore version Since.orderContainer version).run payload with
  | (.ok layout, _) => layout
  | (.error _, _) => newestLayout

theorem orderLayout_eq {payload rest mid : List UInt8} {kind : Int32} {layout : Int}
    (hi : int32.run payload = (.ok kind, rest))
    (hl : (layoutBefore version Since.orderContainer version).run rest = (.ok layout, mid)) :
    orderLayout version payload = layout := by
  unfold orderLayout
  rw [run_bind_done _ hi, hl]

/-- Servers that leave the layout out send every field. -/
theorem le_orderLayout {payload rest : List UInt8} {kind : Int32}
    (hi : int32.run payload = (.ok kind, rest))
    (hv : version.supports Since.orderContainer = true) : 29 ≤ orderLayout version payload := by
  have hge : Since.orderContainer ≤ version := of_decide_eq_true hv
  have hl : (layoutBefore version Since.orderContainer version).run rest = (.ok version, rest) := by
    rw [layoutBefore, if_neg (Int.not_lt.mpr hge), run_done]
  have hsince : (29 : Int) ≤ Since.orderContainer := by decide
  rw [orderLayout_eq hi hl]
  exact Int.le_trans hsince hge

theorem clearedIn_of_cleared {k : RecordKind} {layout : Int} {e : Event} (h : e.cleared = e)
    (hk : k ∈ e.kinds) (ho : k ≠ .openOrder) (hc : k ≠ .completedOrder) :
    e.clearedIn version layout = e := by
  cases e
  case openOrder id c o s => exact absurd (List.mem_singleton.mp hk) ho
  case completedOrder c o s => exact absurd (List.mem_singleton.mp hk) hc
  all_goals exact h

theorem clearedIn_eq_cleared {layout : Int} (hl : 29 ≤ layout) (hv : version ≠ 26) (e : Event) :
    e.clearedIn version layout = e.cleared := by
  have horder : ∀ (n : Int) (o : Order), 29 ≤ n → o.clearedIn version n = o.cleared := by
    intro n o hn
    rw [Order.clearedIn, OrderTerms.clearedIn, if_pos hn, StockPeg.clearedIn,
      if_neg fun h => hv h.1]
    rfl
  cases e
  case openOrder id c o s => rw [Event.clearedIn, horder layout o hl, Event.cleared]
  case completedOrder c o s =>
    rw [Event.clearedIn, horder newestLayout o (by decide), Event.cleared]
  all_goals rfl

theorem clearedIn_of_decode {payload : List UInt8} {es : List Event}
    (h : decode version payload = .ok es) :
    ∀ e ∈ es, e.clearedIn version (orderLayout version payload) = e := by
  intro e he
  obtain ⟨k, -, hk⟩ := kind_of_decode h e he
  have hi : int32.run payload = (.ok k.code, (int32.run payload).2) := Prod.ext hk rfl
  have hr := (decode_eq_ok_iff hi).mp h
  have hkind : k ∈ e.kinds := (gives_kind version k).of_run hr e he
  by_cases ho : k = .openOrder
  · subst ho
    obtain ⟨order, mid, horder, hone⟩ := run_bind_inv hr
    cases hone
    obtain rfl := List.mem_singleton.mp he
    obtain ⟨layout, mid', hl, hcleared⟩ := clearedIn_of_openOrder horder
    rw [orderLayout_eq hi hl]
    exact hcleared
  · by_cases hc : k = .completedOrder
    · subst hc
      obtain ⟨order, mid, horder, hone⟩ := run_bind_inv hr
      cases hone
      obtain rfl := List.mem_singleton.mp he
      exact (gives_completedOrder _).of_run horder
    · exact clearedIn_of_cleared ((gives_cleared version ho hc).of_run hr e he) hkind ho hc

/-- A number that stands for none is told by no record but that of an order: if its layout is an old
one, as one of its two prices, and from servers of version 26 as a bound of its range of stock
prices. Servers that leave the layout out never make one be told. -/
theorem unset_told_only_in_old_orders {payload : List UInt8} {es : List Event}
    (h : decode version payload = .ok es) :
    (∀ e ∈ es, e.clearedIn version (orderLayout version payload) = e) ∧
    (29 ≤ orderLayout version payload → version ≠ 26 → ∀ e ∈ es, e.cleared = e) ∧
    (version.supports Since.orderContainer = true → ∀ e ∈ es, e.cleared = e) := by
  have hread := clearedIn_of_decode h
  have hlate : 29 ≤ orderLayout version payload → version ≠ 26 → ∀ e ∈ es, e.cleared = e := by
    intro hl hv e he
    rw [← clearedIn_eq_cleared hl hv e]
    exact hread e he
  refine ⟨hread, hlate, ?_⟩
  intro hv
  obtain ⟨kind, rest, hi⟩ := exists_kind h
  apply hlate (le_orderLayout hi hv)
  rintro rfl
  exact absurd hv (by decide)

/-- A profit that is only known in part. -/
def partialProfit : List UInt8 :=
  Fields.payload ["94", "9", "1.5", "1.7976931348623157e308", "2"]

theorem unset_told_only_in_old_orders_profit :
    ∃ es, decode 157 partialProfit = .ok es ∧ ∀ e ∈ es, e.cleared = e := by
  have hd : ∃ es, decode 157 partialProfit = .ok es := ⟨_, by rfl⟩
  obtain ⟨es, hes⟩ := hd
  exact ⟨es, hes, (unset_told_only_in_old_orders hes).2.2 (by decide)⟩

/-- An order of the first layout, which has a limit price that stands for none. -/
def oldOrder : List UInt8 :=
  Fields.payload ["5", "1", "7", "IBM", "STK", "", "", "", "SMART", "USD", "BUY", "100", "LMT",
    "1.7976931348623157e308", "", "DAY", "", "", "", "0", ""]

/-- The limit price of an open order. -/
def limitPrice? : Event → Option Binary64
  | .openOrder _ _ order _ => order.terms.limitPrice
  | _ => none

theorem largest_limitPrice_is_told :
    ∃ id c o s, decode 100 oldOrder = .ok [.openOrder id c o s] ∧
      o.terms.limitPrice = some Binary64.largest ∧
      (Event.openOrder id c o s).cleared ≠ .openOrder id c o s := by
  have hprice : (decode 100 oldOrder).toOption.map (·.map limitPrice?)
      = some [some Binary64.largest] := by decide +kernel
  have hd : (decode 100 oldOrder).isOk = true := by decide +kernel
  obtain ⟨es, hes⟩ := exists_eq_ok hd
  obtain ⟨id, c, o, s, rfl⟩ := exists_openOrder (by rfl) hes
  rw [hes] at hprice
  have hlimit : o.terms.limitPrice = some Binary64.largest :=
    List.head_eq_of_cons_eq (Option.some.inj hprice)
  refine ⟨id, c, o, s, hes, hlimit, ?_⟩
  intro hcleared
  have horder : o.cleared = o := (Event.openOrder.inj hcleared).2.2.1
  have hset : clearPrice o.terms.limitPrice = o.terms.limitPrice :=
    congrArg (fun o => o.terms.limitPrice) horder
  exact clear_eq_self_iff.mp hset hlimit

end Record
end BrokerLink
