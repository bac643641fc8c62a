import BrokerLink.Proofs.PlacedAlike

/-!
# Alike is the same fields

Orders that are alike at a version make the same fields there, so being alike says
neither more nor less than that: sections of equal texts are equal.
-/

namespace BrokerLink

variable {version : Version}

theorem ifSupported_congr {carried : Bool} {f g : Fields} (h : carried = true → f = g) :
    ifSupported carried f = ifSupported carried g := by
  cases carried with
  | true => exact congrArg _ (h rfl)
  | false => rfl

theorem leftOut_congr {isEmpty : Bool} {f g : Fields} (h : isEmpty = false → f = g) :
    (if isEmpty then [] else f) = if isEmpty then [] else g := by
  cases isEmpty with
  | true => rfl
  | false => exact h rfl

theorem ifSupported_cons {carried : Bool} {a b : String} {f g : Fields}
    (h : carried = true → a = b) (h' : ifSupported carried f = ifSupported carried g) :
    ifSupported carried (a :: f) = ifSupported carried (b :: g) := by
  cases carried with
  | true => exact congrArg₂ List.cons (h rfl) h'
  | false => rfl

theorem ifSupported_single {carried : Bool} {a b : String} (h : carried = true → a = b) :
    ifSupported carried [a] = ifSupported carried [b] := ifSupported_cons h rfl

theorem flatMap_eq_of_forall₂ {α : Type} {R : α → α → Prop} {write : α → Fields}
    (hw : ∀ a b, R a b → write a = write b) {as bs : List α} (h : List.Forall₂ R as bs) :
    as.flatMap write = bs.flatMap write := by
  induction h with
  | nil => rfl
  | cons hab _ ih => rw [List.flatMap_cons, List.flatMap_cons, hw _ _ hab, ih]

theorem map_eq_of_forall₂ {α : Type} {text : α → String} {as bs : List α}
    (h : List.Forall₂ (fun a b => text a = text b) as bs) : as.map text = bs.map text := by
  induction h with
  | nil => rfl
  | cons hab _ ih => rw [List.map_cons, List.map_cons, hab, ih]

theorem Contract.Alike.orderFields_eq {c c' : Contract} (h : c.Alike version c') :
    c.orderFields version = c'.orderFields version := by
  have hid := ifSupported_single h.contractId
  have hclass := ifSupported_single h.tradingClass
  have hsec := ifSupported_cons h.secIdType (ifSupported_single h.secId)
  unfold orderFields fields
  dsimp only
  rw [hid, hclass, hsec, h.symbol, h.secType, h.lastTradeDate, h.strike, h.right, h.multiplier,
    h.exchange, h.primaryExchange, h.currency, h.localSymbol]

theorem OrderTerms.Alike.fields_eq {t t' : OrderTerms} (h : t.Alike version t') :
    t.fields version = t'.fields version := by
  unfold fields
  rw [h.action, h.quantity, h.orderType, h.limitPrice, h.auxPrice]

theorem ComboLeg.Alike.orderFields_eq {l l' : ComboLeg} (h : l.Alike version l') :
    l.orderFields version = l'.orderFields version := by
  have he := ifSupported_single h.exemptCode
  unfold orderFields
  rw [he, h.contractId, h.ratio, h.action, h.exchange, h.openClose, h.shortSaleSlot,
    h.designatedLocation]

theorem ComboTerms.Alike.fields_eq {legs legs' : List ComboLeg} {t t' : ComboTerms}
    (h : t.Alike version legs legs' t') : t.fields version legs = t'.fields version legs' := by
  have hlegs : legs.flatMap (·.orderFields version) = legs'.flatMap (·.orderFields version) :=
    flatMap_eq_of_forall₂ (fun _ _ hl => hl.orderFields_eq) h.legs
  have hprices := ifSupported_cons (a := fieldText t.legPrices.length)
    (fun hs => by rw [(h.prices hs).length_eq])
    (ifSupported_congr fun hs => map_eq_of_forall₂ (h.prices hs))
  have hparams := ifSupported_congr fun hs => congrArg TagValue.pairs (h.params hs)
  unfold fields
  rw [h.legs.length_eq, hlegs, hprices, hparams]

theorem ShortSale.Alike.fields_eq {s s' : ShortSale} (h : s.Alike version s') :
    s.fields version = s'.fields version := by
  have he := ifSupported_single h.exemptCode
  unfold fields
  rw [he, h.slot, h.designatedLocation]

theorem DeltaNeutralLeg.Alike.fields_eq {l l' : DeltaNeutralLeg} (h : l.Alike version l') :
    l.fields version = l'.fields version := by
  have hid := ifSupported_cons h.contractId (ifSupported_cons h.settlingFirm
    (ifSupported_cons h.clearingAccount (ifSupported_single h.clearingIntent)))
  have hopen := ifSupported_cons h.openClose (ifSupported_cons h.shortSale
    (ifSupported_cons h.shortSaleSlot (ifSupported_single h.designatedLocation)))
  unfold fields
  rw [hid, hopen]

theorem VolatilityTerms.Alike.fields_eq {t t' : VolatilityTerms} (h : t.Alike version t') :
    t.fields version = t'.fields version := by
  have hleg := leftOut_congr fun he => (h.deltaNeutralLeg he).fields_eq
  unfold fields
  rw [hleg, h.volatility, h.volatilityType, h.deltaNeutralAuxPrice, h.continuousUpdate,
    h.referencePriceType, h.deltaNeutralOrderType]

theorem TrailTerms.Alike.fields_eq {t t' : TrailTerms} (h : t.Alike version t') :
    t.fields version = t'.fields version := by
  have hp := ifSupported_single h.percent
  unfold fields
  rw [h.stopPrice, hp]

theorem ScaleTerms.Alike.fields_eq {t t' : ScaleTerms} (h : t.Alike version t') :
    t.fields version = t'.fields version := by
  have hlevels : t.levelFields version = t'.levelFields version := by
    unfold levelFields
    split
    · rename_i hs
      rw [h.initLevelSize, h.subsLevelSize hs]
    · rw [h.initLevelSize]
  have hext : ifSupported (version.supports Since.scaleExtension && t.hasExtension)
      t.extension.fields
      = ifSupported (version.supports Since.scaleExtension && t'.hasExtension)
        t'.extension.fields := by
    rw [← h.hasExtension]
    apply ifSupported_congr
    rw [Bool.and_eq_true]
    rintro ⟨hs, hx⟩
    exact h.extension hs hx
  have htable := ifSupported_cons h.table
    (ifSupported_cons h.activeStartTime (ifSupported_single h.activeStopTime))
  unfold fields extendedFields
  rw [hlevels, h.priceIncrement, hext, htable]

theorem HedgeTerms.Alike.fields_eq {t t' : HedgeTerms}
    (h : version.supports Since.hedgeOrders = true → t.Alike t') :
    t.fields version = t'.fields version := by
  apply ifSupported_congr
  intro hs
  have hparam := leftOut_congr fun he => congrArg (fun s => [s]) ((h hs).param he)
  rw [hparam, (h hs).kind]

theorem AlgoTerms.Alike.fields_eq {t t' : AlgoTerms}
    (h : version.supports Since.algoOrders = true → t.Alike t') :
    t.fields version = t'.fields version := by
  apply ifSupported_congr
  intro hs
  have hparams := leftOut_congr fun he => congrArg TagValue.pairs ((h hs).params he)
  unfold strategyFields
  rw [hparams, (h hs).strategy]

theorem OrderConditions.Alike.fields_eq {k k' : OrderConditions} (h : k.Alike k') :
    k.fields = k'.fields := by
  have hlist : k.conditions.flatMap (·.fields) = k'.conditions.flatMap (·.fields) :=
    flatMap_eq_of_forall₂ (fun _ _ => id) h.conditions
  have hempty : k.conditions.isEmpty = k'.conditions.isEmpty := by
    rw [Bool.eq_iff_iff, List.isEmpty_iff_length_eq_zero, List.isEmpty_iff_length_eq_zero,
      h.conditions.length_eq]
  have hflags := leftOut_congr fun he => congrArg₂ (fun a b => [a, b]) (h.flags he).1 (h.flags he).2
  unfold fields
  rw [hflags, h.conditions.length_eq, hlist, hempty]

namespace Order

variable {id id' : Int32} {c c' : Contract} {o o' : Order}

theorem MainAlike.fields_eq (h : MainAlike version c c' o o') :
    mainFields version c o = mainFields version c' o' := by
  have hcombo : (if c.isCombo then o.combo.fields version c.comboLegs else [])
      = if c.isCombo then o'.combo.fields version c'.comboLegs else [] :=
    ifSupported_congr fun hc => (h.combo hc).fields_eq
  unfold mainFields
  rw [hcombo, h.contract.orderFields_eq, h.terms.fields_eq, h.placement, h.transmit, h.parentId,
    h.blockOrder, h.sweepToFill, h.displaySize, h.triggerMethod, h.outsideRegularHours, h.hidden,
    h.isCombo]

theorem FillAlike.fields_eq (h : FillAlike version o o') :
    fillFields version o = fillFields version o' := by
  have hmodel := ifSupported_single h.modelCode
  unfold fillFields
  rw [hmodel, h.discretionaryAmount, h.goodAfterTime, h.goodTillDate, h.advisor,
    h.shortSale.fields_eq, h.ocaType, h.rule80A, h.settlingFirm, h.allOrNone, h.minQuantity,
    h.percentOffset, h.auctionStrategy, h.stockPeg, h.overridePercentageConstraints]

theorem StrategyAlike.fields_eq (h : StrategyAlike version c c' o o') :
    strategyFields version c o = strategyFields version c' o' := by
  have hclearing : o.clearing.fields version = o'.clearing.fields version :=
    ifSupported_cons (fun hs => (h.clearing hs).1)
      (ifSupported_single (fun hs => (h.clearing hs).2))
  have hid : o.algo.idFields version = o'.algo.idFields version :=
    ifSupported_single h.algoId
  have hopt := ifSupported_single h.optOutSmartRouting
  have hheld := ifSupported_single h.notHeld
  have hdelta := ifSupported_congr h.deltaNeutral
  have hwhat := ifSupported_single h.whatIf
  have hmisc := ifSupported_single h.miscOptions
  have hsolicited := ifSupported_single h.solicited
  have hrandom := ifSupported_cons (fun hs => (h.randomized hs).1)
    (ifSupported_single (fun hs => (h.randomized hs).2))
  unfold strategyFields
  rw [h.volatility.fields_eq, h.trail.fields_eq, h.scale.fields_eq,
    HedgeTerms.Alike.fields_eq h.hedge, hopt, hclearing, hheld, hdelta,
    AlgoTerms.Alike.fields_eq h.algo, hid, hwhat, hmisc, hsolicited, hrandom]

theorem TriggerAlike.fields_eq (h : TriggerAlike o o') : o.triggerFields = o'.triggerFields := by
  have hbenchmark : (if o.isPegged then o.benchmark.fields else [])
      = if o.isPegged then o'.benchmark.fields else [] := ifSupported_congr h.benchmark
  unfold triggerFields
  rw [hbenchmark, h.conditions.fields_eq, h.adjustment, h.isPegged]

theorem RecentAlike.fields_eq (h : RecentAlike version o o') :
    recentFields version o = recentFields version o' := by
  have hop := ifSupported_single h.externalOperator
  have htier := ifSupported_cons h.tierName (ifSupported_single h.tierValue)
  have hcash := ifSupported_single h.cashQuantity
  have hdecision := ifSupported_cons h.decisionMaker (ifSupported_single h.decisionAlgo)
  have hexecution := ifSupported_cons h.executionTrader (ifSupported_single h.executionAlgo)
  have hhedge := ifSupported_single h.hedgePriceOptOut
  have homs := ifSupported_single h.omsContainer
  have hpegs := ifSupported_single h.discretionaryUpToLimit
  have hprice := ifSupported_single h.priceManagement
  unfold recentFields DecisionMakers.fields
  rw [hop, htier, hcash, hdecision, hexecution, hhedge, homs, hpegs, hprice]

/-- Orders that are alike are placed by the same fields. -/
theorem PlacedAlike.fields_eq (h : PlacedAlike version id id' c c' o o') :
    placeFields version id c o = placeFields version id' c' o' := by
  have htrigger := ifSupported_congr fun hs => (h.trigger hs).fields_eq
  unfold placeFields
  rw [h.id, h.main.fields_eq, h.fill.fields_eq, h.strategy.fields_eq, htrigger,
    h.recent.fields_eq]

end Order
end BrokerLink
