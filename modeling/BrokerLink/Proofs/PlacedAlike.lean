import BrokerLink.Proofs.Lexicon
import BrokerLink.Proofs.SelfDelimiting
import BrokerLink.Proofs.WrittenValue
import BrokerLink.Request

/-!
# Orders that are placed alike

What two orders have in common if they make the same frame: the same sections, lists of
the same lengths, and the same text in every field. Each section settles what the next
ones rely on: the security type decides about the legs, the order type about the peg to
a benchmark, the text of the price increment about the extension of the scale.
-/

namespace BrokerLink

open Fields (Split)

/-! ### What decides about sections -/

/-- A word that reading gives: never a known text in the guise of an unknown word. -/
def Word.IsCanonical {α : Type} [Word α] (a : α) : Prop := ∃ s, Word.ofText s = a

/-- A canonical word is known by its text. -/
theorem Word.eq_some_iff {α : Type} [Word α] [FieldText α] {t : Option α} (w : String)
    (htext : ∀ s : String, fieldText (Word.ofText s : α) = s) (hw : w ≠ "")
    (h : ∀ a ∈ t, Word.IsCanonical a) : t = some (Word.ofText w) ↔ fieldText t = w := by
  constructor
  · rintro rfl
    exact htext w
  · intro ht
    cases t with
    | none => exact absurd ht.symm hw
    | some a =>
      obtain ⟨s, rfl⟩ := h a rfl
      have hs : s = w := (htext s).symm.trans ht
      rw [hs]

theorem SecType.eq_combo_iff {t : Option SecType} (h : ∀ w ∈ t, Word.IsCanonical w) :
    t = some .combo ↔ fieldText t = "BAG" :=
  Word.eq_some_iff "BAG" (lexicon_isFollowed.fieldText_ofText rfl) (by decide) h

theorem OrderType.eq_peggedToBenchmark_iff {t : Option OrderType}
    (h : ∀ w ∈ t, Word.IsCanonical w) :
    t = some .peggedToBenchmark ↔ fieldText t = "PEG BENCH" :=
  Word.eq_some_iff "PEG BENCH" (lexicon_isFollowed.fieldText_ofText rfl) (by decide) h

theorem Binary64.isPositive_canonical (x : Binary64) : x.canonical.isPositive = x.isPositive := by
  unfold canonical
  split
  · rename_i h
    have hn : (nan false).isPositive = false := by decide
    rw [hn, isPositive, h, Bool.not_true, Bool.and_false]
  · rfl

/-- Whether a scale has an extension can be told from what its price increment is read back as. -/
theorem ScaleTerms.hasExtension_eq (t : ScaleTerms) :
    t.hasExtension = ((if t.priceIncrement = some Binary64.largest then none
      else t.priceIncrement.map Binary64.canonical).any Binary64.isPositive) := by
  unfold hasExtension
  cases t.priceIncrement with
  | none => rfl
  | some x =>
    by_cases h : x = Binary64.largest
    · simp [h]
    · simp [h, Binary64.isPositive_canonical]

theorem ScaleTerms.hasExtension_congr {t t' : ScaleTerms}
    (h : fieldText t.priceIncrement = fieldText t'.priceIncrement) :
    t.hasExtension = t'.hasExtension := by
  have hp := Reader.parse_fieldText_float? t.priceIncrement
  have hp' := Reader.parse_fieldText_float? t'.priceIncrement
  rw [h, hp', Except.ok.injEq] at hp
  rw [hasExtension_eq, hasExtension_eq, hp]

theorem ConditionKind.code_injective {k k' : ConditionKind} (h : fieldText k = fieldText k') :
    k = k' := by
  cases k <;> cases k' <;> first | rfl | exact absurd h (by decide)

/-! ### Sections -/

/-- The same texts, as far as a server is sent them. -/
structure Contract.Alike (version : Version) (c c' : Contract) : Prop where
  contractId : version.supports Since.orderByContractId = true →
    fieldText c.contractId = fieldText c'.contractId
  symbol : c.symbol = c'.symbol
  secType : fieldText c.secType = fieldText c'.secType
  lastTradeDate : c.lastTradeDate = c'.lastTradeDate
  strike : fieldText c.strike = fieldText c'.strike
  right : fieldText c.right = fieldText c'.right
  multiplier : c.multiplier = c'.multiplier
  exchange : c.exchange = c'.exchange
  primaryExchange : c.primaryExchange = c'.primaryExchange
  currency : c.currency = c'.currency
  localSymbol : c.localSymbol = c'.localSymbol
  tradingClass : version.supports Since.tradingClass = true → c.tradingClass = c'.tradingClass
  secIdType : version.supports Since.securityIds = true → c.secIdType = c'.secIdType
  secId : version.supports Since.securityIds = true → c.secId = c'.secId

theorem Contract.split_orderFields (version : Version) (c c' : Contract) :
    Split (c.orderFields version) (c'.orderFields version) (c.Alike version c') := by
  have hnames : Split
      [c.symbol, fieldText c.secType, c.lastTradeDate, fieldText c.strike, fieldText c.right]
      [c'.symbol, fieldText c'.secType, c'.lastTradeDate, fieldText c'.strike, fieldText c'.right]
      _ := Split.fixed 5 rfl rfl
  have hsec : Split [c.secIdType, c.secId] [c'.secIdType, c'.secId] _ := Split.fixed 2 rfl rfl
  unfold orderFields fields
  refine Split.imp (Split.append (Split.append (Split.append (Split.append (Split.append
    (Split.append (Split.append (Split.append (Split.ifSupported rfl (Split.single _ _))
    fun _ => hnames) fun _ => Split.ifSupported rfl (Split.single _ _))
    fun _ => Split.ifSupported rfl (Split.single _ _))
    fun _ => Split.ifSupported rfl (Split.single _ _))
    fun _ => Split.single _ _)
    fun _ => Split.ifSupported rfl (Split.single _ _))
    fun _ => Split.ifSupported rfl (Split.single _ _))
    fun _ => Split.ifSupported rfl hsec) ?_
  rintro ⟨⟨⟨⟨⟨⟨⟨⟨hid, hn⟩, hmultiplier⟩, hexchange⟩, hprimary⟩, hcurrency⟩, hlocal⟩, hclass⟩, hs⟩
  simp only [List.cons.injEq, and_true] at hn hs
  exact ⟨hid, hn.1, hn.2.1, hn.2.2.1, hn.2.2.2.1, hn.2.2.2.2, hmultiplier rfl, hexchange rfl,
    hprimary rfl, hcurrency, hlocal rfl, hclass, fun h => (hs h).1, fun h => (hs h).2⟩

structure OrderTerms.Alike (version : Version) (t t' : OrderTerms) : Prop where
  action : fieldText t.action = fieldText t'.action
  quantity : t.quantityField version = t'.quantityField version
  orderType : fieldText t.orderType = fieldText t'.orderType
  limitPrice : priceField (version.supports Since.comboLegPrices) t.limitPrice
    = priceField (version.supports Since.comboLegPrices) t'.limitPrice
  auxPrice : priceField (version.supports Since.trailingPercent) t.auxPrice
    = priceField (version.supports Since.trailingPercent) t'.auxPrice

theorem OrderTerms.split_fields (version : Version) (t t' : OrderTerms) :
    Split (t.fields version) (t'.fields version) (t.Alike version t') := by
  have hfixed : Split (t.fields version) (t'.fields version)
      (t.fields version = t'.fields version) := Split.fixed 5 rfl rfl
  refine hfixed.imp fun h => ?_
  unfold fields at h
  simp only [List.cons.injEq, and_true] at h
  exact ⟨h.1, h.2.1, h.2.2.1, h.2.2.2.1, h.2.2.2.2⟩

structure ComboLeg.Alike (version : Version) (l l' : ComboLeg) : Prop where
  contractId : fieldText l.contractId = fieldText l'.contractId
  ratio : fieldText l.ratio = fieldText l'.ratio
  action : fieldText l.action = fieldText l'.action
  exchange : l.exchange = l'.exchange
  openClose : fieldText l.openClose = fieldText l'.openClose
  shortSaleSlot : fieldText l.shortSaleSlot = fieldText l'.shortSaleSlot
  designatedLocation : l.designatedLocation = l'.designatedLocation
  exemptCode : version.supports Since.oldExemptCode = true →
    fieldText l.exemptCode = fieldText l'.exemptCode

theorem ComboLeg.split_orderFields (version : Version) (l l' : ComboLeg) :
    Split (l.orderFields version) (l'.orderFields version) (l.Alike version l') := by
  unfold orderFields
  refine Split.imp (Split.append (Split.fixed 7 rfl rfl)
    fun _ => Split.ifSupported rfl (Split.single _ _)) ?_
  rintro ⟨h, he⟩
  simp only [List.cons.injEq, and_true] at h
  obtain ⟨h1, h2, h3, h4, h5, h6, h7⟩ := h
  exact ⟨h1, h2, h3, h4, h5, h6, h7, he⟩

/-- As many legs with the same texts; as many prices, and the same options, where a server is sent
any. -/
structure ComboTerms.Alike (version : Version) (legs legs' : List ComboLeg) (t t' : ComboTerms) :
    Prop where
  legs : List.Forall₂ (ComboLeg.Alike version) legs legs'
  prices : version.supports Since.comboLegPrices = true →
    List.Forall₂ (fun p p' => fieldText p.price = fieldText p'.price) t.legPrices t'.legPrices
  params : version.supports Since.smartComboRouting = true → t.routingParams = t'.routingParams

theorem ComboTerms.split_fields (version : Version) (legs legs' : List ComboLeg)
    (t t' : ComboTerms) :
    Split (t.fields version legs) (t'.fields version legs') (t.Alike version legs legs' t') := by
  have hlegs := Split.counted (ComboLeg.split_orderFields version) legs legs'
  have hprices := Split.countedTexts (fun p : ComboLegPrice => fieldText p.price)
    t.legPrices t'.legPrices
  have hparams := Split.pairs t.routingParams t'.routingParams
  unfold fields
  refine Split.imp (Split.append (Split.append hlegs fun _ => Split.ifSupported rfl hprices)
    fun _ => Split.ifSupported rfl hparams) ?_
  rintro ⟨⟨hl, hp⟩, ht⟩
  exact ⟨hl, hp, ht⟩

structure ShortSale.Alike (version : Version) (s s' : ShortSale) : Prop where
  slot : fieldText s.slot = fieldText s'.slot
  designatedLocation : s.designatedLocation = s'.designatedLocation
  exemptCode : version.supports Since.oldExemptCode = true →
    fieldText s.exemptCode = fieldText s'.exemptCode

theorem ShortSale.split_fields (version : Version) (s s' : ShortSale) :
    Split (s.fields version) (s'.fields version) (s.Alike version s') := by
  unfold fields
  refine Split.imp (Split.append (Split.fixed 2 rfl rfl)
    fun _ => Split.ifSupported rfl (Split.single _ _)) ?_
  rintro ⟨h, he⟩
  simp only [List.cons.injEq, and_true] at h
  exact ⟨h.1, h.2, he⟩

structure DeltaNeutralLeg.Alike (version : Version) (l l' : DeltaNeutralLeg) : Prop where
  contractId : version.supports Since.deltaNeutralContractId = true →
    fieldText l.contractId = fieldText l'.contractId
  settlingFirm : version.supports Since.deltaNeutralContractId = true →
    l.settlingFirm = l'.settlingFirm
  clearingAccount : version.supports Since.deltaNeutralContractId = true →
    l.clearingAccount = l'.clearingAccount
  clearingIntent : version.supports Since.deltaNeutralContractId = true →
    l.clearingIntent = l'.clearingIntent
  openClose : version.supports Since.deltaNeutralOpenClose = true → l.openClose = l'.openClose
  shortSale : version.supports Since.deltaNeutralOpenClose = true →
    fieldText l.shortSale = fieldText l'.shortSale
  shortSaleSlot : version.supports Since.deltaNeutralOpenClose = true →
    fieldText l.shortSaleSlot = fieldText l'.shortSaleSlot
  designatedLocation : version.supports Since.deltaNeutralOpenClose = true →
    l.designatedLocation = l'.designatedLocation

theorem DeltaNeutralLeg.split_fields (version : Version) (l l' : DeltaNeutralLeg) :
    Split (l.fields version) (l'.fields version) (l.Alike version l') := by
  unfold fields
  refine Split.imp (Split.append (Split.ifSupported rfl (Split.fixed 4 rfl rfl))
    fun _ => Split.ifSupported rfl (Split.fixed 4 rfl rfl)) ?_
  simp only [List.cons.injEq, and_true]
  rintro ⟨h, h'⟩
  exact ⟨fun hs => (h hs).1, fun hs => (h hs).2.1, fun hs => (h hs).2.2.1,
    fun hs => (h hs).2.2.2, fun hs => (h' hs).1, fun hs => (h' hs).2.1,
    fun hs => (h' hs).2.2.1, fun hs => (h' hs).2.2.2⟩

/-- The texts of every order of this kind, and those of the hedge for one that has an order type for
it. -/
structure VolatilityTerms.Alike (version : Version) (t t' : VolatilityTerms) : Prop where
  volatility : fieldText t.volatility = fieldText t'.volatility
  volatilityType : fieldText t.volatilityType = fieldText t'.volatilityType
  deltaNeutralOrderType : t.deltaNeutralOrderType = t'.deltaNeutralOrderType
  deltaNeutralAuxPrice : fieldText t.deltaNeutralAuxPrice = fieldText t'.deltaNeutralAuxPrice
  deltaNeutralLeg : t.deltaNeutralOrderType.isEmpty = false →
    t.deltaNeutralLeg.Alike version t'.deltaNeutralLeg
  continuousUpdate : fieldText t.continuousUpdate = fieldText t'.continuousUpdate
  referencePriceType : fieldText t.referencePriceType = fieldText t'.referencePriceType

theorem VolatilityTerms.split_fields (version : Version) (t t' : VolatilityTerms) :
    Split (t.fields version) (t'.fields version) (t.Alike version t') := by
  have hleg := DeltaNeutralLeg.split_fields version t.deltaNeutralLeg t'.deltaNeutralLeg
  unfold fields
  refine Split.imp (Split.append (Split.append (Split.fixed 4 rfl rfl)
    fun h => Split.leftOut ?_ hleg) fun _ => Split.fixed 2 rfl rfl) ?_
  · simp only [List.cons.injEq] at h
    exact congrArg String.isEmpty h.2.2.1
  · rintro ⟨⟨hfront, hl⟩, hend⟩
    simp only [List.cons.injEq, and_true] at hfront hend
    obtain ⟨hv, hvt, hd, hp⟩ := hfront
    exact ⟨hv, hvt, hd, hp, hl, hend.1, hend.2⟩

structure TrailTerms.Alike (version : Version) (t t' : TrailTerms) : Prop where
  stopPrice : fieldText t.stopPrice = fieldText t'.stopPrice
  percent : version.supports Since.trailingPercent = true →
    fieldText t.percent = fieldText t'.percent

theorem TrailTerms.split_fields (version : Version) (t t' : TrailTerms) :
    Split (t.fields version) (t'.fields version) (t.Alike version t') := by
  unfold fields
  refine Split.imp (Split.cons fun _ => Split.ifSupported rfl (Split.single _ _)) ?_
  rintro ⟨hs, hp⟩
  exact ⟨hs, hp⟩

/-- The same levels and increment, and with a positive increment the same extension. -/
structure ScaleTerms.Alike (version : Version) (t t' : ScaleTerms) : Prop where
  initLevelSize : fieldText t.initLevelSize = fieldText t'.initLevelSize
  subsLevelSize : version.supports Since.scaleSubsequentLevels = true →
    fieldText t.subsLevelSize = fieldText t'.subsLevelSize
  priceIncrement : fieldText t.priceIncrement = fieldText t'.priceIncrement
  hasExtension : t.hasExtension = t'.hasExtension
  extension : version.supports Since.scaleExtension = true → t.hasExtension = true →
    t.extension.fields = t'.extension.fields
  table : version.supports Since.scaleTable = true → t.table = t'.table
  activeStartTime : version.supports Since.scaleTable = true →
    t.activeStartTime = t'.activeStartTime
  activeStopTime : version.supports Since.scaleTable = true → t.activeStopTime = t'.activeStopTime

theorem ScaleTerms.split_fields (version : Version) (t t' : ScaleTerms) :
    Split (t.fields version) (t'.fields version) (t.Alike version t') := by
  have hlevels : Split (t.levelFields version) (t'.levelFields version)
      (fieldText t.initLevelSize = fieldText t'.initLevelSize ∧
        (version.supports Since.scaleSubsequentLevels = true →
          fieldText t.subsLevelSize = fieldText t'.subsLevelSize)) := by
    unfold levelFields
    by_cases hs : version.supports Since.scaleSubsequentLevels = true
    · rw [if_pos hs, if_pos hs]
      refine Split.imp (Split.cons fun _ => Split.single _ _) ?_
      rintro ⟨hi, hsubs⟩
      exact ⟨hi, fun _ => hsubs⟩
    · rw [if_neg hs, if_neg hs]
      refine Split.imp (Split.cons fun _ => Split.single _ _) ?_
      rintro ⟨-, hi⟩
      exact ⟨hi, fun h => absurd h hs⟩
  have hext : Split t.extension.fields t'.extension.fields
      (t.extension.fields = t'.extension.fields) := Split.fixed 7 rfl rfl
  unfold fields extendedFields
  refine Split.imp (Split.append (Split.append (Split.append hlevels fun _ => Split.single _ _)
    fun h => Split.ifSupported ?_ hext) fun _ => Split.ifSupported rfl (Split.fixed 3 rfl rfl)) ?_
  · rw [hasExtension_congr h.2]
  · rintro ⟨⟨⟨⟨hinit, hsubs⟩, hi⟩, he⟩, ht⟩
    simp only [List.cons.injEq, and_true] at ht
    exact ⟨hinit, hsubs, hi, hasExtension_congr hi,
      fun hs hx => he (by rw [hs, hx, Bool.and_self]), fun hs => (ht hs).1,
      fun hs => (ht hs).2.1, fun hs => (ht hs).2.2⟩

/-- The same kind of hedge, and with one the same parameter. -/
structure HedgeTerms.Alike (t t' : HedgeTerms) : Prop where
  kind : t.kind = t'.kind
  param : t.kind.isEmpty = false → t.param = t'.param

theorem HedgeTerms.split_fields (version : Version) (t t' : HedgeTerms) :
    Split (t.fields version) (t'.fields version)
      (version.supports Since.hedgeOrders = true → t.Alike t') := by
  refine Split.ifSupported rfl (Split.imp (Split.cons fun h =>
    Split.leftOut (congrArg String.isEmpty h) (Split.single t.param t'.param)) ?_)
  rintro ⟨hk, hp⟩
  exact ⟨hk, hp⟩

theorem ClearingTerms.split_fields (version : Version) (t t' : ClearingTerms) :
    Split (t.fields version) (t'.fields version)
      (version.supports Since.clearingAccounts = true →
        t.account = t'.account ∧ t.intent = t'.intent) := by
  have htexts : Split [t.account, t.intent] [t'.account, t'.intent]
      ([t.account, t.intent] = [t'.account, t'.intent]) := Split.fixed 2 rfl rfl
  refine Split.ifSupported rfl (htexts.imp fun h => ?_)
  simpa using h

/-- The same strategy, and with one the same parameters. -/
structure AlgoTerms.Alike (t t' : AlgoTerms) : Prop where
  strategy : t.strategy = t'.strategy
  params : t.strategy.isEmpty = false → t.params = t'.params

theorem AlgoTerms.split_fields (version : Version) (t t' : AlgoTerms) :
    Split (t.fields version) (t'.fields version)
      (version.supports Since.algoOrders = true → t.Alike t') := by
  refine Split.ifSupported rfl (Split.imp (Split.cons fun h =>
    Split.leftOut (congrArg String.isEmpty h) (Split.pairs t.params t'.params)) ?_)
  rintro ⟨hs, hp⟩
  exact ⟨hs, hp⟩

theorem fieldText_true_ne_false : fieldText true ≠ fieldText false := by decide

/-- Both with a delta-neutral contract of the same texts, or both without. -/
theorem Contract.split_deltaNeutralFields (c c' : Contract) :
    Split c.deltaNeutralFields c'.deltaNeutralFields
      (c.deltaNeutralFields = c'.deltaNeutralFields) := by
  unfold deltaNeutralFields
  cases c.deltaNeutral with
  | none =>
    cases c'.deltaNeutral with
    | none => exact Split.fixed 1 rfl rfl
    | some d => exact Split.of_ne _ _ _ fieldText_true_ne_false.symm
  | some d =>
    cases c'.deltaNeutral with
    | none => exact Split.of_ne _ _ _ fieldText_true_ne_false
    | some d' => exact Split.fixed 4 rfl rfl

/-- The kind of a condition tells how many fields it has. -/
theorem OrderCondition.split_fields (k k' : OrderCondition) :
    Split k.fields k'.fields (k.fields = k'.fields) := by
  intro r s h
  have hkind : k.kind = k'.kind := ConditionKind.code_injective (List.cons.inj h).1
  have hlength : k.fields.length = k'.fields.length := by
    cases k <;> cases k' <;> first | rfl | cases hkind
  exact List.append_inj h hlength

/-- The same conditions, and behind them, if there are any, the same flags. -/
structure OrderConditions.Alike (k k' : OrderConditions) : Prop where
  conditions : List.Forall₂ (fun a b => a.fields = b.fields) k.conditions k'.conditions
  flags : k.conditions.isEmpty = false →
    fieldText k.ignoreRegularHours = fieldText k'.ignoreRegularHours ∧
      fieldText k.cancelOrder = fieldText k'.cancelOrder

theorem OrderConditions.split_fields (k k' : OrderConditions) :
    Split k.fields k'.fields (k.Alike k') := by
  have hlist := Split.counted OrderCondition.split_fields k.conditions k'.conditions
  have hflags : Split [fieldText k.ignoreRegularHours, fieldText k.cancelOrder]
      [fieldText k'.ignoreRegularHours, fieldText k'.cancelOrder]
      ([fieldText k.ignoreRegularHours, fieldText k.cancelOrder]
        = [fieldText k'.ignoreRegularHours, fieldText k'.cancelOrder]) := Split.fixed 2 rfl rfl
  unfold fields
  refine Split.imp (Split.append hlist fun h => Split.leftOut ?_ hflags) ?_
  · rw [Bool.eq_iff_iff, List.isEmpty_iff_length_eq_zero, List.isEmpty_iff_length_eq_zero,
      h.length_eq]
  · rintro ⟨hl, hf⟩
    refine ⟨hl, fun he => ?_⟩
    simpa using hf he

/-! ### The parts of an order -/

namespace Order

/-- What is traded and how, and with a combination its legs. -/
structure MainAlike (version : Version) (c c' : Contract) (o o' : Order) : Prop where
  contract : c.Alike version c'
  terms : o.terms.Alike version o'.terms
  placement : o.placement.fields = o'.placement.fields
  transmit : fieldText o.transmit = fieldText o'.transmit
  parentId : fieldText o.identity.parentId = fieldText o'.identity.parentId
  blockOrder : fieldText o.blockOrder = fieldText o'.blockOrder
  sweepToFill : fieldText o.fill.sweepToFill = fieldText o'.fill.sweepToFill
  displaySize : fieldText (o.displaySize.getD 0) = fieldText (o'.displaySize.getD 0)
  triggerMethod : fieldText o.triggerMethod = fieldText o'.triggerMethod
  outsideRegularHours :
    fieldText o.exposure.outsideRegularHours = fieldText o'.exposure.outsideRegularHours
  hidden : fieldText o.exposure.hidden = fieldText o'.exposure.hidden
  isCombo : c.isCombo = c'.isCombo
  combo : c.isCombo = true → o.combo.Alike version c.comboLegs c'.comboLegs o'.combo

theorem split_mainFields (version : Version) {c c' : Contract} (o o' : Order)
    (hc : fieldText c.secType = fieldText c'.secType → c.isCombo = c'.isCombo) :
    Split (mainFields version c o) (mainFields version c' o') (MainAlike version c c' o o') := by
  have hplacement : Split o.placement.fields o'.placement.fields
      (o.placement.fields = o'.placement.fields) := Split.fixed 6 rfl rfl
  have hcombo := ComboTerms.split_fields version c.comboLegs c'.comboLegs o.combo o'.combo
  unfold mainFields
  refine Split.imp (Split.append (Split.append (Split.append (Split.append
    (Contract.split_orderFields version c c')
    fun _ => OrderTerms.split_fields version o.terms o'.terms) fun _ => hplacement)
    fun _ => Split.fixed 8 rfl rfl) fun h => Split.ifSupported ?_ hcombo) ?_
  · exact hc h.1.1.1.secType
  · rintro ⟨⟨⟨⟨hcontract, ht⟩, hp⟩, h⟩, hl⟩
    simp only [List.cons.injEq, and_true] at h
    obtain ⟨h1, h2, h3, h4, h5, h6, h7, h8⟩ := h
    exact ⟨hcontract, ht, hp, h1, h2, h3, h4, h5, h6, h7, h8, hc hcontract.secType, hl⟩

/-- How an order is shown, shared out, borrowed for, settled and filled. -/
structure FillAlike (version : Version) (o o' : Order) : Prop where
  discretionaryAmount :
    fieldText o.exposure.discretionaryAmount = fieldText o'.exposure.discretionaryAmount
  goodAfterTime : o.exposure.goodAfterTime = o'.exposure.goodAfterTime
  goodTillDate : o.settlement.goodTillDate = o'.settlement.goodTillDate
  advisor : o.advisor.fields = o'.advisor.fields
  modelCode : version.supports Since.models = true →
    o.settlement.modelCode = o'.settlement.modelCode
  shortSale : o.shortSale.Alike version o'.shortSale
  ocaType : fieldText o.fill.ocaType = fieldText o'.fill.ocaType
  rule80A : o.settlement.rule80A = o'.settlement.rule80A
  settlingFirm : o.settlement.settlingFirm = o'.settlement.settlingFirm
  allOrNone : fieldText o.fill.allOrNone = fieldText o'.fill.allOrNone
  minQuantity : fieldText o.fill.minQuantity = fieldText o'.fill.minQuantity
  percentOffset : fieldText o.settlement.percentOffset = fieldText o'.settlement.percentOffset
  auctionStrategy : fieldText o.auctionStrategy = fieldText o'.auctionStrategy
  stockPeg : o.stockPeg.fields = o'.stockPeg.fields
  overridePercentageConstraints :
    fieldText o.overridePercentageConstraints = fieldText o'.overridePercentageConstraints

theorem split_fillFields (version : Version) (o o' : Order) :
    Split (fillFields version o) (fillFields version o') (FillAlike version o o') := by
  have hadvisor : Split o.advisor.fields o'.advisor.fields
      (o.advisor.fields = o'.advisor.fields) := Split.fixed 4 rfl rfl
  have hpeg : Split o.stockPeg.fields o'.stockPeg.fields
      (o.stockPeg.fields = o'.stockPeg.fields) := Split.fixed 5 rfl rfl
  unfold fillFields
  refine Split.imp (Split.append (Split.append (Split.append (Split.append (Split.append
    (Split.append (Split.fixed 4 rfl rfl) fun _ => hadvisor)
    fun _ => Split.ifSupported rfl (Split.single _ _))
    fun _ => ShortSale.split_fields version o.shortSale o'.shortSale)
    fun _ => Split.fixed 10 rfl rfl) fun _ => hpeg) fun _ => Split.single _ _) ?_
  rintro ⟨⟨⟨⟨⟨⟨hfront, ha⟩, hm⟩, hs⟩, hmid⟩, hp⟩, ho⟩
  simp only [List.cons.injEq, and_true, true_and] at hfront hmid
  obtain ⟨f1, f2, f3⟩ := hfront
  obtain ⟨m1, m2, m3, m4, m5, m6, m7⟩ := hmid
  exact ⟨f1, f2, f3, ha, hm, hs, m1, m2, m3, m4, m5, m6, m7, hp, ho⟩

/-- Every special type of order, each as far as a server is sent it. -/
structure StrategyAlike (version : Version) (c c' : Contract) (o o' : Order) : Prop where
  volatility : o.volatility.Alike version o'.volatility
  trail : o.trail.Alike version o'.trail
  scale : o.scale.Alike version o'.scale
  hedge : version.supports Since.hedgeOrders = true → o.hedge.Alike o'.hedge
  optOutSmartRouting : version.supports Since.optOutSmartRouting = true →
    fieldText o.optOutSmartRouting = fieldText o'.optOutSmartRouting
  clearing : version.supports Since.clearingAccounts = true →
    o.clearing.account = o'.clearing.account ∧ o.clearing.intent = o'.clearing.intent
  notHeld : version.supports Since.notHeld = true → fieldText o.notHeld = fieldText o'.notHeld
  deltaNeutral : version.supports Since.deltaNeutral = true →
    c.deltaNeutralFields = c'.deltaNeutralFields
  algo : version.supports Since.algoOrders = true → o.algo.Alike o'.algo
  algoId : version.supports Since.algoId = true → o.algo.id = o'.algo.id
  whatIf : version.supports Since.whatIfOrders = true → fieldText o.whatIf = fieldText o'.whatIf
  miscOptions : version.supports Since.linking = true →
    TagValue.joined o.miscOptions = TagValue.joined o'.miscOptions
  solicited : version.supports Since.solicitedOrders = true →
    fieldText o.solicited = fieldText o'.solicited
  randomized : version.supports Since.randomizedOrders = true →
    fieldText o.randomizeSize = fieldText o'.randomizeSize ∧
      fieldText o.randomizePrice = fieldText o'.randomizePrice

theorem split_strategyFields (version : Version) (c c' : Contract) (o o' : Order) :
    Split (strategyFields version c o) (strategyFields version c' o')
      (StrategyAlike version c c' o o') := by
  have hdelta := Contract.split_deltaNeutralFields c c'
  have hrandom : Split [fieldText o.randomizeSize, fieldText o.randomizePrice]
      [fieldText o'.randomizeSize, fieldText o'.randomizePrice]
      (fieldText o.randomizeSize = fieldText o'.randomizeSize ∧
        fieldText o.randomizePrice = fieldText o'.randomizePrice) :=
    (Split.cons fun _ => Split.single _ _)
  unfold strategyFields
  refine Split.imp (Split.append (Split.append (Split.append (Split.append (Split.append
    (Split.append (Split.append (Split.append (Split.append (Split.append (Split.append
    (Split.append (Split.append (VolatilityTerms.split_fields version o.volatility o'.volatility)
    fun _ => TrailTerms.split_fields version o.trail o'.trail)
    fun _ => ScaleTerms.split_fields version o.scale o'.scale)
    fun _ => HedgeTerms.split_fields version o.hedge o'.hedge)
    fun _ => Split.ifSupported rfl (Split.single _ _))
    fun _ => ClearingTerms.split_fields version o.clearing o'.clearing)
    fun _ => Split.ifSupported rfl (Split.single _ _))
    fun _ => Split.ifSupported rfl hdelta)
    fun _ => AlgoTerms.split_fields version o.algo o'.algo)
    fun _ => Split.ifSupported rfl (Split.single _ _))
    fun _ => Split.ifSupported rfl (Split.single _ _))
    fun _ => Split.ifSupported rfl (Split.single _ _))
    fun _ => Split.ifSupported rfl (Split.single _ _))
    fun _ => Split.ifSupported rfl hrandom) ?_
  rintro ⟨⟨⟨⟨⟨⟨⟨⟨⟨⟨⟨⟨⟨h1, h2⟩, h3⟩, h4⟩, h5⟩, h6⟩, h7⟩, h8⟩, h9⟩, h10⟩, h11⟩, h12⟩, h13⟩, h14⟩
  exact ⟨h1, h2, h3, h4, h5, h6, h7, h8, h9, h10, h11, h12, h13, h14⟩

/-- The same peg to a benchmark, the same conditions and the same adjustment. -/
structure TriggerAlike (o o' : Order) : Prop where
  isPegged : o.isPegged = o'.isPegged
  benchmark : o.isPegged = true → o.benchmark.fields = o'.benchmark.fields
  conditions : o.conditions.Alike o'.conditions
  adjustment : o.adjustment.fields = o'.adjustment.fields

theorem split_triggerFields {o o' : Order} (hp : o.isPegged = o'.isPegged) :
    Split o.triggerFields o'.triggerFields (TriggerAlike o o') := by
  have hbenchmark : Split o.benchmark.fields o'.benchmark.fields
      (o.benchmark.fields = o'.benchmark.fields) := Split.fixed 5 rfl rfl
  have hadjustment : Split o.adjustment.fields o'.adjustment.fields
      (o.adjustment.fields = o'.adjustment.fields) := Split.fixed 7 rfl rfl
  unfold triggerFields
  refine Split.imp (Split.append (Split.append (Split.ifSupported hp hbenchmark)
    fun _ => OrderConditions.split_fields o.conditions o'.conditions) fun _ => hadjustment) ?_
  rintro ⟨⟨hb, hc⟩, ha⟩
  exact ⟨hp, hb, hc, ha⟩

/-- What servers learned one by one, each as far as a server is sent it. -/
structure RecentAlike (version : Version) (o o' : Order) : Prop where
  externalOperator : version.supports Since.externalOperator = true →
    o.externalOperator = o'.externalOperator
  tierName : version.supports Since.softDollarTiers = true →
    o.softDollarTier.name = o'.softDollarTier.name
  tierValue : version.supports Since.softDollarTiers = true →
    o.softDollarTier.value = o'.softDollarTier.value
  cashQuantity : version.supports Since.cashQuantity = true →
    fieldText o.cashQuantity = fieldText o'.cashQuantity
  decisionMaker : version.supports Since.decisionMaker = true →
    o.decision.decisionMaker = o'.decision.decisionMaker
  decisionAlgo : version.supports Since.decisionMaker = true →
    o.decision.decisionAlgo = o'.decision.decisionAlgo
  executionTrader : version.supports Since.executionTrader = true →
    o.decision.executionTrader = o'.decision.executionTrader
  executionAlgo : version.supports Since.executionTrader = true →
    o.decision.executionAlgo = o'.decision.executionAlgo
  hedgePriceOptOut : version.supports Since.hedgePriceOptOut = true →
    fieldText o.hedgePriceOptOut = fieldText o'.hedgePriceOptOut
  omsContainer : version.supports Since.orderContainer = true →
    fieldText o.omsContainer = fieldText o'.omsContainer
  discretionaryUpToLimit : version.supports Since.discretionaryPegs = true →
    fieldText o.discretionaryUpToLimit = fieldText o'.discretionaryUpToLimit
  priceManagement : version.supports Since.priceManagement = true →
    fieldText o.priceManagement = fieldText o'.priceManagement

theorem split_recentFields (version : Version) (o o' : Order) :
    Split (recentFields version o) (recentFields version o') (RecentAlike version o o') := by
  have hpair : ∀ a b a' b' : String, Split [a, b] [a', b'] (a = a' ∧ b = b') :=
    fun a b a' b' => Split.cons fun _ => Split.single b b'
  unfold recentFields DecisionMakers.fields
  refine Split.imp (Split.append (Split.append (Split.append (Split.append (Split.append
    (Split.append (Split.append (Split.ifSupported rfl (Split.single _ _))
    fun _ => Split.ifSupported rfl (hpair _ _ _ _))
    fun _ => Split.ifSupported rfl (Split.single _ _))
    fun _ => Split.append (Split.ifSupported rfl (hpair _ _ _ _))
      fun _ => Split.ifSupported rfl (hpair _ _ _ _))
    fun _ => Split.ifSupported rfl (Split.single _ _))
    fun _ => Split.ifSupported rfl (Split.single _ _))
    fun _ => Split.ifSupported rfl (Split.single _ _))
    fun _ => Split.ifSupported rfl (Split.single _ _)) ?_
  rintro ⟨⟨⟨⟨⟨⟨⟨hop, htier⟩, hcash⟩, hdecision, hexecution⟩, hhedge⟩, homs⟩, hpegs⟩, hprice⟩
  exact ⟨hop, fun h => (htier h).1, fun h => (htier h).2, hcash, fun h => (hdecision h).1,
    fun h => (hdecision h).2, fun h => (hexecution h).1, fun h => (hexecution h).2, hhedge, homs,
    hpegs, hprice⟩

/-- Two orders under their ids that are told apart by no field, in none of the sections. -/
structure PlacedAlike (version : Version) (id id' : Int32) (c c' : Contract) (o o' : Order) :
    Prop where
  id : fieldText id = fieldText id'
  main : MainAlike version c c' o o'
  fill : FillAlike version o o'
  strategy : StrategyAlike version c c' o o'
  trigger : version.supports Since.benchmarkPegs = true → TriggerAlike o o'
  recent : RecentAlike version o o'

/-- Placed orders are told apart from the front, if their words that decide about sections are. -/
theorem placedAlike_of_placeFields {version : Version} {id id' : Int32} {c c' : Contract}
    {o o' : Order}
    (hc : fieldText c.secType = fieldText c'.secType → c.isCombo = c'.isCombo)
    (hp : fieldText o.terms.orderType = fieldText o'.terms.orderType → o.isPegged = o'.isPegged)
    (h : placeFields version id c o = placeFields version id' c' o') :
    PlacedAlike version id id' c c' o o' := by
  have hlayout : Split (layoutFields version) (layoutFields version) True :=
    (Split.of_length rfl).imp fun _ => trivial
  have hsplit : Split (placeFields version id c o) (placeFields version id' c' o')
      (PlacedAlike version id id' c c' o o') := by
    unfold placeFields
    refine Split.imp (Split.append (Split.append (Split.append (Split.append (Split.append
      (Split.append hlayout fun _ => Split.single _ _)
      fun _ => split_mainFields version o o' hc)
      fun _ => split_fillFields version o o')
      fun _ => split_strategyFields version c c' o o')
      fun h => Split.ifSupported rfl (split_triggerFields ?_))
      fun _ => split_recentFields version o o') ?_
    · exact hp h.1.1.2.terms.orderType
    · rintro ⟨⟨⟨⟨⟨⟨-, hid⟩, hmain⟩, hfill⟩, hstrategy⟩, htrigger⟩, hrecent⟩
      exact ⟨hid, hmain, hfill, hstrategy, htrigger, hrecent⟩
  refine (hsplit [] [] ?_).1
  rw [List.append_nil, List.append_nil, h]

theorem isCombo_congr {c c' : Contract} (h : ∀ w ∈ c.secType, Word.IsCanonical w)
    (h' : ∀ w ∈ c'.secType, Word.IsCanonical w) (ht : fieldText c.secType = fieldText c'.secType) :
    c.isCombo = c'.isCombo := by
  unfold Contract.isCombo
  rw [Bool.eq_iff_iff, beq_iff_eq, beq_iff_eq, SecType.eq_combo_iff h, SecType.eq_combo_iff h', ht]

theorem isPegged_congr {o o' : Order} (h : ∀ w ∈ o.terms.orderType, Word.IsCanonical w)
    (h' : ∀ w ∈ o'.terms.orderType, Word.IsCanonical w)
    (ht : fieldText o.terms.orderType = fieldText o'.terms.orderType) :
    o.isPegged = o'.isPegged := by
  unfold isPegged
  rw [Bool.eq_iff_iff, beq_iff_eq, beq_iff_eq, OrderType.eq_peggedToBenchmark_iff h,
    OrderType.eq_peggedToBenchmark_iff h', ht]

end Order

namespace Request

theorem fields_of_frame {version : Version} {r : Request} {f : Frame}
    (h : r.frame version = .ok f) : f.fields = r.fields version := by
  unfold frame at h
  split at h
  · cases h
  · cases hf : Frame.ofFields (r.fields version) with
    | error fault => rw [hf] at h; cases h
    | ok g =>
      rw [hf] at h
      cases h
      exact Frame.ofFields_eq_ok_iff.mp hf

/-- Requests that make frames of the same bytes have the same fields. -/
theorem fields_eq_of_bytes_eq {version version' : Version} {r r' : Request} {f f' : Frame}
    (hf : r.frame version = .ok f) (hf' : r'.frame version' = .ok f') (h : f.bytes = f'.bytes) :
    r.fields version = r'.fields version' := by
  rw [← fields_of_frame hf, ← fields_of_frame hf', Frame.fields_eq_of_bytes_eq h]

theorem exists_frame (version : Version) (r : Request) (hu : r.firstUnmet version = none)
    (hz : ∀ s ∈ r.fields version, 0 ∉ Utf8.encode s)
    (hs : Fields.size (r.fields version) ≤ maxPayload) :
    ∃ f : Frame, r.frame version = .ok f ∧ f.fields = r.fields version := by
  have hzero : (r.fields version).hasZero = false := by
    rw [Fields.hasZero_eq_any, List.any_eq_false]
    intro s h
    simpa using hz s h
  have hf : Frame.ofFields (r.fields version) = .ok ⟨r.fields version, hzero, hs⟩ :=
    Frame.ofFields_eq_ok_iff.mpr rfl
  refine ⟨⟨r.fields version, hzero, hs⟩, ?_, rfl⟩
  unfold frame
  rw [hu, hf]
  rfl

/-- Whatever two orders are placed, if their frames are the same bytes then they have the same
sections, lists of the same lengths, and the same text in every field. -/
theorem placedAlike_of_bytes_eq {version : Version} {id id' : Int32} {c c' : Contract}
    {o o' : Order} {f f' : Frame}
    (hc : ∀ w ∈ c.secType, Word.IsCanonical w) (hc' : ∀ w ∈ c'.secType, Word.IsCanonical w)
    (ho : ∀ w ∈ o.terms.orderType, Word.IsCanonical w)
    (ho' : ∀ w ∈ o'.terms.orderType, Word.IsCanonical w)
    (hf : (placeOrder id c o).frame version = .ok f)
    (hf' : (placeOrder id' c' o').frame version = .ok f') (hb : f.bytes = f'.bytes) :
    Order.PlacedAlike version id id' c c' o o' := by
  have hfields := fields_eq_of_bytes_eq hf hf' hb
  exact Order.placedAlike_of_placeFields (Order.isCombo_congr hc hc')
    (Order.isPegged_congr ho ho') (List.cons.inj hfields).2

/-- A spread of two legs. -/
def spread : Contract where
  symbol := "IBM"
  secType := some .combo
  comboLegs := [{ contractId := 8314, ratio := 1 }, { contractId := 265598, ratio := 2 }]

/-- An order pegged to a benchmark, with a condition. -/
def peggedSpread (quantity : Decimal) : Order where
  terms := { quantity, orderType := some .peggedToBenchmark }
  combo := { legPrices := [{}, {}] }
  conditions := { conditions := [.time true false "20300101 09:30:00"] }

/-- The quantities 1.50 and 1.5 are written alike. -/
theorem placedAlike_of_bytes_eq_spread :
    ∃ f f' : Frame,
      (placeOrder 7 spread (peggedSpread ⟨false, 150, 2, by decide, by decide⟩)).frame 157 = .ok f ∧
      (placeOrder 7 spread (peggedSpread ⟨false, 15, 1, by decide, by decide⟩)).frame 157 = .ok f' ∧
      f.bytes = f'.bytes ∧
      Order.PlacedAlike 157 7 7 spread spread
        (peggedSpread ⟨false, 150, 2, by decide, by decide⟩)
        (peggedSpread ⟨false, 15, 1, by decide, by decide⟩) := by
  have hsame : (placeOrder 7 spread (peggedSpread ⟨false, 150, 2, by decide, by decide⟩)).fields 157
      = (placeOrder 7 spread (peggedSpread ⟨false, 15, 1, by decide, by decide⟩)).fields 157 := by
    decide
  obtain ⟨f, hf, hff⟩ := exists_frame 157
    (placeOrder 7 spread (peggedSpread ⟨false, 150, 2, by decide, by decide⟩))
    (by decide) (by decide +kernel) (by decide +kernel)
  obtain ⟨f', hf', hff'⟩ := exists_frame 157
    (placeOrder 7 spread (peggedSpread ⟨false, 15, 1, by decide, by decide⟩))
    (by decide) (by decide +kernel) (by decide +kernel)
  have hb : f.bytes = f'.bytes := by
    unfold Frame.bytes Frame.header Frame.payload
    rw [hff, hff', hsame]
  have hcombo : ∀ w ∈ spread.secType, Word.IsCanonical w := by
    rintro w ⟨⟩
    exact ⟨"BAG", rfl⟩
  have hpegged : ∀ w ∈ some OrderType.peggedToBenchmark, Word.IsCanonical w := by
    rintro w ⟨⟩
    exact ⟨"PEG BENCH", rfl⟩
  exact ⟨f, f', hf, hf', hb,
    placedAlike_of_bytes_eq hcombo hcombo hpegged hpegged hf hf' hb⟩

end Request
end BrokerLink
