import BrokerLink.Proofs.FieldReads
import BrokerLink.Proofs.OwnFields
import BrokerLink.Record
import BrokerLink.Request

/-!
# Sections that depend on values are read back

Some sections of an order have parts that are there only for certain values: the leg of a hedge for
a type of hedge order, the extension of a scale for a positive price increment, the parameter of a
hedge for a kind of hedge, a delta-neutral contract behind a flag, the parameters of an algorithm
for a strategy. The writer decides by the value that it has, and the reader by the value that it
has read. They agree, so that each of these sections is read back from the fields it was written
to: a part that was left out as it is by default, and a number that stands for none as none.
-/

namespace BrokerLink

open Reader

/-! ### What the sections say, and what is read of it -/

/-- Everything that the hedge of a volatility order says has a text of its own: no number of it
stands for none, and no text holds a zero character. -/
structure DeltaNeutralLeg.IsExact (l : DeltaNeutralLeg) : Prop where
  contractId : l.contractId ≠ Int32.maxValue
  settlingFirm : '\x00' ∉ l.settlingFirm.toList
  clearingAccount : '\x00' ∉ l.clearingAccount.toList
  clearingIntent : '\x00' ∉ l.clearingIntent.toList
  openClose : '\x00' ∉ l.openClose.toList
  shortSaleSlot : l.shortSaleSlot ≠ Int32.maxValue
  designatedLocation : '\x00' ∉ l.designatedLocation.toList

structure VolatilityTerms.IsExact (t : VolatilityTerms) : Prop where
  volatility : ∀ x ∈ t.volatility, x.isNaN = false
  deltaNeutralOrderType : '\x00' ∉ t.deltaNeutralOrderType.toList
  deltaNeutralAuxPrice : ∀ x ∈ t.deltaNeutralAuxPrice, x.isNaN = false
  deltaNeutralLeg : t.deltaNeutralLeg.IsExact

structure ScaleTerms.IsExact (t : ScaleTerms) : Prop where
  priceIncrement : ∀ x ∈ t.priceIncrement, x.isNaN = false
  priceAdjustValue : ∀ x ∈ t.extension.priceAdjustValue, x.isNaN = false
  profitOffset : ∀ x ∈ t.extension.profitOffset, x.isNaN = false

structure HedgeTerms.IsExact (t : HedgeTerms) : Prop where
  kind : '\x00' ∉ t.kind.toList
  param : '\x00' ∉ t.param.toList

structure ClearingTerms.IsExact (t : ClearingTerms) : Prop where
  account : '\x00' ∉ t.account.toList
  intent : '\x00' ∉ t.intent.toList

structure DeltaNeutralContract.IsExact (d : DeltaNeutralContract) : Prop where
  contractId : d.contractId ≠ Int32.maxValue
  delta : d.delta.isNaN = false ∧ d.delta ≠ Binary64.largest
  price : d.price.isNaN = false ∧ d.price ≠ Binary64.largest

structure AlgoTerms.IsExact (t : AlgoTerms) : Prop where
  strategy : '\x00' ∉ t.strategy.toList
  params : ∀ p ∈ t.params, p.IsZeroFree

/-- Without a type of hedge order there is no hedge. -/
def VolatilityTerms.asRead (t : VolatilityTerms) : VolatilityTerms :=
  { t.cleared with
    deltaNeutralLeg := if t.deltaNeutralOrderType.isEmpty then {} else t.deltaNeutralLeg }

/-- Without a positive price increment there is no extension, and the table is not part of a
record. -/
def ScaleTerms.asRead (t : ScaleTerms) : ScaleTerms where
  initLevelSize := clearNumber t.initLevelSize
  subsLevelSize := clearNumber t.subsLevelSize
  priceIncrement := clearPrice t.priceIncrement
  extension := if t.hasExtension then t.extension.cleared else {}

def HedgeTerms.asRead (t : HedgeTerms) : HedgeTerms :=
  { t with param := if t.kind.isEmpty then "" else t.param }

/-- Without a strategy there are no parameters, and the id is not part of a record. -/
def AlgoTerms.asRead (t : AlgoTerms) : AlgoTerms where
  strategy := t.strategy
  params := if t.strategy.isEmpty then [] else t.params

/-! ### Section by section -/

section
variable {version : Version} {layout : Int}

theorem DeltaNeutralLeg.IsExact.readsAll {l : DeltaNeutralLeg}
    (hv : version.supports Since.deltaNeutralOpenClose = true) (hlayout : 33 ≤ layout)
    (h : l.IsExact) : (Record.deltaNeutralLeg layout true true).ReadsAll (l.fields version) l := by
  have hc : version.supports Since.deltaNeutralContractId = true :=
    Version.supports_of_le hv (by decide)
  have h27 : (27 : Int) ≤ layout := by omega
  have h31 : (31 : Int) ≤ layout := by omega
  intro rest
  simp only [Record.deltaNeutralLeg, fields, hv, hc, h27, h31, decide_true, Bool.and_self,
    since_true, ifSupported, if_true, List.cons_append, List.nil_append]
  rw [(reads_int32 h.contractId).run_cons, (reads_string h.settlingFirm).run_cons,
    (reads_string h.clearingAccount).run_cons, (reads_string h.clearingIntent).run_cons,
    (reads_string h.openClose).run_cons, (reads_bool l.shortSale).run_cons,
    (reads_int32 h.shortSaleSlot).run_cons, (reads_string h.designatedLocation).run_cons]
  rfl

/-- No field is asked for where there is no hedge. -/
theorem deltaNeutralLeg_absent (isOpen : Bool) :
    Record.deltaNeutralLeg layout isOpen false = done {} := by
  simp only [Record.deltaNeutralLeg, Bool.and_false, Bool.false_and, since_false]
  rfl

theorem VolatilityTerms.IsExact.readsAll {t : VolatilityTerms}
    (hv : version.supports Since.deltaNeutralOpenClose = true) (hlayout : 33 ≤ layout)
    (h : t.IsExact) :
    (Record.volatilityTerms version layout true).ReadsAll (t.fields version) (t.asRead, none) := by
  have h11 : (11 : Int) ≤ layout := by omega
  have hne : layout ≠ 11 := by omega
  have h26 : version ≠ 26 := by
    rintro rfl
    exact absurd hv (by decide)
  intro rest
  simp only [Record.volatilityTerms, Record.hedgeOrderType, Record.secondStockRange, h11, hne, h26,
    decide_true, decide_false, ne_eq, not_false_eq_true, since_true, since_false, if_false,
    done_bind, fields, List.cons_append, List.nil_append]
  rw [(reads_float? h.volatility).run_cons, (reads_int32? t.volatilityType).run_cons,
    (reads_string h.deltaNeutralOrderType).run_cons,
    (reads_float? h.deltaNeutralAuxPrice).run_cons]
  cases he : t.deltaNeutralOrderType.isEmpty with
  | true =>
    simp only [Bool.not_true, deltaNeutralLeg_absent, done_bind, if_true, List.nil_append]
    rw [(reads_bool t.continuousUpdate).run_cons, (reads_int32? t.referencePriceType).run_cons]
    simp only [asRead, he, if_true]
    rfl
  | false =>
    have hleg := h.deltaNeutralLeg.readsAll hv hlayout
    simp only [Bool.not_false, Bool.false_eq_true, if_false]
    rw [hleg.run_append, (reads_bool t.continuousUpdate).run_cons,
      (reads_int32? t.referencePriceType).run_cons]
    simp only [asRead, he, Bool.false_eq_true, if_false]
    rfl

theorem ScaleTerms.IsExact.readsAll_extension {t : ScaleTerms} (h : t.IsExact) :
    Record.scaleExtension.ReadsAll t.extension.fields t.extension.cleared := by
  intro rest
  simp only [Record.scaleExtension, ScaleExtension.fields]
  rw [(reads_float? h.priceAdjustValue).run_cons, (reads_int32? _).run_cons,
    (reads_float? h.profitOffset).run_cons, (reads_bool _).run_cons, (reads_int32? _).run_cons,
    (reads_int32? _).run_cons, (reads_bool _).run_cons]
  rfl

/-- Whether the increment is positive can be told from what it is read back as. -/
theorem ScaleTerms.IsExact.readsAll {t : ScaleTerms}
    (hv : version.supports Since.deltaNeutralOpenClose = true) (hlayout : 33 ≤ layout)
    (h : t.IsExact) :
    (Record.scaleTerms layout).ReadsAll (t.extendedFields version) t.asRead := by
  have hlevels : version.supports Since.scaleSubsequentLevels = true :=
    Version.supports_of_le hv (by decide)
  have hsupported : version.supports Since.scaleExtension = true :=
    Version.supports_of_le hv (by decide)
  have h15 : (15 : Int) ≤ layout := by omega
  have h20 : (20 : Int) ≤ layout := by omega
  have h28 : (28 : Int) ≤ layout := by omega
  have hext : (ScaleTerms.mk (clearNumber t.initLevelSize) (clearNumber t.subsLevelSize)
      (clearPrice t.priceIncrement) {} "" "" "").hasExtension = t.hasExtension :=
    t.hasExtension_cleared
  intro rest
  simp only [Record.scaleTerms, Record.scaleLevels, extendedFields, levelFields, hlevels,
    hsupported, h15, h20, h28, decide_true, Bool.true_and, since_true, if_true, bind_assoc,
    pure_bind, List.cons_append, List.nil_append]
  rw [(reads_int32? t.initLevelSize).run_cons, (reads_int32? t.subsLevelSize).run_cons,
    (reads_float? h.priceIncrement).run_cons, hext]
  cases he : t.hasExtension with
  | true =>
    have hread := h.readsAll_extension rest
    simp only [since_true, ifSupported, if_true]
    rw [run_bind_done _ hread]
    simp only [asRead, he, if_true]
    rfl
  | false =>
    simp only [asRead, he, Bool.false_eq_true, since_false, ifSupported, if_false]
    rfl

theorem HedgeTerms.IsExact.readsAll {t : HedgeTerms}
    (hv : version.supports Since.deltaNeutralOpenClose = true) (hlayout : 33 ≤ layout)
    (h : t.IsExact) : (Record.hedgeTerms layout).ReadsAll (t.fields version) t.asRead := by
  have hhedge : version.supports Since.hedgeOrders = true := Version.supports_of_le hv (by decide)
  have h24 : (24 : Int) ≤ layout := by omega
  intro rest
  simp only [Record.hedgeTerms, fields, hhedge, h24, decide_true, since_true, ifSupported, if_true]
  rw [(reads_string h.kind).run_cons]
  cases he : t.kind.isEmpty with
  | true =>
    simp only [asRead, he, Bool.not_true, since_false, if_true]
    rfl
  | false =>
    simp only [asRead, he, Bool.not_false, since_true, Bool.false_eq_true, if_false]
    rw [(reads_string h.param).run_cons]
    rfl

theorem Contract.readsAll_deltaNeutralPart {c : Contract} (h : ∀ d ∈ c.deltaNeutral, d.IsExact) :
    Record.deltaNeutralPart.ReadsAll c.deltaNeutralFields c.deltaNeutral := by
  intro rest
  unfold Record.deltaNeutralPart deltaNeutralFields
  cases hd : c.deltaNeutral with
  | none =>
    dsimp only
    rw [(reads_bool false).run_cons]
    rfl
  | some d =>
    have hexact := h d hd
    simp only [Record.deltaNeutralContract]
    rw [(reads_bool true).run_cons, since_true]
    simp only [bind_assoc, pure_bind]
    rw [(reads_int32 hexact.contractId).run_cons,
      (reads_float hexact.delta.1 hexact.delta.2).run_cons,
      (reads_float hexact.price.1 hexact.price.2).run_cons]
    rfl

theorem AlgoTerms.IsExact.readsAll {t : AlgoTerms} (h : t.IsExact)
    (hl : t.strategy.isEmpty = false → t.params.length < 2 ^ 31) :
    Record.algoTerms.ReadsAll t.strategyFields t.asRead := by
  intro rest
  unfold Record.algoTerms strategyFields
  rw [(reads_string h.strategy).run_cons]
  cases he : t.strategy.isEmpty with
  | true =>
    simp only [asRead, he, Bool.not_true, since_false, if_true]
    rfl
  | false =>
    simp only [asRead, he, Bool.not_false, since_true, Bool.false_eq_true, if_false]
    rw [run_bind_done _ (readsAll_tagValues h.params (hl he) rest)]
    rfl

end

namespace Order

/-- From the clearing account to the algorithm. -/
def clearingFields (version : Version) (c : Contract) (o : Order) : Fields :=
  o.clearing.fields version
    ++ ifSupported (version.supports Since.notHeld) [fieldText o.notHeld]
    ++ ifSupported (version.supports Since.deltaNeutral) c.deltaNeutralFields
    ++ o.algo.fields version

/-- Everything that the sections of an order's strategy say has a text of its own. -/
structure HasExactStrategy (c : Contract) (o : Order) : Prop where
  volatility : o.volatility.IsExact
  scale : o.scale.IsExact
  hedge : o.hedge.IsExact
  clearing : o.clearing.IsExact
  deltaNeutral : ∀ d ∈ c.deltaNeutral, d.IsExact
  algo : o.algo.IsExact

/-- What is read of the clearing, of a flag, of a delta-neutral contract, of the algorithm and of a
second flag. -/
def clearingAsRead (c : Contract) (o : Order) : Record.ClearingSection where
  clearing := o.clearing
  notHeld := o.notHeld
  deltaNeutral := c.deltaNeutral
  algo := o.algo.asRead
  solicited := o.solicited

variable {version : Version} {layout : Int} {c : Contract} {o : Order}

theorem readsAll_clearingSection (hv : version.supports Since.deltaNeutralOpenClose = true)
    (hlayout : 33 ≤ layout) (h : o.HasExactStrategy c)
    (hl : o.algo.strategy.isEmpty = false → o.algo.params.length < 2 ^ 31) :
    (Record.clearingSection layout).ReadsAll
      (o.clearingFields version c ++ [fieldText o.solicited]) (o.clearingAsRead c) := by
  have hclearing : version.supports Since.clearingAccounts = true :=
    Version.supports_of_le hv (by decide)
  have hheld : version.supports Since.notHeld = true := Version.supports_of_le hv (by decide)
  have hneutral : version.supports Since.deltaNeutral = true :=
    Version.supports_of_le hv (by decide)
  have halgo : version.supports Since.algoOrders = true := Version.supports_of_le hv (by decide)
  have h19 : (19 : Int) ≤ layout := by omega
  have h20 : (20 : Int) ≤ layout := by omega
  have h21 : (21 : Int) ≤ layout := by omega
  have h22 : (22 : Int) ≤ layout := by omega
  intro rest
  simp only [Record.clearingSection, clearingFields, ClearingTerms.fields, AlgoTerms.fields,
    hclearing, hheld, hneutral, halgo, h19, h20, h21, h22, hlayout, decide_true, since_true,
    ifSupported, if_true, List.append_assoc, List.cons_append, List.nil_append]
  rw [(reads_string h.clearing.account).run_cons, (reads_string h.clearing.intent).run_cons,
    (reads_bool o.notHeld).run_cons, (Contract.readsAll_deltaNeutralPart h.deltaNeutral).run_append,
    (h.algo.readsAll hl).run_append, (reads_bool o.solicited).run_cons]
  rfl

/-- Where the sections stand among the fields of a placed order. -/
theorem exists_placeFields_eq (version : Version) (id : Int32) (c : Contract) (o : Order) :
    ∃ front table back, placeFields version id c o
      = front ++ o.volatility.fields version ++ o.trail.fields version
        ++ o.scale.extendedFields version ++ table ++ o.hedge.fields version
        ++ ifSupported (version.supports Since.optOutSmartRouting) [fieldText o.optOutSmartRouting]
        ++ o.clearingFields version c ++ back := by
  refine ⟨layoutFields version ++ [fieldText id] ++ mainFields version c o ++ fillFields version o,
    ifSupported (version.supports Since.scaleTable)
      [o.scale.table, o.scale.activeStartTime, o.scale.activeStopTime],
    o.algo.idFields version
      ++ ifSupported (version.supports Since.whatIfOrders) [fieldText o.whatIf]
      ++ ifSupported (version.supports Since.linking) [TagValue.joined o.miscOptions]
      ++ ifSupported (version.supports Since.solicitedOrders) [fieldText o.solicited]
      ++ ifSupported (version.supports Since.randomizedOrders)
        [fieldText o.randomizeSize, fieldText o.randomizePrice]
      ++ ifSupported (version.supports Since.benchmarkPegs) o.triggerFields
      ++ recentFields version o, ?_⟩
  simp only [placeFields, strategyFields, ScaleTerms.fields, clearingFields, List.append_assoc]

/-- The sections of a strategy, as they stand among the fields of a placed order, are each read back
from their own fields, whatever follows: the volatility terms with the hedge of the order, the
scale, the hedge of another order, and the clearing with the delta-neutral contract and the
algorithm, behind which a flag is put. A part whose presence depends on a value is read exactly if
it was written, and is as it is by default if not. The number of an algorithm's parameters, where it
is written, must be one of 32 bits, as that in any frame is. -/
theorem strategy_comes_back (hv : version.supports Since.deltaNeutralOpenClose = true)
    (hlayout : 33 ≤ layout) (h : o.HasExactStrategy c) :
    (∀ id, ∃ front table back, placeFields version id c o
      = front ++ o.volatility.fields version ++ o.trail.fields version
        ++ o.scale.extendedFields version ++ table ++ o.hedge.fields version
        ++ ifSupported (version.supports Since.optOutSmartRouting) [fieldText o.optOutSmartRouting]
        ++ o.clearingFields version c ++ back) ∧
    (∀ more, (Record.volatilityTerms version layout true).run
        (Fields.payload (o.volatility.fields version) ++ more)
      = (.ok (o.volatility.asRead, none), more)) ∧
    (∀ more, (Record.scaleTerms layout).run
        (Fields.payload (o.scale.extendedFields version) ++ more) = (.ok o.scale.asRead, more)) ∧
    (∀ more, (Record.hedgeTerms layout).run (Fields.payload (o.hedge.fields version) ++ more)
      = (.ok o.hedge.asRead, more)) ∧
    (∀ more, (o.algo.strategy.isEmpty = false → o.algo.params.length < 2 ^ 31) →
      (Record.clearingSection layout).run
          (Fields.payload (o.clearingFields version c ++ [fieldText o.solicited]) ++ more)
        = (.ok (o.clearingAsRead c), more)) ∧
    ∀ front back frame, Frame.ofFields (front ++ o.algo.fields version ++ back) = .ok frame →
      o.algo.strategy.isEmpty = false → o.algo.params.length < 2 ^ 31 := by
  refine ⟨fun id => exists_placeFields_eq version id c o,
    h.volatility.readsAll hv hlayout, h.scale.readsAll hv hlayout,
    h.hedge.readsAll hv hlayout,
    fun more hl => readsAll_clearingSection hv hlayout h hl more, ?_⟩
  intro front back frame hf hs
  have halgo : version.supports Since.algoOrders = true := Version.supports_of_le hv (by decide)
  have hfields := Frame.length_lt hf
  have hpairs := TagValue.length_lt_length_pairs o.algo.params
  simp only [AlgoTerms.fields, AlgoTerms.strategyFields, halgo, hs, ifSupported, if_true,
    Bool.false_eq_true, if_false, List.length_cons] at hfields
  omega

/-- Every part but the parameter of the hedge is there; two numbers stand for none. -/
def layered : Order where
  volatility :=
    { volatility := some .largest, volatilityType := some 2, deltaNeutralOrderType := "LMT"
      deltaNeutralLeg := { contractId := 8314, openClose := "O", shortSale := true }
      referencePriceType := some Int32.maxValue }
  scale := { priceIncrement := some (.infinity false), extension := { autoReset := true } }
  hedge := { param := "0.5" }
  clearing := { account := "DU1", intent := "IB" }
  algo := { strategy := "Twap", params := [⟨"allowPastEndTime", ""⟩] }
  solicited := true

def hedged : Contract := { deltaNeutral := some { contractId := 265598 } }

theorem strategy_comes_back_layered :
    (∀ more, (Record.volatilityTerms 66 33 true).run
        (Fields.payload (layered.volatility.fields 66) ++ more)
      = (.ok ({ layered.volatility with volatility := none, referencePriceType := none }, none),
          more)) ∧
    (∀ more, (Record.scaleTerms 33).run (Fields.payload (layered.scale.extendedFields 66) ++ more)
      = (.ok layered.scale, more)) ∧
    (∀ more, (Record.hedgeTerms 33).run (Fields.payload (layered.hedge.fields 66) ++ more)
      = (.ok {}, more)) ∧
    (∀ more, (Record.clearingSection 33).run
        (Fields.payload (layered.clearingFields 66 hedged ++ [fieldText true]) ++ more)
      = (.ok { clearing := layered.clearing, deltaNeutral := hedged.deltaNeutral,
               algo := layered.algo, solicited := true }, more)) ∧
    Version.supports 66 Since.deltaNeutralOpenClose = true ∧ layered.HasExactStrategy hedged := by
  have hv : Version.supports 66 Since.deltaNeutralOpenClose = true := by decide
  have hexact : layered.HasExactStrategy hedged := by
    refine ⟨⟨by decide, by decide, by decide, ?_⟩, ⟨by decide, by decide, by decide⟩,
      ⟨by decide, by decide⟩, ⟨by decide, by decide⟩, ?_, ⟨by decide, by decide⟩⟩
    · exact ⟨by decide, by decide, by decide, by decide, by decide, by decide, by decide⟩
    · rintro d ⟨⟩
      exact ⟨by decide, by decide, by decide⟩
  obtain ⟨-, hvolatility, hscale, hhedge, hclearing, -⟩ :=
    @strategy_comes_back 66 33 hedged layered hv (by decide) hexact
  exact ⟨hvolatility, hscale, hhedge, fun more => hclearing more (by decide), hv, hexact⟩

end Order
end BrokerLink
