import BrokerLink.Proofs.Lexicon
import BrokerLink.Proofs.PlacedAlike
import BrokerLink.Record

/-!
# Sections that go by a word

The legs of a combination are sent, and the peg to a benchmark is sent and read, only if a word
that came before them says so. Whoever is at the other end decides by the text of that word, so
the sections must be there for one text each and for no other. That a section is among the
fields of a request is told from its content: the fields around it are the same whatever the
section says.
-/

namespace BrokerLink

open Reader

namespace Fields

/-- The part is among the fields if it is present, between others that do not depend on it. -/
def HasPart {κ : Type} (whole part : κ → Fields) (present : Bool) : Prop :=
  ∃ front back : Fields, ∀ k, whole k = front ++ ifSupported present (part k) ++ back

namespace HasPart

variable {κ : Type} {whole part : κ → Fields} {present : Bool}

theorem alone (part : κ → Fields) (present : Bool) :
    HasPart (fun k => ifSupported present (part k)) part present :=
  ⟨[], [], fun _ => (List.append_nil _).symm⟩

theorem append (h : HasPart whole part present) (more : Fields) :
    HasPart (fun k => whole k ++ more) part present := by
  obtain ⟨front, back, hw⟩ := h
  exact ⟨front, back ++ more, fun k => by simp only [hw, List.append_assoc]⟩

theorem prepend (more : Fields) (h : HasPart whole part present) :
    HasPart (fun k => more ++ whole k) part present := by
  obtain ⟨front, back, hw⟩ := h
  exact ⟨more ++ front, back, fun k => by simp only [hw, List.append_assoc]⟩

/-- What is left out takes the part with it. -/
theorem ifSupported (carried : Bool) (h : HasPart whole part present) :
    HasPart (fun k => ifSupported carried (whole k)) part (carried && present) := by
  cases carried with
  | true => exact h
  | false => exact ⟨[], [], fun _ => rfl⟩

end HasPart
end Fields

/-- The code of a request stands in front of all its parts. -/
theorem Request.hasPart_fields {κ : Type} {version : Version} {request : κ → Request}
    {part : κ → Fields} {present : Bool} {code : Int32} (hcode : ∀ k, (request k).code = code)
    (h : Fields.HasPart (fun k => (request k).body version) part present) :
    Fields.HasPart (fun k => (request k).fields version) part present := by
  simp only [Request.fields, hcode]
  exact h.prepend [fieldText code]

/-! ### The legs of a combination -/

/-- The number of the legs, and of each only what it is. -/
def briefLegFields (legs : List ComboLeg) : Fields :=
  fieldText legs.length :: legs.flatMap fun leg =>
    [fieldText leg.contractId, fieldText leg.ratio, fieldText leg.action, leg.exchange]

namespace Contract

/-- The requests that name the legs of a combination name those of this contract if it is one. -/
structure SendsLegs (c : Contract) (isCombo : Bool) : Prop where
  isCombo_eq : c.isCombo = isCombo
  marketData (version : Version) (id : Int32) (genericTicks : String)
      (snapshot regulatorySnapshot : Bool) (options : List TagValue) :
    Fields.HasPart (fun legs => Request.fields version (.marketData id { c with comboLegs := legs }
      genericTicks snapshot regulatorySnapshot options)) briefLegFields isCombo
  historicalData (version : Version) (id : Int32) (query : BarQuery) :
    Fields.HasPart (fun legs => Request.fields version
      (.historicalData id { c with comboLegs := legs } query)) briefLegFields isCombo
  placeOrder (version : Version) (id : Int32) (o : Order) :
    Fields.HasPart (fun k : List ComboLeg × ComboTerms => Request.fields version
        (.placeOrder id { c with comboLegs := k.1 } { o with combo := k.2 }))
      (fun k => k.2.fields version k.1) isCombo

variable (c : Contract) (version : Version) (id : Int32)

theorem fields_legs (carried : ContractLayout) (legs : List ComboLeg) :
    Contract.fields carried { c with comboLegs := legs } = c.fields carried := rfl

theorem orderFields_legs (legs : List ComboLeg) :
    Contract.orderFields version { c with comboLegs := legs } = c.orderFields version := rfl

theorem deltaNeutralFields_legs (legs : List ComboLeg) :
    Contract.deltaNeutralFields { c with comboLegs := legs } = c.deltaNeutralFields := rfl

theorem hasPart_briefLegs :
    Fields.HasPart (fun legs => Contract.briefLegs { c with comboLegs := legs }) briefLegFields
      c.isCombo := .alone briefLegFields c.isCombo

theorem hasPart_barQuery (query : BarQuery) :
    Fields.HasPart (fun legs => query.fields version id { c with comboLegs := legs })
      briefLegFields c.isCombo := by
  simp only [BarQuery.fields, fields_legs]
  exact ((c.hasPart_briefLegs.prepend _).append _).append _

theorem hasPart_mainFields (o : Order) :
    Fields.HasPart (fun k : List ComboLeg × ComboTerms =>
        Order.mainFields version { c with comboLegs := k.1 } { o with combo := k.2 })
      (fun k => k.2.fields version k.1) c.isCombo := by
  have hlegs := Fields.HasPart.alone
    (fun k : List ComboLeg × ComboTerms => k.2.fields version k.1) c.isCombo
  simp only [Order.mainFields, orderFields_legs]
  exact hlegs.prepend _

/-- Nothing but whether the contract is a combination decides about its legs. -/
theorem sendsLegs : c.SendsLegs c.isCombo where
  isCombo_eq := rfl
  marketData version id _ _ _ _ := by
    refine Request.hasPart_fields (fun _ => rfl) ?_
    simp only [Request.body, fields_legs, deltaNeutralFields_legs]
    exact ((((c.hasPart_briefLegs.prepend _).append _).append _).append _).append _
  historicalData version id query :=
    Request.hasPart_fields (fun _ => rfl) (c.hasPart_barQuery version id query)
  placeOrder version id o := by
    -- the groups of fields behind the legs, in the order in which they are sent
    have hmain := (c.hasPart_mainFields version o).prepend
      (Order.layoutFields version ++ [fieldText id])
    have hstrategy := (hmain.append (o.fillFields version)).append (o.strategyFields version c)
    have htrigger := hstrategy.append
      (ifSupported (version.supports Since.benchmarkPegs) o.triggerFields)
    exact Request.hasPart_fields (fun _ => rfl) (htrigger.append (o.recentFields version))

end Contract

/-! ### The peg to a benchmark -/

namespace Order

/-- The peg of the order is sent to servers that know pegs, if the order is pegged. -/
structure SendsPeg (o : Order) (isPegged : Bool) : Prop where
  isPegged_eq : o.isPegged = isPegged
  placeOrder (version : Version) (id : Int32) (c : Contract) :
    Fields.HasPart (fun peg => Request.fields version
        (.placeOrder id c { o with benchmark := peg }))
      BenchmarkPeg.fields (version.supports Since.benchmarkPegs && isPegged)

variable (o : Order)

theorem hasPart_triggerFields :
    Fields.HasPart (fun peg => Order.triggerFields { o with benchmark := peg })
      BenchmarkPeg.fields o.isPegged := by
  have hpeg := Fields.HasPart.alone BenchmarkPeg.fields o.isPegged
  exact (hpeg.append o.conditions.fields).append o.adjustment.fields

/-- Nothing but whether the order is pegged decides about its peg, where pegs are known. -/
theorem sendsPeg : o.SendsPeg o.isPegged where
  isPegged_eq := rfl
  placeOrder version id c := by
    have htrigger := o.hasPart_triggerFields.ifSupported (version.supports Since.benchmarkPegs)
    have hfront := htrigger.prepend (layoutFields version ++ [fieldText id]
      ++ o.mainFields version c ++ o.fillFields version ++ o.strategyFields version c)
    exact Request.hasPart_fields (fun _ => rfl) (hfront.append (o.recentFields version))

end Order

namespace Record

/-- The fields of a peg to a benchmark. -/
def pegFields : Reader BenchmarkPeg := do
  let referenceContractId ← int32
  let changeAmountDecrease ← bool
  let changeAmount ← float
  let referenceChangeAmount ← float
  let referenceExchange ← string
  return { referenceContractId, changeAmountDecrease, changeAmount, referenceChangeAmount,
           referenceExchange }

theorem benchmarkPeg_eq (version : Version) (w : Option OrderType) :
    benchmarkPeg version w
      = Reader.since (version.supports Since.benchmarkPegs && w == some .peggedToBenchmark) {}
          pegFields := rfl

end Record

/-! ### Texts decide -/

namespace Word

theorem isCanonical_ofField {α : Type} [Word α] {s : String} :
    ∀ w ∈ (ofField s : Option α), IsCanonical w := by
  intro w hw
  unfold ofField at hw
  split at hw
  · cases hw
  · cases hw
    exact ⟨s, rfl⟩

/-- In a vocabulary without aliases a word is read from one text only. -/
theorem eq_some_iff_of_reads {α : Type} [Word α] [FieldText α] {l : Lexicon α}
    (hl : l.IsFollowed) (ha : l.aliases = []) (t : String) (ht : t ≠ "") {s : String}
    (hs : '\x00' ∉ s.toList) {w : Option α} (hw : word?.Reads s w) :
    w = some (Word.ofText t) ↔ s = t := by
  obtain rfl := hw.unique (reads_ofField hs)
  rw [eq_some_iff t (hl.fieldText_ofText ha) ht isCanonical_ofField, hl.fieldText_ofField,
    l.written_of_aliases ha]

/-- Every text of a field is written again as it came, that of none and those that are not known
among them, but for two rights of options that are shortened; the words that have names here have
texts of their own. So the legs of a combination go with the text `BAG` and the peg to a benchmark
with the text `PEG BENCH`, and neither with any other. -/
theorem texts_are_kept :
    SecType.lexicon.KeepsTexts ∧ Right.lexicon.KeepsTexts ∧ Action.lexicon.KeepsTexts ∧
    OrderType.lexicon.KeepsTexts ∧ TimeInForce.lexicon.KeepsTexts ∧
    (∀ s : String, '\x00' ∉ s.toList → ∀ w : Option SecType, word?.Reads s w →
      ∀ c : Contract, c.secType = w → c.SendsLegs (decide (s = "BAG"))) ∧
    ∀ s : String, '\x00' ∉ s.toList → ∀ w : Option OrderType, word?.Reads s w →
      (∀ o : Order, o.terms.orderType = w → o.SendsPeg (decide (s = "PEG BENCH"))) ∧
      ∀ version, Record.benchmarkPeg version w
        = Reader.since (version.supports Since.benchmarkPegs && decide (s = "PEG BENCH")) {}
            Record.pegFields := by
  refine ⟨SecType.lexicon_isFollowed.keepsTexts, Right.lexicon_isFollowed.keepsTexts,
    Action.lexicon_isFollowed.keepsTexts, OrderType.lexicon_isFollowed.keepsTexts,
    TimeInForce.lexicon_isFollowed.keepsTexts, ?_, ?_⟩
  · intro s hs w hw c hc
    have hbag : w = some .combo ↔ s = "BAG" :=
      eq_some_iff_of_reads SecType.lexicon_isFollowed rfl "BAG" (by decide) hs hw
    have hcombo : c.isCombo = decide (s = "BAG") := by
      rw [Contract.isCombo, hc, Bool.eq_iff_iff, beq_iff_eq, decide_eq_true_iff, hbag]
    exact hcombo ▸ c.sendsLegs
  · intro s hs w hw
    have hbench : w = some .peggedToBenchmark ↔ s = "PEG BENCH" :=
      eq_some_iff_of_reads OrderType.lexicon_isFollowed rfl "PEG BENCH" (by decide) hs hw
    have hpegged : (w == some .peggedToBenchmark) = decide (s = "PEG BENCH") := by
      rw [Bool.eq_iff_iff, beq_iff_eq, decide_eq_true_iff, hbench]
    refine ⟨fun o ho => ?_, fun version => ?_⟩
    · have hp : o.isPegged = decide (s = "PEG BENCH") := by rw [Order.isPegged, ho, hpegged]
      exact hp ▸ o.sendsPeg
    · rw [Record.benchmarkPeg_eq, hpegged]

/-- A right in full is shortened, and both sections are there behind their texts. -/
theorem texts_are_kept_inFull :
    (SecType.lexicon.IsNamed .combo ∧ SecType.ofText SecType.combo.text = .combo) ∧
    ('\x00' ∉ "CALL".toList ∧ ∃ w : Option Right, word?.Reads "CALL" w ∧
      ∀ d : Draft, d.field w = { d with bytes := d.bytes ++ [67] ++ [0] }) ∧
    ('\x00' ∉ "BAG".toList ∧ word?.Reads "BAG" (some SecType.combo) ∧
      ∃ front back, ∀ legs, Request.fields 100
          (.marketData 1 { secType := some .combo, comboLegs := legs } "" false false [])
        = front ++ briefLegFields legs ++ back) ∧
    ('\x00' ∉ "PEG BENCH".toList ∧ word?.Reads "PEG BENCH" (some OrderType.peggedToBenchmark) ∧
      (∃ front back, ∀ peg, Request.fields 102
          (.placeOrder 1 {}
            { terms := { orderType := some .peggedToBenchmark }, benchmark := peg })
        = front ++ peg.fields ++ back) ∧
      Record.benchmarkPeg 102 (some .peggedToBenchmark) = Record.pegFields) := by
  obtain ⟨hsec, hright, -, -, -, hlegs, hpeg⟩ := texts_are_kept
  have hnamed : SecType.lexicon.IsNamed .combo := fun s h => by cases h
  have hcall : '\x00' ∉ "CALL".toList := by decide
  have hbag : '\x00' ∉ "BAG".toList := by decide
  have hbench : '\x00' ∉ "PEG BENCH".toList := by decide
  have hcombo : word?.Reads "BAG" (some SecType.combo) := reads_ofField hbag
  have hpegged : word?.Reads "PEG BENCH" (some OrderType.peggedToBenchmark) :=
    reads_ofField hbench
  obtain ⟨w, hw, -, hfield⟩ := hright.field_comes_back "CALL" hcall
  obtain ⟨hsend, hread⟩ := hpeg "PEG BENCH" hbench _ hpegged
  exact ⟨⟨hnamed, hsec.ofText_text _ hnamed⟩, ⟨hcall, w, hw, hfield⟩,
    ⟨hbag, hcombo, (hlegs "BAG" hbag _ hcombo { secType := some .combo } rfl).marketData ..⟩,
    ⟨hbench, hpegged,
      (hsend { terms := { orderType := some .peggedToBenchmark } } rfl).placeOrder 102 1 {},
      hread 102⟩⟩

end Word
end BrokerLink
