import BrokerLink.Proofs.FieldReads
import BrokerLink.Proofs.OwnFields
import BrokerLink.Proofs.PlacedAlike
import BrokerLink.Record

/-!
# Combinations are read back

A combination is written as three lists, one behind the other, each behind its own length: the
legs, the prices of legs, and the parameters of the routing. The lists need not be of one length,
and any of them may be empty or may have nothing but empty fields. The record of an order has
them in the same order behind a description, so that a combination that was placed is read back
leg by leg.
-/

namespace BrokerLink

open Reader

namespace ComboLeg

/-- Everything that the leg says has a text of its own: no number of it stands for none, its side
is a word that reading gives, with a text that is not that of none, and no text holds a zero
character. -/
structure IsExact (l : ComboLeg) : Prop where
  contractId : l.contractId ≠ Int32.maxValue
  ratio : l.ratio ≠ Int32.maxValue
  isCanonical : ∀ a ∈ l.action, Word.IsCanonical a
  action : ∀ a ∈ l.action, a.text ≠ "" ∧ '\x00' ∉ a.text.toList
  exchange : '\x00' ∉ l.exchange.toList
  shortSaleSlot : l.shortSaleSlot ≠ Int32.maxValue
  designatedLocation : '\x00' ∉ l.designatedLocation.toList
  exemptCode : l.exemptCode ≠ Int32.maxValue

theorem IsExact.reads_action {l : ComboLeg} (h : l.IsExact) :
    word?.Reads (fieldText l.action) l.action := by
  refine reads_word? fun a ha => ?_
  obtain ⟨s, rfl⟩ := h.isCanonical a ha
  have htext : fieldText (Word.ofText s : Action) = s :=
    Action.lexicon_isFollowed.fieldText_ofText rfl s
  have hs := h.action _ ha
  exact ⟨congrArg Word.ofText htext, hs⟩

theorem ofCode?_code (o : LegOpenClose) : (Coded.ofCode? o.code).getD LegOpenClose.unknown = o := by
  cases o <;> rfl

theorem readsAll_comboLeg {version : Version} (hv : version.supports Since.oldExemptCode = true)
    {l : ComboLeg} (h : l.IsExact) : Record.comboLeg.ReadsAll (l.orderFields version) l := by
  have hopen : l.openClose.code ≠ Int32.maxValue := by cases l.openClose <;> decide
  have htext : fieldText l.openClose = fieldText l.openClose.code := rfl
  intro rest
  simp only [orderFields, hv, ifSupported, if_true, List.cons_append, List.nil_append, htext,
    Record.comboLeg]
  rw [(reads_int32 h.contractId).run_cons, (reads_int32 h.ratio).run_cons, h.reads_action.run_cons,
    (reads_string h.exchange).run_cons, (reads_int32 hopen).run_cons,
    (reads_int32 h.shortSaleSlot).run_cons, (reads_string h.designatedLocation).run_cons,
    (reads_int32 h.exemptCode).run_cons]
  simp only [ofCode?_code]
  rfl

end ComboLeg

namespace ComboTerms

variable {version : Version} {layout : Int} {description : String} {legs : List ComboLeg}
  {t : ComboTerms}

theorem readsAll_legPrices (hprices : ∀ p ∈ t.legPrices, ∀ x ∈ p.price, x.isNaN = false)
    (hl : t.legPrices.length < 2 ^ 31) :
    (list Record.comboLegPrice).ReadsAll
      (fieldText t.legPrices.length :: t.legPrices.map fun p => fieldText p.price)
      (t.legPrices.map (·.cleared)) := by
  rw [List.map_eq_flatMap]
  refine readsAll_list _ _ (fun p => List.cons_ne_nil _ _) hl fun p hp rest => ?_
  rw [Record.comboLegPrice, (reads_float? (hprices p hp)).run_cons]
  rfl

/-- From version 61 on the three lists are all there. -/
theorem fields_eq (hv : version.supports Since.comboLegPrices = true) (legs : List ComboLeg)
    (t : ComboTerms) :
    t.fields version legs
      = (fieldText legs.length :: legs.flatMap (·.orderFields version))
        ++ (fieldText t.legPrices.length :: t.legPrices.map fun p => fieldText p.price)
        ++ TagValue.pairs t.routingParams := by
  have hr : version.supports Since.smartComboRouting = true :=
    Version.supports_of_le hv (by decide)
  simp only [fields, hv, hr, ifSupported, if_true]

/-- A combination of legs that have texts of their own is read back as it was, whatever the lengths
of its lists and whatever follows: the description, every attribute of every leg, the prices (one
that stands for none as none), and the parameters of the routing. The lengths must be such as 32
bits can say, and in any frame they are. -/
theorem combination_comes_back (hv : version.supports Since.comboLegPrices = true)
    (hlayout : 29 ≤ layout) (hd : '\x00' ∉ description.toList) (hlegs : ∀ l ∈ legs, l.IsExact)
    (hprices : ∀ p ∈ t.legPrices, ∀ x ∈ p.price, x.isNaN = false)
    (hparams : ∀ p ∈ t.routingParams, p.IsZeroFree) :
    (∀ more, legs.length < 2 ^ 31 → t.legPrices.length < 2 ^ 31 →
      t.routingParams.length < 2 ^ 31 →
        ∃ rest, (Record.comboLegs layout).run
              (Fields.payload (description :: t.fields version legs) ++ more)
            = (.ok (description, legs, t.legPrices.map (·.cleared)), rest) ∧
          (Record.routingParams layout).run rest = (.ok t.routingParams, more)) ∧
    ∀ front back frame, Frame.ofFields (front ++ t.fields version legs ++ back) = .ok frame →
      legs.length < 2 ^ 31 ∧ t.legPrices.length < 2 ^ 31 ∧ t.routingParams.length < 2 ^ 31 := by
  have he : version.supports Since.oldExemptCode = true := Version.supports_of_le hv (by decide)
  have hleg : ∀ l : ComboLeg, l.orderFields version ≠ [] := fun l => List.cons_ne_nil _ _
  rw [fields_eq hv]
  constructor
  · intro more hl hp hr
    have hlegsAll := readsAll_list (ComboLeg.orderFields version) id hleg hl
      fun l h => ComboLeg.readsAll_comboLeg he (hlegs l h)
    rw [List.map_id] at hlegsAll
    refine ⟨Fields.payload (TagValue.pairs t.routingParams) ++ more, ?_, ?_⟩
    · have h14 : (14 : Int) ≤ layout := by omega
      simp only [Record.comboLegs, hlayout, h14, decide_true, since_true]
      rw [(reads_string hd).run_cons, List.append_assoc, hlegsAll.run_append,
        (readsAll_legPrices hprices hp).run_append]
      rfl
    · have h26 : (26 : Int) ≤ layout := by omega
      simp only [Record.routingParams, h26, decide_true, since_true]
      exact readsAll_tagValues hparams hr more
  · intro front back frame hf
    have hfields := Frame.length_lt hf
    have hentries : legs.length ≤ (legs.flatMap (·.orderFields version)).length :=
      Fields.length_le_length_flatMap hleg legs
    have hpairs := TagValue.length_lt_length_pairs t.routingParams
    simp only [List.length_append, List.length_cons, List.length_map] at hfields
    omega

/-- Two legs of which one says no more than its side, three prices of which two are none, and an
option whose tag and value are empty. -/
def unevenLegs : List ComboLeg :=
  [{ contractId := 8314, ratio := 1, action := some .buy, exchange := "SMART"
     openClose := .closing, shortSaleSlot := 2, designatedLocation := "NYSE", exemptCode := -1 },
    { action := some (.other "HOLD") }]

def unevenTerms : ComboTerms where
  legPrices := [{ price := some (.infinity true) }, { price := some .largest }, { price := none }]
  routingParams := [⟨"", ""⟩]

theorem combination_comes_back_uneven :
    (∃ rest, (Record.comboLegs 29).run
          (Fields.payload ("" :: unevenTerms.fields 61 unevenLegs) ++ [0x41])
        = (.ok ("", unevenLegs, [{ price := some (.infinity true) }, {}, {}]), rest) ∧
      (Record.routingParams 29).run rest = (.ok [⟨"", ""⟩], [0x41])) ∧
    Version.supports 61 Since.comboLegPrices = true ∧ ∀ l ∈ unevenLegs, l.IsExact := by
  have hv : Version.supports 61 Since.comboLegPrices = true := by decide
  have hlegs : ∀ l ∈ unevenLegs, l.IsExact := by
    intro l hl
    simp only [unevenLegs, List.mem_cons, List.not_mem_nil, or_false] at hl
    rcases hl with rfl | rfl
    · refine ⟨by decide, by decide, ?_, by decide, by decide, by decide, by decide, by decide⟩
      rintro a ⟨⟩
      exact ⟨"BUY", rfl⟩
    · refine ⟨by decide, by decide, ?_, by decide, by decide, by decide, by decide, by decide⟩
      rintro a ⟨⟩
      exact ⟨"HOLD", rfl⟩
  have hread := (@combination_comes_back 61 29 "" unevenLegs unevenTerms hv (by decide) (by decide)
    hlegs (by decide) (by decide)).1
  exact ⟨hread [0x41] (by decide) (by decide) (by decide), hv, hlegs⟩

end ComboTerms
end BrokerLink
