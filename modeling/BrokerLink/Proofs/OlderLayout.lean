import BrokerLink.Proofs.FieldReads
import BrokerLink.Proofs.PlacedAlike

/-!
# The layouts of older servers

An order that can be placed at the newest version can be placed at every older one whose
server has the features it uses: an older layout takes no more bytes, and shows no text
that the newest does not. Sections only grow with the version. Where an older layout
says something of its own (a mark of its version, a quantity cut to a whole number, a
price of zero) it has lost more bytes elsewhere.
-/

namespace BrokerLink

/-! ### Sizes of fields -/

namespace Fields

/-- `f` takes at most `slack` more bytes than `g`, and has no zero byte if `g` has none. -/
structure Within (slack : Nat) (f g : Fields) : Prop where
  size : f.size ≤ g.size + slack
  zeroFree : (∀ s ∈ g, 0 ∉ Utf8.encode s) → ∀ s ∈ f, 0 ∉ Utf8.encode s

namespace Within

variable {m n : Nat} {f f' g g' : Fields}

theorem refl (f : Fields) : Within 0 f f := ⟨Nat.le_refl _, id⟩

theorem mono (h : Within m f g) (hmn : m ≤ n) : Within n f g :=
  ⟨Nat.le_trans h.size (Nat.add_le_add_left hmn _), h.zeroFree⟩

theorem append (h : Within m f g) (h' : Within n f' g') :
    Within (m + n) (f ++ f') (g ++ g') := by
  refine ⟨?_, ?_⟩
  · have hm := h.size
    have hn := h'.size
    rw [size_append, size_append]
    omega
  · intro hz s hs
    rcases List.mem_append.mp hs with hs | hs
    · exact h.zeroFree (fun s hs => hz s (List.mem_append_left _ hs)) s hs
    · exact h'.zeroFree (fun s hs => hz s (List.mem_append_right _ hs)) s hs

theorem cons {a b : String} (hl : a.utf8ByteSize ≤ b.utf8ByteSize + m)
    (hz : 0 ∉ Utf8.encode b → 0 ∉ Utf8.encode a) (h : Within n f g) :
    Within (m + n) (a :: f) (b :: g) := by
  have ha : Within m [a] [b] := by
    refine ⟨?_, ?_⟩
    · rw [size_cons, size_cons]
      omega
    · intro hb s hs
      rw [List.mem_singleton.mp hs]
      exact hz (hb b (List.mem_singleton_self b))
  exact ha.append h

theorem cons_same (a : String) (h : Within n f g) : Within n (a :: f) (a :: g) := by
  have hc := cons (m := 0) (Nat.le_refl a.utf8ByteSize) id h
  rwa [Nat.zero_add] at hc

theorem nil (g : Fields) : Within 0 [] g := ⟨Nat.zero_le _, fun _ s hs => absurd hs (by simp)⟩

/-- A section that a newer server is sent too. -/
theorem ifSupported {carried carried' : Bool} (hc : carried = true → carried' = true)
    (h : Within n f g) : Within n (ifSupported carried f) (ifSupported carried' g) := by
  cases carried with
  | true =>
    rw [hc rfl]
    exact h
  | false => exact (nil _).mono (Nat.zero_le n)

theorem flatMap {α : Type} {write write' : α → Fields} (h : ∀ a, Within 0 (write a) (write' a))
    (as : List α) : Within 0 (as.flatMap write) (as.flatMap write') := by
  induction as with
  | nil => exact refl []
  | cons a as ih => exact (h a).append ih

end Within
end Fields

open Fields (Within)

variable {version version' : Version}

/-- What a server is sent of a feature, a newer one is sent too. -/
theorem sent_within (hv : version ≤ version') (since : Version) (f : Fields) :
    Within 0 (ifSupported (version.supports since) f) (ifSupported (version'.supports since) f) :=
  (Within.refl f).ifSupported (Version.supports_mono hv)

theorem Fields.Within.sent {n : Nat} {f g : Fields} (h : Within n f g) (hv : version ≤ version')
    (since : Version) (more : Fields) :
    Within n (f ++ BrokerLink.ifSupported (version.supports since) more)
      (g ++ BrokerLink.ifSupported (version'.supports since) more) :=
  h.append (sent_within hv since more)

/-! ### Sections that grow with the version -/

theorem Contract.orderFields_within (hv : version ≤ version') (c : Contract) :
    Within 0 (c.orderFields version) (c.orderFields version') := by
  have hid := sent_within hv Since.orderByContractId [fieldText c.contractId]
  have hclass := sent_within hv Since.tradingClass [c.tradingClass]
  have hsec := sent_within hv Since.securityIds [c.secIdType, c.secId]
  exact ((((((((hid.append (.refl _)).append (.refl _)).append (.refl _)).append (.refl _)).append
    (.refl _)).append (.refl _)).append hclass).append hsec)

theorem ComboLeg.orderFields_within (hv : version ≤ version') (l : ComboLeg) :
    Within 0 (l.orderFields version) (l.orderFields version') :=
  (Within.refl _).sent hv _ _

theorem ComboTerms.fields_within (hv : version ≤ version') (legs : List ComboLeg)
    (t : ComboTerms) : Within 0 (t.fields version legs) (t.fields version' legs) := by
  have hlegs := (Within.flatMap (ComboLeg.orderFields_within hv) legs).cons_same
    (fieldText legs.length)
  exact (hlegs.sent hv _ _).sent hv _ _

theorem ShortSale.fields_within (hv : version ≤ version') (s : ShortSale) :
    Within 0 (s.fields version) (s.fields version') :=
  (Within.refl _).sent hv _ _

theorem DeltaNeutralLeg.fields_within (hv : version ≤ version') (l : DeltaNeutralLeg) :
    Within 0 (l.fields version) (l.fields version') :=
  (sent_within hv _ _).sent hv _ _

theorem VolatilityTerms.fields_within (hv : version ≤ version') (t : VolatilityTerms) :
    Within 0 (t.fields version) (t.fields version') := by
  have hleg : Within 0
      (if t.deltaNeutralOrderType.isEmpty then [] else t.deltaNeutralLeg.fields version)
      (if t.deltaNeutralOrderType.isEmpty then [] else t.deltaNeutralLeg.fields version') := by
    split
    · exact .refl []
    · exact DeltaNeutralLeg.fields_within hv _
  exact ((Within.refl _).append hleg).append (.refl _)

theorem TrailTerms.fields_within (hv : version ≤ version') (t : TrailTerms) :
    Within 0 (t.fields version) (t.fields version') :=
  (sent_within hv _ _).cons_same _

/-- The place that older servers leave empty is before the first level, not behind it. -/
theorem ScaleTerms.levelFields_within (hv : version ≤ version') (t : ScaleTerms) :
    Within 0 (t.levelFields version) (t.levelFields version') := by
  unfold levelFields
  by_cases h : version.supports Since.scaleSubsequentLevels = true
  · rw [if_pos h, if_pos (Version.supports_mono hv h)]
    exact .refl _
  · rw [if_neg h]
    split
    · refine ⟨?_, ?_⟩
      · have he : ("" : String).utf8ByteSize = 0 := rfl
        simp only [Fields.size_cons, Fields.size_nil, he]
        omega
      · intro _ s hs
        simp only [List.mem_cons, List.not_mem_nil, or_false] at hs
        rcases hs with rfl | rfl
        · exact Utf8.zero_notMem_encode_empty
        · exact Utf8.zero_notMem_option Utf8.zero_notMem_int32 _
    · exact .refl _

theorem ScaleTerms.fields_within (hv : version ≤ version') (t : ScaleTerms) :
    Within 0 (t.fields version) (t.fields version') := by
  have hext : Within 0
      (ifSupported (version.supports Since.scaleExtension && t.hasExtension) t.extension.fields)
      (ifSupported (version'.supports Since.scaleExtension && t.hasExtension)
        t.extension.fields) := by
    apply (Within.refl _).ifSupported
    rw [Bool.and_eq_true, Bool.and_eq_true]
    rintro ⟨hs, hx⟩
    exact ⟨Version.supports_mono hv hs, hx⟩
  exact (((ScaleTerms.levelFields_within hv t).append (.refl _)).append hext).sent hv _ _

theorem DecisionMakers.fields_within (hv : version ≤ version') (d : DecisionMakers) :
    Within 0 (d.fields version) (d.fields version') :=
  (sent_within hv _ _).sent hv _ _

/-! ### What only older servers are told -/

/-- A number of 64 bits has at most nineteen digits and a sign. -/
theorem length_wholeText_int64 (n : Int64) : (Numeral.wholeText n.toInt).length ≤ 20 := by
  have hl := Int64.le_toInt n
  have hh := Int64.toInt_lt n
  have hd : (Numeral.digits n.toInt.natAbs).length ≤ 19 := by
    unfold Numeral.digits
    rw [Nat.length_toDigits_le_iff (by decide) (by decide)]
    omega
  unfold Numeral.wholeText
  split
  · rw [List.length_cons]
    omega
  · omega

theorem Numeral.utf8Size_of_isDigit {c : Char} (h : isDigit c = true) : c.utf8Size = 1 := by
  obtain ⟨d, hd⟩ := exists_digit? h
  unfold digit? at hd
  split at hd
  · rename_i hc
    rw [Char.utf8Size_eq_one_iff]
    have h9 : c.val ≤ '9'.val := hc.2
    exact UInt32.le_trans h9 (by decide)
  · cases hd

theorem utf8ByteSize_ofList {cs : List Char} (h : ∀ c ∈ cs, c.utf8Size = 1) :
    (String.ofList cs).utf8ByteSize = cs.length := by
  rw [← Fields.length_encode, Utf8.encode_eq_flatMap, String.toList_ofList]
  induction cs with
  | nil => rfl
  | cons c cs ih =>
    obtain ⟨hc, hcs⟩ := List.forall_mem_cons.mp h
    rw [List.flatMap_cons, List.length_append, String.length_utf8EncodeChar, hc, ih hcs,
      List.length_cons, Nat.add_comm]

theorem utf8ByteSize_int64 (n : Int64) : (fieldText n).utf8ByteSize ≤ 20 := by
  have hone : ∀ c ∈ Numeral.wholeText n.toInt, c.utf8Size = 1 := by
    intro c hc
    unfold Numeral.wholeText at hc
    split at hc
    · rcases List.mem_cons.mp hc with rfl | hc
      · rfl
      · exact Numeral.utf8Size_of_isDigit (Numeral.isDigit_of_mem_digits hc)
    · exact Numeral.utf8Size_of_isDigit (Numeral.isDigit_of_mem_digits hc)
  have hs : (fieldText n).utf8ByteSize = (Numeral.wholeText n.toInt).length :=
    utf8ByteSize_ofList hone
  rw [hs]
  exact length_wholeText_int64 n

theorem utf8ByteSize_ofList_pos {cs : List Char} (h : cs ≠ []) :
    1 ≤ (String.ofList cs).utf8ByteSize := by
  apply Nat.pos_of_ne_zero
  rw [Ne, String.utf8ByteSize_eq_zero_iff]
  intro he
  exact h (by simpa using congrArg String.toList he)

/-- A price that must be sent is zero where a newer server is sent nothing. -/
theorem OrderTerms.utf8ByteSize_priceField (mayBeUnset : Bool) (price : Option Binary64) :
    (priceField mayBeUnset price).utf8ByteSize ≤ (priceField true price).utf8ByteSize + 1 := by
  cases mayBeUnset with
  | true => exact Nat.le_succ _
  | false =>
    cases price with
    | none => decide
    | some x => exact Nat.le_succ _

theorem OrderTerms.zero_notMem_priceField (mayBeUnset : Bool) (price : Option Binary64) :
    0 ∉ Utf8.encode (priceField mayBeUnset price) := by
  cases mayBeUnset with
  | true => exact Utf8.zero_notMem_option Utf8.zero_notMem_float price
  | false => exact Utf8.zero_notMem_float _

/-- The terms of a whole number of at most twenty characters, and of two zeros. -/
theorem OrderTerms.fields_within (version : Version) (t : OrderTerms) :
    Within (if version.supports Since.fractionalPositions then 0 else 21)
      (t.fields version) (t.fields Version.newest) := by
  by_cases h : version.supports Since.fractionalPositions = true
  · have hprices : Version.supports version Since.comboLegPrices = true ∧
        version.supports Since.trailingPercent = true := by
      rw [Version.supports_iff] at h ⊢
      rw [Version.supports_iff]
      exact ⟨Int.le_trans (by decide) h, Int.le_trans (by decide) h⟩
    have hsame : t.fields version = t.fields Version.newest := by
      unfold fields quantityField
      rw [if_pos h, hprices.1, hprices.2]
      rfl
    rw [if_pos h, hsame]
    exact .refl _
  · have hquantity : (t.quantityField version).utf8ByteSize
        ≤ (t.quantityField Version.newest).utf8ByteSize + 19 := by
      have hold : t.quantityField version = fieldText (t.quantity.truncateInt64?.getD 0) := if_neg h
      have hnew : t.quantityField Version.newest = String.ofList t.quantity.normalize.chars := rfl
      have hl := utf8ByteSize_int64 (t.quantity.truncateInt64?.getD 0)
      have hp := utf8ByteSize_ofList_pos (Decimal.chars_ne_nil t.quantity.normalize)
      rw [hold, hnew]
      omega
    have hzero : 0 ∉ Utf8.encode (t.quantityField version) := by
      unfold quantityField
      rw [if_neg h]
      exact Utf8.zero_notMem_int64 _
    rw [if_neg h]
    exact (((((Within.refl []).cons (utf8ByteSize_priceField _ t.auxPrice)
      fun _ => zero_notMem_priceField _ _).cons (utf8ByteSize_priceField _ t.limitPrice)
      fun _ => zero_notMem_priceField _ _).cons_same (fieldText t.orderType)).cons hquantity
      fun _ => hzero).cons_same (fieldText t.action)

namespace Order

theorem layoutFields_within (version : Version) :
    Within (if version.supports Since.orderContainer then 0 else 3) (layoutFields version)
      (layoutFields Version.newest) := by
  have hnew : layoutFields Version.newest = [] := rfl
  rw [hnew]
  unfold layoutFields
  split
  · exact .refl []
  split
  · exact ⟨by decide, fun _ => by decide⟩
  · exact ⟨by decide, fun _ => by decide⟩

theorem mainFields_within (hv : version ≤ Version.newest) (c : Contract) (o : Order) :
    Within (if version.supports Since.fractionalPositions then 0 else 21)
      (mainFields version c o) (mainFields Version.newest c o) := by
  have hcombo : Within 0 (if c.isCombo then o.combo.fields version c.comboLegs else [])
      (if c.isCombo then o.combo.fields Version.newest c.comboLegs else []) := by
    split
    · exact ComboTerms.fields_within hv _ _
    · exact .refl []
  have h : Within (0 + (if version.supports Since.fractionalPositions then 0 else 21) + 0 + 0 + 0)
      (mainFields version c o) (mainFields Version.newest c o) :=
    ((((Contract.orderFields_within hv c).append (OrderTerms.fields_within version o.terms)).append
      (.refl _)).append (.refl _)).append hcombo
  exact h.mono (by omega)

theorem fillFields_within (hv : version ≤ version') (o : Order) :
    Within 0 (fillFields version o) (fillFields version' o) := by
  have hmodel := sent_within hv Since.models [o.settlement.modelCode]
  exact ((((((Within.refl _).append (.refl _)).append hmodel).append
    (ShortSale.fields_within hv _)).append (.refl _)).append (.refl _)).append (.refl _)

theorem strategyFields_within (hv : version ≤ version') (c : Contract) (o : Order) :
    Within 0 (strategyFields version c o) (strategyFields version' c o) := by
  have hspecial := ((VolatilityTerms.fields_within hv o.volatility).append
    (TrailTerms.fields_within hv o.trail)).append (ScaleTerms.fields_within hv o.scale)
  exact ((((((((((hspecial.sent hv _ _).sent hv _ _).sent hv _ _).sent hv _ _).sent hv _ _).sent
    hv _ _).sent hv _ _).sent hv _ _).sent hv _ _).sent hv _ _).sent hv _ _

theorem recentFields_within (hv : version ≤ version') (o : Order) :
    Within 0 (recentFields version o) (recentFields version' o) := by
  exact (((((((sent_within hv _ _).sent hv _ _).sent hv _ _).append
    (DecisionMakers.fields_within hv o.decision)).sent hv _ _).sent hv _ _).sent hv _ _).sent
    hv _ _

/-! ### What the marks of older layouts are made up by -/

theorem utf8ByteSize_bool (b : Bool) : (fieldText b).utf8ByteSize = 1 := by
  cases b <;> rfl

/-- Before containers, the last three attributes are missing. -/
theorem size_recentFields_of_mark (hv : version ≤ Version.newest)
    (h : version.supports Since.orderContainer = false) (o : Order) :
    (recentFields version o).size + 5 ≤ (recentFields Version.newest o).size := by
  have hpegs : version.supports Since.discretionaryPegs = false := by
    rw [← Bool.not_eq_true, Version.supports_iff] at h ⊢
    exact fun hp => h (Int.le_trans (by decide) hp)
  have hprice : version.supports Since.priceManagement = false := by
    rw [← Bool.not_eq_true, Version.supports_iff] at h ⊢
    exact fun hp => h (Int.le_trans (by decide) hp)
  have h1 := (sent_within hv Since.externalOperator [o.externalOperator]).size
  have h2 := (sent_within hv Since.softDollarTiers
    [o.softDollarTier.name, o.softDollarTier.value]).size
  have h3 := (sent_within hv Since.cashQuantity [fieldText o.cashQuantity]).size
  have h4 := (DecisionMakers.fields_within hv o.decision).size
  have h5 := (sent_within hv Since.hedgePriceOptOut [fieldText o.hedgePriceOptOut]).size
  have hlast : ∀ a b : Bool, ∀ s : String, 5 ≤ Fields.size [fieldText a, fieldText b, s] := by
    intro a b s
    simp only [Fields.size_cons, Fields.size_nil, utf8ByteSize_bool]
    omega
  have h6 := hlast o.omsContainer o.discretionaryUpToLimit (fieldText o.priceManagement)
  have hnew : recentFields Version.newest o
      = ifSupported (Version.newest.supports Since.externalOperator) [o.externalOperator]
        ++ ifSupported (Version.newest.supports Since.softDollarTiers)
          [o.softDollarTier.name, o.softDollarTier.value]
        ++ ifSupported (Version.newest.supports Since.cashQuantity) [fieldText o.cashQuantity]
        ++ o.decision.fields Version.newest
        ++ ifSupported (Version.newest.supports Since.hedgePriceOptOut)
          [fieldText o.hedgePriceOptOut]
        ++ [fieldText o.omsContainer, fieldText o.discretionaryUpToLimit,
          fieldText o.priceManagement] := rfl
  have hold : recentFields version o
      = ifSupported (version.supports Since.externalOperator) [o.externalOperator]
        ++ ifSupported (version.supports Since.softDollarTiers)
          [o.softDollarTier.name, o.softDollarTier.value]
        ++ ifSupported (version.supports Since.cashQuantity) [fieldText o.cashQuantity]
        ++ o.decision.fields version
        ++ ifSupported (version.supports Since.hedgePriceOptOut)
          [fieldText o.hedgePriceOptOut] := by
    simp only [recentFields, h, hpegs, hprice, ifSupported, Bool.false_eq_true, ↓reduceIte,
      List.append_nil]
  rw [hnew, hold]
  simp only [Fields.size_append] at h1 h2 h3 h4 h5 h6 ⊢
  omega

theorem size_recentFields_newest (o : Order) : 15 ≤ (recentFields Version.newest o).size := by
  have h : recentFields Version.newest o
      = [o.externalOperator, o.softDollarTier.name, o.softDollarTier.value,
        fieldText o.cashQuantity, o.decision.decisionMaker, o.decision.decisionAlgo,
        o.decision.executionTrader, o.decision.executionAlgo, fieldText o.hedgePriceOptOut,
        fieldText o.omsContainer, fieldText o.discretionaryUpToLimit,
        fieldText o.priceManagement] := rfl
  rw [h]
  simp only [Fields.size_cons, Fields.size_nil, utf8ByteSize_bool]
  omega

/-- The number of conditions, and seven fields of the adjustment. -/
theorem size_triggerFields (o : Order) : 9 ≤ o.triggerFields.size := by
  have hcount : 1 ≤ (fieldText o.conditions.conditions.length).utf8ByteSize :=
    utf8ByteSize_ofList_pos (Numeral.digits_ne_nil _)
  have hconditions : 2 ≤ o.conditions.fields.size := by
    unfold OrderConditions.fields
    rw [List.cons_append, Fields.size_cons]
    omega
  have hadjustment : 7 ≤ o.adjustment.fields.size :=
    Fields.length_le_size o.adjustment.fields
  unfold triggerFields
  rw [Fields.size_append, Fields.size_append]
  omega

/-- No older layout of an order is longer than the newest. -/
theorem size_placeFields_le (hv : version ≤ Version.newest) (id : Int32) (c : Contract)
    (o : Order) :
    (placeFields version id c o).size ≤ (placeFields Version.newest id c o).size := by
  have hlayout := (layoutFields_within version).size
  have hmain := (mainFields_within hv c o).size
  have hfill := (fillFields_within hv o).size
  have hstrategy := (strategyFields_within hv c o).size
  have htrigger : (ifSupported (version.supports Since.benchmarkPegs) o.triggerFields).size
      ≤ o.triggerFields.size + 0 := (sent_within hv Since.benchmarkPegs o.triggerFields).size
  have hrecent := (recentFields_within hv o).size
  have hnew : ifSupported (Version.newest.supports Since.benchmarkPegs) o.triggerFields
      = o.triggerFields := rfl
  unfold placeFields
  simp only [Fields.size_append, hnew]
  by_cases hc : version.supports Since.orderContainer = true
  · have hf : version.supports Since.fractionalPositions = true := by
      rw [Version.supports_iff] at hc ⊢
      exact Int.le_trans (by decide) hc
    rw [if_pos hc] at hlayout
    rw [if_pos hf] at hmain
    omega
  rw [if_neg hc] at hlayout
  by_cases hf : version.supports Since.fractionalPositions = true
  · have hmark := size_recentFields_of_mark hv (Bool.not_eq_true _ ▸ hc) o
    rw [if_pos hf] at hmain
    omega
  · -- nothing of what came later is sent, and that is longer than the mark and the terms
    have hlater : ∀ since : Version, Since.fractionalPositions ≤ since →
        version.supports since = false := by
      intro since hs
      rw [← Bool.not_eq_true, Version.supports_iff]
      rw [Version.supports_iff] at hf
      exact fun h => hf (Int.le_trans hs h)
    have hnone : recentFields version o = [] := by
      simp only [recentFields, DecisionMakers.fields,
        hlater Since.externalOperator (by decide), hlater Since.softDollarTiers (by decide),
        hlater Since.cashQuantity (by decide), hlater Since.decisionMaker (by decide),
        hlater Since.executionTrader (by decide), hlater Since.hedgePriceOptOut (by decide),
        hlater Since.orderContainer (by decide), hlater Since.discretionaryPegs (by decide),
        hlater Since.priceManagement (by decide), ifSupported, Bool.false_eq_true, ↓reduceIte,
        List.append_nil]
    have hlong := size_recentFields_newest o
    have htriggers := size_triggerFields o
    rw [if_neg hf] at hmain
    rw [hnone, hlater Since.benchmarkPegs (by decide)]
    simp only [ifSupported, Bool.false_eq_true, ↓reduceIte, Fields.size_nil]
    omega

theorem zeroFree_placeFields (hv : version ≤ Version.newest) (id : Int32) (c : Contract)
    (o : Order) (hz : ∀ s ∈ placeFields Version.newest id c o, 0 ∉ Utf8.encode s) :
    ∀ s ∈ placeFields version id c o, 0 ∉ Utf8.encode s := by
  have htrigger : Within 0 (ifSupported (version.supports Since.benchmarkPegs) o.triggerFields)
      (ifSupported (Version.newest.supports Since.benchmarkPegs) o.triggerFields) :=
    sent_within hv _ _
  have h := ((((((layoutFields_within version).append (.refl [fieldText id])).append
    (mainFields_within hv c o)).append (fillFields_within hv o)).append
    (strategyFields_within hv c o)).append htrigger).append (recentFields_within hv o)
  exact h.zeroFree hz

end Order

/-- What can be placed at the newest version can be placed wherever no feature is missing. -/
theorem Request.exists_frame_older (hv : version ≤ Version.newest) {id : Int32} {c : Contract}
    {o : Order} {f : Frame} (hf : (placeOrder id c o).frame Version.newest = .ok f)
    (hu : (placeOrder id c o).firstUnmet version = none) :
    ∃ g : Frame, (placeOrder id c o).frame version = .ok g := by
  have hfields := fields_of_frame hf
  have hbody : ∀ v, (placeOrder id c o).fields v
      = fieldText (placeOrder id c o).code :: Order.placeFields v id c o := fun _ => rfl
  have hzero := f.zero_notMem
  have hfits := f.fits
  rw [hfields, hbody] at hzero
  rw [hfields, hbody, Fields.size_cons] at hfits
  have hsize := Order.size_placeFields_le hv id c o
  obtain ⟨hcode, hnewest⟩ := List.forall_mem_cons.mp hzero
  obtain ⟨g, hg, -⟩ := exists_frame version (placeOrder id c o) hu
    (List.forall_mem_cons.mpr ⟨hcode, Order.zeroFree_placeFields hv id c o hnewest⟩)
    (by rw [hbody, Fields.size_cons]; omega)
  exact ⟨g, hg⟩

end BrokerLink
