import BrokerLink.Proofs.FieldsTaken
import BrokerLink.Proofs.PlacedAlike

/-!
# Records of lists

Bars of the past, contracts found by symbol, and chains of options: a record of lists,
whatever texts its numbers are spelled by and however long its lists are, is read as
exactly the entries that were put into it. The lists may be empty, stand one behind the
other, or inside the entries of another list; none of the fields that a version or a
layout adds to an entry is taken for one of the next entry.
-/

namespace BrokerLink

open Reader

/-! ### Words -/

/-- No security type, or one that reading gives, with a text that a field can hold and that is not
the text of none. -/
structure PlainSecType where
  secType : Option SecType
  isCanonical : ∀ w ∈ secType, Word.IsCanonical w
  text : ∀ w ∈ secType, w.text ≠ "" ∧ '\x00' ∉ w.text.toList

instance : Inhabited PlainSecType := ⟨none, nofun, nofun⟩

theorem PlainSecType.spells :
    word?.Spells (fun t : PlainSecType => [fieldText t.secType]) PlainSecType.secType := by
  intro fields a
  rw [word?, takes_parsed]
  constructor
  · rintro ⟨s, rfl, hs, hp⟩
    unfold orEmpty at hp
    split at hp
    · rename_i he
      cases hp
      exact ⟨default, congrArg (fun s => [s]) (String.isEmpty_iff.mp he), rfl⟩
    · rename_i he
      cases hp
      have htext : (Word.ofText s : SecType).text = s :=
        SecType.lexicon_isFollowed.fieldText_ofText rfl s
      refine ⟨⟨some (Word.ofText s), ?_, ?_⟩, congrArg (fun s => [s]) htext.symm, rfl⟩
      · rintro w ⟨⟩
        exact ⟨s, rfl⟩
      · rintro w ⟨⟩
        rw [htext]
        exact ⟨fun hs => he (String.isEmpty_iff.mpr hs), hs⟩
  · rintro ⟨⟨_ | w, hcanonical, htext⟩, rfl, rfl⟩
    · exact ⟨"", rfl, by decide, rfl⟩
    · obtain ⟨s, rfl⟩ := hcanonical w rfl
      obtain ⟨hne, hz⟩ := htext _ rfl
      refine ⟨_, rfl, hz, ?_⟩
      have hword : Word.ofText (Word.ofText s : SecType).text = (Word.ofText s : SecType) :=
        congrArg Word.ofText (SecType.lexicon_isFollowed.fieldText_ofText rfl s)
      have he : ¬ (Word.ofText s : SecType).text.isEmpty = true := by
        rwa [String.isEmpty_iff]
      exact (if_neg he).trans (congrArg (fun w => Except.ok (some w)) hword)

namespace Record

variable {version : Version}

/-! ### Layouts -/

theorem spells_layout : layout.Spells (fun t : SpelledInt32 => [t.text]) fun t => t.value.toInt :=
  spells_int32.map _

theorem spells_layoutBefore (since : Version) (absent : Int) :
    (layoutBefore version since absent).Spells
      (fun t : SpelledInt32 => ifSupported (decide (version < since)) [t.text])
      fun t => if version < since then t.value.toInt else absent := by
  have h := spells_layout.since (decide (version < since)) absent
  by_cases hv : version < since
  · simpa [layoutBefore, Reader.since, hv] using h
  · simpa [layoutBefore, Reader.since, hv] using h

theorem takes_one {r : Reader Event} {fields : Fields} {e : Event} (h : r.Takes fields e) :
    (one r).Takes fields [e] :=
  takes_bind.mpr ⟨fields, [], e, (List.append_nil _).symm, h, rfl, rfl⟩

/-! ### Bars of the past -/

/-- A bar in texts, with those of the fields that only some servers or layouts have. -/
structure SpelledBar where
  time : PlainText
  openPrice : SpelledFloat
  high : SpelledFloat
  low : SpelledFloat
  close : SpelledFloat
  volume : SpelledDecimal
  wap : SpelledDecimal
  hasGaps : PlainText
  count : SpelledInt32

namespace SpelledBar

def fields (version : Version) (layout : Int) (t : SpelledBar) : Fields :=
  [t.time.val, t.openPrice.text, t.high.text, t.low.text, t.close.text, t.volume.text, t.wap.text]
    ++ ifSupported (decide (version < Since.syntheticBars)) [t.hasGaps.val]
    ++ ifSupported (decide (3 ≤ layout)) [t.count.text]

/-- The bar as a layout carries it: where the trades are not counted, their number is -1. -/
def carried (layout : Int) (t : SpelledBar) : Bar :=
  { time := t.time.val
    openPrice := t.openPrice.value
    high := t.high.value
    low := t.low.value
    close := t.close.value
    volume := t.volume.value
    wap := t.wap.value
    count := if 3 ≤ layout then t.count.value else -1 }

theorem spells (layout : Int) :
    (bar version layout).Spells (fields version layout) (carried layout) := by
  intro fields b
  simp only [bar, spells_string.takes_bind, spells_float.takes_bind, spells_decimal.takes_bind,
    (spells_skip.since _ _).takes_bind, (spells_int32.since _ _).takes_bind, pure_eq, takes_done]
  constructor
  · rintro ⟨time, _, rfl, openPrice, _, rfl, high, _, rfl, low, _, rfl, close, _, rfl,
      volume, _, rfl, wap, _, rfl, hasGaps, _, rfl, count, _, rfl, rfl, rfl⟩
    refine ⟨⟨time, openPrice, high, low, close, volume, wap, hasGaps, count⟩, ?_, ?_⟩
    · simp [SpelledBar.fields]
    · simp [carried]
  · rintro ⟨t, rfl, rfl⟩
    refine ⟨t.time, _, rfl, t.openPrice, _, rfl, t.high, _, rfl, t.low, _, rfl, t.close, _, rfl,
      t.volume, _, rfl, t.wap, _, rfl, t.hasGaps, _, rfl, t.count, [], ?_, rfl, ?_⟩
    · simp
    · simp [carried]

end SpelledBar

/-- A record of bars in texts, with those that only some servers or layouts have. -/
structure SpelledBars where
  marker : SpelledInt32
  id : SpelledInt32
  first : PlainText
  last : PlainText
  bars : Counted SpelledBar

namespace SpelledBars

/-- Older servers mark the record with its layout, newer ones send the newest. -/
def layout (version : Version) (t : SpelledBars) : Int :=
  if version < Since.syntheticBars then t.marker.value.toInt else newestLayout

def fields (version : Version) (t : SpelledBars) : Fields :=
  ifSupported (decide (version < Since.syntheticBars)) [t.marker.text]
    ++ [t.id.text]
    ++ ifSupported (decide (2 ≤ t.layout version)) [t.first.val, t.last.val]
    ++ t.bars.fields (SpelledBar.fields version (t.layout version))

/-- One event for each bar, in their order, and the one that ends them. -/
def events (version : Version) (t : SpelledBars) : List Event :=
  t.bars.entries.map (fun b => .historicalData t.id.value (b.carried (t.layout version)))
    ++ [.historicalDataEnd t.id.value (if 2 ≤ t.layout version then t.first.val else "")
          (if 2 ≤ t.layout version then t.last.val else "")]

theorem ifSupported_pair (carried : Bool) (a b : String) :
    ifSupported carried [a, b] = ifSupported carried [a] ++ ifSupported carried [b] := by
  cases carried <;> rfl

theorem spells : (historicalData version).Spells (fields version) (events version) := by
  intro fields es
  simp only [historicalData, (spells_layoutBefore _ _).takes_bind, spells_int32.takes_bind,
    (spells_string.since _ _).takes_bind, (SpelledBar.spells _).list.takes_bind, pure_eq,
    takes_done]
  constructor
  · rintro ⟨marker, _, rfl, id, _, rfl, first, _, rfl, last, _, rfl, bars, _, rfl, rfl, rfl⟩
    refine ⟨⟨marker, id, first, last, bars⟩, ?_, ?_⟩
    · rw [SpelledBars.fields, ifSupported_pair]
      simp only [layout, List.append_assoc, List.append_nil]
    · simp only [events, layout, List.map_map, decide_eq_true_eq]
      rfl
  · rintro ⟨t, rfl, rfl⟩
    refine ⟨t.marker, _, ?_, t.id, _, rfl, t.first, _, rfl, t.last, _, rfl, t.bars, [], rfl, rfl,
      ?_⟩
    · rw [SpelledBars.fields, ifSupported_pair]
      simp only [layout, List.append_assoc, List.append_nil]
      rfl
    · simp only [events, layout, List.map_map, decide_eq_true_eq]
      rfl

end SpelledBars

/-! ### Contracts found by symbol -/

/-- The description of a contract in texts. -/
structure SpelledDescription where
  contractId : SpelledInt32
  symbol : PlainText
  secType : PlainSecType
  primaryExchange : PlainText
  currency : PlainText
  derivativeSecTypes : Counted PlainText

namespace SpelledDescription

def fields (t : SpelledDescription) : Fields :=
  [t.contractId.text, t.symbol.val, fieldText t.secType.secType, t.primaryExchange.val,
      t.currency.val]
    ++ t.derivativeSecTypes.fields fun s => [s.val]

/-- All else about the contract is as in one about which nothing is known. -/
def description (t : SpelledDescription) : ContractDescription :=
  { contract :=
      { contractId := t.contractId.value
        symbol := t.symbol.val
        secType := t.secType.secType
        primaryExchange := t.primaryExchange.val
        currency := t.currency.val }
    derivativeSecTypes := t.derivativeSecTypes.entries.map Subtype.val }

theorem spells : contractDescription.Spells fields description := by
  intro fields d
  simp only [contractDescription, spells_int32.takes_bind, spells_string.takes_bind,
    PlainSecType.spells.takes_bind, spells_string.list.takes_bind, pure_eq, takes_done]
  constructor
  · rintro ⟨contractId, _, rfl, symbol, _, rfl, secType, _, rfl, primaryExchange, _, rfl,
      currency, _, rfl, derivativeSecTypes, _, rfl, rfl, rfl⟩
    refine ⟨⟨contractId, symbol, secType, primaryExchange, currency, derivativeSecTypes⟩, ?_, rfl⟩
    simp [SpelledDescription.fields]
  · rintro ⟨t, rfl, rfl⟩
    exact ⟨t.contractId, _, rfl, t.symbol, _, rfl, t.secType, _, rfl, t.primaryExchange, _, rfl,
      t.currency, _, rfl, t.derivativeSecTypes, [], by simp, rfl, rfl⟩

end SpelledDescription

/-- The descriptions that the server found for a symbol, in texts. -/
structure SpelledSamples where
  id : SpelledInt32
  descriptions : Counted SpelledDescription

namespace SpelledSamples

def fields (t : SpelledSamples) : Fields :=
  t.id.text :: t.descriptions.fields SpelledDescription.fields

def event (t : SpelledSamples) : Event :=
  .symbolSamples t.id.value (t.descriptions.entries.map SpelledDescription.description)

theorem spells : symbolSamples.Spells fields event := by
  intro fields e
  simp only [symbolSamples, spells_int32.takes_bind, SpelledDescription.spells.list.takes_bind,
    pure_eq, takes_done]
  constructor
  · rintro ⟨id, _, rfl, descriptions, _, rfl, rfl, rfl⟩
    exact ⟨⟨id, descriptions⟩, by simp [SpelledSamples.fields], rfl⟩
  · rintro ⟨t, rfl, rfl⟩
    exact ⟨t.id, _, rfl, t.descriptions, [], (List.append_nil _).symm, rfl, rfl⟩

end SpelledSamples

/-! ### Chains of options -/

/-- A chain of options in texts. -/
structure SpelledChain where
  id : SpelledInt32
  exchange : PlainText
  underlyingContractId : SpelledInt32
  tradingClass : PlainText
  multiplier : PlainText
  expirations : Counted PlainText
  strikes : Counted SpelledFloat

namespace SpelledChain

def fields (t : SpelledChain) : Fields :=
  [t.id.text, t.exchange.val, t.underlyingContractId.text, t.tradingClass.val, t.multiplier.val]
    ++ t.expirations.fields (fun s => [s.val])
    ++ t.strikes.fields (fun x => [x.text])

def event (t : SpelledChain) : Event :=
  .optionChain t.id.value
    { exchange := t.exchange.val
      underlyingContractId := t.underlyingContractId.value
      tradingClass := t.tradingClass.val
      multiplier := t.multiplier.val
      expirations := t.expirations.entries.map Subtype.val
      strikes := t.strikes.entries.map Spelled.value }

theorem spells : optionChain.Spells fields event := by
  intro fields e
  simp only [optionChain, spells_int32.takes_bind, spells_string.takes_bind,
    spells_string.list.takes_bind, spells_float.list.takes_bind, pure_eq, takes_done]
  constructor
  · rintro ⟨id, _, rfl, exchange, _, rfl, underlyingContractId, _, rfl, tradingClass, _, rfl,
      multiplier, _, rfl, expirations, _, rfl, strikes, _, rfl, rfl, rfl⟩
    refine ⟨⟨id, exchange, underlyingContractId, tradingClass, multiplier, expirations, strikes⟩,
      ?_, rfl⟩
    simp [SpelledChain.fields]
  · rintro ⟨t, rfl, rfl⟩
    exact ⟨t.id, _, rfl, t.exchange, _, rfl, t.underlyingContractId, _, rfl, t.tradingClass, _, rfl,
      t.multiplier, _, rfl, t.expirations, _, rfl, t.strikes, [], by simp, rfl, rfl⟩

end SpelledChain

/-! ### Whole records -/

/-- Bars, descriptions and chains come back from their record as they are, in their order and with
nothing left out, whichever texts spell the numbers, the kind of the record and the lengths among
them. What a version or a layout does not carry of a bar is as if nothing had been said. -/
theorem lists_come_back_whole (version : Version) :
    (∀ (kind : SpelledInt32) (t : SpelledBars), kind.value = RecordKind.historicalData.code →
      decode version (Fields.payload (kind.text :: t.fields version)) = .ok (t.events version)) ∧
    (∀ (kind : SpelledInt32) (t : SpelledSamples), kind.value = RecordKind.symbolSamples.code →
      decode version (Fields.payload (kind.text :: t.fields)) = .ok [t.event]) ∧
    ∀ (kind : SpelledInt32) (t : SpelledChain), kind.value = RecordKind.optionChain.code →
      decode version (Fields.payload (kind.text :: t.fields)) = .ok [t.event] := by
  refine ⟨?_, ?_, ?_⟩
  · intro kind t hk
    exact decode_eq_ok_of_takes hk (SpelledBars.spells.takes t)
  · intro kind t hk
    exact decode_eq_ok_of_takes hk (takes_one (SpelledSamples.spells.takes t))
  · intro kind t hk
    exact decode_eq_ok_of_takes hk (takes_one (SpelledChain.spells.takes t))

theorem parses_float {s : String} {x : Binary64} (hs : s ≠ "")
    (h : Binary64.read s.toList = some x) : orEmpty Binary64.zero parseFloat s = .ok x := by
  rw [orEmpty, if_neg (mt String.isEmpty_iff.mp hs), parseFloat, h]

/-- A bar in the layout that says when the record begins and ends, but does not count trades. -/
def SpelledBars.oneDay : SpelledBars where
  marker := ⟨"+2", 2, rfl⟩
  id := ⟨"5", 5, rfl⟩
  first := ⟨"start", by decide⟩
  last := ⟨"end", by decide⟩
  bars :=
    { count := ⟨"1", 1, rfl⟩
      entries :=
        [{ time := ⟨"20200102", by decide⟩
           openPrice := ⟨"1.5", ⟨0x3ff8000000000000⟩, parses_float (by decide) (by decide +kernel)⟩
           high := ⟨"15e-1", ⟨0x3ff8000000000000⟩, parses_float (by decide) (by decide +kernel)⟩
           low := ⟨"1", ⟨0x3ff0000000000000⟩, parses_float (by decide) (by decide +kernel)⟩
           close := default
           volume := ⟨"100.25", ⟨false, 10025, 2, by decide, by decide⟩, rfl⟩
           wap := ⟨"99.9375", ⟨false, 999375, 4, by decide, by decide⟩, rfl⟩
           hasGaps := ⟨"false", by decide⟩
           count := ⟨"7", 7, rfl⟩ }]
      counts := rfl }

/-- Two contracts, the second of no known type and without derivatives. -/
def SpelledSamples.two : SpelledSamples where
  id := default
  descriptions :=
    { count := ⟨"2", 2, rfl⟩
      entries :=
        [{ contractId := ⟨"8314", 8314, rfl⟩
           symbol := ⟨"IBM", by decide⟩
           secType := ⟨some .stock, by rintro w ⟨⟩; exact ⟨"STK", rfl⟩, by rintro w ⟨⟩; decide⟩
           primaryExchange := ⟨"NYSE", by decide⟩
           currency := ⟨"USD", by decide⟩
           derivativeSecTypes := ⟨⟨"2", 2, rfl⟩, [⟨"OPT", by decide⟩, default], rfl⟩ },
         { contractId := default
           symbol := default
           secType := default
           primaryExchange := default
           currency := default
           derivativeSecTypes := ⟨default, [], rfl⟩ }]
      counts := rfl }

/-- A chain without expirations and with two empty strikes. -/
def SpelledChain.twoStrikes : SpelledChain where
  id := ⟨"1", 1, rfl⟩
  exchange := ⟨"SMART", by decide⟩
  underlyingContractId := ⟨"265598", 265598, rfl⟩
  tradingClass := ⟨"AAPL", by decide⟩
  multiplier := ⟨"100", by decide⟩
  expirations := ⟨⟨"0", 0, rfl⟩, [], rfl⟩
  strikes := ⟨⟨"2", 2, rfl⟩, [default, default], rfl⟩

/-- Nothing is lost at the very end of a record either, where lists and entries are empty. -/
theorem lists_come_back_whole_old :
    decode 110 (Fields.payload ["17", "+2", "5", "start", "end", "1", "20200102", "1.5", "15e-1",
        "1", "", "100.25", "99.9375", "false"])
      = .ok
        [.historicalData 5
          { time := "20200102", openPrice := ⟨0x3ff8000000000000⟩, high := ⟨0x3ff8000000000000⟩
            low := ⟨0x3ff0000000000000⟩, volume := ⟨false, 10025, 2, by decide, by decide⟩
            wap := ⟨false, 999375, 4, by decide, by decide⟩, count := -1 },
          .historicalDataEnd 5 "start" "end"] ∧
    decode 110 (Fields.payload ["79", "", "2", "8314", "IBM", "STK", "NYSE", "USD", "2", "OPT", "",
        "", "", "", "", "", ""])
      = .ok
        [.symbolSamples 0
          [{ contract :=
              { contractId := 8314, symbol := "IBM", secType := some .stock
                primaryExchange := "NYSE", currency := "USD" }
             derivativeSecTypes := ["OPT", ""] }, {}]] ∧
    decode 110 (Fields.payload ["75", "1", "SMART", "265598", "AAPL", "100", "0", "2", "", ""])
      = .ok
        [.optionChain 1
          { exchange := "SMART", underlyingContractId := 265598, tradingClass := "AAPL"
            multiplier := "100", expirations := [], strikes := [.zero, .zero] }] :=
  have h := lists_come_back_whole 110
  ⟨h.1 ⟨"17", 17, rfl⟩ SpelledBars.oneDay rfl, h.2.1 ⟨"79", 79, rfl⟩ SpelledSamples.two rfl,
    h.2.2 ⟨"75", 75, rfl⟩ SpelledChain.twoStrikes rfl⟩

end Record
end BrokerLink
