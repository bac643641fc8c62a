import BrokerLink.Proofs.EventKind
import BrokerLink.Proofs.ListRecords

/-!
# The events of a record

What an accepted record tells follows from its kind and its fields. A record of bars tells
one event for each declared bar and one that ends them, a record of a scan likewise for its
rows; a price tells its size with it if the layout carries one and the price is one that is
quoted with a size; a tick of a stream is told if its type is known. A record of any other
kind tells one event, and one of an unknown kind tells none.
-/

namespace BrokerLink

open Reader

/-- The prices that are quoted with a size, each with the type of the size. -/
def TickType.sizedPrices : List (TickType × TickType) :=
  [(bid, bidSize), (ask, askSize), (last, lastSize), (delayedBid, delayedBidSize),
    (delayedAsk, delayedAskSize), (delayedLast, delayedLastSize)]

theorem TickType.sizeTick_eq_some_iff {t s : TickType} :
    t.sizeTick = some s ↔ (t, s) ∈ sizedPrices := by
  constructor
  · intro h
    unfold sizeTick at h
    split at h <;> cases h <;> decide
  · intro h
    simp only [sizedPrices, List.mem_cons, Prod.mk.injEq, List.not_mem_nil, or_false] at h
    rcases h with ⟨rfl, rfl⟩ | ⟨rfl, rfl⟩ | ⟨rfl, rfl⟩ | ⟨rfl, rfl⟩ | ⟨rfl, rfl⟩ | ⟨rfl, rfl⟩
    all_goals rfl

namespace Record

variable {version : Version}

/-! ### Prices -/

/-- A price in texts, with the size and the attributes that only some layouts have. -/
structure SpelledPrice where
  layout : SpelledInt32
  id : SpelledInt32
  code : SpelledInt32
  tick : TickType
  isTick : code.value = tick.code
  price : SpelledFloat
  size : SpelledDecimal
  mask : SpelledInt32

namespace SpelledPrice

def fields (t : SpelledPrice) : Fields :=
  [t.layout.text, t.id.text, t.code.text, t.price.text]
    ++ ifSupported (decide (2 ≤ t.layout.value.toInt)) [t.size.text]
    ++ ifSupported (decide (3 ≤ t.layout.value.toInt)) [t.mask.text]

/-- The event of the price alone. -/
def event (version : Version) (t : SpelledPrice) : Event :=
  .tickPrice t.id.value t.tick t.price.value
    (tickAttributes version (if 3 ≤ t.layout.value.toInt then t.mask.value else 0))

theorem exists_code {fields : Fields} {tick : TickType} (h : Record.tick.Takes fields tick) :
    ∃ code : SpelledInt32, fields = [code.text] ∧ code.value = tick.code := by
  rw [Record.tick, spells_int32.takes_bind] at h
  obtain ⟨code, back, rfl, h⟩ := h
  cases hc : (Coded.ofCode? code.value : Option TickType) with
  | none =>
    rw [hc] at h
    cases h
  | some t =>
    rw [hc] at h
    obtain ⟨rfl, rfl⟩ := h
    exact ⟨code, rfl, (Coded.code_of_ofCode? hc).symm⟩

theorem exists_of_takes {fields : Fields} {es : List Event}
    (h : (tickPrice version).Takes fields es) :
    ∃ t : SpelledPrice, fields = t.fields ∧
      es = t.event version :: pairedSize t.layout.value.toInt t.id.value t.tick
        (if 2 ≤ t.layout.value.toInt then t.size.value else Decimal.zero) := by
  rw [tickPrice, spells_layout.takes_bind] at h
  obtain ⟨layout, _, rfl, h⟩ := h
  rw [spells_int32.takes_bind] at h
  obtain ⟨id, _, rfl, h⟩ := h
  rw [takes_bind] at h
  obtain ⟨_, _, tick, rfl, htick, h⟩ := h
  obtain ⟨code, rfl, hcode⟩ := exists_code htick
  simp only [spells_float.takes_bind, (spells_decimal.since _ _).takes_bind,
    (spells_int32.since _ _).takes_bind, pure_eq, takes_done, decide_eq_true_eq] at h
  obtain ⟨price, _, rfl, size, _, rfl, mask, _, rfl, rfl, rfl⟩ := h
  refine ⟨⟨layout, id, code, tick, hcode, price, size, mask⟩, ?_, rfl⟩
  simp [SpelledPrice.fields]

end SpelledPrice

/-! ### All kinds -/

/-- The events that a record of a kind tells of its fields. -/
inductive Tells (version : Version) : Int32 → Fields → List Event → Prop
  | unknown {kind : Int32} {fields : Fields} (hk : RecordKind.ofCode? kind = none) :
      Tells version kind fields []
  /-- One event for each declared bar, in the order of their groups of fields, and the end. -/
  | bars (t : SpelledBars) :
      Tells version RecordKind.historicalData.code (t.fields version) (t.events version)
  /-- One event for each declared row, each made of its own group of fields, and the end. -/
  | rows (layout id : SpelledInt32) (groups : Counted Fields) {rows : List ScannerRow}
      (hrows : List.Forall₂ (scannerRow layout.value.toInt).Takes groups.entries rows) :
      Tells version RecordKind.scannerData.code
        (layout.text :: id.text :: groups.fields fun group => group)
        (rows.map (Event.scannerData id.value) ++ [.scannerDataEnd id.value])
  /-- The size has the id of the price, and the type that goes with that of the price. -/
  | priceWithSize (t : SpelledPrice) {size : TickType} (hl : 2 ≤ t.layout.value.toInt)
      (hs : (t.tick, size) ∈ TickType.sizedPrices) :
      Tells version RecordKind.tickPrice.code t.fields
        [t.event version, .tickSize t.id.value size t.size.value]
  | price (t : SpelledPrice)
      (h : t.layout.value.toInt < 2 ∨ ∀ size, (t.tick, size) ∉ TickType.sizedPrices) :
      Tells version RecordKind.tickPrice.code t.fields [t.event version]
  /-- Trades are of type 1 or 2, quotes of type 3 and mid-points of type 4. -/
  | streamTick (id kind : SpelledInt32) {rest : Fields} {e : Event}
      (hk : kind.value ∈ [1, 2, 3, 4]) (he : RecordKind.tickByTick ∈ e.kinds) :
      Tells version RecordKind.tickByTick.code (id.text :: kind.text :: rest) [e]
  | otherStreamTick (id kind : SpelledInt32) {rest : Fields}
      (hk : kind.value ∉ [1, 2, 3, 4]) :
      Tells version RecordKind.tickByTick.code (id.text :: kind.text :: rest) []
  /-- Exactly one event, of the variant that this kind of record tells. -/
  | one {k : RecordKind} {fields : Fields} {e : Event}
      (hk : k ∉ [RecordKind.historicalData, .scannerData, .tickPrice, .tickByTick])
      (he : k ∈ e.kinds) : Tells version k.code fields [e]

theorem tells_price {fields : Fields} {es : List Event} (h : (tickPrice version).Takes fields es) :
    Tells version RecordKind.tickPrice.code fields es := by
  obtain ⟨t, rfl, rfl⟩ := SpelledPrice.exists_of_takes h
  unfold pairedSize
  by_cases hl : 2 ≤ t.layout.value.toInt
  · rw [if_pos hl, if_pos hl]
    split
    · rename_i size hs
      exact .priceWithSize t hl (TickType.sizeTick_eq_some_iff.mp hs)
    · rename_i hs
      refine .price t (.inr fun size hmem => ?_)
      rw [TickType.sizeTick_eq_some_iff.mpr hmem] at hs
      cases hs
  · rw [if_neg hl]
    exact .price t (.inl (Int.not_le.mp hl))

theorem tells_rows {fields : Fields} {es : List Event} (h : scannerData.Takes fields es) :
    Tells version RecordKind.scannerData.code fields es := by
  rw [scannerData, spells_layout.takes_bind] at h
  obtain ⟨layout, _, rfl, h⟩ := h
  rw [spells_int32.takes_bind] at h
  obtain ⟨id, _, rfl, h⟩ := h
  rw [takes_bind] at h
  obtain ⟨_, _, rows, rfl, hrows, rfl, rfl⟩ := h
  obtain ⟨groups, rfl, hgroups⟩ := takes_list.mp hrows
  rw [List.append_nil]
  exact .rows layout id groups hgroups

theorem gives_single {α : Type} (r : Reader α) (event : α → Event) :
    (r >>= fun a => pure [event a]).Gives fun es => ∃ e, es = [e] :=
  .bind fun a => ⟨event a, rfl⟩

theorem tells_streamTick {fields : Fields} {es : List Event} (h : tickByTick.Takes fields es) :
    Tells version RecordKind.tickByTick.code fields es := by
  have hkinds := h.of_gives gives_kind_tickByTick
  rw [tickByTick, spells_int32.takes_bind] at h
  obtain ⟨id, _, rfl, h⟩ := h
  rw [spells_int32.takes_bind] at h
  obtain ⟨kind, _, rfl, h⟩ := h
  rw [spells_int64.takes_bind] at h
  obtain ⟨time, rest, rfl, h⟩ := h
  have hone (hmem : kind.value ∈ [1, 2, 3, 4]) (hes : ∃ e, es = [e]) :
      Tells version RecordKind.tickByTick.code
        (id.text :: kind.text :: time.text :: rest) es := by
    obtain ⟨e, rfl⟩ := hes
    exact .streamTick id kind hmem (hkinds e List.mem_cons_self)
  split at h
  · rename_i hk
    refine hone (by rcases hk with hk | hk <;> rw [hk] <;> decide) ?_
    exact h.of_gives (gives_single _ _)
  · split at h
    · rename_i hk
      refine hone (by rw [hk]; decide) ?_
      exact h.of_gives (gives_single _ _)
    · split at h
      · rename_i hk
        refine hone (by rw [hk]; decide) ?_
        exact h.of_gives (gives_single _ _)
      · rename_i h12 h3 h4
        obtain ⟨rfl, rfl⟩ := h
        rw [not_or] at h12
        exact .otherStreamTick id kind (by simpa using ⟨h12.1, h12.2, h3, h4⟩)

/-- A record of any other kind is one event. -/
theorem exists_events_eq_one {k : RecordKind}
    (hk : k ∉ [RecordKind.historicalData, .scannerData, .tickPrice, .tickByTick]) :
    ∃ r, events version k = Record.one r := by
  cases k
  all_goals first
    | exact ⟨_, rfl⟩
    | exact absurd hk (by decide)

theorem tells_of_takes {k : RecordKind} {fields : Fields} {es : List Event}
    (h : (events version k).Takes fields es) : Tells version k.code fields es := by
  by_cases hk : k ∈ [RecordKind.historicalData, .scannerData, .tickPrice, .tickByTick]
  · simp only [List.mem_cons, List.not_mem_nil, or_false] at hk
    rcases hk with rfl | rfl | rfl | rfl
    · obtain ⟨t, rfl, rfl⟩ := (SpelledBars.spells _ _).mp h
      exact .bars t
    · exact tells_rows h
    · exact tells_price h
    · exact tells_streamTick h
  · obtain ⟨r, hr⟩ := exists_events_eq_one hk
    have hone : (events version k).Gives fun es => ∃ e, es = [e] := by
      rw [hr]
      exact gives_single r fun e => e
    obtain ⟨e, rfl⟩ := h.of_gives hone
    exact .one hk (h.of_gives (gives_kind version k) e List.mem_cons_self)

/-- An accepted payload is made of a text of its kind and of further fields, and it tells what
a record of the kind tells of them. -/
theorem kind_tells_events {payload : List UInt8} {es : List Event}
    (h : decode version payload = .ok es) :
    ∃ (kind : SpelledInt32) (fields : Fields),
      payload = Fields.payload (kind.text :: fields) ∧ (∀ s ∈ fields, '\x00' ∉ s.toList) ∧
        Tells version kind.value fields es := by
  obtain ⟨kind, fields, hpayload, hz, ⟨hk, rfl⟩ | ⟨k, hk, htakes⟩⟩ := exists_fields_of_decode h
  · exact ⟨kind, fields, hpayload, hz, .unknown hk⟩
  · refine ⟨kind, fields, hpayload, hz, ?_⟩
    rw [hk]
    exact tells_of_takes htakes

/-- A bid in the newest layout, and so with its size. -/
def bidWithSize : List UInt8 := Fields.payload ["1", "6", "9001", "1", "", "7", "1"]

theorem kind_tells_events_bid :
    ∃ es, es = [.tickPrice 9001 .bid .zero { canAutoExecute := true },
        .tickSize 9001 .bidSize ⟨false, 7, 0, by decide, by decide⟩] ∧
      decode 157 bidWithSize = .ok es ∧
        ∃ (kind : SpelledInt32) (fields : Fields),
          bidWithSize = Fields.payload (kind.text :: fields) ∧
            (∀ s ∈ fields, '\x00' ∉ s.toList) ∧ Tells 157 kind.value fields es := by
  refine ⟨_, rfl, rfl, ?_⟩
  exact kind_tells_events rfl

end Record
end BrokerLink
