import BrokerLink.Proofs.FieldReads
import BrokerLink.Proofs.FrameFormat

/-!
# Typed fields

A run of values of any kinds, written into one frame, is read back by the readers of
those kinds, one after the other and to the last byte. What comes back for each value is
`ComesBack`: the value itself, except that the numbers standing for none are lost, a NaN
loses its bits, and a decimal keeps its value only.
-/

namespace BrokerLink

/-- A value that travels: in one field, or for a list of options in two for each and one for their
number. -/
inductive WireValue where
  | int32 (n : Int32)
  | int64 (n : Int64)
  | bool (b : Bool)
  | float (x : Binary64)
  | decimal (d : Decimal)
  | string (s : String)
  | int32? (n : Option Int32)
  | float? (x : Option Binary64)
  | tagValues (ts : List TagValue)
  deriving DecidableEq

/-- What a reader has to know of a value. -/
inductive WireKind where
  | int32
  | int64
  | bool
  | float
  | decimal
  | string
  | int32?
  | float?
  | tagValues
  deriving DecidableEq

namespace WireKind

def reader : WireKind → Reader WireValue
  | int32 => .int32 <$> Reader.int32
  | int64 => .int64 <$> Reader.int64
  | bool => .bool <$> Reader.bool
  | float => .float <$> Reader.float
  | decimal => .decimal <$> Reader.decimal
  | string => .string <$> Reader.string
  | int32? => .int32? <$> Reader.int32?
  | float? => .float? <$> Reader.float?
  | tagValues => .tagValues <$> Reader.tagValues

/-- The values of a run of kinds, in order. -/
def readAll : List WireKind → Reader (List WireValue)
  | [] => .done []
  | k :: ks => do
    let v ← k.reader
    let vs ← readAll ks
    return v :: vs

end WireKind

namespace WireValue

def kind : WireValue → WireKind
  | int32 _ => .int32
  | int64 _ => .int64
  | bool _ => .bool
  | float _ => .float
  | decimal _ => .decimal
  | string _ => .string
  | int32? _ => .int32?
  | float? _ => .float?
  | tagValues _ => .tagValues

/-- The call that writes a value. -/
def entry : WireValue → Entry
  | int32 n => .field n
  | int64 n => .field n
  | bool b => .field b
  | float x => .field x
  | decimal d => .field d
  | string s => .field s
  | int32? n => .field n
  | float? x => .field x
  | tagValues ts => .tagValuePairs ts

/-- No text of the caller's holds a zero character. -/
def IsZeroFree : WireValue → Prop
  | string s => '\x00' ∉ s.toList
  | tagValues ts => ∀ t ∈ ts, '\x00' ∉ t.tag.toList ∧ '\x00' ∉ t.value.toList
  | _ => True

instance : (v : WireValue) → Decidable v.IsZeroFree
  | string s => inferInstanceAs (Decidable ('\x00' ∉ s.toList))
  | tagValues ts => inferInstanceAs
    (Decidable (∀ t ∈ ts, '\x00' ∉ t.tag.toList ∧ '\x00' ∉ t.value.toList))
  | int32 _ | int64 _ | bool _ | float _ | decimal _ | int32? _ | float? _ => isTrue trivial

/-- What a value may be read back as. -/
inductive ComesBack : WireValue → WireValue → Prop where
  | int32 {n : Int32} : n ≠ Int32.maxValue → ComesBack (.int32 n) (.int32 n)
  | unsetInt32 : ComesBack (.int32 Int32.maxValue) (.int32 0)
  | int64 (n : Int64) : ComesBack (.int64 n) (.int64 n)
  | bool (b : Bool) : ComesBack (.bool b) (.bool b)
  | float {x : Binary64} : x ≠ Binary64.largest → x.isNaN = false → ComesBack (.float x) (.float x)
  | unsetFloat : ComesBack (.float Binary64.largest) (.float Binary64.zero)
  | nan {x y : Binary64} : x.isNaN = true → y.isNaN = true → ComesBack (.float x) (.float y)
  | decimal {d d' : Decimal} : d'.toRat = d.toRat → ComesBack (.decimal d) (.decimal d')
  | string (s : String) : ComesBack (.string s) (.string s)
  | int32? {n : Option Int32} : n ≠ some Int32.maxValue → ComesBack (.int32? n) (.int32? n)
  | unsetInt32? : ComesBack (.int32? (some Int32.maxValue)) (.int32? none)
  | float? {x : Option Binary64} : x ≠ some Binary64.largest → (∀ y, x = some y → y.isNaN = false) →
      ComesBack (.float? x) (.float? x)
  | unsetFloat? : ComesBack (.float? (some Binary64.largest)) (.float? none)
  | nan? {x y : Binary64} : x.isNaN = true → y.isNaN = true →
      ComesBack (.float? (some x)) (.float? (some y))
  | tagValues (ts : List TagValue) : ComesBack (.tagValues ts) (.tagValues ts)

end WireValue

namespace Reader

variable {α β : Type}

theorem run_map_done {r : Reader α} {bs rest : List UInt8} {a : α} (f : α → β)
    (h : r.run bs = (.ok a, rest)) : (f <$> r).run bs = (.ok (f a), rest) := by
  rw [map_eq_pure_bind, run_bind_done _ h, pure_eq, run_done]

/-- A value in one field. -/
theorem run_map_single {r : Reader α} {s : String} {rest : List UInt8} {a : α} (f : α → β)
    (h : r.run (Utf8.encode s ++ 0 :: rest) = (.ok a, rest)) :
    (f <$> r).run (Fields.payload [s] ++ rest) = (.ok (f a), rest) := by
  have hp : Fields.payload [s] ++ rest = Utf8.encode s ++ 0 :: rest :=
    Fields.payload_cons_append s [] rest
  rw [hp, run_map_done f h]

end Reader

namespace WireValue

open Reader

/-- One value is read back from its own fields, and what follows is left. -/
theorem run_reader {v : WireValue} (rest : List UInt8) (hz : v.IsZeroFree)
    (hs : Fields.size v.entry.texts ≤ maxPayload) :
    ∃ v', v.kind.reader.run (Fields.payload v.entry.texts ++ rest) = (.ok v', rest) ∧
      v.ComesBack v' := by
  cases v with
  | int32 n =>
    have hr := run_parsed rest (Utf8.zero_notMem_int32 n) (parse_fieldText_int32 n)
    refine ⟨_, run_map_single _ hr, ?_⟩
    by_cases h : n = Int32.maxValue
    · rw [if_pos h, h]
      exact .unsetInt32
    · rw [if_neg h]
      exact .int32 h
  | int64 n =>
    have hr := run_parsed rest (Utf8.zero_notMem_int64 n) (parse_fieldText_int64 n)
    exact ⟨_, run_map_single _ hr, .int64 n⟩
  | bool b =>
    exact ⟨_, run_map_single _ (reads_bool b rest), .bool b⟩
  | float x =>
    have hr := run_parsed rest (Utf8.zero_notMem_float x) (parse_fieldText_float x)
    refine ⟨_, run_map_single _ hr, ?_⟩
    by_cases h : x = Binary64.largest
    · rw [if_pos h, h]
      exact .unsetFloat
    · rw [if_neg h]
      cases hn : x.isNaN with
      | true => exact .nan hn (x.isNaN_canonical.trans hn)
      | false =>
        have hc : x.canonical = x := by simp [Binary64.canonical, hn]
        rw [hc]
        exact .float h hn
  | decimal d =>
    have hr := run_parsed rest (Utf8.zero_notMem_decimal d) (parse_fieldText_decimal d)
    exact ⟨_, run_map_single _ hr, .decimal d.toRat_normalize⟩
  | string s =>
    have hr := run_field_encode done rest (Utf8.zero_notMem_encode hz)
    exact ⟨_, run_map_single _ hr, .string s⟩
  | int32? n =>
    have hr := run_parsed rest (Utf8.zero_notMem_option Utf8.zero_notMem_int32 n)
      (parse_fieldText_int32? n)
    refine ⟨_, run_map_single _ hr, ?_⟩
    by_cases h : n = some Int32.maxValue
    · rw [if_pos h, h]
      exact .unsetInt32?
    · rw [if_neg h]
      exact .int32? h
  | float? x =>
    have hr := run_parsed rest (Utf8.zero_notMem_option Utf8.zero_notMem_float x)
      (parse_fieldText_float? x)
    refine ⟨_, run_map_single _ hr, ?_⟩
    by_cases h : x = some Binary64.largest
    · rw [if_pos h, h]
      exact .unsetFloat?
    rw [if_neg h]
    cases x with
    | none => exact .float? h (by simp)
    | some y =>
      cases hn : y.isNaN with
      | true => exact .nan? hn (y.isNaN_canonical.trans hn)
      | false =>
        have hc : y.canonical = y := by simp [Binary64.canonical, hn]
        rw [Option.map_some, hc]
        exact .float? h (by simpa using hn)
  | tagValues ts =>
    have hl : ts.length < 2 ^ 31 := by
      have hpairs := TagValue.length_lt_length_pairs ts
      have hsize := Fields.length_le_size (TagValue.pairs ts)
      have htexts : Fields.size (TagValue.pairs ts) ≤ maxPayload := hs
      have hmax : maxPayload < 2 ^ 31 := by decide
      omega
    exact ⟨_, run_map_done _ (readsAll_tagValues hz hl rest), .tagValues ts⟩

/-- The calls that write values without zero characters write fields without zero bytes. -/
theorem zero_notMem_texts {v : WireValue} (hz : v.IsZeroFree) :
    ∀ s ∈ v.entry.texts, 0 ∉ Utf8.encode s := by
  cases v with
  | tagValues ts =>
    intro s hs
    rcases List.mem_cons.mp hs with rfl | hs
    · exact Utf8.zero_notMem_nat _
    · obtain ⟨t, ht, hst⟩ := List.mem_flatMap.mp hs
      have ht' := hz t ht
      rw [List.mem_cons, List.mem_singleton] at hst
      rcases hst with rfl | rfl
      · exact Utf8.zero_notMem_encode ht'.1
      · exact Utf8.zero_notMem_encode ht'.2
  | int32 n => exact List.forall_mem_singleton.mpr (Utf8.zero_notMem_int32 n)
  | int64 n => exact List.forall_mem_singleton.mpr (Utf8.zero_notMem_int64 n)
  | bool b => exact List.forall_mem_singleton.mpr (Utf8.zero_notMem_bool b)
  | float x => exact List.forall_mem_singleton.mpr (Utf8.zero_notMem_float x)
  | decimal d => exact List.forall_mem_singleton.mpr (Utf8.zero_notMem_decimal d)
  | string s => exact List.forall_mem_singleton.mpr (Utf8.zero_notMem_encode hz)
  | int32? n =>
    exact List.forall_mem_singleton.mpr (Utf8.zero_notMem_option Utf8.zero_notMem_int32 n)
  | float? x =>
    exact List.forall_mem_singleton.mpr (Utf8.zero_notMem_option Utf8.zero_notMem_float x)

theorem texts_cons (v : WireValue) (vs : List WireValue) :
    Draft.texts ((v :: vs).map entry) = v.entry.texts ++ Draft.texts (vs.map entry) := by
  simp [Draft.texts]

/-- By induction on the values: each reader stops where the next value begins. -/
theorem run_readAll {vs : List WireValue} (hz : ∀ v ∈ vs, v.IsZeroFree)
    (hs : Fields.size (Draft.texts (vs.map entry)) ≤ maxPayload) :
    ∃ vs', (WireKind.readAll (vs.map kind)).run (Draft.texts (vs.map entry)).payload
        = (.ok vs', []) ∧ List.Forall₂ ComesBack vs vs' := by
  induction vs with
  | nil => exact ⟨[], rfl, .nil⟩
  | cons v vs ih =>
    obtain ⟨hv, hvs⟩ := List.forall_mem_cons.mp hz
    rw [texts_cons, Fields.size_append] at hs
    obtain ⟨v', hr, hb⟩ := run_reader (Draft.texts (vs.map entry)).payload hv (by omega)
    obtain ⟨vs', hrs, hbs⟩ := ih hvs (by omega)
    refine ⟨v' :: vs', ?_, .cons hb hbs⟩
    have hp : Fields.payload (Draft.texts ((v :: vs).map entry))
        = Fields.payload v.entry.texts ++ Fields.payload (Draft.texts (vs.map entry)) := by
      rw [texts_cons, Fields.payload_append]
    rw [hp, List.map_cons, WireKind.readAll, run_bind_done _ hr, run_bind_done _ hrs]
    rfl

/-- Values of any kinds that fit one frame make one, and are read back from its payload in their
order, with nothing left. -/
theorem values_come_back (vs : List WireValue) (hz : ∀ v ∈ vs, v.IsZeroFree)
    (hs : Fields.size (Draft.texts (vs.map entry)) ≤ maxPayload) :
    ∃ bytes, (Draft.ofEntries (vs.map entry)).finish = .ok bytes ∧
      ∃ vs' rest, (WireKind.readAll (vs.map kind)).run (bytes.drop 4) = (.ok vs', rest) ∧
        Reader.finish rest = .ok () ∧ List.Forall₂ ComesBack vs vs' := by
  have hzero : ∀ s ∈ Draft.texts (vs.map entry), 0 ∉ Utf8.encode s := by
    intro s h
    obtain ⟨e, he, hse⟩ := List.mem_flatMap.mp h
    obtain ⟨v, hv, rfl⟩ := List.mem_map.mp he
    exact zero_notMem_texts (hz v hv) s hse
  have hf := Draft.finish_eq_ok_iff.mpr
    ⟨(Draft.hasZero_texts_eq_false_iff _).mpr hzero, hs, rfl⟩
  obtain ⟨vs', hr, hb⟩ := run_readAll hz hs
  exact ⟨_, hf, vs', [], hr, rfl, hb⟩

/-- Every way of coming back at once. -/
def assorted : List WireValue :=
  [.int32 Int32.maxValue, .int32 (-7), .bool true, .float Binary64.largest,
    .float (.infinity false), .decimal ⟨true, 1500, 3, by decide, by decide⟩, .string "IBM",
    .int32? none, .int32? (some Int32.maxValue), .float? (some (.infinity true)),
    .float? (some (.nan true)), .tagValues [⟨"vwap", ""⟩], .int64 0]

theorem values_come_back_assorted :
    (∀ v ∈ assorted, v.IsZeroFree) ∧
      Fields.size (Draft.texts (assorted.map entry)) ≤ maxPayload ∧
      ∃ bytes, (Draft.ofEntries (assorted.map entry)).finish = .ok bytes ∧
        ∃ vs' rest, (WireKind.readAll (assorted.map kind)).run (bytes.drop 4) = (.ok vs', rest) ∧
          Reader.finish rest = .ok () ∧ List.Forall₂ ComesBack assorted vs' := by
  have hz : ∀ v ∈ assorted, v.IsZeroFree := by decide
  have hs : Fields.size (Draft.texts (assorted.map entry)) ≤ maxPayload := by decide
  exact ⟨hz, hs, values_come_back assorted hz hs⟩

end WireValue
end BrokerLink
