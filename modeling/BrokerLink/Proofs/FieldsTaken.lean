import BrokerLink.Proofs.FieldReads
import BrokerLink.Proofs.ListRoom
import BrokerLink.Proofs.NumberText

/-!
# Which fields make a value

A reader makes a value of a run of fields if it takes all of them and no other
(`Reader.Takes`). This is read off the tree of the reader, without bytes and without
questions for room; for the readers of records it is nonetheless the same as reading the
bytes of the fields (`Reader.run_eq_ok_iff_takes`). A reader is known in full once all the
ways to spell its values are (`Reader.Spells`): a number is spelled by any text that its
parser maps to it, and a list by any text of its length and any spelling of its entries.
-/

namespace BrokerLink

/-- A text that a field can hold. -/
abbrev PlainText := { s : String // '\x00' ∉ s.toList }

/-- A text and the value that a parser makes of it. -/
structure Spelled {α : Type} (parse : String → Except ReadFault α) where
  text : String
  value : α
  parses : parse text = .ok value

/-- Entries behind a text of their number. -/
structure Counted (τ : Type) where
  count : Spelled (Reader.orEmpty 0 Reader.parseInt32)
  entries : List τ
  counts : count.value.toInt = entries.length

/-- The number of the entries, then the fields of each of them. -/
def Counted.fields {τ : Type} (write : τ → Fields) (c : Counted τ) : Fields :=
  c.count.text :: c.entries.flatMap write

namespace Reader

abbrev SpelledInt32 := Spelled (orEmpty 0 parseInt32)

abbrev SpelledInt64 := Spelled (orEmpty 0 parseInt64)

abbrev SpelledFloat := Spelled (orEmpty Binary64.zero parseFloat)

abbrev SpelledDecimal := Spelled (orEmpty Decimal.zero parseDecimal)

instance : Inhabited PlainText := ⟨"", by decide⟩

instance {α : Type} {empty : α} {parse : String → Except ReadFault α} :
    Inhabited (Spelled (orEmpty empty parse)) := ⟨"", empty, orEmpty_empty⟩

variable {α β τ : Type} {r : Reader α} {f : α → Reader β} {fields : Fields} {a : α} {b : β}

/-- The reader makes the value of these fields, taking all of them and no other. -/
def Takes : Reader α → Fields → α → Prop
  | done a, fields, b => fields = [] ∧ b = a
  | fail _, _, _ => False
  | field next, fields, b =>
    ∃ s rest, fields = s :: rest ∧ '\x00' ∉ s.toList ∧ Takes (next s) rest b
  | room _ next, fields, b => Takes next fields b

theorem takes_done {c : α} : (done a).Takes fields c ↔ fields = [] ∧ c = a := Iff.rfl

/-- With all room granted, a reader reads a value exactly of the bytes of fields that make it. -/
theorem runWith_eq_ok_iff_takes {bs rest : List UInt8} :
    r.runWith false bs = (.ok a, rest) ↔
      ∃ fields, bs = Fields.payload fields ++ rest ∧ r.Takes fields a := by
  induction r generalizing bs with
  | done b =>
    constructor
    · intro h
      cases h
      exact ⟨[], rfl, rfl, rfl⟩
    · rintro ⟨fields, rfl, rfl, rfl⟩
      rfl
  | fail fault =>
    constructor
    · intro h
      cases h
    · rintro ⟨fields, -, ⟨⟩⟩
  | field next ih =>
    constructor
    · intro h
      simp only [runWith] at h
      split at h
      · cases h
      · rename_i s mid ht
        obtain ⟨rfl, hz⟩ := eq_of_takeField ht
        obtain ⟨fields, rfl, hnext⟩ := (ih s).mp h
        refine ⟨s :: fields, ?_, s, fields, rfl, Utf8.zero_notMem_encode_iff.mp hz, hnext⟩
        rw [Fields.payload_cons_append]
    · rintro ⟨fields, rfl, s, back, rfl, hz, hnext⟩
      simp only [Fields.payload_cons_append, runWith,
        takeField_encode _ (Utf8.zero_notMem_encode hz)]
      exact (ih s).mpr ⟨back, rfl, hnext⟩
  | room n next ih =>
    simp only [runWith, Bool.false_eq_true, false_and, if_false]
    exact ih

/-- The readers of records find the room that they ask for. -/
theorem run_eq_ok_iff_takes (r : Reader α) [Plain r] {bs rest : List UInt8} :
    r.run bs = (.ok a, rest) ↔ ∃ fields, bs = Fields.payload fields ++ rest ∧ r.Takes fields a :=
  (run_eq_ok_iff r).trans runWith_eq_ok_iff_takes

theorem Takes.zeroFree (h : r.Takes fields a) : ∀ s ∈ fields, '\x00' ∉ s.toList := by
  induction r generalizing fields with
  | done b =>
    rw [h.1]
    exact List.forall_mem_nil _
  | fail fault => cases h
  | field next ih =>
    obtain ⟨s, rest, rfl, hs, hnext⟩ := h
    exact List.forall_mem_cons.mpr ⟨hs, ih s hnext⟩
  | room n next ih => exact ih h

/-- What a reader makes of any fields has the property that all its values have. -/
theorem Takes.of_gives {P : α → Prop} (h : r.Takes fields a) (hp : r.Gives P) : P a := by
  induction r generalizing fields with
  | done b =>
    rw [h.2]
    exact hp
  | fail fault => cases h
  | field next ih =>
    obtain ⟨s, rest, -, -, hnext⟩ := h
    exact ih s hnext (hp s)
  | room n next ih => exact ih h hp

theorem takes_bind :
    (r >>= f).Takes fields b ↔
      ∃ front back a, fields = front ++ back ∧ r.Takes front a ∧ (f a).Takes back b := by
  induction r generalizing fields with
  | done a =>
    constructor
    · intro h
      exact ⟨[], fields, a, rfl, ⟨rfl, rfl⟩, h⟩
    · rintro ⟨front, back, a', rfl, ⟨rfl, rfl⟩, h⟩
      exact h
  | fail fault =>
    constructor
    · intro h
      cases h
    · rintro ⟨front, back, a, -, ⟨⟩, -⟩
  | field next ih =>
    constructor
    · rintro ⟨s, rest, rfl, hs, h⟩
      obtain ⟨front, back, a, rfl, ha, hb⟩ := (ih s).mp h
      exact ⟨s :: front, back, a, rfl, ⟨s, front, rfl, hs, ha⟩, hb⟩
    · rintro ⟨front, back, a, rfl, ⟨s, rest, rfl, hs, ha⟩, hb⟩
      exact ⟨s, rest ++ back, rfl, hs, (ih s).mpr ⟨rest, back, a, rfl, ha, hb⟩⟩
  | room n next ih => exact ih

/-! ### All spellings of a value -/

/-- What the reader makes a value of are the fields of some `t`, and the value is that of `t`. -/
def Spells (r : Reader α) (write : τ → Fields) (value : τ → α) : Prop :=
  ∀ fields a, r.Takes fields a ↔ ∃ t, fields = write t ∧ a = value t

variable {write : τ → Fields} {value : τ → α}

theorem Spells.takes (h : r.Spells write value) (t : τ) : r.Takes (write t) (value t) :=
  (h _ _).mpr ⟨t, rfl, rfl⟩

/-- The next reader goes on behind one of the spellings. -/
theorem Spells.takes_bind (h : r.Spells write value) :
    (r >>= f).Takes fields b ↔ ∃ t back, fields = write t ++ back ∧ (f (value t)).Takes back b := by
  rw [Reader.takes_bind]
  constructor
  · rintro ⟨front, back, a, rfl, ha, hb⟩
    obtain ⟨t, rfl, rfl⟩ := (h _ _).mp ha
    exact ⟨t, back, rfl, hb⟩
  · rintro ⟨t, back, rfl, hb⟩
    exact ⟨write t, back, value t, rfl, h.takes t, hb⟩

/-- What is made of a value is spelled as the value is. -/
theorem Spells.map (h : r.Spells write value) (g : α → β) :
    (r >>= fun a => done (g a)).Spells write fun t => g (value t) := by
  intro fields b
  rw [h.takes_bind]
  constructor
  · rintro ⟨t, back, rfl, rfl, rfl⟩
    exact ⟨t, List.append_nil _, rfl⟩
  · rintro ⟨t, rfl, rfl⟩
    exact ⟨t, [], (List.append_nil _).symm, rfl, rfl⟩

theorem Spells.since [Inhabited τ] (h : r.Spells write value) (carried : Bool) (absent : α) :
    (since carried absent r).Spells (fun t => ifSupported carried (write t))
      fun t => if carried then value t else absent := by
  intro fields a
  cases carried with
  | true => exact h fields a
  | false =>
    constructor
    · rintro ⟨rfl, rfl⟩
      exact ⟨default, rfl, rfl⟩
    · rintro ⟨t, rfl, rfl⟩
      exact ⟨rfl, rfl⟩

/-- A field that may hold any text. -/
theorem spells_field (g : String → α) :
    (field fun s => done (g s)).Spells (fun t : PlainText => [t.val]) fun t => g t.val := by
  intro fields a
  constructor
  · rintro ⟨s, rest, rfl, hs, rfl, rfl⟩
    exact ⟨⟨s, hs⟩, rfl, rfl⟩
  · rintro ⟨t, rfl, rfl⟩
    exact ⟨t.val, [], rfl, t.property, rfl, rfl⟩

theorem spells_string : string.Spells (fun t : PlainText => [t.val]) Subtype.val :=
  spells_field fun s => s

theorem spells_skip : skip.Spells (fun t : PlainText => [t.val]) fun _ => () :=
  spells_field fun _ => ()

theorem takes_parsed {parse : String → Except ReadFault α} :
    (parsed parse).Takes fields a ↔
      ∃ s, fields = [s] ∧ '\x00' ∉ s.toList ∧ parse s = .ok a := by
  constructor
  · rintro ⟨s, rest, rfl, hs, h⟩
    dsimp only at h
    split at h
    · rename_i b hp
      obtain ⟨rfl, rfl⟩ := h
      exact ⟨s, rfl, hs, hp⟩
    · cases h
  · rintro ⟨s, rfl, hs, hp⟩
    refine ⟨s, [], rfl, hs, ?_⟩
    dsimp only
    rw [hp]
    exact ⟨rfl, rfl⟩

/-- Where a parser refuses every text with a zero character, a field can hold any text that it
accepts. -/
theorem spells_parsed {parse : String → Except ReadFault α} {empty : α}
    (hz : ∀ s a, parse s = .ok a → '\x00' ∉ s.toList) :
    (parsed (orEmpty empty parse)).Spells (fun t : Spelled (orEmpty empty parse) => [t.text])
      Spelled.value := by
  intro fields a
  rw [takes_parsed]
  constructor
  · rintro ⟨s, rfl, -, hp⟩
    exact ⟨⟨s, a, hp⟩, rfl, rfl⟩
  · rintro ⟨t, rfl, rfl⟩
    exact ⟨t.text, rfl, zero_notMem_of_orEmpty (hz t.text) t.parses, t.parses⟩

theorem spells_int32 : int32.Spells (fun t : SpelledInt32 => [t.text]) Spelled.value :=
  spells_parsed fun _ _ => zero_notMem_of_mapError fun _ => Numeral.zero_notMem_of_map_whole

theorem spells_int64 : int64.Spells (fun t : SpelledInt64 => [t.text]) Spelled.value :=
  spells_parsed fun _ _ => zero_notMem_of_mapError fun _ => Numeral.zero_notMem_of_map_whole

theorem spells_decimal : decimal.Spells (fun t : SpelledDecimal => [t.text]) Spelled.value :=
  spells_parsed fun _ _ => zero_notMem_of_mapError fun _ => Decimal.zero_notMem_of_read

theorem spells_float : float.Spells (fun t : SpelledFloat => [t.text]) Spelled.value := by
  refine spells_parsed fun s a h => ?_
  unfold parseFloat at h
  split at h
  · rename_i x hx
    exact Binary64.zero_notMem_of_read hx
  · cases h

/-! ### Lists -/

theorem takes_count {n : Nat} :
    count.Takes fields n ↔ ∃ t : SpelledInt32, fields = [t.text] ∧ t.value.toInt = n := by
  rw [count, spells_int32.takes_bind]
  refine exists_congr fun t => ?_
  by_cases hneg : t.value < 0
  · rw [if_pos hneg]
    constructor
    · rintro ⟨back, -, ⟨⟩⟩
    · rintro ⟨-, hn⟩
      rw [Int32.lt_iff_toInt_lt, hn] at hneg
      exact absurd hneg (Int.not_lt.mpr (Int.natCast_nonneg n))
  · rw [if_neg hneg]
    have hpos : 0 ≤ t.value.toInt := by
      rw [Int32.lt_iff_toInt_lt] at hneg
      exact Int.not_lt.mp hneg
    constructor
    · rintro ⟨back, rfl, rfl, rfl⟩
      exact ⟨rfl, (Int.toNat_of_nonneg hpos).symm⟩
    · rintro ⟨rfl, hn⟩
      refine ⟨[], rfl, rfl, ?_⟩
      rw [hn, Int.toNat_natCast]

/-- A number of entries is made of as many groups of fields, in their order. -/
theorem takes_times {entry : Reader α} {n : Nat} {as : List α} :
    (times n entry).Takes fields as ↔
      ∃ groups, groups.length = n ∧ fields = groups.flatten ∧
        List.Forall₂ entry.Takes groups as := by
  induction n generalizing fields as with
  | zero =>
    constructor
    · rintro ⟨rfl, rfl⟩
      exact ⟨[], rfl, rfl, .nil⟩
    · rintro ⟨groups, hl, rfl, h⟩
      rw [List.length_eq_zero_iff] at hl
      subst hl
      cases h
      exact ⟨rfl, rfl⟩
  | succ n ih =>
    rw [times_succ, takes_bind]
    constructor
    · rintro ⟨front, back, a, rfl, ha, hback⟩
      obtain ⟨middle, back, as, rfl, has, rfl, rfl⟩ := takes_bind.mp hback
      obtain ⟨groups, rfl, rfl, hgroups⟩ := ih.mp has
      refine ⟨front :: groups, rfl, ?_, .cons ha hgroups⟩
      rw [List.flatten_cons, List.append_nil]
    · rintro ⟨groups, hl, rfl, h⟩
      cases h with
      | nil => cases hl
      | @cons front a groups as ha hgroups =>
        refine ⟨front, groups.flatten, a, rfl, ha, takes_bind.mpr ?_⟩
        refine ⟨groups.flatten, [], as, (List.append_nil _).symm, ?_, rfl, rfl⟩
        exact ih.mpr ⟨groups, Nat.succ.inj hl, rfl, hgroups⟩

/-- A list is made of its declared length and of as many groups of fields. -/
theorem takes_list {entry : Reader α} {as : List α} :
    (list entry).Takes fields as ↔
      ∃ groups : Counted Fields, fields = groups.fields id ∧
        List.Forall₂ entry.Takes groups.entries as := by
  rw [list, takes_bind]
  constructor
  · rintro ⟨front, back, n, rfl, hn, h⟩
    obtain ⟨t, rfl, ht⟩ := takes_count.mp hn
    obtain ⟨groups, rfl, rfl, hgroups⟩ := takes_times.mp h
    refine ⟨⟨t, groups, ht⟩, ?_, hgroups⟩
    rw [Counted.fields, List.flatMap_id]
    rfl
  · rintro ⟨⟨t, groups, ht⟩, rfl, h⟩
    refine ⟨[t.text], groups.flatten, groups.length, ?_, takes_count.mpr ⟨t, rfl, ht⟩,
      takes_times.mpr ⟨groups, rfl, rfl, h⟩⟩
    rw [Counted.fields, List.flatMap_id]
    rfl

theorem Spells.forall₂ (h : r.Spells write value) {groups : List Fields} {as : List α} :
    List.Forall₂ r.Takes groups as ↔ ∃ ts : List τ, groups = ts.map write ∧ as = ts.map value := by
  constructor
  · intro hgroups
    induction hgroups with
    | nil => exact ⟨[], rfl, rfl⟩
    | cons ha _ ih =>
      obtain ⟨t, rfl, rfl⟩ := (h _ _).mp ha
      obtain ⟨ts, rfl, rfl⟩ := ih
      exact ⟨t :: ts, rfl, rfl⟩
  · rintro ⟨ts, rfl, rfl⟩
    induction ts with
    | nil => exact .nil
    | cons t ts ih => exact .cons (h.takes t) ih

/-- A list is spelled by any text of its length and any spelling of each entry. -/
theorem Spells.list (h : r.Spells write value) :
    (list r).Spells (Counted.fields write) fun c => c.entries.map value := by
  intro fields as
  rw [takes_list]
  constructor
  · rintro ⟨⟨t, groups, ht⟩, rfl, hgroups⟩
    obtain ⟨ts, rfl, rfl⟩ := h.forall₂.mp hgroups
    refine ⟨⟨t, ts, by rw [ht, List.length_map]⟩, ?_, rfl⟩
    rw [Counted.fields, Counted.fields, List.flatMap_id, List.flatMap_def]
  · rintro ⟨⟨t, ts, ht⟩, rfl, rfl⟩
    refine ⟨⟨t, ts.map write, by rw [ht, List.length_map]⟩, ?_, h.forall₂.mpr ⟨ts, rfl, rfl⟩⟩
    rw [Counted.fields, Counted.fields, List.flatMap_id, List.flatMap_def]

end Reader

/-! ### Records -/

namespace Record

open Reader

variable {version : Version} {es : List Event}

/-- What is passed over without a fault is made of fields. -/
theorem exists_fields_of_passOver {bs : List UInt8} (h : passOver bs = none) :
    ∃ fields : Fields, bs = fields.payload ∧ ∀ s ∈ fields, '\x00' ∉ s.toList := by
  induction bs using passOver.induct with
  | case1 bs he =>
    rw [List.isEmpty_iff.mp he]
    exact ⟨[], rfl, List.forall_mem_nil _⟩
  | case2 bs he fault ht =>
    rw [passOver_of_fault he ht] at h
    cases h
  | case3 bs he s rest ht ih =>
    rw [passOver_of_takeField ht] at h
    obtain ⟨fields, rfl, hfields⟩ := ih h
    obtain ⟨rfl, hz⟩ := eq_of_takeField ht
    refine ⟨s :: fields, ?_, ?_⟩
    · rw [Fields.payload, Fields.payload, List.flatMap_cons, List.append_assoc]
      rfl
    · exact List.forall_mem_cons.mpr ⟨Utf8.zero_notMem_encode_iff.mp hz, hfields⟩

/-- A record of a known kind tells what its reader makes of the fields behind the kind. -/
theorem decode_eq_ok_of_takes {k : RecordKind} {kind : SpelledInt32} {fields : Fields}
    (hk : kind.value = k.code) (h : (events version k).Takes fields es) :
    decode version (Fields.payload (kind.text :: fields)) = .ok es := by
  have hi : int32.run (Fields.payload (kind.text :: fields))
      = (.ok k.code, Fields.payload fields) := by
    rw [← hk]
    have hpayload := Fields.payload_append [kind.text] fields
    exact (run_eq_ok_iff_takes int32).mpr ⟨[kind.text], hpayload, spells_int32.takes kind⟩
  rw [decode_eq_ok_iff hi, run_eq_ok_iff_takes]
  exact ⟨fields, (List.append_nil _).symm, h⟩

/-- An accepted payload is made of fields, of which the first spells the kind. Behind an unknown
kind there may be any, and behind a known one are those that its reader makes the events of. -/
theorem exists_fields_of_decode {payload : List UInt8} (h : decode version payload = .ok es) :
    ∃ (kind : SpelledInt32) (fields : Fields),
      payload = Fields.payload (kind.text :: fields) ∧ (∀ s ∈ fields, '\x00' ∉ s.toList) ∧
        ((RecordKind.ofCode? kind.value = none ∧ es = []) ∨
          ∃ k : RecordKind, kind.value = k.code ∧ (events version k).Takes fields es) := by
  obtain ⟨n, rest, hi⟩ := exists_kind h
  obtain ⟨front, rfl, hfront⟩ := (run_eq_ok_iff_takes int32).mp hi
  obtain ⟨kind, rfl, rfl⟩ := (spells_int32 _ _).mp hfront
  cases hk : RecordKind.ofCode? kind.value with
  | none =>
    have hi' : runWith true int32 (Fields.payload [kind.text] ++ rest)
        = (.ok kind.value, rest) := hi
    simp only [decode, decodeWith, hi', eventsOf, hk] at h
    split at h
    · cases h
    · rename_i hpass
      cases h
      obtain ⟨fields, rfl, hz⟩ := exists_fields_of_passOver hpass
      exact ⟨kind, fields, (Fields.payload_append _ _).symm, hz, .inl ⟨hk, rfl⟩⟩
  | some k =>
    have hcode := RecordKind.code_of_ofCode? hk
    rw [← hcode] at hi
    obtain ⟨fields, hrest, htakes⟩ := (run_eq_ok_iff_takes _).mp ((decode_eq_ok_iff hi).mp h)
    rw [List.append_nil] at hrest
    subst hrest
    exact ⟨kind, fields, (Fields.payload_append _ _).symm, htakes.zeroFree,
      .inr ⟨k, hcode.symm, htakes⟩⟩

/-- An accepted payload of a known kind is made of a text of the kind and of fields that its reader
makes the events of. -/
theorem exists_takes_of_decode {payload : List UInt8} {k : RecordKind}
    (h : decode version payload = .ok es) (hk : (int32.run payload).1 = .ok k.code) :
    ∃ (kind : SpelledInt32) (fields : Fields),
      payload = Fields.payload (kind.text :: fields) ∧ (events version k).Takes fields es := by
  have hi : int32.run payload = (.ok k.code, (int32.run payload).2) := Prod.ext hk rfl
  obtain ⟨front, hpayload, hfront⟩ := (run_eq_ok_iff_takes int32).mp hi
  obtain ⟨kind, rfl, -⟩ := (spells_int32 _ _).mp hfront
  obtain ⟨fields, hrest, htakes⟩ := (run_eq_ok_iff_takes _).mp ((decode_eq_ok_iff hi).mp h)
  refine ⟨kind, fields, ?_, htakes⟩
  rw [hpayload, hrest, List.append_nil, ← Fields.payload_append]
  rfl

end Record
end BrokerLink
