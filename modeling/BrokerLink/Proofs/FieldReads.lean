import BrokerLink.Proofs.ClearedNumbers
import BrokerLink.Proofs.WrittenValue

/-!
# One field after the other

A value is read back from the field that it was written to, whatever follows
(`Reader.Reads`), and the next reader goes on with the next field. A section of a record is
therefore read back by going through its fields in their order. A list is read back from its
length and the fields of its entries: every entry has a field at least, so that the bytes of
the entries themselves are room enough for their number.
-/

namespace BrokerLink

theorem Utf8.zero_notMem_encode_iff {s : String} : 0 ∉ encode s ↔ '\x00' ∉ s.toList := by
  rw [zero_mem_encode_iff, String.contains_char_eq, decide_eq_true_iff]

theorem Utf8.zero_notMem_encode {s : String} (h : '\x00' ∉ s.toList) : 0 ∉ encode s :=
  zero_notMem_encode_iff.mpr h

namespace Fields

theorem length_le_size (f : Fields) : f.length ≤ f.size := by
  induction f with
  | nil => exact Nat.le_refl 0
  | cons s f ih => rw [size_cons, List.length_cons]; omega

/-- Every entry that is written has a field at least. -/
theorem length_le_length_flatMap {β : Type} {write : β → Fields} (hw : ∀ b, write b ≠ [])
    (bs : List β) : bs.length ≤ (bs.flatMap write).length := by
  induction bs with
  | nil => exact Nat.le_refl 0
  | cons b bs ih =>
    have hb := List.length_pos_iff.mpr (hw b)
    rw [List.flatMap_cons, List.length_append, List.length_cons]
    omega

end Fields

/-- No part of a frame has more fields than 32 bits can count. -/
theorem Frame.length_lt {front fields back : Fields} {frame : Frame}
    (h : Frame.ofFields (front ++ fields ++ back) = .ok frame) : fields.length < 2 ^ 31 := by
  have hfits := frame.fits
  rw [Frame.ofFields_eq_ok_iff.mp h, Fields.size_append, Fields.size_append] at hfits
  have hsize := fields.length_le_size
  have hmax : maxPayload < 2 ^ 31 := by decide
  omega

/-- The options follow their number, each with a tag and a value. -/
theorem TagValue.length_lt_length_pairs (ts : List TagValue) : ts.length < (pairs ts).length := by
  have h : ts.length ≤ (ts.flatMap fun t => [t.tag, t.value]).length :=
    Fields.length_le_length_flatMap (fun t => List.cons_ne_nil _ _) ts
  rw [pairs, List.length_cons]
  omega

/-- No text of the option holds a zero character. -/
def TagValue.IsZeroFree (t : TagValue) : Prop := '\x00' ∉ t.tag.toList ∧ '\x00' ∉ t.value.toList

instance (t : TagValue) : Decidable t.IsZeroFree := by
  unfold TagValue.IsZeroFree
  infer_instance

namespace Reader

variable {α β γ : Type} {r : Reader α} {s : String} {a : α}

/-- From a field of this text the reader reads this value, whatever follows. -/
def Reads (r : Reader α) (s : String) (a : α) : Prop :=
  ∀ rest, r.run (Utf8.encode s ++ 0 :: rest) = (.ok a, rest)

/-- The next reader goes on with the next field. -/
theorem Reads.run_cons (h : r.Reads s a) (f : α → Reader β) (fields : Fields)
    (rest : List UInt8) :
    (r >>= f).run (Fields.payload (s :: fields) ++ rest)
      = (f a).run (Fields.payload fields ++ rest) := by
  rw [Fields.payload_cons_append, run_bind_done f (h _)]

/-- What is made of a value does not change from which field it is read. -/
theorem Reads.bind_done (h : r.Reads s a) (f : α → β) :
    (r >>= fun a => done (f a)).Reads s (f a) := by
  intro rest
  rw [run_bind_done _ (h rest)]
  rfl

/-! ### The kinds of field -/

/-- A text that parses to a value, and that a field can hold. -/
theorem reads_parsed {parse : String → Except ReadFault α} (hz : 0 ∉ Utf8.encode s)
    (hp : parse s = .ok a) : (parsed parse).Reads s a := fun rest => run_parsed rest hz hp

theorem reads_string (h : '\x00' ∉ s.toList) : string.Reads s s := by
  intro rest
  exact run_field_encode done rest (Utf8.zero_notMem_encode h)

theorem reads_bool (b : Bool) : bool.Reads (fieldText b) b := by
  have hi : int32.Reads (fieldText b) (if b then 1 else 0) :=
    reads_parsed (Utf8.zero_notMem_bool b) (parse_fieldText_bool b)
  have hb : decide (0 < (if b then 1 else 0 : Int32)) = b := by cases b <;> rfl
  have h := hi.bind_done fun n => decide (0 < n)
  rwa [hb] at h

theorem reads_int32 {n : Int32} (h : n ≠ Int32.maxValue) : int32.Reads (fieldText n) n := by
  have hparse := parse_fieldText_int32 n
  rw [if_neg h] at hparse
  exact reads_parsed (Utf8.zero_notMem_int32 n) hparse

theorem reads_float {x : Binary64} (hn : x.isNaN = false) (h : x ≠ Binary64.largest) :
    float.Reads (fieldText x) x := by
  have hparse := parse_fieldText_float x
  have hcanonical : x.canonical = x := by simp [Binary64.canonical, hn]
  rw [if_neg h, hcanonical] at hparse
  exact reads_parsed (Utf8.zero_notMem_float x) hparse

/-- A number that stands for none is read as none. -/
theorem reads_int32? (n : Option Int32) : int32?.Reads (fieldText n) (clearNumber n) := by
  have hparse := parse_fieldText_int32? n
  rw [← clear_eq_ite] at hparse
  exact reads_parsed (Utf8.zero_notMem_option Utf8.zero_notMem_int32 n) hparse

theorem reads_float? {x : Option Binary64} (hn : ∀ y ∈ x, y.isNaN = false) :
    float?.Reads (fieldText x) (clearPrice x) := by
  have hparse := parse_fieldText_float? x
  have hcanonical : x.map Binary64.canonical = x := by
    cases x with
    | none => rfl
    | some y => simp [Binary64.canonical, hn y rfl]
  rw [hcanonical, ← clear_eq_ite] at hparse
  exact reads_parsed (Utf8.zero_notMem_option Utf8.zero_notMem_float x) hparse

/-- A word that reading gives is read back from its text, unless that is the text of none. -/
theorem reads_word? [Word α] [FieldText α] {w : Option α}
    (htext : ∀ a ∈ w, Word.ofText (fieldText a) = a ∧ fieldText a ≠ "" ∧
      '\x00' ∉ (fieldText a).toList) : word?.Reads (fieldText w) w := by
  cases w with
  | none => exact reads_parsed Utf8.zero_notMem_encode_empty orEmpty_empty
  | some a =>
    obtain ⟨ha, hne, hz⟩ := htext a rfl
    refine reads_parsed (Utf8.zero_notMem_encode hz) ?_
    have he : (fieldText a).isEmpty = false := by simpa using hne
    simp only [fieldText_some, orEmpty, he, ha, Bool.false_eq_true, if_false]

/-! ### Runs of fields -/

/-- From these fields the reader reads this value, whatever follows, and takes no others. -/
def ReadsAll (r : Reader α) (fields : Fields) (a : α) : Prop :=
  ∀ rest, r.run (Fields.payload fields ++ rest) = (.ok a, rest)

/-- The next reader goes on behind the fields of the first. -/
theorem ReadsAll.run_append {front : Fields} (h : r.ReadsAll front a) (f : α → Reader β)
    (fields : Fields) (rest : List UInt8) :
    (r >>= f).run (Fields.payload (front ++ fields) ++ rest)
      = (f a).run (Fields.payload fields ++ rest) := by
  rw [Fields.payload_append, List.append_assoc, run_bind_done f (h _)]

/-- A number of entries, each read from its own fields, is read from the fields of all. -/
theorem readsAll_times {entry : Reader α} (write : β → Fields) (value : β → α) (bs : List β)
    (h : ∀ b ∈ bs, entry.ReadsAll (write b) (value b)) :
    (times bs.length entry).ReadsAll (bs.flatMap write) (bs.map value) := by
  intro rest
  induction bs with
  | nil => rfl
  | cons b bs ih =>
    obtain ⟨hb, hbs⟩ := List.forall_mem_cons.mp h
    rw [List.length_cons, times_succ, List.flatMap_cons, hb.run_append, run_bind_done _ (ih hbs)]
    rfl

/-- The length of a list is accepted as a count if at least as many bytes follow. -/
theorem run_count {n : Nat} {rest : List UInt8} (h : n < 2 ^ 31) (hr : n ≤ rest.length) :
    count.run (Utf8.encode (fieldText n) ++ 0 :: rest) = (.ok n, rest) := by
  have hi := run_parsed rest (Utf8.zero_notMem_nat n) (parse_fieldText_length h)
  have hn : (Int32.ofNat n).toInt = n := by
    have hsize : Int32.size = 2 ^ 32 := rfl
    rw [Int32.toInt_ofNat', Int.bmod_eq_of_le] <;> omega
  have hneg : ¬ Int32.ofNat n < 0 := by
    rw [Int32.lt_iff_toInt_lt, hn]
    exact Int.not_lt.mpr (Int.natCast_nonneg n)
  have hroom : ¬(True ∧ rest.length < n) := by omega
  rw [count, int32, run_bind_done _ hi, if_neg hneg, hn, Int.toNat_natCast]
  simp only [run, runWith]
  rw [if_neg hroom]

/-- A list is read back from its length and its entries, if every entry is from its own fields. -/
theorem readsAll_list {entry : Reader α} (write : β → Fields) (value : β → α) {bs : List β}
    (hw : ∀ b, write b ≠ []) (hl : bs.length < 2 ^ 31)
    (h : ∀ b ∈ bs, entry.ReadsAll (write b) (value b)) :
    (list entry).ReadsAll (fieldText bs.length :: bs.flatMap write) (bs.map value) := by
  intro rest
  have hroom : bs.length ≤ (Fields.payload (bs.flatMap write) ++ rest).length := by
    have hentries := Fields.length_le_length_flatMap hw bs
    have hsize := Fields.length_le_size (bs.flatMap write)
    rw [List.length_append, Fields.length_payload]
    omega
  rw [Fields.payload_cons_append, list, run_bind_done _ (run_count hl hroom)]
  exact readsAll_times write value bs h rest

theorem readsAll_tagValue {t : TagValue} (ht : t.IsZeroFree) :
    tagValue.ReadsAll [t.tag, t.value] t := by
  intro rest
  rw [tagValue, (reads_string ht.1).run_cons, (reads_string ht.2).run_cons]
  rfl

theorem readsAll_tagValues {ts : List TagValue} (hz : ∀ t ∈ ts, t.IsZeroFree)
    (hl : ts.length < 2 ^ 31) : tagValues.ReadsAll (TagValue.pairs ts) ts := by
  have h := readsAll_list (fun t : TagValue => [t.tag, t.value]) id
    (fun t => List.cons_ne_nil _ _) hl fun t ht => readsAll_tagValue (hz t ht)
  rwa [List.map_id] at h

end Reader
end BrokerLink
