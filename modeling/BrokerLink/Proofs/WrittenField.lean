import BrokerLink.Field.Read
import BrokerLink.Frame

/-!
# Reading what was written

A zero byte in the bytes of a text is a zero character of the text, because every byte
of a longer UTF-8 sequence has its highest bit set. A text without one is read back from
the field it was written to, whatever follows.
-/

namespace BrokerLink

namespace Utf8

theorem encode_eq_flatMap (s : String) : encode s = s.toList.flatMap String.utf8EncodeChar := by
  have h : s.toByteArray = (s.toList.flatMap String.utf8EncodeChar).toByteArray := by
    rw [← String.utf8Encode_toList]
    rfl
  rw [encode, String.toUTF8_eq_toByteArray, h, List.data_toByteArray]

theorem zero_mem_utf8EncodeChar {c : Char} : 0 ∈ String.utf8EncodeChar c ↔ c = '\x00' := by
  have hc : c = '\x00' ↔ c.val.toNat = 0 := by
    rw [← Char.toNat_inj]
    rfl
  have h0 : (0 : UInt8).toNat = 0 := rfl
  rw [hc]
  fun_cases String.utf8EncodeChar c <;>
    simp only [List.mem_cons, List.not_mem_nil, or_false, ← UInt8.toNat_inj, UInt8.toNat_ofNat',
      h0] <;> omega

theorem zero_mem_encode_iff {s : String} : 0 ∈ encode s ↔ s.contains '\x00' = true := by
  rw [encode_eq_flatMap, List.mem_flatMap, String.contains_char_eq, decide_eq_true_iff]
  constructor
  · rintro ⟨c, hc, h⟩
    rwa [← zero_mem_utf8EncodeChar.mp h]
  · intro h
    exact ⟨_, h, zero_mem_utf8EncodeChar.mpr rfl⟩

end Utf8

theorem Fields.hasZero_eq_any (fields : Fields) :
    fields.hasZero = fields.any fun s => (Utf8.encode s).contains 0 := by
  unfold Fields.hasZero
  congr 1
  funext s
  rw [Bool.eq_iff_iff, List.contains_iff_mem, Utf8.zero_mem_encode_iff]

theorem Frame.zero_notMem (f : Frame) : ∀ s ∈ f.fields, 0 ∉ Utf8.encode s := by
  intro s hs h0
  have hz := f.zeroFree
  rw [Fields.hasZero_eq_any, List.any_eq_false] at hz
  exact hz s hs (List.contains_iff_mem.mpr h0)

namespace Reader

theorem splitField_zero {f : List UInt8} (rest : List UInt8) (h : 0 ∉ f) :
    splitField (f ++ 0 :: rest) = some (f, rest) := by
  induction f with
  | nil => rw [List.nil_append, splitField_cons, if_pos rfl]
  | cons b f ih =>
    obtain ⟨hb, hf⟩ := not_or.mp (mt List.mem_cons.mpr h)
    rw [List.cons_append, splitField_cons, if_neg (Ne.symm hb), ih hf]
    rfl

theorem takeField_encode {s : String} (rest : List UInt8) (h : 0 ∉ Utf8.encode s) :
    takeField (Utf8.encode s ++ 0 :: rest) = .ok (s, rest) := by
  have hne : (Utf8.encode s ++ 0 :: rest).isEmpty = false := by simp
  simp only [takeField, hne, splitField_zero rest h, Utf8.decode_encode]
  rfl

/-- A field that was written is answered with its text. -/
theorem run_field_encode {α : Type} {s : String} (next : String → Reader α) (rest : List UInt8)
    (h : 0 ∉ Utf8.encode s) :
    (Reader.field next).run (Utf8.encode s ++ 0 :: rest) = (next s).run rest := by
  simp only [run, runWith, takeField_encode rest h]

theorem run_bind_done {α β : Type} {r : Reader α} {bs rest : List UInt8} {a : α}
    (f : α → Reader β) (h : r.run bs = (.ok a, rest)) : (r >>= f).run bs = (f a).run rest := by
  induction r generalizing bs with
  | done b =>
    simp only [run_done, Prod.mk.injEq, Except.ok.injEq] at h
    obtain ⟨rfl, rfl⟩ := h
    rfl
  | fail e => simp at h
  | field next ih =>
    simp only [field_bind, run, runWith] at h ⊢
    split at h
    · simp at h
    · exact ih _ h
  | room n next ih =>
    simp only [room_bind, run, runWith] at h ⊢
    split at h
    · simp at h
    · rename_i hn
      rw [if_neg hn]
      exact ih h

/-- As many reads as there are fields give their texts, and leave what follows. -/
theorem run_times_string (fields : Fields) (rest : List UInt8)
    (h : ∀ s ∈ fields, 0 ∉ Utf8.encode s) :
    (times fields.length string).run (fields.payload ++ rest) = (.ok fields, rest) := by
  induction fields with
  | nil => rfl
  | cons s fields ih =>
    obtain ⟨hs, hf⟩ := List.forall_mem_cons.mp h
    have hp : Fields.payload (s :: fields) ++ rest
        = Utf8.encode s ++ 0 :: (Fields.payload fields ++ rest) := by
      simp [Fields.payload]
    have h1 : string.run (Fields.payload (s :: fields) ++ rest)
        = (.ok s, Fields.payload fields ++ rest) := by
      rw [hp]
      exact run_field_encode done _ hs
    rw [List.length_cons, times_succ, run_bind_done _ h1, run_bind_done _ (ih hf)]
    rfl

end Reader
end BrokerLink
