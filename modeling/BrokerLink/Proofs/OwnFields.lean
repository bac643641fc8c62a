import BrokerLink.Proofs.WrittenField

/-!
# Readers of their own fields

What a reader takes does not depend on what follows, but whether it goes on may: a list
is refused if its length is beyond all the bytes that are left, those of later fields
included. Every entry of a list takes a byte at least, so a list that has been read would
also have been read alone. The readers of which this is true are *local*; a record made
of them can be taken apart, and its parts put together in another way.
-/

namespace BrokerLink

theorem Utf8.encode_of_decode {bs : List UInt8} {s : String} (h : decode bs = .ok s) :
    encode s = bs := by
  unfold decode at h
  split at h
  · rename_i s' hs
    cases h
    unfold String.fromUTF8? at hs
    split at hs
    · cases hs
      rfl
    · cases hs
  · cases h

namespace Reader

variable {α β : Type} {bs front rest mid : List UInt8} {a : α} {b : β} {guarded : Bool}

/-! ### What is taken from the front -/

theorem zero_notMem_of_splitField {f : List UInt8} (h : splitField bs = some (f, rest)) :
    0 ∉ f := by
  unfold splitField at h
  split at h
  · cases h
  · cases h
    intro h0
    have hall := List.all_eq_true.mp (List.all_takeWhile (p := (· != 0)) (l := bs)) 0 h0
    simp at hall

/-- The next field was written with its zero byte. -/
theorem eq_of_takeField {s : String} (h : takeField bs = .ok (s, rest)) :
    bs = Utf8.encode s ++ 0 :: rest ∧ 0 ∉ Utf8.encode s := by
  unfold takeField at h
  split at h
  · cases h
  · split at h
    · cases h
    · rename_i f rest' hs
      split at h
      · cases h
      · rename_i s' hd
        cases h
        rw [Utf8.encode_of_decode hd]
        exact ⟨splitField_eq hs, zero_notMem_of_splitField hs⟩

theorem rest_suffix {r : Reader α} (h : r.runWith guarded bs = (.ok a, rest)) : rest <:+ bs := by
  have hs := runWith_suffix guarded r bs
  rwa [h] at hs

/-- Reading a field takes its zero byte at least. -/
theorem length_lt_of_field {next : String → Reader α}
    (h : (field next).runWith guarded bs = (.ok a, rest)) : rest.length < bs.length := by
  simp only [runWith] at h
  split at h
  · cases h
  · rename_i s mid ht
    have hle : rest.length ≤ mid.length := (rest_suffix h).length_le
    have hlt := (takeField_suffix ht).2
    omega

theorem runWith_bind_inv {r : Reader α} {f : α → Reader β}
    (h : (r >>= f).runWith guarded bs = (.ok b, rest)) :
    ∃ a mid, r.runWith guarded bs = (.ok a, mid) ∧ (f a).runWith guarded mid = (.ok b, rest) := by
  induction r generalizing bs with
  | done a => exact ⟨a, bs, rfl, h⟩
  | fail e => cases h
  | field next ih =>
    simp only [field_bind, runWith] at h ⊢
    split at h
    · cases h
    · exact ih _ h
  | room n next ih =>
    simp only [room_bind, runWith] at h ⊢
    split at h
    · cases h
    · rename_i hn
      rw [if_neg hn]
      exact ih h

/-- What a sequence of two readers reads, its second reader reads where the first one ends. -/
theorem run_bind_inv {r : Reader α} {f : α → Reader β} (h : (r >>= f).run bs = (.ok b, rest)) :
    ∃ a mid, r.run bs = (.ok a, mid) ∧ (f a).run mid = (.ok b, rest) := runWith_bind_inv h

@[simp] theorem since_true (absent : α) (r : Reader α) : since true absent r = r := rfl

@[simp] theorem since_false (absent : α) (r : Reader α) : since false absent r = done absent := rfl

/-! ### Local readers -/

/-- What the reader reads in front of other bytes it also reads alone. -/
class Local (r : Reader α) : Prop where
  run_alone : ∀ {front rest : List UInt8} {a : α},
    r.run (front ++ rest) = (.ok a, rest) → r.run front = (.ok a, [])

/-- A local reader that stops before the last bytes stops there without them. -/
theorem run_front (r : Reader α) [Local r] (h : r.run (front ++ rest) = (.ok a, mid))
    (hs : rest <:+ mid) : ∃ m, mid = m ++ rest ∧ r.run front = (.ok a, m) := by
  obtain ⟨m, rfl⟩ := hs
  obtain ⟨taken, ht⟩ := rest_suffix h
  have hf : front = taken ++ m := by
    rw [← List.append_assoc, List.append_cancel_right_eq] at ht
    exact ht.symm
  subst hf
  rw [List.append_assoc] at h
  exact ⟨m, rfl, run_append m (Local.run_alone h)⟩

instance (r : Reader α) (f : α → Reader β) [Local r] [∀ a, Local (f a)] : Local (r >>= f) where
  run_alone h := by
    obtain ⟨a, mid, hr, hf⟩ := run_bind_inv h
    obtain ⟨m, rfl, hr'⟩ := run_front r hr (rest_suffix hf)
    rw [run_bind_done f hr']
    exact Local.run_alone hf

instance (a : α) : Local (done a) where
  run_alone h := by
    simp only [run_done, Prod.mk.injEq, Except.ok.injEq, List.append_left_eq_self] at h
    rw [h.1, h.2, run_done]

instance (a : α) : Local (pure a : Reader α) := inferInstanceAs (Local (done a))

instance (e : ReadFault) : Local (fail e : Reader α) where
  run_alone h := by cases h

instance (next : String → Reader α) [∀ s, Local (next s)] : Local (field next) where
  run_alone {front rest a} h := by
    simp only [run, runWith] at h
    split at h
    · cases h
    · rename_i s mid ht
      obtain ⟨m, rfl⟩ := rest_suffix (r := next s) h
      obtain ⟨heq, hz⟩ := eq_of_takeField ht
      have hfront : front = Utf8.encode s ++ 0 :: m := by
        rw [← List.cons_append, ← List.append_assoc, List.append_cancel_right_eq] at heq
        exact heq
      rw [hfront, run_field_encode next m hz]
      exact Local.run_alone h

instance (parse : String → Except ReadFault α) : Local (parsed parse) := by
  have h : ∀ s, Local (match parse s with | .ok a => done a | .error e => fail e) := by
    intro s
    split <;> infer_instance
  exact inferInstanceAs (Local (field _))

instance : Local int32 := inferInstanceAs (Local (parsed _))

/-! ### Lists -/

section
variable {entry : Reader α}

instance [Local entry] (n : Nat) : Local (times n entry) := by
  induction n with
  | zero => exact inferInstanceAs (Local (done []))
  | succ n ih =>
    rw [times_succ]
    infer_instance

/-- Every entry that begins with a field takes a byte at least. -/
theorem length_of_times (he : ∃ next, entry = field next) {n : Nat} {as : List α}
    (h : (times n entry).runWith guarded bs = (.ok as, rest)) : n + rest.length ≤ bs.length := by
  induction n generalizing bs as with
  | zero =>
    cases h
    omega
  | succ n ih =>
    rw [times_succ] at h
    obtain ⟨a, mid, ha, hrest⟩ := runWith_bind_inv h
    obtain ⟨as', mid', has, hdone⟩ := runWith_bind_inv hrest
    cases hdone
    obtain ⟨next, rfl⟩ := he
    have hlt := length_lt_of_field ha
    have hle := ih has
    omega

/-- The entries that have been read leave no doubt that there was room for them. -/
theorem local_list (entry : Reader α) [Local entry] (he : ∃ next, entry = field next) :
    Local (list entry) where
  run_alone {front rest as} h := by
    simp only [list, count, bind_assoc] at h ⊢
    obtain ⟨n, mid, hn, h⟩ := run_bind_inv h
    have hs := rest_suffix h
    -- the length of the list stands in front of the last bytes, and so do its entries
    obtain ⟨m, rfl, hn'⟩ := run_front int32 hn hs
    rw [run_bind_done _ hn']
    split at h
    · cases h
    · rename_i hpos
      rw [if_neg hpos]
      simp only [room_bind, done_bind, run, runWith] at h ⊢
      split at h
      · cases h
      · have hlen := length_of_times he h
        rw [List.length_append] at hlen
        rw [if_neg (by omega)]
        exact Local.run_alone (r := times n.toInt.toNat entry) h

end

end Reader
end BrokerLink
