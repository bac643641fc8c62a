import BrokerLink.Proofs.PlainRecords
import BrokerLink.Proofs.ReaderResult
import BrokerLink.Proofs.RecordEnd

/-!
# Room for lists

A list whose length is beyond the bytes that are left is refused before any of its
entries is read. This loses no record: every entry takes a byte at least, so that such a
list could not have been read to its end. A reader of which this is true is *roomy*. Being
so is kept by every way of putting readers together, so that all records are read by roomy
readers, also those with lists in the entries of lists.
-/

namespace BrokerLink

namespace Reader

variable {α β : Type} {bs rest mid : List UInt8} {a : α} {n : Nat} {entry : Reader α}

/-- What the reader would read if all the room that it asks for were granted, it reads. -/
def Roomy (r : Reader α) : Prop :=
  ∀ ⦃bs rest : List UInt8⦄ ⦃a : α⦄, r.runWith false bs = (.ok a, rest) → r.run bs = (.ok a, rest)

/-- Whatever has been read would also have been read with all room granted. -/
theorem runWith_of_run {r : Reader α} (h : r.run bs = (.ok a, rest)) :
    r.runWith false bs = (.ok a, rest) := by
  induction r generalizing bs with
  | done b => exact h
  | fail e => cases h
  | field next ih =>
    simp only [run, runWith] at h ⊢
    split at h
    · cases h
    · exact ih _ h
  | room n next ih =>
    simp only [run, runWith] at h ⊢
    split at h
    · cases h
    · rw [if_neg (by simp)]
      exact ih h

/-! ### Putting roomy readers together -/

theorem roomy_done (a : α) : Roomy (done a) := fun _ _ _ h => h

theorem roomy_fail (e : ReadFault) : Roomy (fail e : Reader α) := fun _ _ _ h => by cases h

theorem Roomy.field {next : String → Reader α} (hn : ∀ s, Roomy (next s)) :
    Roomy (field next) := by
  intro bs rest a h
  simp only [run, runWith] at h ⊢
  split at h
  · cases h
  · rename_i s mid hs
    exact hn s h

theorem Roomy.bind {r : Reader α} {f : α → Reader β} (hr : Roomy r) (hf : ∀ a, Roomy (f a)) :
    Roomy (r >>= f) := by
  intro bs rest b h
  obtain ⟨a, mid, ha, hb⟩ := runWith_bind_inv h
  rw [run_bind_done f (hr ha)]
  exact hf a hb

/-- A single field needs no room. -/
theorem runWith_parsed (guarded : Bool) (parse : String → Except ReadFault α) (bs : List UInt8) :
    (parsed parse).runWith guarded bs = (parsed parse).run bs := by
  simp only [parsed, run, runWith]
  split
  · rfl
  · split <;> rfl

theorem Roomy.times (he : Roomy entry) (n : Nat) : Roomy (times n entry) := by
  induction n with
  | zero => exact roomy_done []
  | succ n ih =>
    rw [times_succ]
    exact he.bind fun a => ih.bind fun as => roomy_done (a :: as)

/-- If all the entries can be read, there is a byte for each of them, and the list is not refused
for its length. -/
theorem Roomy.list (he : Roomy entry) (hn : ∃ next, entry = .field next) : Roomy (list entry) := by
  intro bs rest as h
  simp only [Reader.list, count, bind_assoc] at h ⊢
  obtain ⟨c, mid, hc, h⟩ := runWith_bind_inv h
  have hc' : int32.run bs = (.ok c, mid) := (runWith_parsed false _ bs).symm.trans hc
  rw [run_bind_done _ hc']
  split at h
  · cases h
  · rename_i hpos
    rw [if_neg hpos]
    simp only [room_bind, done_bind, run, runWith] at h ⊢
    rw [if_neg (by simp)] at h
    have hroom : c.toInt.toNat + rest.length ≤ mid.length := length_of_times hn h
    rw [if_neg (by omega)]
    exact he.times _ h

theorem roomy (r : Reader α) [hp : Plain r] : Roomy r := by
  induction hp with
  | done a => exact roomy_done a
  | fail e => exact roomy_fail e
  | field hn ih => exact .field ih
  | bind hr hf ihr ihf => exact ihr.bind ihf
  | list he hn ih => exact ih.list hn

theorem run_eq_ok_iff (r : Reader α) [Plain r] :
    r.run bs = (.ok a, rest) ↔ r.runWith false bs = (.ok a, rest) :=
  ⟨runWith_of_run, fun h => roomy r h⟩

/-! ### The lengths that are accepted -/

/-- The numbers of bytes that a reader asks for and finds, in the order of its questions. -/
def granted : Reader α → List UInt8 → List Nat
  | done _, _ => []
  | fail _, _ => []
  | field next, bs =>
    match takeField bs with
    | .error _ => []
    | .ok (s, rest) => granted (next s) rest
  | room n next, bs => if bs.length < n then [] else n :: granted next bs

theorem granted_bind {r : Reader α} {f : α → Reader β} (h : r.run bs = (.ok a, mid)) :
    (r >>= f).granted bs = r.granted bs ++ (f a).granted mid := by
  induction r generalizing bs with
  | done b =>
    cases h
    rfl
  | fail e => cases h
  | field next ih =>
    simp only [run, runWith] at h
    split at h
    · cases h
    · rename_i s rest hs
      simp only [field_bind, granted, hs]
      exact ih s h
  | room n next ih =>
    simp only [room_bind, granted, run, runWith, true_and] at h ⊢
    split at h
    · cases h
    · rename_i hn
      rw [if_neg hn, if_neg hn, ih h, List.cons_append]

theorem granted_parsed (parse : String → Except ReadFault α) (bs : List UInt8) :
    (parsed parse).granted bs = [] := by
  simp only [parsed, granted]
  split
  · rfl
  · split <;> rfl

theorem gives_length_times (entry : Reader α) (n : Nat) :
    (times n entry).Gives fun as => as.length = n := by
  induction n with
  | zero => rfl
  | succ n ih =>
    rw [times_succ]
    refine .bind fun a => ?_
    rw [gives_bind]
    simpa using ih

/-- The length of a list that has been read is one of the accepted ones: the first of those that
the list asks for, in front of those of its entries. -/
theorem granted_list {as : List α} (h : (list entry).run bs = (.ok as, rest)) :
    ∃ inner, (list entry).granted bs = as.length :: inner := by
  simp only [list, count, bind_assoc] at h ⊢
  obtain ⟨c, mid, hc, h⟩ := run_bind_inv h
  have hnone : int32.granted bs = [] := granted_parsed _ bs
  rw [granted_bind hc, hnone, List.nil_append]
  split at h
  · cases h
  · rename_i hpos
    rw [if_neg hpos]
    simp only [room_bind, done_bind, granted, run, runWith, true_and] at h ⊢
    split at h
    · cases h
    · rename_i hroom
      rw [if_neg hroom, (gives_length_times entry _).of_run h]
      exact ⟨_, rfl⟩

/-- Bytes are only ever taken, so that no accepted length is beyond the bytes at the beginning. -/
theorem le_length_of_mem_granted {r : Reader α} (h : n ∈ r.granted bs) : n ≤ bs.length := by
  induction r generalizing bs with
  | done a => cases h
  | fail e => cases h
  | field next ih =>
    simp only [granted] at h
    split at h
    · cases h
    · rename_i s rest hs
      have hle := ih s h
      have hlt := (takeField_suffix hs).2
      omega
  | room m next ih =>
    simp only [granted] at h
    split at h
    · cases h
    · rename_i hm
      rcases List.mem_cons.mp h with rfl | h
      · exact Nat.not_lt.mp hm
      · exact ih h

end Reader

namespace Record

open Reader

/-- The lengths of lists that are accepted while a payload is read, whether or not the record as a
whole is accepted. -/
def acceptedCounts (version : Version) (payload : List UInt8) : List Nat :=
  match int32.run payload with
  | (.error _, _) => []
  | (.ok kind, rest) =>
    match RecordKind.ofCode? kind with
    | some k => (events version k).granted rest
    | none => []

theorem le_length_of_mem_acceptedCounts {version : Version} {payload : List UInt8} {n : Nat}
    (h : n ∈ acceptedCounts version payload) : n ≤ payload.length := by
  unfold acceptedCounts at h
  split at h
  · cases h
  · rename_i kind rest hi
    split at h
    · have hle : n ≤ rest.length := le_length_of_mem_granted h
      exact Nat.le_trans hle (rest_suffix hi).length_le
    · cases h

/-- What stands behind the kind is accepted with all room granted if it is accepted at all. -/
theorem eventsOf_eq_ok_iff_granted {version : Version} {kind : Int32} {bs : List UInt8}
    {es : List Event} :
    eventsOf true version kind bs = .ok es ↔ eventsOf false version kind bs = .ok es := by
  cases hk : RecordKind.ofCode? kind with
  | none => simp only [eventsOf, hk]
  | some k =>
    rw [eventsOf_eq_ok_iff hk, eventsOf_eq_ok_iff hk]
    exact run_eq_ok_iff (events version k)

/-- The bound on the lengths of lists decides nothing about which records are accepted, or about
what they tell; and a length that is accepted, such as that of any list that has been read, is no
greater than the payload. -/
theorem bounded_lists_lose_nothing (version : Version) (payload : List UInt8) :
    (∀ es, decode version payload = .ok es ↔ decodeWith false version payload = .ok es) ∧
    (∀ n ∈ acceptedCounts version payload, n ≤ payload.length) ∧
    ∀ (α : Type) (entry : Reader α) (bs rest : List UInt8) (as : List α),
      (list entry).run bs = (.ok as, rest) →
        ∃ inner, (list entry).granted bs = as.length :: inner := by
  refine ⟨?_, ?_, ?_⟩
  · intro es
    have hkind : int32.runWith false payload = int32.run payload := runWith_parsed false _ payload
    simp only [decode, decodeWith, hkind, run]
    split
    · rfl
    · exact eventsOf_eq_ok_iff_granted
  · intro n hn
    exact le_length_of_mem_acceptedCounts hn
  · intro α entry bs rest as h
    exact granted_list h

/-- An option chain with no expirations and the given strikes, up to where they begin. -/
def chainFields (strikes : String) : Fields :=
  ["75", "1", "SMART", "265598", "AAPL", "100", "0", strikes]

/-- Two empty strikes are the last two bytes of the record, and there is room for them. With a
third one claimed the record is refused either way. -/
example :
    (decode 157 (chainFields "2" ++ ["", ""]).payload).toOption.isSome = true ∧
      acceptedCounts 157 (chainFields "2" ++ ["", ""]).payload = [0, 2] ∧
      decode 157 (chainFields "3" ++ ["", ""]).payload = .error (.countTooLarge 3) ∧
      decodeWith false 157 (chainFields "3" ++ ["", ""]).payload = .error .endOfRecord := by
  refine ⟨?_, ?_, ?_, ?_⟩ <;> rfl

end Record
end BrokerLink
