import BrokerLink.Proofs.FirstField
import BrokerLink.Record

/-!
# The position of the cursor

A record is read by a cursor that moves over its bytes. Whatever is read, in whatever order
and with whatever outcome, the cursor stands where a field begins: at the beginning of the
payload or just behind a zero byte, and it never moves back. A read of a single field that
finds no text in front of it leaves the cursor where it is; one that finds a text passes its
field and no other, whether or not the text makes sense to it.
-/

namespace BrokerLink

namespace Reader

variable {α β : Type}

/-! ### Readers of one field -/

/-- The reader asks for no field. -/
def Still : Reader α → Prop
  | done _ => True
  | fail _ => True
  | field _ => False
  | room _ next => Still next

/-- The reader asks for one field at once, and for no field after it. -/
def TakesOne (r : Reader α) : Prop := ∃ next, r = field next ∧ ∀ s, (next s).Still

theorem Still.run_snd {r : Reader α} (h : r.Still) (bs : List UInt8) : (r.run bs).2 = bs := by
  induction r with
  | done a => rfl
  | fail e => rfl
  | field next ih => cases h
  | room n next ih =>
    simp only [run, runWith]
    split
    · rfl
    · exact ih h

theorem Still.bind {r : Reader α} {f : α → Reader β} (hr : r.Still) (hf : ∀ a, (f a).Still) :
    (r >>= f).Still := by
  induction r with
  | done a => exact hf a
  | fail e => trivial
  | field next ih => cases hr
  | room n next ih => exact ih hr

theorem TakesOne.bind {r : Reader α} {f : α → Reader β} (hr : r.TakesOne)
    (hf : ∀ a, (f a).Still) : (r >>= f).TakesOne := by
  obtain ⟨next, rfl, hn⟩ := hr
  exact ⟨fun s => next s >>= f, rfl, fun s => (hn s).bind hf⟩

theorem takesOne_parsed (parse : String → Except ReadFault α) : (parsed parse).TakesOne := by
  refine ⟨_, rfl, ?_⟩
  intro s
  split <;> trivial

theorem takesOne_string : string.TakesOne := ⟨done, rfl, fun _ => trivial⟩

theorem takesOne_skip : skip.TakesOne := ⟨fun _ => done (), rfl, fun _ => trivial⟩

theorem takesOne_bool : bool.TakesOne := (takesOne_parsed _).bind fun _ => trivial

theorem takesOne_count : count.TakesOne := by
  refine (takesOne_parsed _).bind ?_
  intro n
  split <;> trivial

/-- Without a text in front of it, a reader of one field fails for that and takes nothing. -/
theorem TakesOne.run_of_fault {r : Reader α} {bs : List UInt8} {fault : ReadFault}
    (hr : r.TakesOne) (h : Leads bs (.error fault)) : r.run bs = (.error fault, bs) := by
  obtain ⟨next, rfl, -⟩ := hr
  simp only [run, runWith, h.takeField_eq]

/-- With a text in front of it, a reader of one field takes that field, whatever it makes of it. -/
theorem TakesOne.run_snd_of_text {r : Reader α} {bs rest : List UInt8} {s : String}
    (hr : r.TakesOne) (h : Leads bs (.ok (s, rest))) : (r.run bs).2 = rest := by
  obtain ⟨next, rfl, hn⟩ := hr
  simp only [run, runWith, h.takeField_eq]
  exact (hn s).run_snd rest

end Reader

namespace Cursor

open Reader

/-! ### Positions -/

/-- The cursor stands at a position of a payload where a field begins, and the bytes from there on
are left. -/
structure At (payload left : List UInt8) (pos : Nat) : Prop where
  le_length : pos ≤ payload.length
  left_eq : left = payload.drop pos
  begins : pos = 0 ∨ payload[pos - 1]? = some 0

variable {payload left front rest : List UInt8} {pos : Nat}

theorem At.start (payload : List UInt8) : At payload payload 0 :=
  ⟨Nat.zero_le _, rfl, .inl rfl⟩

/-- No byte is lost: those that were passed and those that are left are the payload's. -/
theorem At.length_eq (h : At payload left pos) : pos + left.length = payload.length := by
  rw [h.left_eq, List.length_drop]
  exact Nat.add_sub_cancel' h.le_length

/-- Behind the next zero byte a field begins. -/
theorem At.pass (h : At payload (front ++ 0 :: rest) pos) :
    At payload rest (pos + front.length + 1) := by
  have hlength : pos + (front.length + (rest.length + 1)) = payload.length := by
    simpa using h.length_eq
  have hzero : payload[pos + front.length]? = some 0 := by
    rw [← List.getElem?_drop, ← h.left_eq]
    simp
  have hrest : rest = payload.drop (pos + front.length + 1) := by
    rw [Nat.add_assoc, ← List.drop_drop, ← h.left_eq]
    simp
  exact ⟨by omega, hrest, .inr hzero⟩

/-- However a reader ends, the cursor stands where a field begins, and not before where it stood. -/
theorem At.run {α : Type} (r : Reader α) (h : At payload left pos) :
    ∃ pos', At payload (r.run left).2 pos' ∧ pos ≤ pos' := by
  induction r generalizing left pos with
  | done a => exact ⟨pos, h, Nat.le_refl pos⟩
  | fail e => exact ⟨pos, h, Nat.le_refl pos⟩
  | field next ih =>
    simp only [Reader.run, runWith]
    split
    · exact ⟨pos, h, Nat.le_refl pos⟩
    · rename_i s rest hs
      obtain ⟨rfl, -⟩ := eq_of_takeField hs
      obtain ⟨pos', h', hle⟩ := ih s h.pass
      exact ⟨pos', h', by omega⟩
  | room n next ih =>
    simp only [Reader.run, runWith]
    split
    · exact ⟨pos, h, Nat.le_refl pos⟩
    · exact ih h

/-! ### Reads -/

/-- What can be asked of a cursor. -/
inductive Read : Type 1 where
  | string
  | int32
  | int64
  | float
  | bool
  | decimal
  | int32?
  | float?
  | decimal?
  | word (α : Type) [Word α]
  | count
  | skip
  | tagValues
  | skips (n : Nat)
  | finish

/-- How a reader ends and what it leaves, without the value that it gives. -/
def ended {α : Type} (r : Reader α) (left : List UInt8) : Except ReadFault Unit × List UInt8 :=
  ((r.run left).1.map fun _ => (), (r.run left).2)

namespace Read

def run : Read → List UInt8 → Except ReadFault Unit × List UInt8
  | string => ended Reader.string
  | int32 => ended Reader.int32
  | int64 => ended Reader.int64
  | float => ended Reader.float
  | bool => ended Reader.bool
  | decimal => ended Reader.decimal
  | int32? => ended Reader.int32?
  | float? => ended Reader.float?
  | decimal? => ended Reader.decimal?
  | word α => ended (word? : Reader (Option α))
  | count => ended Reader.count
  | skip => ended Reader.skip
  | tagValues => ended Reader.tagValues
  | skips n => ended (Reader.skips n)
  | finish => fun left => (Reader.finish left, left)

/-- Only the check for the end is not made by a reader. -/
theorem eq_finish_or (r : Read) :
    r = finish ∨ ∃ (α : Type) (reader : Reader α), r.run = ended reader := by
  cases r with
  | finish => exact .inl rfl
  | _ => exact .inr ⟨_, _, rfl⟩

/-- Lists, runs of fields and the check for the end are not the read of one field. -/
def isSingle : Read → Bool
  | tagValues => false
  | skips _ => false
  | finish => false
  | _ => true

/-- The read of one field is that of a reader of one field. -/
theorem exists_takesOne {r : Read} (h : r.isSingle = true) :
    ∃ (α : Type) (reader : Reader α), reader.TakesOne ∧ r.run = ended reader := by
  cases r with
  | string => exact ⟨_, _, takesOne_string, rfl⟩
  | bool => exact ⟨_, _, takesOne_bool, rfl⟩
  | count => exact ⟨_, _, takesOne_count, rfl⟩
  | skip => exact ⟨_, _, takesOne_skip, rfl⟩
  | tagValues => cases h
  | skips n => cases h
  | finish => cases h
  | _ => exact ⟨_, _, takesOne_parsed _, rfl⟩

theorem run_of_fault {r : Read} {fault : ReadFault} (hr : r.isSingle = true)
    (h : Leads left (.error fault)) : r.run left = (.error fault, left) := by
  obtain ⟨α, reader, hone, he⟩ := exists_takesOne hr
  rw [he, ended, hone.run_of_fault h]
  rfl

theorem run_snd_of_text {r : Read} {s : String} (hr : r.isSingle = true)
    (h : Leads left (.ok (s, rest))) : (r.run left).2 = rest := by
  obtain ⟨α, reader, hone, he⟩ := exists_takesOne hr
  rw [he]
  exact hone.run_snd_of_text h

end Read

/-- A read leaves the cursor where a field begins, and not before where it stood. -/
theorem At.read (r : Read) (h : At payload left pos) :
    ∃ pos', At payload (r.run left).2 pos' ∧ pos ≤ pos' := by
  rcases r.eq_finish_or with rfl | ⟨α, reader, he⟩
  · exact ⟨pos, h, Nat.le_refl pos⟩
  · rw [he]
    exact h.run reader

/-- The outcomes of reads made one after the other, whether or not they succeed, and the bytes that
are left. -/
def readAll : List Read → List UInt8 → List (Except ReadFault Unit) × List UInt8
  | [], left => ([], left)
  | r :: reads, left =>
    let (outcomes, rest) := readAll reads (r.run left).2
    ((r.run left).1 :: outcomes, rest)

/-- By induction on the reads: each of them begins where a field begins. -/
theorem At.readAll (reads : List Read) (h : At payload left pos) :
    ∃ pos', At payload (readAll reads left).2 pos' := by
  induction reads generalizing left pos with
  | nil => exact ⟨pos, h⟩
  | cons r reads ih =>
    obtain ⟨pos', h', -⟩ := h.read r
    exact ih h'

/-- Where there is no text, nothing that is asked for moves the cursor. -/
theorem readAll_of_fault {fault : ReadFault} (h : Leads left (.error fault)) {reads : List Read}
    (hr : ∀ r ∈ reads, r.isSingle = true) :
    readAll reads left = (reads.map fun _ => .error fault, left) := by
  induction reads with
  | nil => rfl
  | cons r reads ih =>
    obtain ⟨hone, hrest⟩ := List.forall_mem_cons.mp hr
    simp only [Cursor.readAll, Read.run_of_fault hone h, ih hrest, List.map_cons]

/-! ### Discarding a record -/

/-- A record that is discarded is skipped field by field, up to its end or to the first field that
is no text. -/
theorem exists_skips (bs : List UInt8) :
    ∃ n ≤ bs.length, ∃ rest, (skips n).run bs = (.ok (), rest) ∧
      (rest = [] ∧ Record.passOver bs = none ∨
        rest ≠ [] ∧ ∃ fault, Leads rest (.error fault) ∧ Record.passOver bs = some fault) := by
  induction bs using Record.passOver.induct with
  | case1 bs he =>
    obtain rfl := List.isEmpty_iff.mp he
    exact ⟨0, Nat.le_refl 0, [], rfl, .inl ⟨rfl, by simp [Record.passOver]⟩⟩
  | case2 bs he fault hf =>
    have hl := leads_takeField bs
    rw [hf] at hl
    exact ⟨0, Nat.zero_le _, bs, rfl,
      .inr ⟨mt List.isEmpty_iff.mpr he, fault, hl, Record.passOver_of_fault he hf⟩⟩
  | case3 bs he s rest hs ih =>
    have hskip : Reader.skip.run bs = (.ok (), rest) := by
      simp only [Reader.skip, Reader.run, runWith, hs]
    have hlt := (takeField_suffix hs).2
    obtain ⟨n, hn, left, hrun, hend⟩ := ih
    refine ⟨n + 1, by omega, left, ?_, ?_⟩
    · rw [Reader.skips, run_bind_done _ hskip, hrun]
    · rwa [Record.passOver_of_takeField hs]

/-- After any reads, successful or not, the cursor stands inside the payload where a field begins,
all that lies behind it is left, and no read moves it back. Either there is no text in front of it:
then whatever single fields are asked for, and however often, all of this fails for the same reason
and the cursor stays. Or there is a text: then every read of a single field passes this field and no
other. And passing over what is left ends, after so many fields, at the end or in front of a field
that is no text. -/
theorem cursor_keeps_to_fields (payload : List UInt8) (reads : List Read) :
    let left := (readAll reads payload).2
    ∃ pos, At payload left pos ∧ pos + left.length = payload.length ∧
      (∀ r : Read, ∃ pos', At payload (r.run left).2 pos' ∧ pos ≤ pos') ∧
      ((∃ fault, Leads left (.error fault) ∧
          ∀ more : List Read, (∀ r ∈ more, r.isSingle = true) →
            readAll more left = (more.map fun _ => .error fault, left)) ∨
        ∃ s rest, Leads left (.ok (s, rest)) ∧
          At payload rest (pos + (Utf8.encode s).length + 1) ∧
          ∀ r : Read, r.isSingle = true → (r.run left).2 = rest) ∧
      ∃ n ≤ left.length, ∃ rest, (skips n).run left = (.ok (), rest) ∧
        (rest = [] ∧ Record.passOver left = none ∨
          rest ≠ [] ∧ ∃ fault, Leads rest (.error fault) ∧ Record.passOver left = some fault) := by
  intro left
  obtain ⟨pos, h⟩ : ∃ pos, At payload left pos := (At.start payload).readAll reads
  refine ⟨pos, h, h.length_eq, fun r => h.read r, ?_, exists_skips left⟩
  have hl := leads_takeField left
  cases hf : takeField left with
  | error fault =>
    rw [hf] at hl
    exact .inl ⟨fault, hl, fun more hmore => readAll_of_fault hl hmore⟩
  | ok found =>
    obtain ⟨s, rest⟩ := found
    rw [hf] at hl
    obtain ⟨hs, -⟩ := eq_of_takeField hf
    have hpass : At payload (Utf8.encode s ++ 0 :: rest) pos := hs ▸ h
    exact .inr ⟨s, rest, hl, hpass.pass, fun r hr => Read.run_snd_of_text hr hl⟩

/-- A number is passed although it is none; a field that is no text is not, however it is asked
for. -/
example :
    readAll [.int32, .string, .skips 2, .count] [0x41, 0, 0xff, 0, 0x32]
      = ([.error (.notInt32 "A" .invalidDigit), .error (.notText ⟨0, some 1⟩),
          .error (.notText ⟨0, some 1⟩), .error (.notText ⟨0, some 1⟩)], [0xff, 0, 0x32]) := by
  rfl

end Cursor
end BrokerLink
