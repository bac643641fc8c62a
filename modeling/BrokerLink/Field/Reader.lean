import BrokerLink.Field.Fault

/-!
# Reading the fields of a record

A record is a run of fields, each a text ended by a zero byte. How a record is
read is a *reader*: a tree of questions. It is done, or it fails, or it asks for
the text of the next field and goes on with a reader that depends on it, or it
asks that at least a number of bytes be left. One interpreter, `Reader.run`,
answers the questions from the bytes that are left, so what holds of every reader
is proved once, by induction on the tree: a reader sees nothing but the fields it
asks for (`run_append`), and never moves back (`runWith_suffix`).
-/

namespace BrokerLink

/-- A program that reads fields and ends in a value. -/
inductive Reader (α : Type) where
  | done (a : α)
  | fail (fault : ReadFault)
  /-- Goes on with the text of the next field. -/
  | field (next : String → Reader α)
  /-- Goes on if at least `count` bytes are left. -/
  | room (count : Nat) (next : Reader α)

namespace Reader

variable {α β : Type}

def bind : Reader α → (α → Reader β) → Reader β
  | done a, f => f a
  | fail e, _ => fail e
  | field next, f => field fun s => bind (next s) f
  | room n next, f => room n (bind next f)

instance : Monad Reader where
  pure := done
  bind := bind

@[simp] theorem pure_eq (a : α) : (pure a : Reader α) = done a := rfl

@[simp] theorem done_bind (a : α) (f : α → Reader β) : (done a >>= f) = f a := rfl

@[simp] theorem fail_bind (e : ReadFault) (f : α → Reader β) : (fail e >>= f) = fail e := rfl

@[simp] theorem field_bind (next : String → Reader α) (f : α → Reader β) :
    (field next >>= f) = field fun s => next s >>= f := rfl

@[simp] theorem room_bind (n : Nat) (next : Reader α) (f : α → Reader β) :
    (room n next >>= f) = room n (next >>= f) := rfl

theorem bind_done (r : Reader α) : bind r done = r := by
  induction r with
  | done a => rfl
  | fail e => rfl
  | field next ih => simp only [bind]; congr 1; funext s; exact ih s
  | room n next ih => simp only [bind, ih]

theorem bind_bind {γ : Type} (r : Reader α) (f : α → Reader β) (g : β → Reader γ) :
    bind (bind r f) g = bind r fun a => bind (f a) g := by
  induction r with
  | done a => rfl
  | fail e => rfl
  | field next ih => simp only [bind]; congr 1; funext s; exact ih s
  | room n next ih => simp only [bind, ih]

instance : LawfulMonad Reader :=
  LawfulMonad.mk' Reader bind_done (fun _ _ => rfl) bind_bind

/-! ### Fields in bytes -/

/-- The bytes before the first zero byte and the bytes after it. -/
def splitField (bs : List UInt8) : Option (List UInt8 × List UInt8) :=
  match bs.dropWhile (· != 0) with
  | [] => none
  | _ :: rest => some (bs.takeWhile (· != 0), rest)

@[simp] theorem splitField_nil : splitField [] = none := rfl

theorem splitField_cons (b : UInt8) (bs : List UInt8) :
    splitField (b :: bs) =
      if b = 0 then some ([], bs) else (splitField bs).map fun (f, rest) => (b :: f, rest) := by
  by_cases h : b = 0
  · subst h
    rfl
  · have hb : (b != 0) = true := by simpa using h
    simp only [splitField, List.dropWhile_cons, List.takeWhile_cons, hb, ↓reduceIte, h]
    cases bs.dropWhile (· != 0) <;> rfl

/-- The text of the next field and the bytes after it. -/
def takeField (bs : List UInt8) : Except ReadFault (String × List UInt8) :=
  if bs.isEmpty then .error .endOfRecord
  else
    match splitField bs with
    | none => .error .unterminated
    | some (f, rest) =>
      match Utf8.decode f with
      | .error fault => .error (.notText fault)
      | .ok s => .ok (s, rest)

/-- Runs a reader on the bytes that are left. A field whose text is refused has been passed; a field
that is no text has not. With `guarded` off, the questions for room are all granted. -/
def runWith (guarded : Bool) : Reader α → List UInt8 → Except ReadFault α × List UInt8
  | done a, bs => (.ok a, bs)
  | fail e, bs => (.error e, bs)
  | field next, bs =>
    match takeField bs with
    | .error e => (.error e, bs)
    | .ok (s, rest) => runWith guarded (next s) rest
  | room n next, bs =>
    if guarded = true ∧ bs.length < n then (.error (.countTooLarge n), bs)
    else runWith guarded next bs

def run (r : Reader α) (bs : List UInt8) : Except ReadFault α × List UInt8 := runWith true r bs

@[simp] theorem run_done (a : α) (bs : List UInt8) : run (done a) bs = (.ok a, bs) := rfl

@[simp] theorem run_fail (e : ReadFault) (bs : List UInt8) :
    run (fail e : Reader α) bs = (.error e, bs) := rfl

theorem splitField_eq {bs f rest : List UInt8} (h : splitField bs = some (f, rest)) :
    bs = f ++ 0 :: rest := by
  induction bs generalizing f with
  | nil => simp at h
  | cons b bs ih =>
    simp only [splitField_cons] at h
    split at h
    · simp_all
    · obtain ⟨⟨f', r'⟩, h', e⟩ := Option.map_eq_some_iff.1 h
      simp only [Prod.mk.injEq] at e
      obtain ⟨rfl, rfl⟩ := e
      rw [ih h', List.cons_append]

theorem splitField_append {bs f rest : List UInt8} (more : List UInt8)
    (h : splitField bs = some (f, rest)) : splitField (bs ++ more) = some (f, rest ++ more) := by
  induction bs generalizing f with
  | nil => simp at h
  | cons b bs ih =>
    simp only [List.cons_append, splitField_cons] at h ⊢
    split at h
    · simp_all
    · rename_i hb
      obtain ⟨⟨f', r'⟩, h', e⟩ := Option.map_eq_some_iff.1 h
      simp only [Prod.mk.injEq] at e
      obtain ⟨rfl, rfl⟩ := e
      simp [hb, ih h']

theorem takeField_append {bs rest : List UInt8} {s : String} (more : List UInt8)
    (h : takeField bs = .ok (s, rest)) : takeField (bs ++ more) = .ok (s, rest ++ more) := by
  simp only [takeField] at h
  split at h
  · exact absurd h (by simp)
  · rename_i hne
    split at h
    · exact absurd h (by simp)
    · rename_i f rest' hs
      simp only [takeField, splitField_append more hs]
      cases bs with
      | nil => simp at hne
      | cons b bs =>
        simp only [List.cons_append, List.isEmpty_cons, Bool.false_eq_true, ↓reduceIte]
        split at h
        · exact absurd h (by simp)
        · simp only [Except.ok.injEq, Prod.mk.injEq] at h
          obtain ⟨rfl, rfl⟩ := h
          simp

theorem takeField_suffix {bs rest : List UInt8} {s : String} (h : takeField bs = .ok (s, rest)) :
    rest <:+ bs ∧ rest.length < bs.length := by
  simp only [takeField] at h
  split at h
  · exact absurd h (by simp)
  · split at h
    · exact absurd h (by simp)
    · rename_i f rest' hs
      split at h
      · exact absurd h (by simp)
      · simp only [Except.ok.injEq, Prod.mk.injEq] at h
        obtain ⟨rfl, rfl⟩ := h
        rw [splitField_eq hs]
        constructor
        · exact ⟨f ++ [0], by simp⟩
        · simp only [List.length_append, List.length_cons]; omega

/-- What follows the fields that a reader takes does not change what it reads. -/
theorem run_append {r : Reader α} {bs rest : List UInt8} {a : α} (more : List UInt8)
    (h : run r bs = (.ok a, rest)) : run r (bs ++ more) = (.ok a, rest ++ more) := by
  induction r generalizing bs with
  | done b =>
    simp only [run, runWith, Prod.mk.injEq, Except.ok.injEq] at h
    obtain ⟨rfl, rfl⟩ := h
    rfl
  | fail e => simp [run, runWith] at h
  | field next ih =>
    simp only [run, runWith] at h ⊢
    split at h
    · simp at h
    · rename_i s rest' hs
      rw [takeField_append more hs]
      exact ih s h
  | room n next ih =>
    simp only [run, runWith] at h ⊢
    split at h
    · simp at h
    · rename_i hn
      have hn' : ¬(True ∧ (bs ++ more).length < n) := by
        simp only [true_and, Nat.not_lt, List.length_append] at hn ⊢
        omega
      rw [if_neg hn']
      exact ih h

/-- A reader only ever moves forward, whether questions for room are answered or granted. -/
theorem runWith_suffix (guarded : Bool) (r : Reader α) (bs : List UInt8) :
    (runWith guarded r bs).2 <:+ bs := by
  induction r generalizing bs with
  | done a => exact List.suffix_refl bs
  | fail e => exact List.suffix_refl bs
  | field next ih =>
    simp only [runWith]
    split
    · exact List.suffix_refl bs
    · rename_i s rest hs
      exact (ih s rest).trans (takeField_suffix hs).1
  | room n next ih =>
    simp only [runWith]
    split
    · exact List.suffix_refl bs
    · exact ih bs

/-- Fails if bytes are left. -/
def finish (bs : List UInt8) : Except ReadFault Unit :=
  if bs.isEmpty then .ok () else .error (.unread bs.length)

end Reader
end BrokerLink
