import BrokerLink.Proofs.OwnFields
import BrokerLink.Proofs.ReaderResult

/-!
# Selections of fields

A *selection* reads a record and keeps the texts of some of its fields. If what it keeps
is what another reader asks for, that reader reads what was kept: a *projection*. For
local readers this holds section by section.
-/

namespace BrokerLink

open Reader

/-- A reader that keeps the texts of some of the fields it reads. -/
structure Selection (α : Type) where
  reader : Reader (Fields × α)

namespace Selection

variable {α β γ : Type}

instance : Monad Selection where
  pure a := ⟨done ([], a)⟩
  bind p q := ⟨do
    let (kept, a) ← p.reader
    let (more, b) ← (q a).reader
    return (kept ++ more, b)⟩

/-- A reader together with the texts that it is given. -/
def traced : Reader α → Reader (Fields × α)
  | done a => done ([], a)
  | fail e => fail e
  | field next => field fun s => do
    let (texts, a) ← traced (next s)
    return (s :: texts, a)
  | room n next => room n (traced next)

def keep (r : Reader α) : Selection α := ⟨traced r⟩

def drop (r : Reader α) : Selection α := ⟨do
  let a ← r
  return ([], a)⟩

/-- What is kept of the fields in front of the bytes. -/
def run (p : Selection α) (bs : List UInt8) : Except ReadFault (Fields × α) × List UInt8 :=
  p.reader.run bs

variable {bs rest mid : List UInt8} {a : α} {b : β} {kept more : Fields}

/-- What two selections keep, one behind the other, is kept in their order. -/
theorem run_bind {p : Selection α} {q : α → Selection β} (hp : p.run bs = (.ok (kept, a), mid))
    (hq : (q a).run mid = (.ok (more, b), rest)) :
    (p >>= q).run bs = (.ok (kept ++ more, b), rest) := by
  have h : (p >>= q).run bs = (do
      let (more, b) ← (q a).reader
      return (kept ++ more, b)).run mid := run_bind_done _ hp
  rw [h, run_bind_done _ hq]
  rfl

/-- The texts that a reader takes are the bytes that it takes. By induction on the reader, which
asks for one text after the other. -/
theorem run_keep {r : Reader α} (h : r.run bs = (.ok a, rest)) :
    ∃ kept, (keep r).run bs = (.ok (kept, a), rest) ∧ bs = Fields.payload kept ++ rest := by
  induction r generalizing bs with
  | done b =>
    cases h
    exact ⟨[], rfl, rfl⟩
  | fail e => cases h
  | field next ih =>
    simp only [Reader.run, runWith] at h
    split at h
    · cases h
    · rename_i s mid ht
      obtain ⟨kept, hk, hb⟩ := ih s h
      obtain ⟨heq, hz⟩ := eq_of_takeField ht
      refine ⟨s :: kept, ?_, ?_⟩
      · have hs : (keep (field next)).run bs
            = (do let (texts, a) ← traced (next s); return (s :: texts, a)).run mid := by
          rw [heq]
          exact run_field_encode _ mid hz
        have hk' : (traced (next s)).run mid = (.ok (kept, a), rest) := hk
        rw [hs, run_bind_done _ hk']
        rfl
      · rw [heq, hb, Fields.payload_cons_append]
  | room n next ih =>
    simp only [Reader.run, runWith] at h
    split at h
    · cases h
    · rename_i hn
      obtain ⟨kept, hk, hb⟩ := ih h
      refine ⟨kept, ?_, hb⟩
      simp only [keep, traced, run, Reader.run, runWith]
      rw [if_neg hn]
      exact hk

theorem run_drop {r : Reader α} (h : r.run bs = (.ok a, rest)) :
    (drop r).run bs = (.ok ([], a), rest) := run_bind_done _ h

/-! ### Reading what was kept -/

/-- Of the fields that `whole` reads some are kept, and `part` reads these, followed by `tail`.
The values of the two readers and of the selection are related. -/
def Projects (tail : List UInt8) (whole : Reader α) (p : Selection γ) (part : Reader β)
    (R : α → γ → β → Prop) : Prop :=
  ∀ ⦃bs rest : List UInt8⦄ ⦃a : α⦄, whole.run bs = (.ok a, rest) →
    ∃ fields kept c b, bs = Fields.payload fields ++ rest ∧ kept.Sublist fields ∧
      p.run bs = (.ok (kept, c), rest) ∧ R a c b ∧
      part.run (Fields.payload kept ++ tail) = (.ok b, [])

variable {tail : List UInt8} {whole : Reader α} {part : Reader β} {p : Selection γ}
  {R : α → γ → β → Prop} {α' β' γ' : Type} {f : α → Reader α'} {g : β → Reader β'}
  {q : γ → Selection γ'} {S : α' → γ' → β' → Prop}

/-- Nothing is left of the whole; the part goes on with the tail. -/
theorem Projects.done {c : γ} (ht : part.run tail = (.ok b, [])) (hR : R a c b) :
    Projects tail (Reader.done a) (pure c) part R := by
  intro bs rest a' h
  cases h
  exact ⟨[], [], c, b, rfl, List.Sublist.slnil, rfl, hR, ht⟩

/-- Sections are projected one after the other. -/
theorem Projects.bind (h : Projects [] whole p part R)
    (hf : ∀ a c b, R a c b → Projects tail (f a) (q c) (g b) S) :
    Projects tail (whole >>= f) (p >>= q) (part >>= g) S := by
  intro bs rest a' ha
  obtain ⟨a, mid, hw, hfa⟩ := run_bind_inv ha
  obtain ⟨fields, kept, c, b, rfl, hsub, hp, hR, hb⟩ := h hw
  obtain ⟨fields', more, c', b', rfl, hsub', hq, hS, hb'⟩ := hf a c b hR hfa
  refine ⟨fields ++ fields', kept ++ more, c', b', ?_, hsub.append hsub', run_bind hp hq, hS, ?_⟩
  · rw [Fields.payload_append, List.append_assoc]
  · have hk : Fields.payload (kept ++ more) ++ tail
        = (Fields.payload kept ++ []) ++ (Fields.payload more ++ tail) := by
      rw [Fields.payload_append, List.append_nil, List.append_assoc]
    rw [hk, run_bind_done g (run_append _ hb)]
    exact hb'

theorem projects_keep (r : Reader α) [Local r] :
    Projects [] r (keep r) r fun a c b => a = b ∧ a = c := by
  intro bs rest a h
  obtain ⟨kept, hk, rfl⟩ := run_keep h
  refine ⟨kept, kept, a, a, rfl, List.Sublist.refl kept, hk, ⟨rfl, rfl⟩, ?_⟩
  rw [List.append_nil]
  exact Local.run_alone h

theorem projects_drop {r : Reader α} {P : α → Prop} (hg : r.Gives P) :
    Projects [] r (drop r) (Reader.done ()) fun a c _ => a = c ∧ P a := by
  intro bs rest a h
  obtain ⟨fields, -, hb⟩ := run_keep h
  exact ⟨fields, [], a, (), hb, List.nil_sublist fields, run_drop h, ⟨rfl, hg.of_run h⟩, rfl⟩

/-- Both go on with what was kept. -/
theorem Projects.keep {r : Reader α} [Local r] {q : α → Selection γ'} {g : α → Reader β'}
    (h : ∀ a, Projects tail (f a) (q a) (g a) S) :
    Projects tail (r >>= f) (Selection.keep r >>= q) (r >>= g) S := by
  refine (projects_keep r).bind ?_
  rintro a _ _ ⟨rfl, rfl⟩
  exact h a

/-- Only the whole reads what is dropped, of which a property may be known. -/
theorem Projects.dropGiven {r : Reader α} {P : α → Prop} (hg : r.Gives P) {q : α → Selection γ'}
    {part : Reader β'} (h : ∀ a, P a → Projects tail (f a) (q a) part S) :
    Projects tail (r >>= f) (Selection.drop r >>= q) part S := by
  refine (projects_drop hg).bind (g := fun _ => part) ?_
  rintro a _ _ ⟨rfl, hP⟩
  exact h a hP

theorem Projects.drop {r : Reader α} {q : α → Selection γ'} {part : Reader β'}
    (h : ∀ a, Projects tail (f a) (q a) part S) :
    Projects tail (r >>= f) (Selection.drop r >>= q) part S :=
  .dropGiven (Gives.of_forall (fun _ => trivial) r) fun a _ => h a

end Selection

end BrokerLink
