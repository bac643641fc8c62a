import BrokerLink.Proofs.WrittenField
import BrokerLink.Proofs.WholeText
import Mathlib.Data.List.Forall2

/-!
# Runs of fields that end by themselves

Which sections a request has, and how long its lists are, is told by fields that come
before them, so two requests can be compared from the front. Two runs `f` and `g` are
*split* by a statement if, wherever they begin one and the same run of fields, the
statement holds of them and they end at the same place. A section behind another one may
use what the first settled: that is how a presence rule or a count decides about the
fields it governs.
-/

namespace BrokerLink
namespace Fields

/-- Wherever `f` and `g` begin the same fields, `P` holds, and what follows them is the same. -/
def Split (f g : Fields) (P : Prop) : Prop := ∀ r s : Fields, f ++ r = g ++ s → P ∧ r = s

namespace Split

variable {f g f' g' : Fields} {P Q : Prop}

theorem nil : Split [] [] True := fun _ _ h => ⟨trivial, h⟩

theorem of_length (h : f.length = g.length) : Split f g (f = g) := fun _ _ h' =>
  List.append_inj h' h

/-- Both have `n` fields, whatever these are. -/
theorem fixed (n : Nat) (hf : f.length = n) (hg : g.length = n) : Split f g (f = g) :=
  of_length (hf.trans hg.symm)

theorem imp (h : Split f g P) (hpq : P → Q) : Split f g Q := by
  intro r s h'
  obtain ⟨hp, hr⟩ := h r s h'
  exact ⟨hpq hp, hr⟩

/-- The second section may rely on what the first one settled. -/
theorem append (h : Split f g P) (h' : P → Split f' g' Q) : Split (f ++ f') (g ++ g') (P ∧ Q) := by
  intro r s he
  rw [List.append_assoc, List.append_assoc] at he
  obtain ⟨hp, he⟩ := h _ _ he
  obtain ⟨hq, he⟩ := h' hp r s he
  exact ⟨⟨hp, hq⟩, he⟩

theorem cons {a b : String} (h : a = b → Split f g P) : Split (a :: f) (b :: g) (a = b ∧ P) := by
  intro r s he
  rw [List.cons_append, List.cons_append, List.cons.injEq] at he
  obtain ⟨hp, hr⟩ := h he.1 r s he.2
  exact ⟨⟨he.1, hp⟩, hr⟩

theorem ifSupported {carried carried' : Bool} (hc : carried = carried') (h : Split f g P) :
    Split (ifSupported carried f) (ifSupported carried' g) (carried = true → P) := by
  subst hc
  cases carried with
  | true => exact h.imp fun hp _ => hp
  | false => exact nil.imp fun _ hc => absurd hc Bool.false_ne_true

theorem of_ne {a b : String} (f g : Fields) (P : Prop) (h : a ≠ b) : Split (a :: f) (b :: g) P := by
  intro r s he
  rw [List.cons_append, List.cons_append, List.cons.injEq] at he
  exact absurd he.1 h

theorem single (a b : String) : Split [a] [b] (a = b) := by
  have hs : Split [a] [b] ([a] = [b]) := fixed 1 rfl rfl
  exact hs.imp fun h => (List.cons.inj h).1

/-- A section that is left out where `isEmpty` says so of both. -/
theorem leftOut {isEmpty isEmpty' : Bool} (he : isEmpty = isEmpty') (h : Split f g P) :
    Split (if isEmpty then [] else f) (if isEmpty' then [] else g) (isEmpty = false → P) := by
  subst he
  cases isEmpty with
  | true => exact nil.imp fun _ hc => absurd hc.symm Bool.false_ne_true
  | false => exact h.imp fun hp _ => hp

variable {α β : Type} {write : α → Fields} {write' : β → Fields} {R : α → β → Prop}

/-- Lists of one length are told apart entry by entry. -/
theorem flatMap (h : ∀ a b, Split (write a) (write' b) (R a b)) {as : List α} {bs : List β}
    (hl : as.length = bs.length) :
    Split (as.flatMap write) (bs.flatMap write') (List.Forall₂ R as bs) := by
  induction as generalizing bs with
  | nil =>
    cases bs with
    | nil => exact nil.imp fun _ => .nil
    | cons b bs => cases hl
  | cons a as ih =>
    cases bs with
    | nil => cases hl
    | cons b bs =>
      have hs := (h a b).append fun _ => ih (Nat.succ.inj hl)
      exact hs.imp fun ⟨hab, hrest⟩ => .cons hab hrest

theorem fieldText_length_injective {m n : Nat} (h : fieldText m = fieldText n) : m = n :=
  Numeral.digits_injective (String.ofList_injective h)

/-- The number of the entries goes before them and says how many there are. -/
theorem counted (h : ∀ a b, Split (write a) (write' b) (R a b)) (as : List α) (bs : List β) :
    Split (fieldText as.length :: as.flatMap write) (fieldText bs.length :: bs.flatMap write')
      (List.Forall₂ R as bs) := by
  have hs : Split (fieldText as.length :: as.flatMap write)
      (fieldText bs.length :: bs.flatMap write')
      (fieldText as.length = fieldText bs.length ∧ List.Forall₂ R as bs) :=
    cons fun hl => flatMap h (fieldText_length_injective hl)
  exact hs.imp And.right

/-- The entries of a list that are one text each. -/
theorem countedTexts (text : α → String) (as bs : List α) :
    Split (fieldText as.length :: as.map text) (fieldText bs.length :: bs.map text)
      (List.Forall₂ (fun a b => text a = text b) as bs) := by
  have hone : ∀ a b, Split [text a] [text b] (text a = text b) :=
    fun a b => single (text a) (text b)
  have hs := counted hone as bs
  have hmap : ∀ as : List α, (as.flatMap fun a => [text a]) = as.map text := by
    intro as
    induction as with
    | nil => rfl
    | cons a as ih => rw [List.flatMap_cons, ih, List.map_cons, List.singleton_append]
  rwa [hmap, hmap] at hs

theorem pairs (ts us : List TagValue) :
    Split (TagValue.pairs ts) (TagValue.pairs us) (ts = us) := by
  have hone : ∀ t u : TagValue, Split [t.tag, t.value] [u.tag, u.value] (t = u) := by
    intro t u
    have hs : Split [t.tag, t.value] [u.tag, u.value] ([t.tag, t.value] = [u.tag, u.value]) :=
      fixed 2 rfl rfl
    refine hs.imp fun h => ?_
    cases t
    cases u
    simpa using h
  exact (counted hone ts us).imp fun h => by rwa [List.forall₂_eq_eq_eq] at h

end Split

/-- Bytes determine the fields they are made of, if none of these holds a zero byte. -/
theorem payload_injective {f g : Fields} (hf : ∀ s ∈ f, 0 ∉ Utf8.encode s)
    (hg : ∀ s ∈ g, 0 ∉ Utf8.encode s) (h : f.payload = g.payload) : f = g := by
  induction f generalizing g with
  | nil =>
    cases g with
    | nil => rfl
    | cons t g => simp [payload] at h
  | cons s f ih =>
    cases g with
    | nil => simp [payload] at h
    | cons t g =>
      obtain ⟨hs, hf⟩ := List.forall_mem_cons.mp hf
      obtain ⟨ht, hg⟩ := List.forall_mem_cons.mp hg
      have hfront := Reader.takeField_encode (payload f) hs
      have hback := Reader.takeField_encode (payload g) ht
      have hb : Utf8.encode s ++ 0 :: payload f = Utf8.encode t ++ 0 :: payload g := by
        simpa [payload] using h
      rw [hb, hback, Except.ok.injEq, Prod.mk.injEq] at hfront
      rw [hfront.1, ih hf hg hfront.2.symm]

end Fields

/-- Frames of the same bytes have the same fields. -/
theorem Frame.fields_eq_of_bytes_eq {f g : Frame} (h : f.bytes = g.bytes) :
    f.fields = g.fields := by
  have hp : f.payload = g.payload := by
    have hd := congrArg (List.drop 4) h
    simpa [Frame.bytes, Frame.header, bigEndian] using hd
  exact Fields.payload_injective f.zero_notMem g.zero_notMem hp

end BrokerLink
