import BrokerLink.Field.Read

/-!
# What readers give

A property of every value that a reader can end in, whatever the fields say, is read off
its tree.
-/

namespace BrokerLink
namespace Reader

variable {α β : Type} {P : α → Prop}

/-- Every value in which the reader can end has a property. -/
def Gives (P : α → Prop) : Reader α → Prop
  | done a => P a
  | fail _ => True
  | field next => ∀ s, Gives P (next s)
  | room _ next => Gives P next

@[simp] theorem gives_done (a : α) : (done a).Gives P ↔ P a := Iff.rfl

@[simp] theorem gives_fail (e : ReadFault) : (fail e : Reader α).Gives P ↔ True := Iff.rfl

theorem Gives.of_forall (h : ∀ a, P a) (r : Reader α) : r.Gives P := by
  induction r with
  | done a => exact h a
  | fail e => trivial
  | field next ih => exact fun s => ih s
  | room n next ih => exact ih

theorem gives_bind {P : β → Prop} (r : Reader α) (f : α → Reader β) :
    (r >>= f).Gives P ↔ r.Gives fun a => (f a).Gives P := by
  induction r with
  | done a => rfl
  | fail e => rfl
  | field next ih => exact forall_congr' ih
  | room n next ih => exact ih

/-- What holds however a reader goes on holds of the whole. -/
theorem Gives.bind {P : β → Prop} {r : Reader α} {f : α → Reader β}
    (h : ∀ a, (f a).Gives P) : (r >>= f).Gives P :=
  (gives_bind r f).mpr (.of_forall h r)

theorem Gives.imp {Q : α → Prop} {r : Reader α} (h : r.Gives P) (hi : ∀ a, P a → Q a) :
    r.Gives Q := by
  induction r with
  | done a => exact hi a h
  | fail e => trivial
  | field next ih => exact fun s => ih s (h s)
  | room n next ih => exact ih h

theorem Gives.and {Q : α → Prop} {r : Reader α} (h : r.Gives P) (hq : r.Gives Q) :
    r.Gives fun a => P a ∧ Q a := by
  induction r with
  | done a => exact ⟨h, hq⟩
  | fail e => trivial
  | field next ih => exact fun s => ih s (h s) (hq s)
  | room n next ih => exact ih h hq

/-- What a reader gives may be used in what goes on from it. -/
theorem Gives.andThen {Q : β → Prop} {r : Reader α} {f : α → Reader β} (h : r.Gives P)
    (hf : ∀ a, P a → (f a).Gives Q) : (r >>= f).Gives Q :=
  (gives_bind r f).mpr (h.imp hf)

theorem Gives.since {r : Reader α} {absent : α} (h : r.Gives P) (ha : P absent) (carried : Bool) :
    (since carried absent r).Gives P := by
  cases carried with
  | true => exact h
  | false => exact ha

/-- What is not carried is what it is if it is absent. -/
theorem gives_since (carried : Bool) (absent : α) (r : Reader α) :
    (Reader.since carried absent r).Gives fun a => carried = false → a = absent := by
  cases carried with
  | true => exact .of_forall (fun a h => absurd h (by decide)) r
  | false => exact fun _ => rfl

theorem Gives.times {entry : Reader α} (h : entry.Gives P) (n : Nat) :
    (times n entry).Gives fun as => ∀ a ∈ as, P a := by
  induction n with
  | zero => simp
  | succ n ih =>
    rw [times_succ]
    refine h.andThen fun a ha => ih.andThen fun as has => ?_
    exact List.forall_mem_cons.mpr ⟨ha, has⟩

theorem Gives.list {entry : Reader α} (h : entry.Gives P) :
    (list entry).Gives fun as => ∀ a ∈ as, P a := .bind fun n => h.times n

theorem gives_parsed {parse : String → Except ReadFault α}
    (h : ∀ s a, parse s = .ok a → P a) : (parsed parse).Gives P := by
  intro s
  cases hs : parse s with
  | error fault => simp [hs]
  | ok a => simpa [hs] using h s a hs

theorem Gives.of_run {r : Reader α} {bs rest : List UInt8} {a : α} (h : r.Gives P)
    (hr : r.run bs = (.ok a, rest)) : P a := by
  induction r generalizing bs with
  | done b =>
    cases hr
    exact h
  | fail e => cases hr
  | field next ih =>
    simp only [run, runWith] at hr
    split at hr
    · cases hr
    · exact ih _ (h _) hr
  | room n next ih =>
    simp only [run, runWith] at hr
    split at hr
    · cases hr
    · exact ih h hr

end Reader
end BrokerLink
