import BrokerLink.Proofs.OwnFields

/-!
# Plain readers

The reader of a record asks for fields, one after the other, and its only questions for
room are those in front of lists, whose entries begin with a field. A reader put together
in this way is *plain*. What holds of the parts of a plain reader holds of the whole, so
that the records need to be gone through once: a plain reader is local, and it would read
nothing more if it were granted all the room it asks for.
-/

namespace BrokerLink
namespace Reader

variable {α β : Type}

/-- The reader is put together from fields and from lists of entries that begin with a field. -/
class inductive Plain : {α : Type} → Reader α → Prop
  | done {α : Type} (a : α) : Plain (done a)
  | fail {α : Type} (e : ReadFault) : Plain (fail e : Reader α)
  | field {α : Type} {next : String → Reader α} (hn : ∀ s, Plain (next s)) : Plain (field next)
  | bind {α β : Type} {r : Reader α} {f : α → Reader β} (hr : Plain r) (hf : ∀ a, Plain (f a)) :
      Plain (r >>= f)
  | list {α : Type} {entry : Reader α} (he : Plain entry) (hn : ∃ next, entry = .field next) :
      Plain (list entry)

/-! ### Putting plain readers together -/

instance (a : α) : Plain (done a) := .done a

instance (a : α) : Plain (pure a : Reader α) := .done a

instance (e : ReadFault) : Plain (fail e : Reader α) := .fail e

instance (r : Reader α) (f : α → Reader β) [hr : Plain r] [hf : ∀ a, Plain (f a)] :
    Plain (r >>= f) := .bind hr hf

instance (p : Prop) [Decidable p] (r r' : Reader α) [Plain r] [Plain r'] :
    Plain (if p then r else r') := by
  split <;> infer_instance

instance (carried : Bool) (absent : α) (r : Reader α) [Plain r] : Plain (since carried absent r) :=
  inferInstanceAs (Plain (if carried then r else done absent))

instance (parse : String → Except ReadFault α) : Plain (parsed parse) := by
  refine .field fun s => ?_
  split <;> infer_instance

instance : Plain string := .field .done
instance : Plain int32 := inferInstanceAs (Plain (parsed _))
instance : Plain int64 := inferInstanceAs (Plain (parsed _))
instance : Plain float := inferInstanceAs (Plain (parsed _))
instance : Plain decimal := inferInstanceAs (Plain (parsed _))
instance : Plain int32? := inferInstanceAs (Plain (parsed _))
instance : Plain float? := inferInstanceAs (Plain (parsed _))
instance : Plain decimal? := inferInstanceAs (Plain (parsed _))
instance [Word α] : Plain (word? : Reader (Option α)) := inferInstanceAs (Plain (parsed _))
instance : Plain skip := .field fun _ => .done ()
instance : Plain bool := by unfold bool; infer_instance
instance : Plain tagValue := by unfold tagValue; infer_instance

theorem plain_list (entry : Reader α) [he : Plain entry] (hn : ∃ next, entry = .field next) :
    Plain (list entry) := .list he hn

instance : Plain tagValues := plain_list tagValue ⟨_, rfl⟩

/-! ### What holds of all of them -/

instance (r : Reader α) [hp : Plain r] : Local r := by
  induction hp with
  | done a => infer_instance
  | fail e => infer_instance
  | field hn ih => infer_instance
  | bind hr hf ihr ihf => infer_instance
  | list he hn ih => exact local_list _ hn

end Reader
end BrokerLink
