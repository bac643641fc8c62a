import BrokerLink.Frame.Draft
import BrokerLink.Proofs.FieldReads

/-!
# The texts of words

A vocabulary knows the texts of its lexicon and keeps every other text as a word of its own, so
that a text which was read is written again as it came. Only the rights of options have texts
that are understood and never written.
-/

namespace BrokerLink

open Reader

/-- The texts of a vocabulary. -/
structure Lexicon (α : Type) where
  /-- The texts that are written, each with its word. -/
  entries : List (String × α)
  /-- The texts that are only understood, each with the one that is written instead. -/
  aliases : List (String × String) := []
  /-- The word of a text that is not known. -/
  other : String → α

namespace Lexicon

section
variable {α : Type} (l : Lexicon α)

/-- The text is known: it is written or understood. -/
def IsListed (s : String) : Prop := s ∈ l.entries.map Prod.fst ∨ s ∈ l.aliases.map Prod.fst

instance (s : String) : Decidable (l.IsListed s) := inferInstanceAs (Decidable (_ ∨ _))

/-- The word is not just a text that is not known. -/
def IsNamed (w : α) : Prop := ∀ s, w ≠ l.other s

/-- The text that is written where this one was read. -/
def written (s : String) : String := (l.aliases.lookup s).getD s

theorem written_of_aliases (h : l.aliases = []) (s : String) : l.written s = s := by
  rw [written, h]
  rfl

theorem written_cases (s : String) :
    (∃ a ∈ l.aliases, s = a.1 ∧ l.written s = a.2) ∨
      s ∉ l.aliases.map Prod.fst ∧ l.written s = s := by
  unfold written
  cases h : l.aliases.lookup s with
  | some t =>
    obtain ⟨front, back, ha, -⟩ := List.lookup_eq_some_iff.mp h
    exact .inl ⟨(s, t), by simp [ha], rfl, rfl⟩
  | none =>
    refine .inr ⟨fun hs => ?_, rfl⟩
    obtain ⟨a, ha, rfl⟩ := List.mem_map.mp hs
    simpa using List.lookup_eq_none_iff.mp h a ha

variable [Word α] [FieldText α]

/-- The vocabulary reads and writes by the lexicon. -/
structure IsFollowed : Prop where
  of_entry : ∀ e ∈ l.entries, Word.ofText e.1 = e.2 ∧ Word.text e.2 = e.1
  /-- An alias is understood as the text that is written instead of it. -/
  of_alias : ∀ a ∈ l.aliases, a.2 ∈ l.entries.map Prod.fst ∧
    (Word.ofText a.1 : α) = Word.ofText a.2
  /-- Neither the text of none nor one with a zero character comes in with an alias. -/
  alias_isPlain : ∀ a ∈ l.aliases, a.1 ≠ "" ∧ '\x00' ∉ a.2.toList
  ofText_other : ∀ s, ¬ l.IsListed s → Word.ofText s = l.other s
  text_other : ∀ s, Word.text (l.other s) = s
  isNamed_iff : ∀ w, l.IsNamed w ↔ w ∈ l.entries.map Prod.snd
  fieldText_eq : ∀ w : α, fieldText w = Word.text w

/-- What a vocabulary that reads and writes by the lexicon keeps of texts and of words. -/
structure KeepsTexts : Prop where
  text_ofText : ∀ s, Word.text (Word.ofText s : α) = l.written s
  ofText_text_ofText : ∀ s, Word.ofText (Word.text (Word.ofText s : α)) = (Word.ofText s : α)
  ofText_text : ∀ w, l.IsNamed w → Word.ofText (Word.text w) = w
  text_injective : ∀ w w', l.IsNamed w → l.IsNamed w' → Word.text w = Word.text w' → w = w'
  ofText_entry : ∀ e ∈ l.entries, Word.ofText e.1 = e.2
  ofText_eq_other_iff : ∀ s, Word.ofText s = l.other s ↔ ¬ l.IsListed s
  /-- A field is written again as it came, and an empty one is no word. -/
  field_comes_back : ∀ s, '\x00' ∉ s.toList → ∃ w : Option α,
    word?.Reads s w ∧ (w = none ↔ s = "") ∧
      ∀ d : Draft, d.field w = { d with bytes := d.bytes ++ Utf8.encode (l.written s) ++ [0] }

end
end Lexicon

/-- What a field of this text is read as: a word, or none if it is empty. -/
def Word.ofField {α : Type} [Word α] (s : String) : Option α :=
  if s.isEmpty then none else some (Word.ofText s)

namespace Lexicon.IsFollowed

variable {α : Type} [Word α] [FieldText α] {l : Lexicon α} {s : String} {w w' : α}

/-- The text that is written instead of an alias is read as the word of its entry. -/
theorem alias_entry (hl : l.IsFollowed) {a : String × String} (ha : a ∈ l.aliases) :
    ∃ e ∈ l.entries, a.2 = e.1 ∧ (Word.ofText a.1 : α) = e.2 := by
  obtain ⟨hm, hr⟩ := hl.of_alias a ha
  obtain ⟨e, he, hea⟩ := List.mem_map.mp hm
  refine ⟨e, he, hea.symm, ?_⟩
  rw [hr, ← hea]
  exact (hl.of_entry e he).1

theorem isNamed_ofText (hl : l.IsFollowed) (hs : l.IsListed s) :
    l.IsNamed (Word.ofText s : α) := by
  rw [hl.isNamed_iff]
  rcases hs with hs | hs
  · obtain ⟨e, he, rfl⟩ := List.mem_map.mp hs
    rw [(hl.of_entry e he).1]
    exact List.mem_map_of_mem he
  · obtain ⟨a, ha, rfl⟩ := List.mem_map.mp hs
    obtain ⟨e, he, -, hr⟩ := hl.alias_entry ha
    rw [hr]
    exact List.mem_map_of_mem he

theorem ofText_eq_other_iff (hl : l.IsFollowed) : Word.ofText s = l.other s ↔ ¬ l.IsListed s :=
  ⟨fun h hs => hl.isNamed_ofText hs s h, hl.ofText_other s⟩

theorem text_ofText (hl : l.IsFollowed) (s : String) :
    Word.text (Word.ofText s : α) = l.written s := by
  rcases l.written_cases s with ⟨a, ha, rfl, hw⟩ | ⟨hs, hw⟩
  · obtain ⟨e, he, hea, hr⟩ := hl.alias_entry ha
    rw [hw, hr, (hl.of_entry e he).2, hea]
  · -- what is no alias is the text of an entry, or not known at all
    rw [hw]
    by_cases hm : s ∈ l.entries.map Prod.fst
    · obtain ⟨e, he, rfl⟩ := List.mem_map.mp hm
      rw [(hl.of_entry e he).1, (hl.of_entry e he).2]
    · rw [hl.ofText_other s (not_or.mpr ⟨hm, hs⟩), hl.text_other]

theorem ofText_text (hl : l.IsFollowed) (hw : l.IsNamed w) : Word.ofText (Word.text w) = w := by
  obtain ⟨e, he, rfl⟩ := List.mem_map.mp ((hl.isNamed_iff w).mp hw)
  rw [(hl.of_entry e he).2, (hl.of_entry e he).1]

theorem text_injective (hl : l.IsFollowed) (hw : l.IsNamed w) (hw' : l.IsNamed w')
    (h : Word.text w = Word.text w') : w = w' := by
  rw [← hl.ofText_text hw, h, hl.ofText_text hw']

/-- Without aliases every text is written again as it was read. -/
theorem fieldText_ofText (hl : l.IsFollowed) (ha : l.aliases = []) (s : String) :
    fieldText (Word.ofText s : α) = s := by
  rw [hl.fieldText_eq, hl.text_ofText, l.written_of_aliases ha]

/-- Writing a word and reading it again changes nothing, whichever text it came from. -/
theorem ofText_text_ofText (hl : l.IsFollowed) (s : String) :
    Word.ofText (Word.text (Word.ofText s : α)) = (Word.ofText s : α) := by
  by_cases hs : l.IsListed s
  · exact hl.ofText_text (hl.isNamed_ofText hs)
  · rw [hl.ofText_other s hs, hl.text_other, hl.ofText_other s hs]

theorem fieldText_ofField (hl : l.IsFollowed) (s : String) :
    fieldText (Word.ofField s : Option α) = l.written s := by
  unfold Word.ofField
  split
  · rename_i he
    obtain rfl := String.isEmpty_iff.mp he
    rcases l.written_cases "" with ⟨a, ha, hs, -⟩ | ⟨-, hw⟩
    · exact absurd hs.symm (hl.alias_isPlain a ha).1
    · rw [hw, fieldText_none]
  · rw [fieldText_some, hl.fieldText_eq, hl.text_ofText]

theorem zero_notMem_written (hl : l.IsFollowed) (hs : '\x00' ∉ s.toList) :
    '\x00' ∉ (l.written s).toList := by
  rcases l.written_cases s with ⟨a, ha, -, hw⟩ | ⟨-, hw⟩
  · rw [hw]
    exact (hl.alias_isPlain a ha).2
  · rwa [hw]

end Lexicon.IsFollowed

namespace Reader

variable {α : Type} {r : Reader α} {s : String} {a b : α}

theorem Reads.unique (h : r.Reads s a) (h' : r.Reads s b) : a = b := by
  have hr := (h []).symm.trans (h' [])
  simpa using hr

theorem reads_ofField [Word α] (hs : '\x00' ∉ s.toList) :
    word?.Reads s (Word.ofField s : Option α) := by
  refine reads_parsed (Utf8.zero_notMem_encode hs) ?_
  unfold orEmpty Word.ofField
  split <;> rfl

end Reader

theorem Word.ofField_eq_none_iff {α : Type} [Word α] {s : String} :
    (Word.ofField s : Option α) = none ↔ s = "" := by
  unfold Word.ofField
  rw [← String.isEmpty_iff]
  split <;> simp [*]

theorem Lexicon.IsFollowed.keepsTexts {α : Type} [Word α] [FieldText α] {l : Lexicon α}
    (hl : l.IsFollowed) : l.KeepsTexts where
  text_ofText := hl.text_ofText
  ofText_text_ofText := hl.ofText_text_ofText
  ofText_text _ := hl.ofText_text
  text_injective _ _ := hl.text_injective
  ofText_entry e he := (hl.of_entry e he).1
  ofText_eq_other_iff _ := hl.ofText_eq_other_iff
  field_comes_back s hs := by
    refine ⟨Word.ofField s, reads_ofField hs, Word.ofField_eq_none_iff, fun d => ?_⟩
    have hz : (Utf8.encode (l.written s)).contains 0 = false := by
      simpa using Utf8.zero_notMem_encode (hl.zero_notMem_written hs)
    rw [Draft.field, hl.fieldText_ofField, Draft.text, hz, Bool.or_false]

/-! ### The five vocabularies -/

namespace SecType

def lexicon : Lexicon SecType where
  entries :=
    [("STK", stock), ("OPT", option), ("FUT", future), ("CONTFUT", continuousFuture),
      ("CASH", forex), ("IND", index), ("FOP", futureOption), ("BOND", bond), ("FUND", fund),
      ("WAR", warrant), ("CMDTY", commodity), ("CFD", cfd), ("BAG", combo), ("NEWS", news),
      ("CRYPTO", crypto)]
  other := other

theorem lexicon_isFollowed : lexicon.IsFollowed where
  of_entry := by decide
  of_alias := by decide
  alias_isPlain := by decide
  ofText_other s hs := by
    change SecType.ofText s = other s
    unfold ofText
    -- every text that is singled out in reading is listed
    split <;> first | rfl | exact absurd (by decide) hs
  text_other _ := rfl
  isNamed_iff w := by cases w <;> simp [lexicon, Lexicon.IsNamed]
  fieldText_eq _ := rfl

end SecType

namespace Right

def lexicon : Lexicon Right where
  entries := [("C", call), ("P", put)]
  aliases := [("CALL", "C"), ("PUT", "P")]
  other := other

theorem lexicon_isFollowed : lexicon.IsFollowed where
  of_entry := by decide
  of_alias := by decide
  alias_isPlain := by decide
  ofText_other s hs := by
    change Right.ofText s = other s
    unfold ofText
    split <;> first | rfl | exact absurd (by decide) hs
  text_other _ := rfl
  isNamed_iff w := by cases w <;> simp [lexicon, Lexicon.IsNamed]
  fieldText_eq _ := rfl

end Right

namespace Action

def lexicon : Lexicon Action where
  entries := [("BUY", buy), ("SELL", sell), ("SSHORT", sellShort), ("SLONG", sellLong)]
  other := other

theorem lexicon_isFollowed : lexicon.IsFollowed where
  of_entry := by decide
  of_alias := by decide
  alias_isPlain := by decide
  ofText_other s hs := by
    change Action.ofText s = other s
    unfold ofText
    split <;> first | rfl | exact absurd (by decide) hs
  text_other _ := rfl
  isNamed_iff w := by cases w <;> simp [lexicon, Lexicon.IsNamed]
  fieldText_eq _ := rfl

end Action

namespace OrderType

def lexicon : Lexicon OrderType where
  entries :=
    [("MKT", market), ("LMT", limit), ("STP", stop), ("STP LMT", stopLimit),
      ("TRAIL", trailingStop), ("TRAIL LIMIT", trailingStopLimit), ("REL", relative),
      ("MOC", marketOnClose), ("LOC", limitOnClose), ("MOO", marketOnOpen), ("LOO", limitOnOpen),
      ("PEG MKT", peggedToMarket), ("PEG MID", peggedToMidpoint), ("PEG BENCH", peggedToBenchmark),
      ("PEG STK", peggedToStock), ("VOL", volatility), ("MIT", marketIfTouched),
      ("LIT", limitIfTouched), ("MKT PRT", marketWithProtection), ("MTL", marketToLimit),
      ("MIDPRICE", midPrice), ("BOX TOP", boxTop), ("SNAP MKT", snapToMarket),
      ("SNAP MID", snapToMidpoint), ("SNAP PRIM", snapToPrimary), ("PEG PRIM", peggedToPrimary)]
  other := other

theorem lexicon_isFollowed : lexicon.IsFollowed where
  of_entry := by decide
  of_alias := by decide
  alias_isPlain := by decide
  ofText_other s hs := by
    change OrderType.ofText s = other s
    unfold ofText
    split <;> first | rfl | exact absurd (by decide) hs
  text_other _ := rfl
  isNamed_iff w := by cases w <;> simp [lexicon, Lexicon.IsNamed]
  fieldText_eq _ := rfl

end OrderType

namespace TimeInForce

def lexicon : Lexicon TimeInForce where
  entries :=
    [("DAY", day), ("GTC", goodTillCancel), ("IOC", immediateOrCancel), ("GTD", goodTillDate),
      ("OPG", atTheOpening), ("FOK", fillOrKill), ("DTC", dayTillCancel), ("AUC", auction)]
  other := other

theorem lexicon_isFollowed : lexicon.IsFollowed where
  of_entry := by decide
  of_alias := by decide
  alias_isPlain := by decide
  ofText_other s hs := by
    change TimeInForce.ofText s = other s
    unfold ofText
    split <;> first | rfl | exact absurd (by decide) hs
  text_other _ := rfl
  isNamed_iff w := by cases w <;> simp [lexicon, Lexicon.IsNamed]
  fieldText_eq _ := rfl

end TimeInForce

end BrokerLink
