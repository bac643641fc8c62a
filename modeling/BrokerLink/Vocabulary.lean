/-!
# Vocabularies and codes

Two kinds of enumeration travel as fields. A *word* is text from an open vocabulary:
a word that is not known is kept as it came. A *code* is a number from a closed table.
-/

namespace BrokerLink

/-- A vocabulary of texts, open to words it does not know. -/
class Word (α : Type) where
  ofText : String → α
  text : α → String
  /-- What the word means here. -/
  name : α → String

/-- A closed table of numbered values. -/
class Coded (α : Type) where
  all : List α
  code : α → Int32
  name : α → String

namespace Coded

variable {α : Type} [Coded α]

/-- The value with a code. -/
def ofCode? (n : Int32) : Option α := (all : List α).find? fun a => code a == n

/-- The value with a name. -/
def ofName? (s : String) : Option α := (all : List α).find? fun a => name a == s

theorem code_of_ofCode? {n : Int32} {a : α} (h : ofCode? n = some a) : code a = n := by
  simpa using List.find?_some h

end Coded
end BrokerLink
