import BrokerLink.Frame
import BrokerLink.Request.Contract

/-!
# Drafts of frames

A frame is written field by field into one run of bytes, behind four that are left for
the length. A zero byte inside a field is remembered when it is written and refused at
the end, before the length is looked at. A finished draft is the frame of its texts.
-/

namespace BrokerLink

/-- A frame that is being written. -/
structure Draft where
  /-- Room for the length, and every field so far. -/
  bytes : List UInt8 := [0, 0, 0, 0]
  /-- Some field held a zero byte. -/
  hasZero : Bool := false
  deriving DecidableEq, Repr

namespace Draft

/-- Writes the bytes of one field, and the zero byte that ends it. -/
def text (d : Draft) (s : String) : Draft where
  bytes := d.bytes ++ Utf8.encode s ++ [0]
  hasZero := d.hasZero || (Utf8.encode s).contains 0

def field {α : Type} [FieldText α] (d : Draft) (a : α) : Draft := d.text (fieldText a)

def empty (d : Draft) : Draft := { d with bytes := d.bytes ++ [0] }

/-- A list of options in one field. -/
def tagValues (d : Draft) (ts : List TagValue) : Draft := d.field (TagValue.joined ts)

/-- A list of options as its length and two fields for each. -/
def tagValuePairs (d : Draft) (ts : List TagValue) : Draft :=
  ts.foldl (fun d t => (d.field t.tag).field t.value) (d.field ts.length)

/-- The thirteen fields that name a contract. -/
def contract (d : Draft) (c : Contract) : Draft :=
  let d := ((((d.field c.contractId).field c.symbol).field c.secType).field c.lastTradeDate)
  let d := (((d.field c.strike).field c.right).field c.multiplier).field c.exchange
  let d := (((d.field c.primaryExchange).field c.currency).field c.localSymbol)
  (d.field c.tradingClass).field c.includeExpired

/-- Puts the length in front, if the draft makes a frame. -/
def finish (d : Draft) : Except FrameFault (List UInt8) :=
  if d.hasZero then .error .embeddedZero
  else
    let length := d.bytes.length - 4
    if maxPayload < length then .error (.tooLong length)
    else .ok (bigEndian length ++ d.bytes.drop 4)

end Draft

/-- One call that writes to a draft. -/
inductive Entry : Type 1 where
  | field {α : Type} [FieldText α] (a : α)
  | empty
  | tagValues (ts : List TagValue)
  | tagValuePairs (ts : List TagValue)
  | contract (c : Contract)

namespace Entry

/-- The texts of the fields that a call writes. -/
def texts : Entry → Fields
  | @field _ _ a => [fieldText a]
  | empty => [""]
  | tagValues ts => [TagValue.joined ts]
  | tagValuePairs ts => TagValue.pairs ts
  | contract c => c.wholeFields

end Entry

namespace Draft

def write (d : Draft) : Entry → Draft
  | @Entry.field _ _ a => d.field a
  | .empty => d.empty
  | .tagValues ts => d.tagValues ts
  | .tagValuePairs ts => d.tagValuePairs ts
  | .contract c => d.contract c

def ofEntries (entries : List Entry) : Draft := entries.foldl write {}

/-- Every call writes its texts one after the other. -/
theorem write_eq (d : Draft) (e : Entry) : d.write e = e.texts.foldl text d := by
  cases e with
  | field a => rfl
  | empty => simp [write, empty, Entry.texts, text, Utf8.encode]
  | tagValues ts => rfl
  | tagValuePairs ts =>
    simp only [write, tagValuePairs, Entry.texts, TagValue.pairs, List.foldl_cons,
      List.foldl_flatMap, List.foldl_nil]
    rfl
  | contract c => rfl

theorem foldl_text (d : Draft) (texts : Fields) :
    texts.foldl text d =
      { bytes := d.bytes ++ texts.payload
        hasZero := d.hasZero || texts.any fun s => (Utf8.encode s).contains 0 } := by
  induction texts generalizing d with
  | nil => simp [Fields.payload]
  | cons s texts ih => simp [ih, text, Fields.payload, List.append_assoc, Bool.or_assoc]

theorem ofEntries_eq (entries : List Entry) :
    ofEntries entries =
      { bytes := [0, 0, 0, 0] ++ Fields.payload (entries.flatMap Entry.texts)
        hasZero := (entries.flatMap Entry.texts).any fun s => (Utf8.encode s).contains 0 } := by
  have h : ofEntries entries = (entries.flatMap Entry.texts).foldl text {} := by
    rw [ofEntries, List.foldl_flatMap]
    congr 1
    funext d e
    exact write_eq d e
  rw [h, foldl_text]
  rfl

end Draft
end BrokerLink
