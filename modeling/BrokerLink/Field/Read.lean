import BrokerLink.Field.Reader
import BrokerLink.Numeral.Binary64.Reading
import BrokerLink.Vocabulary

/-!
# Typed fields

The readers of single fields and of lists. An empty numeric field is zero. Some
numbers may be unset: those are read with the `?` readers, for which an empty field
or the largest number of the type means that there is none.
-/

namespace BrokerLink

/-- A named option of a request or an algorithm. -/
structure TagValue where
  tag : String
  value : String
  deriving DecidableEq, Repr, Inhabited

namespace Reader

variable {α β : Type}

def string : Reader String := field done

/-- A field whose text is parsed; a refused text is a fault of the record. -/
def parsed (parse : String → Except ReadFault α) : Reader α :=
  field fun s =>
    match parse s with
    | .ok a => done a
    | .error e => fail e

def parseInt32 (s : String) : Except ReadFault Int32 :=
  (Numeral.int32 s.toList).mapError (.notInt32 s)

def parseInt64 (s : String) : Except ReadFault Int64 :=
  (Numeral.int64 s.toList).mapError (.notInt64 s)

def parseFloat (s : String) : Except ReadFault Binary64 :=
  match Binary64.read s.toList with
  | some x => .ok x
  | none => .error (.notFloat s)

def parseDecimal (s : String) : Except ReadFault Decimal :=
  (Decimal.read s.toList).mapError (.notDecimal s)

/-- A parser to which the empty text is a value of its own. -/
def orEmpty (empty : α) (parse : String → Except ReadFault α) (s : String) : Except ReadFault α :=
  if s.isEmpty then .ok empty else parse s

def int32 : Reader Int32 := parsed (orEmpty 0 parseInt32)

def int64 : Reader Int64 := parsed (orEmpty 0 parseInt64)

def float : Reader Binary64 := parsed (orEmpty Binary64.zero parseFloat)

def decimal : Reader Decimal := parsed (orEmpty Decimal.zero parseDecimal)

/-- A flag: a whole number, true if it is positive. -/
def bool : Reader Bool := do
  let n ← int32
  return decide (0 < n)

/-! ### Numbers that may be unset -/

/-- A number, unless it is the one that stands for none. -/
def setUnless [DecidableEq α] (unset a : α) : Option α := if a = unset then none else some a

def int32? : Reader (Option Int32) :=
  parsed (orEmpty none fun s => (parseInt32 s).map (setUnless Int32.maxValue))

def float? : Reader (Option Binary64) :=
  parsed (orEmpty none fun s => (parseFloat s).map (setUnless Binary64.largest))

/-- Whether a text is the largest number of any of the numeric types. -/
def isUnsetText (s : String) : Bool :=
  (Numeral.int32 s.toList).toOption == some Int32.maxValue
    || (Numeral.int64 s.toList).toOption == some Int64.maxValue
    || decide (Binary64.read s.toList = some Binary64.largest)

def decimal? : Reader (Option Decimal) :=
  parsed (orEmpty none fun s => if isUnsetText s then .ok none else (parseDecimal s).map some)

/-- A word of a vocabulary; an empty field is none. -/
def word? [Word α] : Reader (Option α) :=
  parsed (orEmpty none fun s => .ok (some (Word.ofText s)))

/-! ### Lists -/

/-- The number of entries of a list. Each entry needs at least one byte, so a number beyond the
bytes that are left is refused before any entry is read. -/
def count : Reader Nat := do
  let n ← int32
  if n < 0 then fail (.negativeCount n.toInt)
  else room n.toInt.toNat (done n.toInt.toNat)

/-- Reads `n` entries, in front of which the entries `read` stand in reverse. -/
def timesOnto (entry : Reader α) : Nat → List α → Reader (List α)
  | 0, read => done read.reverse
  | n + 1, read => do
    let a ← entry
    timesOnto entry n (a :: read)

/-- Exactly `n` entries. -/
def times (n : Nat) (entry : Reader α) : Reader (List α) := timesOnto entry n []

/-- A number of entries and then the entries. -/
def list (entry : Reader α) : Reader (List α) := do
  let n ← count
  times n entry

def tagValue : Reader TagValue := do
  let tag ← string
  let value ← string
  return ⟨tag, value⟩

def tagValues : Reader (List TagValue) := list tagValue

/-- Passes over a field. -/
def skip : Reader Unit := field fun _ => done ()

/-- Passes over `n` fields. -/
def skips : Nat → Reader Unit
  | 0 => done ()
  | n + 1 => do
    skip
    skips n

/-- A field that only records of a later version have. -/
def since (carried : Bool) (absent : α) (r : Reader α) : Reader α :=
  if carried then r else done absent

theorem timesOnto_eq (entry : Reader α) (n : Nat) (read : List α) :
    timesOnto entry n read = (fun as => read.reverse ++ as) <$> times n entry := by
  induction n generalizing read with
  | zero => simp [times, timesOnto, Functor.map, bind]
  | succ n ih =>
    simp only [times, timesOnto]
    rw [map_bind]
    congr 1
    funext a
    rw [ih (a :: read), ih [a], Functor.map_map]
    simp

@[simp] theorem times_zero (entry : Reader α) : times 0 entry = done [] := rfl

theorem times_succ (entry : Reader α) (n : Nat) :
    times (n + 1) entry = do
      let a ← entry
      let as ← times n entry
      return a :: as := by
  simp only [times, timesOnto]
  congr 1
  funext a
  rw [timesOnto_eq]
  rfl

end Reader
end BrokerLink
