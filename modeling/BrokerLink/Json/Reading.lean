import BrokerLink.Json
import BrokerLink.Numeral.Binary64.Reading
import BrokerLink.Numeral.Whole

/-!
# Reading documents

A reader of JSON by descent. Every step takes a character, so the number of
characters bounds the depth of the descent, and running out of it means that the text
is no document.
-/

namespace BrokerLink
namespace Json

def isSpace (c : Char) : Bool := c == ' ' || c == '\n' || c == '\t' || c == '\r'

def skipSpace (cs : List Char) : List Char := cs.dropWhile isSpace

/-- The value of a hexadecimal digit. -/
def hexDigit? (c : Char) : Option Nat :=
  if '0' ≤ c ∧ c ≤ '9' then some (c.toNat - '0'.toNat)
  else if 'a' ≤ c ∧ c ≤ 'f' then some (c.toNat - 'a'.toNat + 10)
  else if 'A' ≤ c ∧ c ≤ 'F' then some (c.toNat - 'A'.toNat + 10)
  else none

/-- The number that four hexadecimal digits spell. -/
def hexUnit? : List Char → Option (Nat × List Char)
  | a :: b :: c :: d :: rest =>
    match hexDigit? a, hexDigit? b, hexDigit? c, hexDigit? d with
    | some a, some b, some c, some d => some (((a * 16 + b) * 16 + c) * 16 + d, rest)
    | _, _, _, _ => none
  | _ => none

/-- The character that an escape by number stands for: one unit, or two for characters that need a
pair of surrogates. -/
def numberedChar? (cs : List Char) : Option (Char × List Char) :=
  match hexUnit? cs with
  | none => none
  | some (high, rest) =>
    if high < 0xD800 ∨ 0xE000 ≤ high then some (Char.ofNat high, rest)
    else if 0xDC00 ≤ high then none
    else
      match rest with
      | '\\' :: 'u' :: rest =>
        match hexUnit? rest with
        | some (low, rest) =>
          if 0xDC00 ≤ low ∧ low < 0xE000 then
            some (Char.ofNat (0x10000 + (high - 0xD800) * 0x400 + (low - 0xDC00)), rest)
          else none
        | none => none
      | _ => none

/-- The character that an escape stands for. -/
def escapedChar? : List Char → Option (Char × List Char)
  | '"' :: rest => some ('"', rest)
  | '\\' :: rest => some ('\\', rest)
  | '/' :: rest => some ('/', rest)
  | 'b' :: rest => some ('\x08', rest)
  | 'f' :: rest => some ('\x0c', rest)
  | 'n' :: rest => some ('\n', rest)
  | 'r' :: rest => some ('\r', rest)
  | 't' :: rest => some ('\t', rest)
  | 'u' :: rest => numberedChar? rest
  | _ => none

/-- The rest of a text after its opening quote; what is read stands in reverse. -/
def readText : Nat → List Char → List Char → Option (String × List Char)
  | 0, _, _ => none
  | _ + 1, _, [] => none
  | fuel + 1, read, c :: cs =>
    if c = '"' then some (String.ofList read.reverse, cs)
    else if c = '\\' then
      match escapedChar? cs with
      | some (c, cs) => readText fuel (c :: read) cs
      | none => none
    else if c.toNat < 0x20 then none
    else readText fuel (c :: read) cs

def isNumberChar (c : Char) : Bool :=
  Numeral.isDigit c || c == '-' || c == '+' || c == '.' || c == 'e' || c == 'E'

/-- A number without a sign: no zero before other digits, digits on both sides of a point, and only
digits if it is whole. -/
def unsigned? (cs : List Char) : Option Bool :=
  let (before, rest) := Binary64.spanDigits cs
  if before.isEmpty ∨ (before.head? = some '0' ∧ 1 < before.length) then none
  else
    match rest with
    | [] => some true
    | '.' :: rest =>
      if (Binary64.spanDigits rest).1.isEmpty then none else some false
    | _ => some false

/-- The number that characters spell. -/
def number? (cs : List Char) : Option Json :=
  let (negative, magnitude) :=
    match cs with
    | '-' :: rest => (true, rest)
    | cs => (false, cs)
  match unsigned? magnitude with
  | none => none
  | some isWholeText =>
    let n : Int := Numeral.value magnitude
    let n := if negative then -n else n
    if isWholeText && isWhole n && !(negative && n == 0) then some (whole n)
    else (Binary64.read cs).map real

mutual

/-- A document and what follows it. -/
def readValue : Nat → List Char → Option (Json × List Char)
  | 0, _ => none
  | fuel + 1, cs =>
    match skipSpace cs with
    | 'n' :: 'u' :: 'l' :: 'l' :: rest => some (null, rest)
    | 't' :: 'r' :: 'u' :: 'e' :: rest => some (bool true, rest)
    | 'f' :: 'a' :: 'l' :: 's' :: 'e' :: rest => some (bool false, rest)
    | '"' :: rest => (readText (rest.length + 1) [] rest).map fun (s, rest) => (text s, rest)
    | '[' :: rest =>
      match skipSpace rest with
      | ']' :: rest => some (array [], rest)
      | rest => readItems fuel [] rest
    | '\x7b' :: rest =>
      match skipSpace rest with
      | '\x7d' :: rest => some (object [], rest)
      | rest => readMembers fuel [] rest
    | cs =>
      (number? (cs.takeWhile isNumberChar)).map fun n => (n, cs.dropWhile isNumberChar)

/-- The items of an array from one of them on; those before it stand in reverse. -/
def readItems : Nat → List Json → List Char → Option (Json × List Char)
  | 0, _, _ => none
  | fuel + 1, read, cs =>
    match readValue fuel cs with
    | none => none
    | some (item, rest) =>
      match skipSpace rest with
      | ',' :: rest => readItems fuel (item :: read) rest
      | ']' :: rest => some (array (item :: read).reverse, rest)
      | _ => none

/-- The members of an object from one of them on; those before it stand in reverse. -/
def readMembers : Nat → List (String × Json) → List Char → Option (Json × List Char)
  | 0, _, _ => none
  | fuel + 1, read, cs =>
    match skipSpace cs with
    | '"' :: rest =>
      match readText (rest.length + 1) [] rest with
      | none => none
      | some (key, rest) =>
        match skipSpace rest with
        | ':' :: rest =>
          match readValue fuel rest with
          | none => none
          | some (item, rest) =>
            match skipSpace rest with
            | ',' :: rest => readMembers fuel ((key, item) :: read) rest
            | '\x7d' :: rest => some (object ((key, item) :: read).reverse, rest)
            | _ => none
        | _ => none
    | _ => none

end

/-- The document that a text is. -/
def read (s : String) : Option Json :=
  let cs := s.toList
  match readValue (cs.length + 1) cs with
  | some (j, rest) => if (skipSpace rest).isEmpty then some j else none
  | none => none

end Json
end BrokerLink
