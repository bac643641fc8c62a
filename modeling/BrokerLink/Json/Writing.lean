import BrokerLink.Json
import BrokerLink.Numeral.Binary64.Shortest
import BrokerLink.Numeral.Whole

/-!
# Writing documents

A document is written without white space, with the members of an object in their
order. Only what has to be escaped in a text is escaped.
-/

namespace BrokerLink
namespace Json

def hexChar (n : Nat) : Char := if n < 10 then Char.ofNat (48 + n) else Char.ofNat (87 + n)

/-- A character as it stands in a text. -/
def escape (c : Char) : List Char :=
  if c = '"' then ['\\', '"']
  else if c = '\\' then ['\\', '\\']
  else if c = '\n' then ['\\', 'n']
  else if c = '\r' then ['\\', 'r']
  else if c = '\t' then ['\\', 't']
  else if c.toNat < 0x20 then
    ['\\', 'u', '0', '0', hexChar (c.toNat / 16), hexChar (c.toNat % 16)]
  else [c]

def quoted (s : String) : String := String.ofList ('"' :: (s.toList.flatMap escape ++ ['"']))

/-- A number that is not finite has no form of its own. -/
def realText (x : Binary64) : String :=
  if x.isNaN || x.isInfinite then "null" else x.text

mutual

def write : Json → String
  | null => "null"
  | bool b => if b then "true" else "false"
  | whole n => String.ofList (Numeral.wholeText n)
  | real x => realText x
  | text s => quoted s
  | array items => "[" ++ ",".intercalate (writeItems items) ++ "]"
  | object members => "\x7b" ++ ",".intercalate (writeMembers members) ++ "\x7d"

def writeItems : List Json → List String
  | [] => []
  | item :: items => write item :: writeItems items

def writeMembers : List (String × Json) → List String
  | [] => []
  | (key, item) :: members => (quoted key ++ ":" ++ write item) :: writeMembers members

end

end Json
end BrokerLink
