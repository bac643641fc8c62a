import BrokerLink.Numeral.Binary64

/-!
# Documents

Models have a form as JSON documents. A number is whole if it is written without a
point or an exponent and fits in 64 bits; every other number is a binary64 number,
and so is a negative zero.
-/

namespace BrokerLink

/-- A document. -/
inductive Json where
  | null
  | bool (b : Bool)
  | whole (n : Int)
  | real (x : Binary64)
  | text (s : String)
  | array (items : List Json)
  | object (members : List (String × Json))
  deriving Inhabited

namespace Json

/-- Whether a whole number fits in 64 bits, signed or not. -/
def isWhole (n : Int) : Bool := decide (-2 ^ 63 ≤ n ∧ n < 2 ^ 64)

/-- The member of an object with a key; of several the last. -/
def find? (key : String) (members : List (String × Json)) : Option Json :=
  members.foldl (fun found m => if m.1 = key then some m.2 else found) none

/-- The member of a document with a key. -/
def get? (key : String) : Json → Option Json
  | object members => find? key members
  | _ => none

def isNull : Json → Bool
  | null => true
  | _ => false

def isEmptyObject : Json → Bool
  | object [] => true
  | _ => false

end Json
end BrokerLink
