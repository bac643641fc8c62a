import BrokerLink.Json.Reading

/-!
# Numbers by their bits

Where a document cannot hold a number as such, it is given as an object whose only
member `f64` has the bits of the number in sixteen hexadecimal digits.
-/

namespace BrokerLink
namespace Json

/-- The number that hexadecimal digits spell after another. -/
def hexFrom : Nat → List Char → Option Nat
  | n, [] => some n
  | n, c :: cs =>
    match hexDigit? c with
    | some d => hexFrom (n * 16 + d) cs
    | none => none

/-- The number that hexadecimal digits spell. -/
def hexNumber? (s : String) : Option Nat := if s.isEmpty then none else hexFrom 0 s.toList

mutual

/-- Puts numbers in the places where they are given by their bits. -/
def resolveBits : Json → Json
  | array items => array (resolveItems items)
  | object members =>
    match members with
    | [("f64", text s)] =>
      match hexNumber? s with
      | some bits => real ⟨UInt64.ofNat bits⟩
      | none => object [("f64", text s)]
    | members => object (resolveMembers members)
  | j => j

def resolveItems : List Json → List Json
  | [] => []
  | j :: js => resolveBits j :: resolveItems js

def resolveMembers : List (String × Json) → List (String × Json)
  | [] => []
  | (key, j) :: members => (key, resolveBits j) :: resolveMembers members

end

end Json
end BrokerLink
