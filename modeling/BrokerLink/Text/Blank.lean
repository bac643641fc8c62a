/-!
# White space

Lists of names and time texts are split at white space, in the sense of the Unicode
property White_Space.
-/

namespace BrokerLink
namespace Text

/-- The characters of the Unicode property White_Space, as ranges of code points. -/
def blankRanges : List (Nat × Nat) :=
  [(0x0009, 0x000D), (0x0020, 0x0020), (0x0085, 0x0085), (0x00A0, 0x00A0), (0x1680, 0x1680),
   (0x2000, 0x200A), (0x2028, 0x2029), (0x202F, 0x202F), (0x205F, 0x205F), (0x3000, 0x3000)]

def isBlank (c : Char) : Bool :=
  blankRanges.any fun (first, last) => decide (first ≤ c.toNat ∧ c.toNat ≤ last)

/-- A text without the white space at its ends. -/
def trim (cs : List Char) : List Char :=
  ((cs.dropWhile isBlank).reverse.dropWhile isBlank).reverse

/-- The first run of characters that are not white space, and what follows it. -/
def nextWord (cs : List Char) : List Char × List Char :=
  let rest := cs.dropWhile isBlank
  (rest.takeWhile fun c => !isBlank c, rest.dropWhile fun c => !isBlank c)

/-- The parts of a text between occurrences of a character. -/
def splitAt (separator : Char) : List Char → List (List Char)
  | [] => [[]]
  | c :: cs =>
    if c = separator then [] :: splitAt separator cs
    else
      match splitAt separator cs with
      | [] => [[c]]
      | part :: parts => (c :: part) :: parts

/-- The texts of a comma-separated list, trimmed, without the empty ones. -/
def commaList (s : String) : List String :=
  ((splitAt ',' s.toList).map trim).filterMap fun part =>
    if part.isEmpty then none else some (String.ofList part)

/-- Equality of texts in which the case of ASCII letters does not count. -/
def eqIgnoringCase (s t : String) : Bool :=
  s.toList.map Char.toLower == t.toList.map Char.toLower

end Text
end BrokerLink
