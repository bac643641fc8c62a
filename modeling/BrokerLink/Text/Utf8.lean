/-!
# Text in UTF-8

A field is text only if its bytes are UTF-8. Where they are not, the fault is the
place of the first sequence that is none, and how long it is: the longest start of
a well-formed sequence found there, at least one byte, or the end of the field.
-/

namespace BrokerLink
namespace Utf8

/-- Where a run of bytes stops being UTF-8. Without a length the run ends inside a sequence. -/
structure Fault where
  position : Nat
  length : Option Nat
  deriving DecidableEq, Repr

namespace Fault

def message (f : Fault) : String :=
  match f.length with
  | some n =>
    "invalid utf-8 sequence of " ++ toString n ++ " bytes from index " ++ toString f.position
  | none => "incomplete utf-8 byte sequence from index " ++ toString f.position

end Fault

/-- What a lead byte asks for: how many bytes follow, and the range of the first of them. -/
def lead (b : UInt8) : Option (Nat × UInt8 × UInt8) :=
  if b < 0x80 then some (0, 0x80, 0xBF)
  else if b < 0xC2 then none
  else if b < 0xE0 then some (1, 0x80, 0xBF)
  else if b = 0xE0 then some (2, 0xA0, 0xBF)
  else if b = 0xED then some (2, 0x80, 0x9F)
  else if b < 0xF0 then some (2, 0x80, 0xBF)
  else if b = 0xF0 then some (3, 0x90, 0xBF)
  else if b < 0xF4 then some (3, 0x80, 0xBF)
  else if b = 0xF4 then some (3, 0x80, 0x8F)
  else none

/-- How a sequence goes on: whole, broken after some bytes, or cut off. -/
inductive Outcome where
  | complete
  | broken (length : Nat)
  | cut
  deriving DecidableEq, Repr

/-- Follows a sequence of which `seen` bytes are read and `owed` are missing; the next must lie
between `low` and `high`. -/
def follow (seen : Nat) : Nat → UInt8 → UInt8 → List UInt8 → Outcome
  | 0, _, _, _ => .complete
  | _ + 1, _, _, [] => .cut
  | owed + 1, low, high, b :: bs =>
    if low ≤ b ∧ b ≤ high then follow (seen + 1) owed 0x80 0xBF bs else .broken seen

/-- The first fault of a run of bytes, `passed` bytes of it being behind and `skip` bytes of the
current sequence still to pass. -/
def faultFrom (passed skip : Nat) : List UInt8 → Option Fault
  | [] => none
  | b :: bs =>
    match skip with
    | skip + 1 => faultFrom (passed + 1) skip bs
    | 0 =>
      match lead b with
      | none => some ⟨passed, some 1⟩
      | some (owed, low, high) =>
        match follow 1 owed low high bs with
        | .complete => faultFrom (passed + 1) owed bs
        | .broken n => some ⟨passed, some n⟩
        | .cut => some ⟨passed, none⟩

/-- Where a run of bytes stops being UTF-8, if it does. -/
def fault? (bs : List UInt8) : Option Fault := faultFrom 0 0 bs

/-- The text of a run of bytes. -/
def decode (bs : List UInt8) : Except Fault String :=
  match String.fromUTF8? ⟨bs.toArray⟩ with
  | some s => .ok s
  | none => .error ((fault? bs).getD ⟨0, some 1⟩)

/-- The bytes of a text. -/
def encode (s : String) : List UInt8 := s.toUTF8.data.toList

@[simp] theorem decode_encode (s : String) : decode (encode s) = .ok s := by
  have e : (⟨(encode s).toArray⟩ : ByteArray) = s.toByteArray := by simp [encode]
  have h : String.fromUTF8? s.toByteArray = some s := by
    simp [String.fromUTF8?, String.fromUTF8, s.isValidUTF8]
  simp only [decode, e, h]

end Utf8
end BrokerLink
