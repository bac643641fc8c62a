import BrokerLink.Field.Text
import BrokerLink.Version

/-!
# Frames

What a client sends is a sequence of frames: the length of the payload in four
bytes, the most significant first, and the payload, each field followed by a zero
byte. No field may hold a zero byte itself, and no payload may be longer than three
bytes can say. Before the first frame goes one message of another shape, in which the
client offers the versions it speaks.
-/

namespace BrokerLink

/-- The longest payload, in either direction. -/
def maxPayload : Nat := 0xFFFFFF

/-- Why fields make no frame. -/
inductive FrameFault where
  | embeddedZero
  | tooLong (bytes : Nat)
  | helloTooLong
  deriving DecidableEq, Repr

namespace FrameFault

def message : FrameFault → String
  | embeddedZero => "field contains an embedded NUL byte"
  | tooLong bytes =>
    "message too long: " ++ toString bytes ++ " bytes (max " ++ toString maxPayload ++ ")"
  | helloTooLong => "connect request too long"

end FrameFault

/-- Four bytes, the most significant first. -/
def bigEndian (n : Nat) : List UInt8 :=
  [UInt8.ofNat (n / 2 ^ 24), UInt8.ofNat (n / 2 ^ 16), UInt8.ofNat (n / 2 ^ 8), UInt8.ofNat n]

/-- The number in four bytes. -/
def ofBigEndian (a b c d : UInt8) : Nat :=
  ((a.toNat * 256 + b.toNat) * 256 + c.toNat) * 256 + d.toNat

theorem ofBigEndian_bigEndian {n : Nat} (h : n < 2 ^ 32) :
    ofBigEndian (UInt8.ofNat (n / 2 ^ 24)) (UInt8.ofNat (n / 2 ^ 16)) (UInt8.ofNat (n / 2 ^ 8))
      (UInt8.ofNat n) = n := by
  simp only [ofBigEndian, UInt8.toNat_ofNat']
  omega

namespace Fields

/-- The bytes of a run of fields. -/
def size (fields : Fields) : Nat := (fields.map fun s => s.utf8ByteSize + 1).sum

def hasZero (fields : Fields) : Bool := fields.any fun s => s.contains '\x00'

/-- Each field and its zero byte. -/
def payload (fields : Fields) : List UInt8 := fields.flatMap fun s => Utf8.encode s ++ [0]

@[simp] theorem size_nil : size [] = 0 := rfl

theorem size_cons (s : String) (f : Fields) : size (s :: f) = s.utf8ByteSize + 1 + size f := rfl

theorem size_append (f g : Fields) : size (f ++ g) = size f + size g := by
  simp [size]

theorem payload_append (f g : Fields) : payload (f ++ g) = payload f ++ payload g :=
  List.flatMap_append

theorem payload_cons_append (s : String) (f : Fields) (rest : List UInt8) :
    payload (s :: f) ++ rest = Utf8.encode s ++ 0 :: (payload f ++ rest) := by
  simp [payload]

theorem length_encode (s : String) : (Utf8.encode s).length = s.utf8ByteSize := by
  exact Array.length_toList

theorem length_payload (fields : Fields) : (payload fields).length = size fields := by
  induction fields with
  | nil => rfl
  | cons s fields ih =>
    simp only [payload, size, List.flatMap_cons, List.length_append, List.map_cons,
      List.sum_cons, length_encode] at ih ⊢
    rw [ih]
    rfl

end Fields

/-- Fields that can be sent: none holds a zero byte, and together they are not too long. -/
structure Frame where
  fields : Fields
  zeroFree : fields.hasZero = false
  fits : fields.size ≤ maxPayload

namespace Frame

/-- The frame of a run of fields. An embedded zero byte is reported before an excessive length. -/
def ofFields (fields : Fields) : Except FrameFault Frame :=
  if hz : fields.hasZero = false then
    if hs : fields.size ≤ maxPayload then .ok ⟨fields, hz, hs⟩ else .error (.tooLong fields.size)
  else .error .embeddedZero

def payload (f : Frame) : List UInt8 := f.fields.payload

def header (f : Frame) : List UInt8 := bigEndian f.fields.size

def bytes (f : Frame) : List UInt8 := f.header ++ f.payload

/-- The length of the whole frame. -/
def size (f : Frame) : Nat := 4 + f.fields.size

theorem ofFields_eq_ok_iff {fields : Fields} {f : Frame} :
    ofFields fields = .ok f ↔ f.fields = fields := by
  constructor
  · intro h
    simp only [ofFields] at h
    split at h
    · split at h
      · simp only [Except.ok.injEq] at h
        subst h
        rfl
      · exact absurd h (by simp)
    · exact absurd h (by simp)
  · rintro rfl
    simp [ofFields, f.zeroFree, f.fits]

end Frame

/-- What the client sends first: a mark, and the versions it offers with its options, behind their
length. -/
def hello (options : String) : Except FrameFault (List UInt8) :=
  let offer := "v" ++ toString Version.oldest ++ ".." ++ toString Version.newest
  let offer := if options.isEmpty then offer else offer ++ " " ++ options
  if offer.utf8ByteSize ≤ maxPayload then
    .ok (Utf8.encode "API" ++ [0] ++ bigEndian offer.utf8ByteSize ++ Utf8.encode offer)
  else .error .helloTooLong

end BrokerLink
