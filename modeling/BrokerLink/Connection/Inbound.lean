import BrokerLink.Error

/-!
# The inbound side of a connection

Bytes arrive in portions that say nothing about where frames begin. What has been
received and not yet taken is kept, and its front is looked at: it is a whole frame,
or the beginning of one, or a header that declares a length no payload has. Once such
a header stands in front nothing is taken any more.

A decided front does not depend on what follows it (`Front.of_append`), and a frame
leaves less behind it (`Front.length_of_frame`), so taking frames comes to an end.
-/

namespace BrokerLink

/-- What stands at the front of the bytes received. -/
inductive Front where
  /-- No whole frame yet. -/
  | incomplete
  /-- A header that declares a length no payload has. -/
  | refused (length : Nat)
  | frame (payload rest : List UInt8)
  deriving DecidableEq, Repr

namespace Front

def of : List UInt8 → Front
  | a :: b :: c :: d :: body =>
    let length := ofBigEndian a b c d
    if length = 0 ∨ maxPayload < length then refused length
    else if body.length < length then incomplete
    else frame (body.take length) (body.drop length)
  | _ => incomplete

def isIncomplete : Front → Bool
  | incomplete => true
  | _ => false

/-- The front when more bytes have come. -/
def append : Front → List UInt8 → Front
  | frame payload rest, more => frame payload (rest ++ more)
  | front, _ => front

theorem of_append {bs : List UInt8} (more : List UInt8) (h : (of bs).isIncomplete = false) :
    of (bs ++ more) = (of bs).append more := by
  match bs, h with
  | a :: b :: c :: d :: body, h =>
    simp only [of, List.cons_append, List.length_append] at h ⊢
    split
    · rfl
    · rename_i hn
      rw [if_neg hn] at h
      split at h
      · simp [isIncomplete] at h
      · rename_i hl
        have hl' : ofBigEndian a b c d ≤ body.length := Nat.le_of_not_lt hl
        rw [if_neg (by omega), if_neg hl, append, List.take_append_of_le_length hl',
          List.drop_append_of_le_length hl']
  | [], h | [_], h | [_, _], h | [_, _, _], h => simp [of, isIncomplete] at h

theorem length_of_frame {bs payload rest : List UInt8} (h : of bs = frame payload rest) :
    0 < payload.length ∧ payload.length ≤ maxPayload ∧
      bs.length = 4 + payload.length + rest.length := by
  match bs, h with
  | a :: b :: c :: d :: body, h =>
    simp only [of] at h
    split at h
    · simp at h
    · rename_i hn
      split at h
      · simp at h
      · rename_i hl
        simp only [frame.injEq] at h
        obtain ⟨rfl, rfl⟩ := h
        simp only [List.length_take, List.length_drop, List.length_cons]
        omega
  | [], h | [_], h | [_, _], h | [_, _, _], h => simp [of] at h

end Front

/-- The inbound side: what has been received, what is on its way, and what was counted. -/
structure Inbound where
  /-- Received and not yet taken. -/
  buffer : List UInt8 := []
  /-- On its way, in the portions in which it will be received. -/
  arriving : List (List UInt8) := []
  /-- Nothing more will be sent. -/
  isClosed : Bool := false
  bytesRead : Nat := 0
  framesRead : Nat := 0
  deriving DecidableEq, Repr

namespace Inbound

def closedByPeer : LinkError := .disconnected "connection closed by peer"

def badLength (length : Nat) : LinkError :=
  .client noId .badLength ("declared frame length " ++ toString length)

def front (s : Inbound) : Front := Front.of s.buffer

/-- The peer sends bytes. -/
def send (s : Inbound) (bytes : List UInt8) : Inbound :=
  { s with arriving := s.arriving ++ [bytes] }

/-- The peer sends nothing more. -/
def close (s : Inbound) : Inbound := { s with isClosed := true }

/-- A portion is received. -/
def receive (s : Inbound) (portion : List UInt8) : Inbound :=
  { s with buffer := s.buffer ++ portion, bytesRead := s.bytesRead + portion.length }

/-- A frame has been taken from the front, and the rest is kept. -/
def taken (s : Inbound) (rest : List UInt8) : Inbound :=
  { s with buffer := rest, framesRead := s.framesRead + 1 }

/-- Receives portions until the front is decided or no portion is left. -/
def fillFrom (s : Inbound) : List (List UInt8) → Inbound
  | [] => { s with arriving := [] }
  | portion :: portions =>
    if s.front.isIncomplete then fillFrom (s.receive portion) portions
    else { s with arriving := portion :: portions }

/-- Receives no more than the front needs. -/
def fill (s : Inbound) : Inbound := s.fillFrom s.arriving

/-- The payload of the next frame. -/
def next (s : Inbound) : Outcome (List UInt8) × Inbound :=
  let s := s.fill
  match s.front with
  | .frame payload rest => (.done payload, s.taken rest)
  | .refused length => (.failed (badLength length), s)
  | .incomplete => (if s.isClosed then .failed closedByPeer else .waiting, s)

/-- The bytes that were sent and not taken. -/
def pending (s : Inbound) : Nat := s.buffer.length + (s.arriving.map List.length).sum

theorem pending_fillFrom (s : Inbound) (portions : List (List UInt8)) :
    (s.fillFrom portions).pending = s.buffer.length + (portions.map List.length).sum := by
  induction portions generalizing s with
  | nil => rfl
  | cons portion portions ih =>
    simp only [fillFrom]
    split
    · rw [ih]
      simp only [receive, List.length_append, List.map_cons, List.sum_cons]
      omega
    · rfl

theorem pending_fill (s : Inbound) : s.fill.pending = s.pending := pending_fillFrom s s.arriving

theorem pending_next {s s' : Inbound} {payload : List UInt8} (h : s.next = (.done payload, s')) :
    s'.pending < s.pending := by
  simp only [next] at h
  split at h
  · rename_i payload' rest hf
    simp only [Prod.mk.injEq] at h
    obtain ⟨-, rfl⟩ := h
    have hl := (Front.length_of_frame hf).2.2
    rw [← pending_fill s]
    simp only [pending, taken]
    omega
  · simp at h
  · split at h <;> simp at h

/-- The payloads of all frames that can be taken, and what ended the taking. -/
def drain (s : Inbound) : List (List UInt8) × Outcome Unit × Inbound :=
  match _h : s.next with
  | (.done payload, s') =>
    let (payloads, ended) := drain s'
    (payload :: payloads, ended)
  | (.failed e, s') => ([], .failed e, s')
  | (.waiting, s') => ([], .waiting, s')
termination_by s.pending
decreasing_by exact pending_next ‹_›

end Inbound
end BrokerLink
