import BrokerLink.Session.Calling
import BrokerLink.Session.Receiving
import BrokerLink.Session.Sending
import BrokerLink.Session.Telling

/-!
# Moves

A move says who goes next. Every interleaving of the tasks, the callers, the peer and the
clock is a list of moves, and a move that cannot be made changes nothing.
-/

namespace BrokerLink

/-- Who goes next. -/
inductive Move where
  | receiver
  | teller
  | sender
  | opener
  /-- The opening call has waited long enough. -/
  | timeOut
  | submit (caller : Nat) (patience : Patience) (submission : Submission)
  | draw (caller : Nat)
  | disconnect (caller : Nat)
  /-- A caller goes on with its call. -/
  | proceed (caller : Nat)
  /-- The peer sends bytes, which will be received as one portion. -/
  | peerSends (bytes : List UInt8)
  | peerCloses

namespace Session

/-- The session after a move, if it can be made. -/
def move? (s : Session) : Move → Option Session
  | .receiver => s.receiver?
  | .teller => s.teller?
  | .sender => s.sender?
  | .opener => s.opener?
  | .timeOut => s.timeOut?
  | .submit caller patience x => s.submit? caller patience x
  | .draw caller => s.draw? caller
  | .disconnect caller => s.disconnect? caller
  | .proceed caller => s.proceed? caller
  | .peerSends bytes =>
    if s.inbound.isClosed then none else some { s with inbound := s.inbound.send bytes }
  | .peerCloses => some { s with inbound := s.inbound.close }

def move (s : Session) (m : Move) : Session := (s.move? m).getD s

def run (s : Session) (moves : List Move) : Session := moves.foldl move s

@[simp] theorem run_nil (s : Session) : s.run [] = s := rfl

@[simp] theorem run_cons (s : Session) (m : Move) (moves : List Move) :
    s.run (m :: moves) = (s.move m).run moves := rfl

theorem run_append (s : Session) (first second : List Move) :
    s.run (first ++ second) = (s.run first).run second := List.foldl_append ..

/-- A property that every move keeps holds after every run. -/
theorem run_induction {P : Session → Prop} (step : ∀ s m s', move? s m = some s' → P s → P s')
    {s : Session} (hs : P s) (moves : List Move) : P (s.run moves) := by
  induction moves generalizing s with
  | nil => exact hs
  | cons m moves ih =>
    rw [run_cons]
    apply ih
    simp only [move]
    cases h : s.move? m with
    | none => exact hs
    | some s' => exact step s m s' h hs

end Session
end BrokerLink
