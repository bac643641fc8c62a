import BrokerLink.Session.Rest

/-!
# Turns

A turn is what someone does from outside, and everything that it causes. A session that
is only ever used in turns is at rest between them.
-/

namespace BrokerLink.Session

/-- Makes moves, and lets everything come to rest. -/
def turn (s : Session) (moves : List Move) : Session := (s.run moves).settle

/-- Waits for the opening call to return. If nothing else can happen, its time runs out. -/
def waitForOpening (s : Session) : Session := (s.turn []).turn [.timeOut]

/-- The only caller submits, and waits for its answer. -/
def submit (s : Session) (x : Submission) : Session := s.turn [.submit 0 .waits x, .proceed 0]

/-- The only caller tries one submission after the other, while the sender stands still. -/
def trySubmit (s : Session) (xs : List Submission) : Session :=
  s.turn (xs.flatMap fun x => [.submit 0 .tries x, .proceed 0])

/-- The only caller draws ids. -/
def drawIds (s : Session) (count : Nat) : Session := s.turn (List.replicate count (.draw 0))

/-- The only caller disconnects, and waits until that is done. -/
def disconnect (s : Session) : Session :=
  (s.turn [.disconnect 0, .proceed 0, .proceed 0]).turn [.proceed 0]

/-- The peer sends bytes, and closes if it is done. -/
def hear (s : Session) (bytes : List UInt8) (isDone : Bool) : Session :=
  s.turn (.peerSends bytes :: if isDone then [.peerCloses] else [])

end BrokerLink.Session
