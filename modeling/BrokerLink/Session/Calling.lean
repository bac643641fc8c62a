import BrokerLink.Session.Stopping

/-!
# Callers

A caller does one thing at a time. A submission is refused if the link is not connected,
whatever is wrong with it otherwise, then if its frame cannot be made, then if the sender
has ended; each of these refusals is also told to the observer. If the queue is full the
caller waits, or gives up, which is told to nobody but the caller.
-/

namespace BrokerLink

/-- Something to send, and the id by which the caller knows it. -/
structure Submission where
  id : Int32
  /-- The frame for a server of a version. -/
  build : Version → Except LinkError (List UInt8)

namespace Submission

def ofRequest (r : Request) : Submission where
  id := r.id
  build version := (r.frame version).map Frame.bytes

/-- Bytes that are sent as they are. -/
def raw (bytes : List UInt8) : Submission where
  id := noId
  build _ := .ok bytes

end Submission

namespace Session

/-- A caller's submission is refused, and the observer is told. -/
def reject (s : Session) (caller : Nat) (e : LinkError) : Session :=
  ((s.tell (.ofError e)).report (.rejected caller e)).setCall caller none

/-- A caller's submission is accepted. -/
def accept (s : Session) (caller : Nat) (bytes : List UInt8) : Session :=
  ({ s with requests := s.requests ++ [bytes] }.report (.accepted caller bytes)).setCall caller none

/-- A caller begins to submit. -/
def submit? (s : Session) (caller : Nat) (patience : Patience) (x : Submission) :
    Option Session :=
  if s.opening.isDone && (s.calls caller).isNone then
    if s.link ≠ .connected then some (s.reject caller (.notConnected x.id))
    else
      match x.build s.server.version with
      | .error e => some (s.reject caller e)
      | .ok bytes => some (s.setCall caller (some (.submitting patience x.id bytes)))
  else none

/-- The next step of a caller's call, if it can take one. -/
def proceed? (s : Session) (caller : Nat) : Option Session :=
  match s.calls caller with
  | none => none
  | some (.submitting patience id bytes) =>
    if s.sending.isEnded then some (s.reject caller (.client id .notConnected "writer stopped"))
    else if hasRoom s.config.outboundCapacity s.requests then some (s.accept caller bytes)
    else
      match patience with
      | .waits => none
      | .tries => some ((s.report (.rejected caller .queueFull)).setCall caller none)
  | some (.stopping phase) =>
    match s.continueStop? phase with
    | none => none
    | some (s, some phase) => some (s.setCall caller (some (.stopping phase)))
    | some (s, none) => some ((s.report (.stopped caller)).setCall caller none)

/-- A caller draws an id. The ids go round. -/
def draw? (s : Session) (caller : Nat) : Option Session :=
  if s.opening.isDone && (s.calls caller).isNone then
    some { s.report (.drew caller s.nextId) with nextId := s.nextId + 1 }
  else none

end Session
end BrokerLink
