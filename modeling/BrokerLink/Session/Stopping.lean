import BrokerLink.Session.Basic

/-!
# Disconnecting

Every call to disconnect marks the link as disconnected. The first of them also tells
the tasks to stop, and returns when all three have ended; any other returns at once. The
call that opened the session disconnects too, when the warm-up cannot end or takes too
long, and fails.
-/

namespace BrokerLink.Session

/-- A call to disconnect begins. -/
def beginStop (s : Session) : Session × Stopping :=
  ({ s with isTaken := true }, .begun (!s.isTaken))

/-- The next step of a call to disconnect, if it can take one, and how far the call has come then,
unless it returns. -/
def continueStop? (s : Session) : Stopping → Option (Session × Option Stopping)
  | .begun first => some ({ s with link := .disconnected }, some (.marked first))
  | .marked true => some ({ s with isStopping := true }, some .awaiting)
  | .marked false => some (s, none)
  | .awaiting => if s.hasStopped then some (s, none) else none

/-- The opening call begins to disconnect. -/
def failOpening (s : Session) (e : LinkError) : Session :=
  let (s, phase) := s.beginStop
  { s with opening := .stopping phase e }

def closedEarly : LinkError := .disconnected "connection closed before the handshake completed"

def warmUpTimedOut : LinkError :=
  .client noId .alreadyConnected "timed out waiting for NEXT_VALID_ID and MANAGED_ACCTS"

/-- The next step of the opening call, if it can take one. -/
def opener? (s : Session) : Option Session :=
  match s.opening with
  | .done => none
  | .failed _ => none
  | .waiting =>
    if s.isReady then some { s.report .opened with opening := .done }
    else if s.telling.isEnded then some (s.failOpening closedEarly)
    else none
  | .stopping phase e =>
    match s.continueStop? phase with
    | none => none
    | some (s, some phase) => some { s with opening := .stopping phase e }
    | some (s, none) => some { s.report (.openFailed e) with opening := .failed e }

/-- The opening call has waited long enough. -/
def timeOut? (s : Session) : Option Session :=
  match s.opening with
  | .waiting =>
    if s.isReady || s.telling.isEnded then none else some (s.failOpening warmUpTimedOut)
  | _ => none

/-- A caller begins to disconnect. -/
def disconnect? (s : Session) (caller : Nat) : Option Session :=
  if s.opening.isDone && (s.calls caller).isNone then
    let (s, phase) := s.beginStop
    some (s.setCall caller (some (.stopping phase)))
  else none

end BrokerLink.Session
