import BrokerLink.Record
import BrokerLink.Session.Basic

/-!
# The teller

It finishes the chores of one frame before it looks for anything new. Then stopping
comes first, notices second, frames third, and the end of the frames last, which it
tells as a last event. A frame that cannot be decoded is passed over. The warm-up ends
with the first event after which both a next valid id and the managed accounts have been
seen; the link is marked as connected right after that event has been told.
-/

namespace BrokerLink

namespace WarmUp

/-- What has been seen when an event has been told as well. -/
def observe (w : WarmUp) : Event → WarmUp
  | .nextValidId _ => { w with sawId := true }
  | .managedAccounts _ => { w with sawAccounts := true }
  | _ => w

/-- Whether both events have been seen. -/
def isComplete (w : WarmUp) : Bool := w.sawId && w.sawAccounts

/-- What is done on account of an event, and the warm-up after it. -/
def choresOf (w : WarmUp) (e : Event) : List Chore × WarmUp :=
  let raised := match e with
    | .nextValidId id => [Chore.raise id]
    | _ => []
  let w' := w.observe e
  if !w.isDone && w'.isComplete then
    (raised ++ [.tell e, .connect, .tell .connectAck, .signal], { w' with isDone := true })
  else (raised ++ [.tell e], w')

/-- What is done on account of the events of a frame. -/
def chores (w : WarmUp) : List Event → List Chore × WarmUp
  | [] => ([], w)
  | e :: es =>
    let (first, w) := w.choresOf e
    let (rest, w) := chores w es
    (first ++ rest, w)

end WarmUp

namespace Session

def perform (s : Session) : Chore → Session
  | .raise id => { s with nextId := if s.nextId < id then id else s.nextId }
  | .tell e => s.tell e
  | .connect => { s with link := .connected }
  | .signal => { s with isReady := true }

/-- What the teller has to do when it takes a frame: nothing, if the frame cannot be decoded. -/
def tellingOfFrame (s : Session) (warmUp : WarmUp) (payload : List UInt8) : Telling :=
  match Record.decode s.server.version payload with
  | .error _ => .working warmUp []
  | .ok events =>
    let (chores, warmUp) := warmUp.chores events
    .working warmUp chores

/-- The next step of the teller, if it can take one. -/
def teller? (s : Session) : Option Session :=
  match s.telling with
  | .ended => none
  | .closing => some { s.tell .connectionClosed with telling := .ended }
  | .working warmUp (chore :: chores) =>
    some { s.perform chore with telling := .working warmUp chores }
  | .working warmUp [] =>
    if s.isStopping then some { s with telling := .ended }
    else
      match s.notices, s.frames with
      | notice :: notices, _ => some { s.tell (Event.ofError notice) with notices }
      | [], payload :: frames =>
        some { s with frames, telling := s.tellingOfFrame warmUp payload }
      | [], [] =>
        if s.receiving.isEnded then some { s with link := .disconnected, telling := .closing }
        else none

end Session
end BrokerLink
