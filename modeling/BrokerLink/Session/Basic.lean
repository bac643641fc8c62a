import BrokerLink.Config
import BrokerLink.Connection.Handshake
import BrokerLink.Event
import BrokerLink.Request

/-!
# Sessions

Behind a connected client three tasks run side by side. The receiver takes frames from
the connection and queues them. The teller decodes queued frames, tells their events to
the observer, and notices the end of the warm-up. The sender takes requests from a
queue and writes them; what it cannot send it reports through a queue of notices, which
the teller prefers to frames. Callers submit requests, draw ids, and disconnect.

A session is the state that all of them share, and how far each has come with what it
is doing, so that between any two steps of one any of the others may go. What can be
seen from outside is kept in order in the log.
-/

namespace BrokerLink

/-- How far a client is connected. -/
inductive LinkState where
  | disconnected
  | connecting
  | connected
  deriving DecidableEq, Repr

def LinkState.name : LinkState → String
  | disconnected => "Disconnected"
  | connecting => "Connecting"
  | connected => "Connected"

/-- What has been seen of the two events that end the warm-up. -/
structure WarmUp where
  sawId : Bool := false
  sawAccounts : Bool := false
  isDone : Bool := false
  deriving DecidableEq, Repr

/-- A single thing that the teller does on account of an event. -/
inductive Chore where
  /-- Makes sure that the next id is no less than this one. -/
  | raise (id : Int32)
  | tell (event : Event)
  /-- Marks the link as connected. -/
  | connect
  /-- Lets the opening call return. -/
  | signal

/-- What the receiver is doing. -/
inductive Receiving where
  | reading
  /-- It has a frame to queue. -/
  | holding (payload : List UInt8)
  | ended

/-- What the teller is doing. -/
inductive Telling where
  /-- It has chores to do before it looks for anything new. -/
  | working (warmUp : WarmUp) (chores : List Chore)
  /-- There are no more frames, and the link is marked as disconnected. -/
  | closing
  | ended

/-- What the sender is doing. -/
inductive Sending where
  | idle
  /-- It has taken a frame, and looks whether the link is connected. -/
  | holding (bytes : List UInt8)
  | writing (bytes : List UInt8)
  /-- It has a notice to queue. -/
  | complaining (notice : LinkError)
  | ended

/-- How far a call to disconnect has come. Only the `first` such call stops the tasks. -/
inductive Stopping where
  | begun (first : Bool)
  /-- The link is marked as disconnected. -/
  | marked (first : Bool)
  /-- The tasks have been told to stop, and the call waits for them. -/
  | awaiting

/-- How far the call that opened the session has come. -/
inductive Opening where
  /-- It waits for the end of the warm-up. -/
  | waiting
  /-- It disconnects, and will fail. -/
  | stopping (phase : Stopping) (error : LinkError)
  | done
  | failed (error : LinkError)

/-- What a caller does when the queue of requests is full. -/
inductive Patience where
  | waits
  | tries
  deriving DecidableEq, Repr

/-- What a caller is doing. -/
inductive Call where
  /-- It has a frame to queue. -/
  | submitting (patience : Patience) (id : Int32) (bytes : List UInt8)
  | stopping (phase : Stopping)

/-- What can be seen of a session from outside. -/
inductive Report where
  /-- The observer was told an event. -/
  | told (event : Event)
  /-- The opening call returned. -/
  | opened
  | openFailed (error : LinkError)
  /-- A submission was accepted, and its frame queued. -/
  | accepted (caller : Nat) (bytes : List UInt8)
  | rejected (caller : Nat) (error : LinkError)
  | drew (caller : Nat) (id : Int32)
  /-- A call to disconnect returned. -/
  | stopped (caller : Nat)

namespace Report

def event? : Report → Option Event
  | told e => some e
  | _ => none

def id? : Report → Option Int32
  | drew _ id => some id
  | _ => none

/-- What became of a submission. -/
def result? : Report → Option (Except LinkError (List UInt8))
  | accepted _ bytes => some (.ok bytes)
  | rejected _ e => some (.error e)
  | _ => none

end Report

def Receiving.isEnded : Receiving → Bool
  | ended => true
  | _ => false

def Telling.isEnded : Telling → Bool
  | ended => true
  | _ => false

def Sending.isEnded : Sending → Bool
  | ended => true
  | _ => false

def Opening.isDone : Opening → Bool
  | done => true
  | _ => false

/-- The shared state of a session, and how far everyone has come. -/
structure Session where
  config : ClientConfig
  server : ServerInfo
  inbound : Inbound
  outbound : Outbound
  link : LinkState := .connecting
  nextId : Int32 := 0
  /-- Received and not yet decoded. -/
  frames : List (List UInt8) := []
  notices : List LinkError := []
  /-- Accepted and not yet taken by the sender. -/
  requests : List (List UInt8) := []
  receiving : Receiving := .reading
  telling : Telling := .working {} []
  sending : Sending := .idle
  /-- The warm-up has ended. -/
  isReady : Bool := false
  /-- The tasks have been told to stop. -/
  isStopping : Bool := false
  /-- A call to disconnect has begun. -/
  isTaken : Bool := false
  opening : Opening := .waiting
  calls : Nat → Option Call := fun _ => none
  log : List Report := []

/-- Whether a queue has room for one more. A queue holds at least one. -/
def hasRoom {α : Type} (capacity : UInt64) (queue : List α) : Bool :=
  decide (queue.length < max 1 capacity.toNat)

namespace Session

/-- Shakes hands, sends the first request, and starts the tasks. -/
def start (config : ClientConfig) (c : Connection) : Outcome Session × Connection :=
  match c.handshake config.connectOptions with
  | (.failed e, c) => (.failed e, c)
  | (.waiting, c) => (.waiting, c)
  | (.done server, c) =>
    match (Request.startApi config.clientId config.optionalCapabilities).frame server.version with
    | .error e => (.failed e, c)
    | .ok frame =>
      match c.outbound.writeFrame frame.bytes with
      | .error e => (.failed e, c)
      | .ok outbound =>
        (.done { config, server, inbound := c.inbound, outbound }, { c with outbound })

def report (s : Session) (r : Report) : Session := { s with log := s.log ++ [r] }

/-- The observer is told an event. -/
def tell (s : Session) (e : Event) : Session := s.report (.told e)

/-- The events that the observer was told. -/
def told (s : Session) : List Event := s.log.filterMap Report.event?

def setCall (s : Session) (caller : Nat) (call : Option Call) : Session :=
  { s with calls := fun c => if c = caller then call else s.calls c }

/-- Whether all three tasks have come to an end. -/
def hasStopped (s : Session) : Bool :=
  s.receiving.isEnded && s.telling.isEnded && s.sending.isEnded

/-- The client as a text. -/
def summary (s : Session) : String :=
  "IBClient \x7b client_id: " ++ toString s.config.clientId ++ ", server_version: "
    ++ toString s.server.version ++ ", state: " ++ s.link.name ++ " \x7d"

end Session
end BrokerLink
