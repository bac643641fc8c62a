import BrokerLink.Session.Basic

/-!
# The receiver

It takes one frame after the other from the connection and queues each before it takes
the next. Told to stop, it stops as soon as it holds no frame. When the peer is done,
or sends a header that declares a length no payload has, it marks the link as
disconnected and ends.
-/

namespace BrokerLink.Session

/-- The connection has nothing more to give. -/
def loseConnection (s : Session) : Session :=
  { s with link := .disconnected, receiving := .ended }

/-- The next step of the receiver, if it can take one. -/
def receiver? (s : Session) : Option Session :=
  match s.receiving with
  | .ended => none
  | .holding payload =>
    if s.telling.isEnded then some { s with receiving := .ended }
    else if hasRoom s.config.frameCapacity s.frames then
      some { s with frames := s.frames ++ [payload], receiving := .reading }
    else none
  | .reading =>
    if s.isStopping then some { s with receiving := .ended }
    else
      match s.inbound.front with
      | .frame payload rest =>
        some { s with inbound := s.inbound.taken rest, receiving := .holding payload }
      | .refused _ => some s.loseConnection
      | .incomplete =>
        match s.inbound.arriving with
        | portion :: portions =>
          some { s with inbound := { s.inbound.receive portion with arriving := portions } }
        | [] => if s.inbound.isClosed then some s.loseConnection else none

end BrokerLink.Session
