import BrokerLink.Session.Basic

/-!
# The sender

It takes one request after the other from the queue and writes each whole. A request
that it takes while the link is not connected is not written; a notice says so. Told to
stop, it stops unless it has a notice to queue, and a frame it has not written then is
lost.
-/

namespace BrokerLink.Session

def endSending (s : Session) : Session :=
  { s with outbound := s.outbound.shutDown, sending := .ended }

/-- The next step of the sender, if it can take one. -/
def sender? (s : Session) : Option Session :=
  match s.sending with
  | .ended => none
  | .idle =>
    if s.isStopping then some s.endSending
    else
      match s.requests with
      | bytes :: requests => some { s with requests, sending := .holding bytes }
      | [] => none
  | .holding bytes =>
    if s.link = .connected then some { s with sending := .writing bytes }
    else some { s with sending := .complaining (.notConnected noId) }
  | .writing bytes =>
    if s.isStopping then some s.endSending
    else
      match s.outbound.writeFrame bytes with
      | .ok outbound => some { s with outbound, sending := .idle }
      | .error e => some { s with sending := .complaining e }
  | .complaining notice =>
    if s.telling.isEnded then some { s with sending := .idle }
    else if hasRoom s.config.noticeCapacity s.notices then
      some { s with notices := s.notices ++ [notice], sending := .idle }
    else none

end BrokerLink.Session
