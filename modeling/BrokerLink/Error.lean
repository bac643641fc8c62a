import BrokerLink.Frame

/-!
# Errors of a link

What can go wrong between a client and a server, by cause. Faults that the client
itself finds have a number in a catalogue of their own, and a text to which a detail
may be added.
-/

namespace BrokerLink

/-- The catalogue of faults that the client finds. -/
inductive ClientFault where
  | alreadyConnected
  | connectFailed
  | serverOutdated
  | notConnected
  | unknownId
  | unsupportedVersion
  | badLength
  | badMessage
  | socketFailure
  | socketNotCreated
  | secureLayer
  deriving DecidableEq, Repr

namespace ClientFault

def all : List ClientFault :=
  [.alreadyConnected, .connectFailed, .serverOutdated, .notConnected, .unknownId,
    .unsupportedVersion, .badLength, .badMessage, .socketFailure, .socketNotCreated, .secureLayer]

def code : ClientFault → Int32
  | alreadyConnected => 501
  | connectFailed => 502
  | serverOutdated => 503
  | notConnected => 504
  | unknownId => 505
  | unsupportedVersion => 506
  | badLength => 507
  | badMessage => 508
  | socketFailure => 509
  | socketNotCreated => 520
  | secureLayer => 530

def message : ClientFault → String
  | alreadyConnected => "Already connected."
  | connectFailed =>
    "Couldn't connect to TWS. Confirm that \"Enable ActiveX and Socket Clients\" is enabled and "
      ++ "connection port is the same as \"Socket Port\" on the TWS "
      ++ "\"Edit->Global Configuration...->API->Settings\" menu."
  | serverOutdated => "The TWS is out of date and must be upgraded."
  | notConnected => "Not connected"
  | unknownId => "Fatal Error: Unknown message id."
  | unsupportedVersion => "Unsupported version"
  | badLength => "Bad message length"
  | badMessage => "Bad message"
  | socketFailure => "Exception caught while reading socket - "
  | socketNotCreated => "Failed to create socket"
  | secureLayer => "SSL specific error: "

/-- The fault with a number. -/
def ofCode? (n : Int32) : Option ClientFault := all.find? fun f => f.code == n

/-- The text of a fault with a detail. -/
def text (f : ClientFault) (detail : String) : String :=
  if detail.isEmpty then f.message else f.message ++ "  " ++ detail

end ClientFault

/-- The id of what concerns no request. -/
def noId : Int32 := -1

/-- What went wrong. -/
inductive LinkError where
  /-- A request cannot be sent as it is. -/
  | encoding (fault : FrameFault)
  /-- A record cannot be read. -/
  | decoding (fault : ReadFault)
  /-- The server sends the client elsewhere. -/
  | redirected (target : String)
  /-- The client itself found a fault, in the request with an id or in none. -/
  | client (id : Int32) (fault : ClientFault) (detail : String)
  /-- Nothing more can be queued for sending. -/
  | queueFull
  | disconnected (reason : String)
  deriving DecidableEq, Repr

namespace LinkError

def message : LinkError → String
  | encoding fault => "Encoding error: " ++ fault.message
  | decoding fault => "Decoding error: " ++ fault.message
  | redirected target => "Protocol error: server redirect to '" ++ target ++ "'"
  | client id fault detail =>
    "Client error (id=" ++ toString id ++ ", code=" ++ toString fault.code ++ "): "
      ++ fault.text detail
  | queueFull => "Outbound queue full"
  | disconnected reason => "Disconnected: " ++ reason

/-- The number of an error that the client found. -/
def code? : LinkError → Option Int32
  | client _ fault _ => some fault.code
  | _ => none

/-- The server is too old for a feature. -/
def unsupported (id : Int32) (feature : String) : LinkError :=
  client id .serverOutdated ("It does not support " ++ feature ++ ".")

def notConnected (id : Int32) : LinkError := client id .notConnected ""

end LinkError

/-- What an attempt comes to that may have to wait for the peer. -/
inductive Outcome (α : Type) where
  | done (a : α)
  | failed (error : LinkError)
  /-- The peer has sent too little, and may send more. -/
  | waiting
  deriving DecidableEq, Repr

/-- Goes on with what is done. -/
def Outcome.thenTry {α β : Type} (o : Outcome α) (next : α → Except LinkError β) : Outcome β :=
  match o with
  | done a =>
    match next a with
    | .ok b => .done b
    | .error e => .failed e
  | failed e => .failed e
  | waiting => .waiting

end BrokerLink
