import BrokerLink.Connection.Inbound
import BrokerLink.Connection.Outbound
import BrokerLink.Field.Read

/-!
# The handshake

The client says hello before it looks at anything it receives. The first frame of the
server answers: the version it will speak and the time of the connection, or a
negative number and where to connect instead. Fields behind the second do not matter,
and bytes behind the frame stay for what follows.
-/

namespace BrokerLink

/-- What a server says of itself. -/
structure ServerInfo where
  version : Version
  connectionTime : String
  deriving DecidableEq, Repr

namespace ServerInfo

def unsupported (version : Int32) : LinkError :=
  .client noId .unsupportedVersion ("server version " ++ toString version)

/-- The text of the field behind the version, empty if there is none. -/
def remark (bs : List UInt8) : Except ReadFault String :=
  if bs.isEmpty then .ok "" else (Reader.string.run bs).1

/-- Reads the answer to the hello. -/
def ofPayload (payload : List UInt8) : Except LinkError ServerInfo :=
  match Reader.int32.run payload with
  | (.error fault, _) => .error (.decoding fault)
  | (.ok version, rest) =>
    if version = 0 ∨ Version.newest < version.toInt then .error (unsupported version)
    else
      match remark rest with
      | .error fault => .error (.decoding fault)
      | .ok text =>
        if version < 0 then .error (.redirected text) else .ok ⟨version.toInt, text⟩

end ServerInfo

/-- The two sides of a connection. -/
structure Connection where
  inbound : Inbound := {}
  outbound : Outbound := {}
  deriving DecidableEq, Repr

/-- Says hello, and reads the answer if enough of it has come. -/
def Connection.handshake (options : String) (c : Connection) : Outcome ServerInfo × Connection :=
  match hello options with
  | .error fault => (.failed (.encoding fault), c)
  | .ok greeting =>
    match c.outbound.write greeting with
    | .error e => (.failed e, c)
    | .ok outbound =>
      let (reply, inbound) := c.inbound.next
      (reply.thenTry ServerInfo.ofPayload, { inbound, outbound })

end BrokerLink
