/-!
# Configuration

Where a client connects, how it names itself, how long it waits, and how many items
its queues hold.
-/

namespace BrokerLink

/-- The settings of a client. -/
structure ClientConfig where
  host : String := "127.0.0.1"
  port : UInt16 := 7497
  clientId : Int32 := 0
  /-- Offered behind the versions in the first message. -/
  connectOptions : String := ""
  /-- Sent with the first request to servers that know it. -/
  optionalCapabilities : String := ""
  /-- How long the warm-up may take. -/
  handshakeTimeoutMs : UInt64 := 10000
  /-- Requests that wait to be written. -/
  outboundCapacity : UInt64 := 10
  /-- Frames that wait to be decoded. -/
  frameCapacity : UInt64 := 100
  /-- Notices that wait to be told. -/
  noticeCapacity : UInt64 := 10
  deriving DecidableEq, Repr, Inhabited

end BrokerLink
