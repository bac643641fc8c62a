import BrokerLink.Config
import BrokerLink.Json.Record

/-!
# The form of a configuration
-/

namespace BrokerLink

open Member

def ClientConfig.form : RecordForm ClientConfig where
  members :=
    [required "host" (·.host) fun s v => { s with host := v },
     required "port" (·.port) fun s v => { s with port := v },
     required "clientId" (·.clientId) fun s v => { s with clientId := v },
     required "connectOptions" (·.connectOptions) fun s v => { s with connectOptions := v },
     required "optionalCapabilities" (·.optionalCapabilities) fun s v =>
       { s with optionalCapabilities := v },
     required "handshakeTimeoutMs" (·.handshakeTimeoutMs) fun s v =>
       { s with handshakeTimeoutMs := v },
     required "outboundCapacity" (·.outboundCapacity) fun s v => { s with outboundCapacity := v },
     required "frameCapacity" (·.frameCapacity) fun s v => { s with frameCapacity := v },
     required "noticeCapacity" (·.noticeCapacity) fun s v => { s with noticeCapacity := v }]
  base := {}
  isPartial := true

instance : JsonForm ClientConfig := ClientConfig.form.toForm

end BrokerLink
