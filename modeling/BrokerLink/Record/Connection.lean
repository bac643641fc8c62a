import BrokerLink.Record.Part

/-!
# Records about the connection

Errors and notices, the two records with which a server completes the warm-up, and
the server's clock.
-/

namespace BrokerLink
namespace Record

open Reader

/-- An error; in the first layout it names no request. -/
def error : Reader Event := do
  let layout ← layout
  if layout < 2 then
    let message ← string
    return .error noId 0 message
  else
    let id ← int32
    let code ← int32
    let message ← string
    return .error id code message

def nextValidId : Reader Event := do
  skip
  let orderId ← int32
  return .nextValidId orderId

def managedAccounts : Reader Event := do
  skip
  let accounts ← string
  return .managedAccounts (Text.commaList accounts)

def currentTime : Reader Event := do
  skip
  let time ← int64
  return .currentTime time

end Record
end BrokerLink
