import BrokerLink.Record.Part

/-!
# Records about the desk

The documents of financial advisors, the display groups of a trading screen, and the
verification of a client program.
-/

namespace BrokerLink
namespace Record

open Reader

def advisorDocument : Reader Event := do
  skip
  let code ← int32
  let document ← string
  return .receiveFa code document

def advisorReplacementEnd : Reader Event := do
  let id ← int32
  let text ← string
  return .replaceFaEnd id text

def displayGroupList : Reader Event := do
  let id ← skipThenId
  let groups ← string
  return .displayGroupList id groups

def displayGroupUpdated : Reader Event := do
  let id ← skipThenId
  let contractInfo ← string
  return .displayGroupUpdated id contractInfo

def verifyMessage : Reader Event := do
  skip
  let data ← string
  return .verifyMessageApi data

/-- Success is the word *true*. -/
def success : Reader Bool := do
  let s ← string
  return Text.eqIgnoringCase s "true"

def verifyCompleted : Reader Event := do
  skip
  let isSuccessful ← success
  let errorText ← string
  return .verifyCompleted isSuccessful errorText

def verifyAndAuthMessage : Reader Event := do
  skip
  let data ← string
  let challenge ← string
  return .verifyAndAuthMessageApi data challenge

def verifyAndAuthCompleted : Reader Event := do
  skip
  let isSuccessful ← success
  let errorText ← string
  return .verifyAndAuthCompleted isSuccessful errorText

end Record
end BrokerLink
