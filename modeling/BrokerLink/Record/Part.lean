import BrokerLink.Event
import BrokerLink.Text.Blank
import BrokerLink.Version

/-!
# Parts of records

What records of several kinds have in common. Many records begin with a number of
their own, the *layout*, which grew as fields were added; newer servers leave it out
where it no longer tells anything, and then the record has every field.
-/

namespace BrokerLink
namespace Record

open Reader

/-- The layout of a record that carries every field. -/
def newestLayout : Int := 2147483647

def layout : Reader Int := do
  let n ← int32
  return n.toInt

/-- The layout, which servers from a version on leave out. -/
def layoutBefore (version since : Version) (absent : Int) : Reader Int :=
  if version < since then layout else done absent

/-- A record of one event. -/
def one (r : Reader Event) : Reader (List Event) := do
  let e ← r
  return [e]

/-- A layout nothing depends on, and the id of a request. -/
def skipThenId : Reader Int32 := do
  skip
  int32

/-- A type of tick, which must be known. -/
def tick : Reader TickType := do
  let n ← int32
  match (Coded.ofCode? n : Option TickType) with
  | some t => return t
  | none => fail (.unknownTickType n.toInt)

/-- A way of triggering; one that is not known is the standard one. -/
def triggerMethod : Reader TriggerMethod := do
  let n ← int32
  return (Coded.ofCode? n).getD .standard

/-- A last trade as date, time of day and zone. -/
def lastTrade : Reader (String × String × String) := do
  let s ← string
  let (date, rest) := Text.nextWord s.toList
  let (time, rest) := Text.nextWord rest
  let (zone, _) := Text.nextWord rest
  return (String.ofList date, String.ofList time, String.ofList zone)

end Record
end BrokerLink
