import BrokerLink.Error

/-!
# The outbound side of a connection

What is written is written whole and in order. A side that was shut down writes
nothing more, and never opens again.
-/

namespace BrokerLink

/-- The outbound side: what has been written, and how many frames of it. -/
structure Outbound where
  sent : List UInt8 := []
  framesWritten : Nat := 0
  isOpen : Bool := true
  deriving DecidableEq, Repr

namespace Outbound

def bytesWritten (o : Outbound) : Nat := o.sent.length

/-- Writes bytes that are not counted as a frame. -/
def write (o : Outbound) (bytes : List UInt8) : Except LinkError Outbound :=
  if o.isOpen then .ok { o with sent := o.sent ++ bytes }
  else .error (.disconnected "writer shut down")

def writeFrame (o : Outbound) (bytes : List UInt8) : Except LinkError Outbound := do
  let o ← o.write bytes
  return { o with framesWritten := o.framesWritten + 1 }

def shutDown (o : Outbound) : Outbound := { o with isOpen := false }

theorem writeFrame_of_isOpen {o : Outbound} (h : o.isOpen = true) (bytes : List UInt8) :
    o.writeFrame bytes
      = .ok { o with sent := o.sent ++ bytes, framesWritten := o.framesWritten + 1 } := by
  simp only [writeFrame, write, h, ↓reduceIte]
  rfl

end Outbound
end BrokerLink
