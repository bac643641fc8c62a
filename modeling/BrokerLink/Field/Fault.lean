import BrokerLink.Numeral.Decimal.Reading
import BrokerLink.Text.Utf8

/-!
# Faults of a record

Everything that can be wrong with a record, by cause. The wording of each is in
`ReadFault.message`.
-/

namespace BrokerLink

/-- Why a record could not be read. -/
inductive ReadFault where
  /-- No field is left. -/
  | endOfRecord
  /-- The last field has no terminating zero byte. -/
  | unterminated
  | notText (fault : Utf8.Fault)
  | notInt32 (text : String) (fault : Numeral.WholeFault)
  | notInt64 (text : String) (fault : Numeral.WholeFault)
  | notFloat (text : String)
  | notDecimal (text : String) (fault : Decimal.Fault)
  | negativeCount (count : Int)
  /-- A list cannot have more entries than there are bytes left. -/
  | countTooLarge (count : Nat)
  | unknownTickType (code : Int)
  | unknownCondition (code : Int)
  /-- Bytes are left after the last field of the record. -/
  | unread (bytes : Nat)
  /-- Bytes are left after a record of a known kind. -/
  | unreadInRecord (kind : Int) (bytes : Nat)
  deriving DecidableEq, Repr

namespace ReadFault

def message : ReadFault → String
  | endOfRecord => "unexpected end of message"
  | unterminated => "field not null-terminated"
  | notText fault => "invalid UTF-8: " ++ fault.message
  | notInt32 text fault => "invalid i32 '" ++ text ++ "': " ++ fault.message
  | notInt64 text fault => "invalid i64 '" ++ text ++ "': " ++ fault.message
  | notFloat text => "invalid f64 '" ++ text ++ "': invalid float literal"
  | notDecimal text fault => "invalid Decimal '" ++ text ++ "': " ++ fault.message
  | negativeCount count => "negative item count " ++ toString count
  | countTooLarge count => "item count " ++ toString count ++ " exceeds record"
  | unknownTickType code => "unknown tick type " ++ toString code
  | unknownCondition code => "unknown order condition type " ++ toString code
  | unread bytes => toString bytes ++ " unread bytes at end of record"
  | unreadInRecord kind bytes =>
    "message kind " ++ toString kind ++ ": Decoding error: " ++ toString bytes
      ++ " unread bytes at end of record"

end ReadFault
end BrokerLink
