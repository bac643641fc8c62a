import BrokerLink.Config
import BrokerLink.Connection.Handshake
import BrokerLink.Connection.Inbound
import BrokerLink.Connection.Outbound
import BrokerLink.Directory
import BrokerLink.Error
import BrokerLink.Event
import BrokerLink.Execution
import BrokerLink.Field.Fault
import BrokerLink.Field.Read
import BrokerLink.Field.Reader
import BrokerLink.Field.Text
import BrokerLink.Frame
import BrokerLink.Instrument
import BrokerLink.Instrument.Vocabulary
import BrokerLink.Json
import BrokerLink.Json.Bits
import BrokerLink.Json.Config
import BrokerLink.Json.Event
import BrokerLink.Json.Form
import BrokerLink.Json.Instrument
import BrokerLink.Json.Market
import BrokerLink.Json.Order
import BrokerLink.Json.Reading
import BrokerLink.Json.Record
import BrokerLink.Json.Request
import BrokerLink.Json.Writing
import BrokerLink.Market
import BrokerLink.MarketCode
import BrokerLink.Numeral.Binary64
import BrokerLink.Numeral.Binary64.Reading
import BrokerLink.Numeral.Binary64.Rounding
import BrokerLink.Numeral.Binary64.Shortest
import BrokerLink.Numeral.Decimal
import BrokerLink.Numeral.Decimal.Reading
import BrokerLink.Numeral.Digit
import BrokerLink.Numeral.Whole
import BrokerLink.Order
import BrokerLink.Order.Condition
import BrokerLink.Order.Vocabulary
import BrokerLink.Proofs.Stream
import BrokerLink.Record
import BrokerLink.Record.Account
import BrokerLink.Record.Connection
import BrokerLink.Record.Contract
import BrokerLink.Record.Desk
import BrokerLink.Record.Execution
import BrokerLink.Record.History
import BrokerLink.Record.Instrument
import BrokerLink.Record.Kind
import BrokerLink.Record.MarketData
import BrokerLink.Record.News
import BrokerLink.Record.Order
import BrokerLink.Record.Order.Section
import BrokerLink.Record.Part
import BrokerLink.Record.Scanner
import BrokerLink.Request
import BrokerLink.Request.Contract
import BrokerLink.Request.Order
import BrokerLink.Request.Order.Gate
import BrokerLink.Request.Order.Section
import BrokerLink.Request.Query
import BrokerLink.Request.Requirement
import BrokerLink.Session.Basic
import BrokerLink.Session.Calling
import BrokerLink.Session.Move
import BrokerLink.Session.Receiving
import BrokerLink.Session.Rest
import BrokerLink.Session.Sending
import BrokerLink.Session.Stopping
import BrokerLink.Session.Telling
import BrokerLink.Session.Turn
import BrokerLink.Text.Blank
import BrokerLink.Text.Utf8
import BrokerLink.Version
import BrokerLink.Vocabulary
import BrokerLink.Frame.Draft
import BrokerLink.Proofs.FrameFormat
import BrokerLink.Proofs.RecordEnd
import BrokerLink.Proofs.ReaderResult
import BrokerLink.Proofs.EventKind
import BrokerLink.Proofs.WarmUp
import BrokerLink.Proofs.Steps
import BrokerLink.Proofs.Unattended
import BrokerLink.Proofs.SessionTrace
import BrokerLink.Proofs.TypedFields
import BrokerLink.Proofs.Lexicon
import BrokerLink.Proofs.PlacedAlike
import BrokerLink.Proofs.ResetAttribute
import BrokerLink.Proofs.CompletedOrder
import BrokerLink.Proofs.PlainReader
import BrokerLink.Proofs.ListRoom
import BrokerLink.Proofs.Outgoing
import BrokerLink.Proofs.Submissions
import BrokerLink.Proofs.AnswerOrder
import BrokerLink.Proofs.Delivery
import BrokerLink.Proofs.Gating
import BrokerLink.Proofs.DrawnIds
import BrokerLink.Proofs.Chores
import BrokerLink.Proofs.WarmUpStage
import BrokerLink.Proofs.Disconnecting
import BrokerLink.Proofs.LinkHistory
import BrokerLink.Proofs.Shutdown
import BrokerLink.Proofs.HandshakeReply
import BrokerLink.Proofs.CursorPosition
import BrokerLink.Proofs.ConditionList
import BrokerLink.Proofs.ClearedNumbers
import BrokerLink.Proofs.UnsetInOrders
import BrokerLink.Proofs.UnsetInEvents
import BrokerLink.Proofs.FieldReads
import BrokerLink.Proofs.Combination
import BrokerLink.Proofs.StrategySections
import BrokerLink.Proofs.NumberText
import BrokerLink.Proofs.FieldsTaken
import BrokerLink.Proofs.ListRecords
import BrokerLink.Proofs.RecordEvents
import BrokerLink.Proofs.LowestGate
import BrokerLink.Proofs.ComputedValues
import BrokerLink.Proofs.DecodedOrders
import BrokerLink.Proofs.QuantityField
import BrokerLink.Proofs.WordSections
