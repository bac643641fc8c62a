import BrokerLink.Error
import BrokerLink.Record.Account
import BrokerLink.Record.Connection
import BrokerLink.Record.Desk
import BrokerLink.Record.Execution
import BrokerLink.Record.History
import BrokerLink.Record.Instrument
import BrokerLink.Record.Kind
import BrokerLink.Record.News
import BrokerLink.Record.Order
import BrokerLink.Record.Scanner

/-!
# Records

The payload of a frame that the server sent is a record: the number of its kind, and
the fields of that kind at the version of the server. A record of a known kind must
be read to its end. A record of an unknown kind tells nothing, but its fields must
still be text.
-/

namespace BrokerLink
namespace Record

open Reader

/-- The events of a record of a kind. -/
def events (version : Version) : RecordKind → Reader (List Event)
  | .tickPrice => tickPrice version
  | .tickSize => one tickSize
  | .orderStatus => one (orderStatus version)
  | .error => one error
  | .openOrder => one (openOrder version)
  | .accountValue => one accountValue
  | .portfolioValue => one portfolioValue
  | .accountUpdateTime => one accountUpdateTime
  | .nextValidId => one nextValidId
  | .contractData => one (contractData version)
  | .executionData => one (executionData version)
  | .marketDepth => one marketDepth
  | .marketDepthL2 => one (marketDepthL2 version)
  | .newsBulletins => one newsBulletins
  | .managedAccounts => one managedAccounts
  | .advisorDocument => one advisorDocument
  | .historicalData => historicalData version
  | .bondContractData => one (bondContractData version)
  | .scannerParameters => one scannerParameters
  | .scannerData => scannerData
  | .tickOptionComputation => one (tickOptionComputation version)
  | .tickGeneric => one tickGeneric
  | .tickString => one tickString
  | .tickEfp => one tickEfp
  | .currentTime => one currentTime
  | .realTimeBars => one realTimeBars
  | .fundamentalData => one fundamentalData
  | .contractDataEnd => one contractDataEnd
  | .openOrderEnd => one (do skip; return .openOrderEnd)
  | .accountDownloadEnd => one accountDownloadEnd
  | .executionDataEnd => one executionDataEnd
  | .deltaNeutralValidation => one deltaNeutralValidation
  | .tickSnapshotEnd => one tickSnapshotEnd
  | .marketDataType => one marketDataType
  | .commissionReport => one commissionReport
  | .positionData => one positionData
  | .positionEnd => one positionEnd
  | .accountSummary => one accountSummary
  | .accountSummaryEnd => one accountSummaryEnd
  | .verifyMessage => one verifyMessage
  | .verifyCompleted => one verifyCompleted
  | .displayGroupList => one displayGroupList
  | .displayGroupUpdated => one displayGroupUpdated
  | .verifyAndAuthMessage => one verifyAndAuthMessage
  | .verifyAndAuthCompleted => one verifyAndAuthCompleted
  | .positionMulti => one positionMulti
  | .positionMultiEnd => one positionMultiEnd
  | .accountUpdateMulti => one accountUpdateMulti
  | .accountUpdateMultiEnd => one accountUpdateMultiEnd
  | .optionChain => one optionChain
  | .optionChainEnd => one optionChainEnd
  | .softDollarTiers => one softDollarTiers
  | .familyCodes => one familyCodes
  | .symbolSamples => one symbolSamples
  | .marketDepthExchanges => one (marketDepthExchanges version)
  | .tickRequestParams => one tickRequestParams
  | .smartComponents => one smartComponents
  | .newsArticle => one newsArticle
  | .tickNews => one tickNews
  | .newsProviders => one newsProviders
  | .historicalNews => one historicalNews
  | .historicalNewsEnd => one historicalNewsEnd
  | .headTimestamp => one headTimestamp
  | .histogramData => one histogramData
  | .historicalDataUpdate => one historicalDataUpdate
  | .rerouteMarketData => one rerouteMarketData
  | .rerouteMarketDepth => one rerouteMarketDepth
  | .marketRule => one marketRule
  | .profitAndLoss => one (profitAndLoss version)
  | .profitAndLossSingle => one (profitAndLossSingle version)
  | .historicalTicks => one historicalTicks
  | .historicalTicksBidAsk => one historicalTicksBidAsk
  | .historicalTicksLast => one historicalTicksLast
  | .tickByTick => tickByTick
  | .orderBound => one orderBound
  | .completedOrder => one (completedOrder version)
  | .completedOrdersEnd => one (return .completedOrdersEnd)
  | .advisorReplacementEnd => one advisorReplacementEnd

/-- The fault that ends the passing over of fields, if one of them is no text. -/
def passOver (bs : List UInt8) : Option ReadFault :=
  if bs.isEmpty then none
  else
    match _h : takeField bs with
    | .error fault => some fault
    | .ok (_, rest) => passOver rest
termination_by bs.length
decreasing_by exact (takeField_suffix ‹_›).2

/-- The first field is passed over, whatever it says. -/
theorem passOver_of_takeField {bs rest : List UInt8} {s : String}
    (h : takeField bs = .ok (s, rest)) : passOver bs = passOver rest := by
  have hne : ¬ bs.isEmpty = true := by
    intro he
    rw [List.isEmpty_iff.mp he] at h
    cases h
  rw [passOver, if_neg hne]
  split <;> simp_all

theorem passOver_of_fault {bs : List UInt8} {fault : ReadFault} (he : ¬ bs.isEmpty = true)
    (h : takeField bs = .error fault) : passOver bs = some fault := by
  rw [passOver, if_neg he]
  split <;> simp_all

/-- The events of a record whose kind has been read from in front of the bytes. -/
def eventsOf (guarded : Bool) (version : Version) (kind : Int32) (bs : List UInt8) :
    Except ReadFault (List Event) :=
  match RecordKind.ofCode? kind with
  | some k =>
    match runWith guarded (events version k) bs with
    | (.error fault, _) => .error fault
    | (.ok es, rest) =>
      if rest.isEmpty then .ok es else .error (.unreadInRecord kind.toInt rest.length)
  | none =>
    match passOver bs with
    | some fault => .error fault
    | none => .ok []

/-- The events of a record. With `guarded` off, a list may claim more entries than there are bytes
left. -/
def decodeWith (guarded : Bool) (version : Version) (payload : List UInt8) :
    Except ReadFault (List Event) :=
  match runWith guarded int32 payload with
  | (.error fault, _) => .error fault
  | (.ok kind, rest) => eventsOf guarded version kind rest

/-- The events of a record from a server of a version. -/
def decode (version : Version) (payload : List UInt8) : Except ReadFault (List Event) :=
  decodeWith true version payload

end Record
end BrokerLink
