import BrokerLink.Instrument

/-!
# Contracts in requests

Requests name a contract by the same fields in the same order. They differ in which
of them they carry.
-/

namespace BrokerLink
namespace Contract

def fields (carried : ContractLayout) (c : Contract) : Fields :=
  ifSupported carried.contractId [fieldText c.contractId]
    ++ [c.symbol, fieldText c.secType, c.lastTradeDate, fieldText c.strike, fieldText c.right]
    ++ ifSupported carried.multiplier [c.multiplier]
    ++ ifSupported carried.exchange [c.exchange]
    ++ ifSupported carried.primaryExchange [c.primaryExchange]
    ++ [c.currency]
    ++ ifSupported carried.localSymbol [c.localSymbol]
    ++ ifSupported carried.tradingClass [c.tradingClass]

/-- Everything that names a contract, and whether it may have expired. -/
def wholeFields (c : Contract) : Fields :=
  c.fields { primaryExchange := true } ++ [fieldText c.includeExpired]

/-- The legs of a combination, only by what they are. -/
def briefLegs (c : Contract) : Fields :=
  if c.isCombo then
    fieldText c.comboLegs.length :: c.comboLegs.flatMap fun leg =>
      [fieldText leg.contractId, fieldText leg.ratio, fieldText leg.action, leg.exchange]
  else []

/-- Whether there is a delta-neutral contract, and the contract. -/
def deltaNeutralFields (c : Contract) : Fields :=
  match c.deltaNeutral with
  | some d => [fieldText true, fieldText d.contractId, fieldText d.delta, fieldText d.price]
  | none => [fieldText false]

/-- Whether a contract is named by its id or by its trading class. -/
def namesClassOrId (c : Contract) : Bool := !c.tradingClass.isEmpty || decide (0 < c.contractId)

end Contract
end BrokerLink
