import BrokerLink.Instrument
import BrokerLink.Json.Record

/-!
# Forms of instruments
-/

namespace BrokerLink

open Member

instance : JsonForm SecType := JsonForm.ofWord

instance : JsonForm Right := JsonForm.ofWord

instance : JsonForm Action := JsonForm.ofWord

instance : JsonForm LegOpenClose := JsonForm.ofCoded

def TagValue.form : RecordForm TagValue where
  members :=
    [required "tag" (·.tag) fun s v => { s with tag := v },
     required "value" (·.value) fun s v => { s with value := v }]
  base := ⟨"", ""⟩

instance : JsonForm TagValue := TagValue.form.toForm

def ComboLeg.form : RecordForm ComboLeg where
  members :=
    [required "conId" (·.contractId) fun s v => { s with contractId := v },
     required "ratio" (·.ratio) fun s v => { s with ratio := v },
     omittable "action" (·.action) fun s v => { s with action := v },
     required "exchange" (·.exchange) fun s v => { s with exchange := v },
     required "openClose" (·.openClose) fun s v => { s with openClose := v },
     required "shortSaleSlot" (·.shortSaleSlot) fun s v => { s with shortSaleSlot := v },
     required "designatedLocation" (·.designatedLocation) fun s v =>
       { s with designatedLocation := v },
     required "exemptCode" (·.exemptCode) fun s v => { s with exemptCode := v }]
  base := {}

instance : JsonForm ComboLeg := ComboLeg.form.toForm

def DeltaNeutralContract.form : RecordForm DeltaNeutralContract where
  members :=
    [required "conId" (·.contractId) fun s v => { s with contractId := v },
     required "delta" (·.delta) fun s v => { s with delta := v },
     required "price" (·.price) fun s v => { s with price := v }]
  base := {}

instance : JsonForm DeltaNeutralContract := DeltaNeutralContract.form.toForm

def Contract.form : RecordForm Contract where
  members :=
    [required "conId" (·.contractId) fun s v => { s with contractId := v },
     required "symbol" (·.symbol) fun s v => { s with symbol := v },
     omittable "secType" (·.secType) fun s v => { s with secType := v },
     required "lastTradeDateOrContractMonth" (·.lastTradeDate) fun s v =>
       { s with lastTradeDate := v },
     omittable "strike" (·.strike) fun s v => { s with strike := v },
     omittable "right" (·.right) fun s v => { s with right := v },
     required "multiplier" (·.multiplier) fun s v => { s with multiplier := v },
     required "exchange" (·.exchange) fun s v => { s with exchange := v },
     required "primaryExchange" (·.primaryExchange) fun s v => { s with primaryExchange := v },
     required "currency" (·.currency) fun s v => { s with currency := v },
     required "localSymbol" (·.localSymbol) fun s v => { s with localSymbol := v },
     required "tradingClass" (·.tradingClass) fun s v => { s with tradingClass := v },
     required "includeExpired" (·.includeExpired) fun s v => { s with includeExpired := v },
     required "secIdType" (·.secIdType) fun s v => { s with secIdType := v },
     required "secId" (·.secId) fun s v => { s with secId := v },
     required "comboLegsDescrip" (·.comboLegsDescription) fun s v =>
       { s with comboLegsDescription := v },
     listed "comboLegs" (·.comboLegs) fun s v => { s with comboLegs := v },
     omittable "deltaNeutralContract" (·.deltaNeutral) fun s v => { s with deltaNeutral := v }]
  base := {}

instance : JsonForm Contract := Contract.form.toForm

def ContractDetails.form : RecordForm ContractDetails where
  members :=
    [required "contract" (·.contract) fun s v => { s with contract := v },
     required "marketName" (·.marketName) fun s v => { s with marketName := v },
     required "minTick" (·.minTick) fun s v => { s with minTick := v },
     required "orderTypes" (·.orderTypes) fun s v => { s with orderTypes := v },
     required "validExchanges" (·.validExchanges) fun s v => { s with validExchanges := v },
     required "priceMagnifier" (·.priceMagnifier) fun s v => { s with priceMagnifier := v },
     required "underConId" (·.underContractId) fun s v => { s with underContractId := v },
     required "longName" (·.longName) fun s v => { s with longName := v },
     required "contractMonth" (·.contractMonth) fun s v => { s with contractMonth := v },
     required "industry" (·.industry) fun s v => { s with industry := v },
     required "category" (·.category) fun s v => { s with category := v },
     required "subcategory" (·.subcategory) fun s v => { s with subcategory := v },
     required "timeZoneId" (·.timeZoneId) fun s v => { s with timeZoneId := v },
     required "tradingHours" (·.tradingHours) fun s v => { s with tradingHours := v },
     required "liquidHours" (·.liquidHours) fun s v => { s with liquidHours := v },
     required "evRule" (·.evRule) fun s v => { s with evRule := v },
     omittable "evMultiplier" (·.evMultiplier) fun s v => { s with evMultiplier := v },
     omittable "mdSizeMultiplier" (·.sizeMultiplier) fun s v => { s with sizeMultiplier := v },
     omittable "aggGroup" (·.aggregationGroup) fun s v => { s with aggregationGroup := v },
     required "underSymbol" (·.underSymbol) fun s v => { s with underSymbol := v },
     required "underSecType" (·.underSecType) fun s v => { s with underSecType := v },
     required "marketRuleIds" (·.marketRuleIds) fun s v => { s with marketRuleIds := v },
     required "realExpirationDate" (·.realExpirationDate) fun s v =>
       { s with realExpirationDate := v },
     required "lastTradeTime" (·.lastTradeTime) fun s v => { s with lastTradeTime := v },
     required "stockType" (·.stockType) fun s v => { s with stockType := v },
     listed "secIdList" (·.secIds) fun s v => { s with secIds := v },
     required "cusip" (·.bond.cusip) fun s v => { s with bond.cusip := v },
     required "ratings" (·.bond.ratings) fun s v => { s with bond.ratings := v },
     required "descAppend" (·.bond.descAppend) fun s v => { s with bond.descAppend := v },
     required "bondType" (·.bond.bondType) fun s v => { s with bond.bondType := v },
     required "couponType" (·.bond.couponType) fun s v => { s with bond.couponType := v },
     required "callable" (·.bond.callable) fun s v => { s with bond.callable := v },
     required "putable" (·.bond.putable) fun s v => { s with bond.putable := v },
     required "coupon" (·.bond.coupon) fun s v => { s with bond.coupon := v },
     required "convertible" (·.bond.convertible) fun s v => { s with bond.convertible := v },
     required "maturity" (·.bond.maturity) fun s v => { s with bond.maturity := v },
     required "issueDate" (·.bond.issueDate) fun s v => { s with bond.issueDate := v },
     required "nextOptionDate" (·.bond.nextOptionDate) fun s v =>
       { s with bond.nextOptionDate := v },
     required "nextOptionType" (·.bond.nextOptionType) fun s v =>
       { s with bond.nextOptionType := v },
     required "nextOptionPartial" (·.bond.nextOptionPartial) fun s v =>
       { s with bond.nextOptionPartial := v },
     required "notes" (·.bond.notes) fun s v => { s with bond.notes := v }]
  base := {}

instance : JsonForm ContractDetails := ContractDetails.form.toForm

def ContractDescription.form : RecordForm ContractDescription where
  members :=
    [required "contract" (·.contract) fun s v => { s with contract := v },
     required "derivativeSecTypes" (·.derivativeSecTypes) fun s v =>
       { s with derivativeSecTypes := v }]
  base := {}

instance : JsonForm ContractDescription := ContractDescription.form.toForm

def PriceIncrement.form : RecordForm PriceIncrement where
  members :=
    [required "lowEdge" (·.lowEdge) fun s v => { s with lowEdge := v },
     required "increment" (·.increment) fun s v => { s with increment := v }]
  base := ⟨.zero, .zero⟩

instance : JsonForm PriceIncrement := PriceIncrement.form.toForm

def SmartComponent.form : RecordForm SmartComponent where
  members :=
    [required "bitNumber" (·.bitNumber) fun s v => { s with bitNumber := v },
     required "exchange" (·.exchange) fun s v => { s with exchange := v },
     required "exchangeLetter" (·.exchangeLetter) fun s v => { s with exchangeLetter := v }]
  base := ⟨0, "", ""⟩

instance : JsonForm SmartComponent := SmartComponent.form.toForm

end BrokerLink
