import BrokerLink.Event
import BrokerLink.Json.Instrument

/-!
# Forms of market data and directories
-/

namespace BrokerLink

open Member

instance : JsonForm TickType := JsonForm.ofCoded

def Bar.form : RecordForm Bar where
  members :=
    [required "time" (·.time) fun s v => { s with time := v },
     required "open" (·.openPrice) fun s v => { s with openPrice := v },
     required "high" (·.high) fun s v => { s with high := v },
     required "low" (·.low) fun s v => { s with low := v },
     required "close" (·.close) fun s v => { s with close := v },
     required "volume" (·.volume) fun s v => { s with volume := v },
     required "wap" (·.wap) fun s v => { s with wap := v },
     required "count" (·.count) fun s v => { s with count := v }]
  base := {}

instance : JsonForm Bar := Bar.form.toForm

def RealTimeBar.form : RecordForm RealTimeBar where
  members :=
    [required "time" (·.time) fun s v => { s with time := v },
     required "open" (·.openPrice) fun s v => { s with openPrice := v },
     required "high" (·.high) fun s v => { s with high := v },
     required "low" (·.low) fun s v => { s with low := v },
     required "close" (·.close) fun s v => { s with close := v },
     required "volume" (·.volume) fun s v => { s with volume := v },
     required "wap" (·.wap) fun s v => { s with wap := v },
     required "count" (·.count) fun s v => { s with count := v }]
  base := ⟨0, .zero, .zero, .zero, .zero, .zero, .zero, 0⟩

instance : JsonForm RealTimeBar := RealTimeBar.form.toForm

def TickAttributes.form : RecordForm TickAttributes where
  members :=
    [required "canAutoExecute" (·.canAutoExecute) fun s v => { s with canAutoExecute := v },
     required "pastLimit" (·.pastLimit) fun s v => { s with pastLimit := v },
     required "preOpen" (·.preOpen) fun s v => { s with preOpen := v }]
  base := {}

instance : JsonForm TickAttributes := TickAttributes.form.toForm

def QuoteAttributes.form : RecordForm QuoteAttributes where
  members :=
    [required "bidPastLow" (·.bidPastLow) fun s v => { s with bidPastLow := v },
     required "askPastHigh" (·.askPastHigh) fun s v => { s with askPastHigh := v }]
  base := ⟨false, false⟩

instance : JsonForm QuoteAttributes := QuoteAttributes.form.toForm

def TradeAttributes.form : RecordForm TradeAttributes where
  members :=
    [required "pastLimit" (·.pastLimit) fun s v => { s with pastLimit := v },
     required "unreported" (·.unreported) fun s v => { s with unreported := v }]
  base := ⟨false, false⟩

instance : JsonForm TradeAttributes := TradeAttributes.form.toForm

def HistoricalTick.form : RecordForm HistoricalTick where
  members :=
    [required "time" (·.time) fun s v => { s with time := v },
     required "price" (·.price) fun s v => { s with price := v },
     required "size" (·.size) fun s v => { s with size := v }]
  base := ⟨0, .zero, .zero⟩

instance : JsonForm HistoricalTick := HistoricalTick.form.toForm

def HistoricalQuote.form : RecordForm HistoricalQuote where
  members :=
    [required "time" (·.time) fun s v => { s with time := v },
     required "attrib" (·.attributes) fun s v => { s with attributes := v },
     required "priceBid" (·.bidPrice) fun s v => { s with bidPrice := v },
     required "priceAsk" (·.askPrice) fun s v => { s with askPrice := v },
     required "sizeBid" (·.bidSize) fun s v => { s with bidSize := v },
     required "sizeAsk" (·.askSize) fun s v => { s with askSize := v }]
  base := ⟨0, ⟨false, false⟩, .zero, .zero, .zero, .zero⟩

instance : JsonForm HistoricalQuote := HistoricalQuote.form.toForm

def HistoricalTrade.form : RecordForm HistoricalTrade where
  members :=
    [required "time" (·.time) fun s v => { s with time := v },
     required "attrib" (·.attributes) fun s v => { s with attributes := v },
     required "price" (·.price) fun s v => { s with price := v },
     required "size" (·.size) fun s v => { s with size := v },
     required "exchange" (·.exchange) fun s v => { s with exchange := v },
     required "specialConditions" (·.specialConditions) fun s v =>
       { s with specialConditions := v }]
  base := ⟨0, ⟨false, false⟩, .zero, .zero, "", ""⟩

instance : JsonForm HistoricalTrade := HistoricalTrade.form.toForm

def DepthExchange.form : RecordForm DepthExchange where
  members :=
    [required "exchange" (·.exchange) fun s v => { s with exchange := v },
     required "secType" (·.secType) fun s v => { s with secType := v },
     required "listingExch" (·.listingExchange) fun s v => { s with listingExchange := v },
     required "serviceDataType" (·.serviceDataType) fun s v => { s with serviceDataType := v },
     omittable "aggGroup" (·.aggregationGroup) fun s v => { s with aggregationGroup := v }]
  base := ⟨"", "", "", "", none⟩

instance : JsonForm DepthExchange := DepthExchange.form.toForm

def HistogramEntry.form : RecordForm HistogramEntry where
  members :=
    [required "price" (·.price) fun s v => { s with price := v },
     required "size" (·.size) fun s v => { s with size := v }]
  base := ⟨.zero, .zero⟩

instance : JsonForm HistogramEntry := HistogramEntry.form.toForm

def ScannerSubscription.form : RecordForm ScannerSubscription where
  members :=
    [required "numberOfRows" (·.numberOfRows) fun s v => { s with numberOfRows := v },
     required "instrument" (·.instrument) fun s v => { s with instrument := v },
     required "locationCode" (·.locationCode) fun s v => { s with locationCode := v },
     required "scanCode" (·.scanCode) fun s v => { s with scanCode := v },
     nullable "abovePrice" (·.abovePrice) fun s v => { s with abovePrice := v },
     nullable "belowPrice" (·.belowPrice) fun s v => { s with belowPrice := v },
     nullable "aboveVolume" (·.aboveVolume) fun s v => { s with aboveVolume := v },
     nullable "marketCapAbove" (·.marketCapAbove) fun s v => { s with marketCapAbove := v },
     nullable "marketCapBelow" (·.marketCapBelow) fun s v => { s with marketCapBelow := v },
     required "moodyRatingAbove" (·.moodyRatingAbove) fun s v => { s with moodyRatingAbove := v },
     required "moodyRatingBelow" (·.moodyRatingBelow) fun s v => { s with moodyRatingBelow := v },
     required "spRatingAbove" (·.spRatingAbove) fun s v => { s with spRatingAbove := v },
     required "spRatingBelow" (·.spRatingBelow) fun s v => { s with spRatingBelow := v },
     required "maturityDateAbove" (·.maturityDateAbove) fun s v =>
       { s with maturityDateAbove := v },
     required "maturityDateBelow" (·.maturityDateBelow) fun s v =>
       { s with maturityDateBelow := v },
     nullable "couponRateAbove" (·.couponRateAbove) fun s v => { s with couponRateAbove := v },
     nullable "couponRateBelow" (·.couponRateBelow) fun s v => { s with couponRateBelow := v },
     required "excludeConvertible" (·.excludeConvertible) fun s v =>
       { s with excludeConvertible := v },
     nullable "averageOptionVolumeAbove" (·.averageOptionVolumeAbove) fun s v =>
       { s with averageOptionVolumeAbove := v },
     required "scannerSettingPairs" (·.settingPairs) fun s v => { s with settingPairs := v },
     required "stockTypeFilter" (·.stockTypeFilter) fun s v => { s with stockTypeFilter := v }]
  base := {}
  isPartial := true

instance : JsonForm ScannerSubscription := ScannerSubscription.form.toForm

def ScannerRow.form : RecordForm ScannerRow where
  members :=
    [required "rank" (·.rank) fun s v => { s with rank := v },
     required "contractDetails" (·.details) fun s v => { s with details := v },
     required "distance" (·.distance) fun s v => { s with distance := v },
     required "benchmark" (·.benchmark) fun s v => { s with benchmark := v },
     required "projection" (·.projection) fun s v => { s with projection := v },
     required "legsStr" (·.legs) fun s v => { s with legs := v }]
  base := ⟨0, {}, "", "", "", ""⟩

instance : JsonForm ScannerRow := ScannerRow.form.toForm

def FamilyCode.form : RecordForm FamilyCode where
  members :=
    [required "accountId" (·.accountId) fun s v => { s with accountId := v },
     required "familyCode" (·.familyCode) fun s v => { s with familyCode := v }]
  base := ⟨"", ""⟩

instance : JsonForm FamilyCode := FamilyCode.form.toForm

def NewsProvider.form : RecordForm NewsProvider where
  members :=
    [required "code" (·.code) fun s v => { s with code := v },
     required "name" (·.name) fun s v => { s with name := v }]
  base := ⟨"", ""⟩

instance : JsonForm NewsProvider := NewsProvider.form.toForm

def Execution.form : RecordForm Execution where
  members :=
    [required "execId" (·.execId) fun s v => { s with execId := v },
     required "time" (·.time) fun s v => { s with time := v },
     required "acctNumber" (·.account) fun s v => { s with account := v },
     required "exchange" (·.exchange) fun s v => { s with exchange := v },
     required "side" (·.side) fun s v => { s with side := v },
     required "shares" (·.shares) fun s v => { s with shares := v },
     required "price" (·.price) fun s v => { s with price := v },
     required "permId" (·.permanentId) fun s v => { s with permanentId := v },
     required "clientId" (·.clientId) fun s v => { s with clientId := v },
     required "orderId" (·.orderId) fun s v => { s with orderId := v },
     required "liquidation" (·.liquidation) fun s v => { s with liquidation := v },
     required "cumQty" (·.cumulativeQuantity) fun s v => { s with cumulativeQuantity := v },
     required "avgPrice" (·.averagePrice) fun s v => { s with averagePrice := v },
     required "orderRef" (·.orderRef) fun s v => { s with orderRef := v },
     required "evRule" (·.evRule) fun s v => { s with evRule := v },
     omittable "evMultiplier" (·.evMultiplier) fun s v => { s with evMultiplier := v },
     required "modelCode" (·.modelCode) fun s v => { s with modelCode := v },
     required "lastLiquidity" (·.lastLiquidity) fun s v => { s with lastLiquidity := v }]
  base := {}

instance : JsonForm Execution := Execution.form.toForm

def ExecutionFilter.form : RecordForm ExecutionFilter where
  members :=
    [required "clientId" (·.clientId) fun s v => { s with clientId := v },
     required "acctCode" (·.accountCode) fun s v => { s with accountCode := v },
     required "time" (·.time) fun s v => { s with time := v },
     required "symbol" (·.symbol) fun s v => { s with symbol := v },
     required "secType" (·.secType) fun s v => { s with secType := v },
     required "exchange" (·.exchange) fun s v => { s with exchange := v },
     required "side" (·.side) fun s v => { s with side := v }]
  base := {}
  isPartial := true

instance : JsonForm ExecutionFilter := ExecutionFilter.form.toForm

def CommissionReport.form : RecordForm CommissionReport where
  members :=
    [required "execId" (·.execId) fun s v => { s with execId := v },
     required "commission" (·.commission) fun s v => { s with commission := v },
     required "currency" (·.currency) fun s v => { s with currency := v },
     omittable "realizedPnl" (·.realizedPnl) fun s v => { s with realizedPnl := v },
     omittable "yield" (·.yieldRate) fun s v => { s with yieldRate := v },
     required "yieldRedemptionDate" (·.yieldRedemptionDate) fun s v =>
       { s with yieldRedemptionDate := v }]
  base := ⟨"", .zero, "", none, none, 0⟩

instance : JsonForm CommissionReport := CommissionReport.form.toForm

end BrokerLink
