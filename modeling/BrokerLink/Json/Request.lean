import BrokerLink.Json.Bits
import BrokerLink.Json.Market
import BrokerLink.Json.Order
import BrokerLink.Request

/-!
# Requests by name

A request can be given as a name and a document of arguments. An argument that is
missing is zero, false, empty or a model with nothing set. Models are partial: what
the document names replaces what an empty model has.
-/

namespace BrokerLink

/-- The form of a leg over an empty one. -/
def ComboLeg.partialForm : RecordForm ComboLeg := { ComboLeg.form with isPartial := true }

/-- The legs of a contract, each over an empty one. -/
def Contract.partialLegs : Member Contract :=
  @Member.listed Contract ComboLeg ComboLeg.partialForm.toForm "comboLegs" (·.comboLegs)
    fun c legs => { c with comboLegs := legs }

/-- The form of a contract over an empty one. -/
def Contract.partialForm : RecordForm Contract where
  members := Contract.form.members.map fun m =>
    if m.key = Contract.partialLegs.key then Contract.partialLegs else m
  base := {}
  isPartial := true

namespace Request

section Arguments

variable (args : Json) (name : String)

/-- An argument that has a form, or the value of a missing one. -/
def argument? {α : Type} [JsonForm α] (absent : α) : Option α :=
  match args.get? name with
  | some j => JsonForm.ofJson? j
  | none => some absent

def number? : Option Int32 := argument? args name 0

def flag? : Option Bool := argument? args name false

def text? : Option String := argument? args name ""

def real? : Option Binary64 := argument? args name Binary64.zero

/-- A coded value is given by its code. -/
def coded? {α : Type} [Coded α] : Option α := do
  let n ← number? args name
  Coded.ofCode? n

/-- An option is given as a pair of texts. -/
def tag? : Json → Option TagValue
  | .array [.text tag, .text value] => some ⟨tag, value⟩
  | _ => none

def tags? : Option (List TagValue) :=
  match args.get? name with
  | some (.array items) => items.mapM tag?
  | some _ => none
  | none => some []

/-- A model over an empty one. -/
def model? {σ : Type} (form : RecordForm σ) : Option σ :=
  match args.get? name with
  | some j => form.overlay form.base j
  | none => some form.base

def contract? : Option Contract := model? args name Contract.partialForm

def order? : Option Order := model? args name Order.form

def filter? : Option ExecutionFilter := model? args name ExecutionFilter.form

def subscription? : Option ScannerSubscription := model? args name ScannerSubscription.form

end Arguments

/-- What is asked about bars is given as arguments of its own. -/
def barQuery? (args : Json) : Option BarQuery := do
  let finish ← text? args "end_date_time"
  let duration ← text? args "duration"
  let barSize ← text? args "bar_size"
  let whatToShow ← text? args "what_to_show"
  let regularHours ← flag? args "use_rth"
  let dateFormat ← number? args "format_date"
  let keepUpToDate ← flag? args "keep_up_to_date"
  let options ← tags? args "chart_options"
  return { finish, duration, barSize, whatToShow, regularHours, dateFormat, keepUpToDate, options }

/-- The request with a name, its arguments without numbers given by their bits. -/
def ofResolved? (name : String) (args : Json) : Option Request :=
  match name with
  | "start_api" => do
    let clientId ← number? args "client_id"
    let optionalCapabilities ← text? args "optional_capabilities"
    return .startApi clientId optionalCapabilities
  | "req_current_time" => some .currentTime
  | "set_server_log_level" => Request.serverLogLevel <$> number? args "level"
  | "req_ids" => Request.ids <$> number? args "num_ids"
  | "req_mkt_data" => do
    let id ← number? args "ticker_id"
    let contract ← contract? args "contract"
    let genericTicks ← text? args "generic_ticks"
    let snapshot ← flag? args "snapshot"
    let regulatorySnapshot ← flag? args "regulatory_snapshot"
    let options ← tags? args "options"
    return .marketData id contract genericTicks snapshot regulatorySnapshot options
  | "cancel_mkt_data" => Request.cancelMarketData <$> number? args "ticker_id"
  | "req_mkt_depth" => do
    let id ← number? args "ticker_id"
    let contract ← contract? args "contract"
    let rows ← number? args "num_rows"
    let isSmartDepth ← flag? args "is_smart_depth"
    let options ← tags? args "options"
    return .marketDepth id contract rows isSmartDepth options
  | "cancel_mkt_depth" => do
    let id ← number? args "ticker_id"
    let isSmartDepth ← flag? args "is_smart_depth"
    return .cancelMarketDepth id isSmartDepth
  | "req_market_data_type" => Request.marketDataType <$> coded? args "market_data_type"
  | "req_tick_by_tick_data" => do
    let id ← number? args "req_id"
    let contract ← contract? args "contract"
    let tickType ← text? args "tick_type"
    let count ← number? args "number_of_ticks"
    let ignoreSize ← flag? args "ignore_size"
    return .tickByTick id contract tickType count ignoreSize
  | "cancel_tick_by_tick_data" => Request.cancelTickByTick <$> number? args "req_id"
  | "req_smart_components" => do
    let id ← number? args "req_id"
    let bboExchange ← text? args "bbo_exchange"
    return .smartComponents id bboExchange
  | "req_mkt_depth_exchanges" => some .depthExchanges
  | "place_order" => do
    let id ← number? args "id"
    let contract ← contract? args "contract"
    let order ← order? args "order"
    return .placeOrder id contract order
  | "cancel_order" => Request.cancelOrder <$> number? args "id"
  | "req_open_orders" => some .openOrders
  | "req_auto_open_orders" => Request.autoOpenOrders <$> flag? args "auto_bind"
  | "req_all_open_orders" => some .allOpenOrders
  | "req_global_cancel" => some .globalCancel
  | "req_completed_orders" => Request.completedOrders <$> flag? args "api_only"
  | "exercise_options" => do
    let id ← number? args "ticker_id"
    let contract ← contract? args "contract"
    let action ← number? args "exercise_action"
    let quantity ← number? args "exercise_quantity"
    let account ← text? args "account"
    let overrideDefaults ← flag? args "override"
    return .exerciseOptions id contract action quantity account overrideDefaults
  | "req_executions" => do
    let id ← number? args "req_id"
    let filter ← filter? args "filter"
    return .executions id filter
  | "req_account_updates" => do
    let subscribe ← flag? args "subscribe"
    let account ← text? args "acct_code"
    return .accountUpdates subscribe account
  | "req_account_summary" => do
    let id ← number? args "req_id"
    let group ← text? args "group"
    let tags ← text? args "tags"
    return .accountSummary id group tags
  | "cancel_account_summary" => Request.cancelAccountSummary <$> number? args "req_id"
  | "req_account_updates_multi" => do
    let id ← number? args "req_id"
    let account ← text? args "account"
    let modelCode ← text? args "model_code"
    let ledgerAndValue ← flag? args "ledger_and_nlv"
    return .accountUpdatesMulti id account modelCode ledgerAndValue
  | "cancel_account_updates_multi" => Request.cancelAccountUpdatesMulti <$> number? args "req_id"
  | "req_positions" => some .positions
  | "cancel_positions" => some .cancelPositions
  | "req_positions_multi" => do
    let id ← number? args "req_id"
    let account ← text? args "account"
    let modelCode ← text? args "model_code"
    return .positionsMulti id account modelCode
  | "cancel_positions_multi" => Request.cancelPositionsMulti <$> number? args "req_id"
  | "req_pnl" => do
    let id ← number? args "req_id"
    let account ← text? args "account"
    let modelCode ← text? args "model_code"
    return .profitAndLoss id account modelCode
  | "cancel_pnl" => Request.cancelProfitAndLoss <$> number? args "req_id"
  | "req_pnl_single" => do
    let id ← number? args "req_id"
    let account ← text? args "account"
    let modelCode ← text? args "model_code"
    let contractId ← number? args "con_id"
    return .profitAndLossSingle id account modelCode contractId
  | "cancel_pnl_single" => Request.cancelProfitAndLossSingle <$> number? args "req_id"
  | "req_managed_accts" => some .managedAccounts
  | "req_family_codes" => some .familyCodes
  | "req_soft_dollar_tiers" => Request.softDollarTiers <$> number? args "req_id"
  | "req_contract_details" => do
    let id ← number? args "req_id"
    let contract ← contract? args "contract"
    return .contractDetails id contract
  | "req_matching_symbols" => do
    let id ← number? args "req_id"
    let pattern ← text? args "pattern"
    return .matchingSymbols id pattern
  | "req_sec_def_opt_params" => do
    let id ← number? args "req_id"
    let underlyingSymbol ← text? args "underlying_symbol"
    let exchange ← text? args "fut_fop_exchange"
    let underlyingSecType ← text? args "underlying_sec_type"
    let underlyingContractId ← number? args "underlying_con_id"
    return .optionParameters id underlyingSymbol exchange underlyingSecType underlyingContractId
  | "req_market_rule" => Request.marketRule <$> number? args "market_rule_id"
  | "req_historical_data" => do
    let id ← number? args "ticker_id"
    let contract ← contract? args "contract"
    let query ← barQuery? args
    return .historicalData id contract query
  | "cancel_historical_data" => Request.cancelHistoricalData <$> number? args "ticker_id"
  | "req_head_timestamp" => do
    let id ← number? args "ticker_id"
    let contract ← contract? args "contract"
    let whatToShow ← text? args "what_to_show"
    let regularHours ← flag? args "use_rth"
    let dateFormat ← number? args "format_date"
    return .headTimestamp id contract whatToShow regularHours dateFormat
  | "cancel_head_timestamp" => Request.cancelHeadTimestamp <$> number? args "ticker_id"
  | "req_histogram_data" => do
    let id ← number? args "req_id"
    let contract ← contract? args "contract"
    let regularHours ← flag? args "use_rth"
    let period ← text? args "period"
    return .histogram id contract regularHours period
  | "cancel_histogram_data" => Request.cancelHistogram <$> number? args "req_id"
  | "req_historical_ticks" => do
    let id ← number? args "req_id"
    let contract ← contract? args "contract"
    let start ← text? args "start_date_time"
    let finish ← text? args "end_date_time"
    let count ← number? args "number_of_ticks"
    let whatToShow ← text? args "what_to_show"
    let regularHours ← flag? args "use_rth"
    let ignoreSize ← flag? args "ignore_size"
    let options ← tags? args "misc_options"
    return .historicalTicks id contract start finish count whatToShow regularHours ignoreSize
      options
  | "req_real_time_bars" => do
    let id ← number? args "ticker_id"
    let contract ← contract? args "contract"
    let barSize ← number? args "bar_size"
    let whatToShow ← text? args "what_to_show"
    let regularHours ← flag? args "use_rth"
    let options ← tags? args "options"
    return .realTimeBars id contract barSize whatToShow regularHours options
  | "cancel_real_time_bars" => Request.cancelRealTimeBars <$> number? args "ticker_id"
  | "req_scanner_parameters" => some .scannerParameters
  | "req_scanner_subscription" => do
    let id ← number? args "ticker_id"
    let subscription ← subscription? args "subscription"
    let filterOptions ← tags? args "filter_options"
    let options ← tags? args "options"
    return .scannerSubscription id subscription filterOptions options
  | "cancel_scanner_subscription" => Request.cancelScannerSubscription <$> number? args "ticker_id"
  | "calculate_implied_volatility" => do
    let id ← number? args "req_id"
    let contract ← contract? args "contract"
    let optionPrice ← real? args "option_price"
    let underPrice ← real? args "under_price"
    let options ← tags? args "options"
    return .impliedVolatility id contract optionPrice underPrice options
  | "calculate_option_price" => do
    let id ← number? args "req_id"
    let contract ← contract? args "contract"
    let volatility ← real? args "volatility"
    let underPrice ← real? args "under_price"
    let options ← tags? args "options"
    return .optionPrice id contract volatility underPrice options
  | "cancel_calculate_implied_volatility" =>
    Request.cancelImpliedVolatility <$> number? args "req_id"
  | "cancel_calculate_option_price" => Request.cancelOptionPrice <$> number? args "req_id"
  | "req_fundamental_data" => do
    let id ← number? args "req_id"
    let contract ← contract? args "contract"
    let reportType ← text? args "report_type"
    let options ← tags? args "options"
    return .fundamentalData id contract reportType options
  | "cancel_fundamental_data" => Request.cancelFundamentalData <$> number? args "req_id"
  | "req_news_bulletins" => Request.newsBulletins <$> flag? args "all_msgs"
  | "cancel_news_bulletins" => some .cancelNewsBulletins
  | "req_news_providers" => some .newsProviders
  | "req_news_article" => do
    let id ← number? args "req_id"
    let providerCode ← text? args "provider_code"
    let articleId ← text? args "article_id"
    let options ← tags? args "options"
    return .newsArticle id providerCode articleId options
  | "req_historical_news" => do
    let id ← number? args "req_id"
    let contractId ← number? args "con_id"
    let providerCodes ← text? args "provider_codes"
    let start ← text? args "start_date_time"
    let finish ← text? args "end_date_time"
    let count ← number? args "total_results"
    let options ← tags? args "options"
    return .historicalNews id contractId providerCodes start finish count options
  | "request_fa" => Request.advisorDocument <$> coded? args "fa_data_type"
  | "replace_fa" => do
    let id ← number? args "req_id"
    let document ← coded? args "fa_data_type"
    let content ← text? args "xml"
    return .replaceAdvisorDocument id document content
  | "query_display_groups" => Request.displayGroups <$> number? args "req_id"
  | "subscribe_to_group_events" => do
    let id ← number? args "req_id"
    let groupId ← number? args "group_id"
    return .subscribeToGroup id groupId
  | "update_display_group" => do
    let id ← number? args "req_id"
    let contractInfo ← text? args "contract_info"
    return .updateDisplayGroup id contractInfo
  | "unsubscribe_from_group_events" => Request.unsubscribeFromGroup <$> number? args "req_id"
  | "verify_request" => do
    let program ← text? args "api_name"
    let programVersion ← text? args "api_version"
    return .verify program programVersion
  | "verify_message" => Request.verifyMessage <$> text? args "api_data"
  | "verify_and_auth_request" => do
    let program ← text? args "api_name"
    let programVersion ← text? args "api_version"
    let vendorKey ← text? args "opaque_isv_key"
    return .verifyAndAuth program programVersion vendorKey
  | "verify_and_auth_message" => do
    let data ← text? args "api_data"
    let response ← text? args "xyz_response"
    return .verifyAndAuthMessage data response
  | _ => none

/-- The request with a name. -/
def ofNamed? (name : String) (args : Json) : Option Request := ofResolved? name args.resolveBits

end Request
end BrokerLink
