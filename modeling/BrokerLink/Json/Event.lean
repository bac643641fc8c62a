import BrokerLink.Json.Market
import BrokerLink.Json.Order

/-!
# Forms of events

An event is shown as the call that an observer gets: a name, and the arguments by
their names.
-/

namespace BrokerLink
namespace Event

/-- An argument of a call. -/
def argument {α : Type} [JsonForm α] (name : String) (a : α) : String × Json := (name, toJson a)

/-- The name of the call for an event. -/
def callName : Event → String
  | .connectAck => "connect_ack"
  | .connectionClosed => "connection_closed"
  | .error .. => "error"
  | .nextValidId .. => "next_valid_id"
  | .managedAccounts .. => "managed_accounts"
  | .currentTime .. => "current_time"
  | .tickPrice .. => "tick_price"
  | .tickSize .. => "tick_size"
  | .tickOptionComputation .. => "tick_option_computation"
  | .tickGeneric .. => "tick_generic"
  | .tickString .. => "tick_string"
  | .tickEfp .. => "tick_efp"
  | .tickSnapshotEnd .. => "tick_snapshot_end"
  | .tickReqParams .. => "tick_req_params"
  | .tickNews .. => "tick_news"
  | .marketDataType .. => "market_data_type"
  | .tickByTickAllLast .. => "tick_by_tick_all_last"
  | .tickByTickBidAsk .. => "tick_by_tick_bid_ask"
  | .tickByTickMidPoint .. => "tick_by_tick_mid_point"
  | .updateMktDepth .. => "update_mkt_depth"
  | .updateMktDepthL2 .. => "update_mkt_depth_l2"
  | .mktDepthExchanges .. => "mkt_depth_exchanges"
  | .smartComponents .. => "smart_components"
  | .rerouteMktDataReq .. => "reroute_mkt_data_req"
  | .rerouteMktDepthReq .. => "reroute_mkt_depth_req"
  | .deltaNeutralValidation .. => "delta_neutral_validation"
  | .orderStatus .. => "order_status"
  | .openOrder .. => "open_order"
  | .openOrderEnd => "open_order_end"
  | .completedOrder .. => "completed_order"
  | .completedOrdersEnd => "completed_orders_end"
  | .orderBound .. => "order_bound"
  | .execDetails .. => "exec_details"
  | .execDetailsEnd .. => "exec_details_end"
  | .commissionReport .. => "commission_report"
  | .updateAccountValue .. => "update_account_value"
  | .updatePortfolio .. => "update_portfolio"
  | .updateAccountTime .. => "update_account_time"
  | .accountDownloadEnd .. => "account_download_end"
  | .accountSummary .. => "account_summary"
  | .accountSummaryEnd .. => "account_summary_end"
  | .position .. => "position"
  | .positionEnd => "position_end"
  | .positionMulti .. => "position_multi"
  | .positionMultiEnd .. => "position_multi_end"
  | .accountUpdateMulti .. => "account_update_multi"
  | .accountUpdateMultiEnd .. => "account_update_multi_end"
  | .pnl .. => "pnl"
  | .pnlSingle .. => "pnl_single"
  | .familyCodes .. => "family_codes"
  | .softDollarTiers .. => "soft_dollar_tiers"
  | .contractDetails .. => "contract_details"
  | .bondContractDetails .. => "bond_contract_details"
  | .contractDetailsEnd .. => "contract_details_end"
  | .symbolSamples .. => "symbol_samples"
  | .optionChain .. => "security_definition_optional_parameter"
  | .optionChainEnd .. => "security_definition_optional_parameter_end"
  | .marketRule .. => "market_rule"
  | .historicalData .. => "historical_data"
  | .historicalDataEnd .. => "historical_data_end"
  | .historicalDataUpdate .. => "historical_data_update"
  | .headTimestamp .. => "head_timestamp"
  | .histogramData .. => "histogram_data"
  | .historicalTicks .. => "historical_ticks"
  | .historicalTicksBidAsk .. => "historical_ticks_bid_ask"
  | .historicalTicksLast .. => "historical_ticks_last"
  | .realtimeBar .. => "realtime_bar"
  | .scannerParameters .. => "scanner_parameters"
  | .scannerData .. => "scanner_data"
  | .scannerDataEnd .. => "scanner_data_end"
  | .fundamentalData .. => "fundamental_data"
  | .updateNewsBulletin .. => "update_news_bulletin"
  | .newsArticle .. => "news_article"
  | .newsProviders .. => "news_providers"
  | .historicalNews .. => "historical_news"
  | .historicalNewsEnd .. => "historical_news_end"
  | .receiveFa .. => "receive_fa"
  | .replaceFaEnd .. => "replace_fa_end"
  | .displayGroupList .. => "display_group_list"
  | .displayGroupUpdated .. => "display_group_updated"
  | .verifyMessageApi .. => "verify_message_api"
  | .verifyCompleted .. => "verify_completed"
  | .verifyAndAuthMessageApi .. => "verify_and_auth_message_api"
  | .verifyAndAuthCompleted .. => "verify_and_auth_completed"

/-- The arguments of the call for an event. -/
def arguments : Event → List (String × Json)
  | .connectAck => []
  | .connectionClosed => []
  | .error id code message =>
    [argument "req_id" id, argument "code" code, argument "message" message]
  | .nextValidId orderId => [argument "order_id" orderId]
  | .managedAccounts accounts => [argument "accounts" accounts]
  | .currentTime time => [argument "time" time]
  | .tickPrice id tick price attributes =>
    [argument "req_id" id, argument "tick_type" tick, argument "price" price,
     argument "attrib" attributes]
  | .tickSize id tick size =>
    [argument "req_id" id, argument "tick_type" tick, argument "size" size]
  | .tickOptionComputation id tick basis values =>
    [argument "req_id" id, argument "tick_type" tick, argument "tick_attrib" basis,
     argument "implied_vol" values.impliedVolatility, argument "delta" values.delta,
     argument "opt_price" values.price, argument "pv_dividend" values.dividendValue,
     argument "gamma" values.gamma, argument "vega" values.vega, argument "theta" values.theta,
     argument "und_price" values.underlyingPrice]
  | .tickGeneric id tick value =>
    [argument "req_id" id, argument "tick_type" tick, argument "value" value]
  | .tickString id tick value =>
    [argument "req_id" id, argument "tick_type" tick, argument "value" value]
  | .tickEfp id tick values =>
    [argument "req_id" id, argument "tick_type" tick, argument "basis_points" values.basisPoints,
     argument "formatted_basis_points" values.formattedBasisPoints,
     argument "implied_futures_price" values.impliedFuturesPrice,
     argument "hold_days" values.holdDays,
     argument "future_last_trade_date" values.futureLastTradeDate,
     argument "dividend_impact" values.dividendImpact,
     argument "dividends_to_last_trade_date" values.dividendsToLastTradeDate]
  | .tickSnapshotEnd id => [argument "req_id" id]
  | .tickReqParams id minTick bboExchange snapshotPermissions =>
    [argument "req_id" id, argument "min_tick" minTick, argument "bbo_exchange" bboExchange,
     argument "snapshot_permissions" snapshotPermissions]
  | .tickNews id time providerCode articleId headline extraData =>
    [argument "req_id" id, argument "time_stamp" time, argument "provider_code" providerCode,
     argument "article_id" articleId, argument "headline" headline,
     argument "extra_data" extraData]
  | .marketDataType id code => [argument "req_id" id, argument "market_data_type" code]
  | .tickByTickAllLast id tick trade =>
    [argument "req_id" id, argument "tick_type" tick, argument "time" trade.time,
     argument "price" trade.price, argument "size" trade.size,
     argument "attrib" trade.attributes, argument "exchange" trade.exchange,
     argument "special_conditions" trade.specialConditions]
  | .tickByTickBidAsk id quote =>
    [argument "req_id" id, argument "time" quote.time, argument "bid_price" quote.bidPrice,
     argument "ask_price" quote.askPrice, argument "bid_size" quote.bidSize,
     argument "ask_size" quote.askSize, argument "attrib" quote.attributes]
  | .tickByTickMidPoint id time midPoint =>
    [argument "req_id" id, argument "time" time, argument "mid_point" midPoint]
  | .updateMktDepth id row operation side price size =>
    [argument "req_id" id, argument "position" row, argument "operation" operation,
     argument "side" side, argument "price" price, argument "size" size]
  | .updateMktDepthL2 id row marketMaker operation side price size isSmartDepth =>
    [argument "req_id" id, argument "position" row, argument "market_maker" marketMaker,
     argument "operation" operation, argument "side" side, argument "price" price,
     argument "size" size, argument "is_smart_depth" isSmartDepth]
  | .mktDepthExchanges exchanges => [argument "descriptions" exchanges]
  | .smartComponents id components =>
    [argument "req_id" id, argument "components" components]
  | .rerouteMktDataReq id contractId exchange =>
    [argument "req_id" id, argument "con_id" contractId, argument "exchange" exchange]
  | .rerouteMktDepthReq id contractId exchange =>
    [argument "req_id" id, argument "con_id" contractId, argument "exchange" exchange]
  | .deltaNeutralValidation id contract =>
    [argument "req_id" id, argument "contract" contract]
  | .orderStatus orderId progress =>
    [argument "order_id" orderId, argument "status" progress.status,
     argument "filled" progress.filled, argument "remaining" progress.remaining,
     argument "avg_fill_price" progress.averageFillPrice,
     argument "perm_id" progress.permanentId, argument "parent_id" progress.parentId,
     argument "last_fill_price" progress.lastFillPrice, argument "client_id" progress.clientId,
     argument "why_held" progress.whyHeld, argument "mkt_cap_price" progress.marketCapPrice]
  | .openOrder orderId contract order state =>
    [argument "order_id" orderId, argument "contract" contract, argument "order" order,
     argument "order_state" state]
  | .openOrderEnd => []
  | .completedOrder contract order state =>
    [argument "contract" contract, argument "order" order, argument "order_state" state]
  | .completedOrdersEnd => []
  | .orderBound orderId clientId clientOrderId =>
    [argument "order_id" orderId, argument "api_client_id" clientId,
     argument "api_order_id" clientOrderId]
  | .execDetails id contract execution =>
    [argument "req_id" id, argument "contract" contract, argument "execution" execution]
  | .execDetailsEnd id => [argument "req_id" id]
  | .commissionReport report => [argument "report" report]
  | .updateAccountValue key value currency accountName =>
    [argument "key" key, argument "value" value, argument "currency" currency,
     argument "account_name" accountName]
  | .updatePortfolio holding =>
    [argument "contract" holding.contract, argument "position" holding.position,
     argument "market_price" holding.marketPrice, argument "market_value" holding.marketValue,
     argument "average_cost" holding.averageCost,
     argument "unrealized_pnl" holding.unrealizedPnl,
     argument "realized_pnl" holding.realizedPnl, argument "account_name" holding.accountName]
  | .updateAccountTime time => [argument "time_stamp" time]
  | .accountDownloadEnd account => [argument "account" account]
  | .accountSummary id account tag value currency =>
    [argument "req_id" id, argument "account" account, argument "tag" tag,
     argument "value" value, argument "currency" currency]
  | .accountSummaryEnd id => [argument "req_id" id]
  | .position account contract held averageCost =>
    [argument "account" account, argument "contract" contract, argument "position" held,
     argument "avg_cost" averageCost]
  | .positionEnd => []
  | .positionMulti id account modelCode contract held averageCost =>
    [argument "req_id" id, argument "account" account, argument "model_code" modelCode,
     argument "contract" contract, argument "position" held,
     argument "avg_cost" averageCost]
  | .positionMultiEnd id => [argument "req_id" id]
  | .accountUpdateMulti id account modelCode key value currency =>
    [argument "req_id" id, argument "account" account, argument "model_code" modelCode,
     argument "key" key, argument "value" value, argument "currency" currency]
  | .accountUpdateMultiEnd id => [argument "req_id" id]
  | .pnl id daily unrealized realized =>
    [argument "req_id" id, argument "daily_pnl" daily, argument "unrealized_pnl" unrealized,
     argument "realized_pnl" realized]
  | .pnlSingle id held daily unrealized realized value =>
    [argument "req_id" id, argument "position" held, argument "daily_pnl" daily,
     argument "unrealized_pnl" unrealized, argument "realized_pnl" realized,
     argument "value" value]
  | .familyCodes codes => [argument "codes" codes]
  | .softDollarTiers id tiers => [argument "req_id" id, argument "tiers" tiers]
  | .contractDetails id details => [argument "req_id" id, argument "details" details]
  | .bondContractDetails id details => [argument "req_id" id, argument "details" details]
  | .contractDetailsEnd id => [argument "req_id" id]
  | .symbolSamples id descriptions =>
    [argument "req_id" id, argument "descriptions" descriptions]
  | .optionChain id chain =>
    [argument "req_id" id, argument "exchange" chain.exchange,
     argument "underlying_con_id" chain.underlyingContractId,
     argument "trading_class" chain.tradingClass, argument "multiplier" chain.multiplier,
     argument "expirations" chain.expirations, argument "strikes" chain.strikes]
  | .optionChainEnd id => [argument "req_id" id]
  | .marketRule ruleId increments =>
    [argument "market_rule_id" ruleId, argument "price_increments" increments]
  | .historicalData id bar => [argument "req_id" id, argument "bar" bar]
  | .historicalDataEnd id first last =>
    [argument "req_id" id, argument "start" first, argument "end" last]
  | .historicalDataUpdate id bar => [argument "req_id" id, argument "bar" bar]
  | .headTimestamp id time => [argument "req_id" id, argument "head_timestamp" time]
  | .histogramData id entries => [argument "req_id" id, argument "items" entries]
  | .historicalTicks id ticks done =>
    [argument "req_id" id, argument "ticks" ticks, argument "done" done]
  | .historicalTicksBidAsk id quotes done =>
    [argument "req_id" id, argument "ticks" quotes, argument "done" done]
  | .historicalTicksLast id trades done =>
    [argument "req_id" id, argument "ticks" trades, argument "done" done]
  | .realtimeBar id bar => [argument "req_id" id, argument "bar" bar]
  | .scannerParameters document => [argument "xml" document]
  | .scannerData id row => [argument "req_id" id, argument "item" row]
  | .scannerDataEnd id => [argument "req_id" id]
  | .fundamentalData id data => [argument "req_id" id, argument "data" data]
  | .updateNewsBulletin bulletinId kind message exchange =>
    [argument "msg_id" bulletinId, argument "msg_type" kind, argument "message" message,
     argument "orig_exchange" exchange]
  | .newsArticle id kind text =>
    [argument "req_id" id, argument "article_type" kind, argument "article_text" text]
  | .newsProviders providers => [argument "providers" providers]
  | .historicalNews id time providerCode articleId headline =>
    [argument "req_id" id, argument "time" time, argument "provider_code" providerCode,
     argument "article_id" articleId, argument "headline" headline]
  | .historicalNewsEnd id hasMore => [argument "req_id" id, argument "has_more" hasMore]
  | .receiveFa code document => [argument "fa_data_type" code, argument "xml" document]
  | .replaceFaEnd id text => [argument "req_id" id, argument "text" text]
  | .displayGroupList id groups => [argument "req_id" id, argument "groups" groups]
  | .displayGroupUpdated id contractInfo =>
    [argument "req_id" id, argument "contract_info" contractInfo]
  | .verifyMessageApi data => [argument "api_data" data]
  | .verifyCompleted isSuccessful errorText =>
    [argument "is_successful" isSuccessful, argument "error_text" errorText]
  | .verifyAndAuthMessageApi data challenge =>
    [argument "api_data" data, argument "xyz_challenge" challenge]
  | .verifyAndAuthCompleted isSuccessful errorText =>
    [argument "is_successful" isSuccessful, argument "error_text" errorText]

/-- The call for an event, with its name as the member `event`. -/
def toJson (e : Event) : Json := .object (("event", .text e.callName) :: e.arguments)

end Event
end BrokerLink
