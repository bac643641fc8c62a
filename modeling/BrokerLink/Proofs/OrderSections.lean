import BrokerLink.Record.Order

/-!
# Sections of late order records

From layout 34 on every section of an order record has all its fields, so that it is read
as at the newest layout.
-/

namespace BrokerLink
namespace Record

open Reader

variable {version : Version} {layout : Int}

section
variable {layout' : Int} (h : 34 ≤ layout) (h' : 34 ≤ layout')
include h h'

theorem orderContract_late : orderContract layout = orderContract layout' := by
  simp (disch := omega) only [orderContract, decide_eq_true]

theorem orderTerms_late : orderTerms layout = orderTerms layout' := by
  simp (disch := omega) only [orderTerms, orderPrice, if_neg]

theorem orderExposure_late : orderExposure layout = orderExposure layout' := by
  simp (disch := omega) only [orderExposure, outsideRegularHours, decide_eq_true, if_neg]

theorem advisorAllocation_late : advisorAllocation layout = advisorAllocation layout' := by
  simp (disch := omega) only [advisorAllocation, decide_eq_true]

theorem orderSettlement_late :
    orderSettlement version layout = orderSettlement version layout' := by
  simp (disch := omega) only [orderSettlement, decide_eq_true]

theorem shortSale_late : shortSale version layout = shortSale version layout' := by
  simp (disch := omega) only [shortSale, exemptCode, decide_eq_true]

theorem stockPeg_late : stockPeg layout = stockPeg layout' := by
  simp (disch := omega) only [stockPeg, decide_eq_true]

theorem fillRules_late : fillRules layout = fillRules layout' := by
  simp (disch := omega) only [fillRules, decide_eq_true]

theorem volatilityTerms_late (isOpen : Bool) :
    volatilityTerms version layout isOpen = volatilityTerms version layout' isOpen := by
  simp (disch := omega) only [volatilityTerms, hedgeOrderType, deltaNeutralLeg,
    decide_eq_true, if_neg]

theorem trailTerms_late : trailTerms layout = trailTerms layout' := by
  simp (disch := omega) only [trailTerms, decide_eq_true]

theorem comboLegs_late : comboLegs layout = comboLegs layout' := by
  simp (disch := omega) only [comboLegs, decide_eq_true]

theorem routingParams_late : routingParams layout = routingParams layout' := by
  simp (disch := omega) only [routingParams, decide_eq_true]

theorem scaleTerms_late : scaleTerms layout = scaleTerms layout' := by
  simp (disch := omega) only [scaleTerms, scaleLevels, decide_eq_true, if_pos]

theorem hedgeTerms_late : hedgeTerms layout = hedgeTerms layout' := by
  simp (disch := omega) only [hedgeTerms, decide_eq_true]

theorem clearingSection_late : clearingSection layout = clearingSection layout' := by
  simp (disch := omega) only [clearingSection, decide_eq_true]

theorem randomizeFlags_late : randomizeFlags layout = randomizeFlags layout' := by
  simp (disch := omega) only [randomizeFlags, decide_eq_true]

end

end Record
end BrokerLink
