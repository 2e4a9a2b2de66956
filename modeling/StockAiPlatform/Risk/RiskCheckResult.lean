import StockAiPlatform.Python.Decimal

/-! # What a risk check returns

The result is stored on the candidate it is about, so it comes before the rows.
-/

namespace StockAiPlatform
set_option autoImplicit false

open Python

structure RiskViolation where
  ruleId : String
  message : Formatted
  details : List (String × Piece)
  severity : String
  deriving DecidableEq

structure RiskCheckResult where
  policyVersion : String
  passed : Bool
  violations : List RiskViolation
  checkedAt : Int

namespace RiskCheckResult

def ruleIds (result : RiskCheckResult) : List String := result.violations.map RiskViolation.ruleId

end RiskCheckResult

end StockAiPlatform
