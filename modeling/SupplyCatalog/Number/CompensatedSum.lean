/-!
# Compensated sums

Floating-point numbers are added one by one while the error of every addition is kept apart and
added at the end.
-/

namespace SupplyCatalog.Number

structure CompensatedSum where
  total : Float
  error : Float

namespace CompensatedSum

def zero : CompensatedSum := ⟨0.0, 0.0⟩

/-- Adds a term; what the addition drops is told from the larger of the two. -/
def add (sum : CompensatedSum) (term : Float) : CompensatedSum :=
  let total := sum.total + term
  let dropped :=
    if term.abs < sum.total.abs then (sum.total - total) + term else (term - total) + sum.total
  ⟨total, sum.error + dropped⟩

/-- The sum with its error, unless the error is not finite. -/
def value (sum : CompensatedSum) : Float :=
  if sum.error.isFinite then sum.total + sum.error else sum.total

end CompensatedSum

def sumReals (terms : List Float) : Float :=
  (terms.foldl CompensatedSum.add .zero).value

end SupplyCatalog.Number
