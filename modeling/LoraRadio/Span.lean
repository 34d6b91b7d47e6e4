/-!
# Closed ranges

Ranges of legal values, and the nearest legal value to any other.
-/

namespace LoraRadio

structure Span (α : Type) where
  low : α
  high : α
  deriving DecidableEq, Repr

namespace Span

variable {α : Type} [LT α] [DecidableLT α]

def clamp (span : Span α) (value : α) : α :=
  if value < span.low then span.low
  else if span.high < value then span.high
  else value

end Span

end LoraRadio
