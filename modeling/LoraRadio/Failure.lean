import LoraRadio.Checked

/-!
# Failures

Why an operation fails.
-/

namespace LoraRadio

inductive AccessError where
  | bus
  | encoding
  | decoding
  deriving DecidableEq, Repr

inductive Failure where
  | bus
  | decoding
  | line
  | transmitTimeout
  | trap (trap : Trap)
  deriving DecidableEq, Repr

/-- Only a value that cannot be decoded is told apart from a failing bus. -/
def Failure.ofAccess : AccessError → Failure
  | .decoding => .decoding
  | .bus | .encoding => .bus

end LoraRadio
