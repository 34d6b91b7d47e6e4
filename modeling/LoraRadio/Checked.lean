/-!
# Machine arithmetic that stops at its limits

Each operation gives its exact result, or the trap naming the limit it ran into.
Quantities that cannot reach a limit are computed in `Nat` and `Int` directly.
-/

namespace LoraRadio

inductive Trap where
  | subtractOverflow
  | multiplyOverflow
  | shiftOverflow
  | divideByZero
  | indexOutOfBounds (length index : Nat)
  deriving DecidableEq, Repr

def Trap.message : Trap → String
  | .subtractOverflow => "attempt to subtract with overflow"
  | .multiplyOverflow => "attempt to multiply with overflow"
  | .shiftOverflow => "attempt to shift left with overflow"
  | .divideByZero => "attempt to divide by zero"
  | .indexOutOfBounds length index =>
      s!"index out of bounds: the len is {length} but the index is {index}"

abbrev Checked := Except Trap

namespace Checked

def pow64 (exponent : Nat) : Checked Nat :=
  if exponent < 64 then .ok (1 <<< exponent) else .error .shiftOverflow

def mul64 (first second : Nat) : Checked Nat :=
  if first * second < UInt64.size then .ok (first * second)
  else .error .multiplyOverflow

def mulInt64 (first second : Int) : Checked Int :=
  if Int64.minValue.toInt ≤ first * second ∧
    first * second ≤ Int64.maxValue.toInt then
    .ok (first * second)
  else .error .multiplyOverflow

/-- A quotient, rounded toward zero. -/
def div (dividend divisor : Int) : Checked Int :=
  if divisor = 0 then .error .divideByZero else .ok (dividend.tdiv divisor)

def sub (first second : Nat) : Checked Nat :=
  if second ≤ first then .ok (first - second) else .error .subtractOverflow

def subInt8 (first second : Int8) : Checked Int8 :=
  if Int8.minValue.toInt ≤ first.toInt - second.toInt
      ∧ first.toInt - second.toInt ≤ Int8.maxValue.toInt then
    .ok (first - second)
  else .error .subtractOverflow

theorem pow64_of_lt {exponent : Nat} (small : exponent < 64) :
    pow64 exponent = .ok (1 <<< exponent) := by
  simp [pow64, small]

theorem mul64_of_lt {first second : Nat}
    (small : first * second < UInt64.size) :
    mul64 first second = .ok (first * second) := by
  rw [mul64, if_pos small]

theorem sub_of_le {first second : Nat} (order : second ≤ first) :
    sub first second = .ok (first - second) := by
  simp [sub, order]

end Checked

end LoraRadio
