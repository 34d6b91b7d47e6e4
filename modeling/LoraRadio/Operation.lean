/-!
# Operations

An operation on a state ends with a value or with an error.

The state at the end counts in both cases: what an operation did before an error
stays done.
-/

namespace LoraRadio

inductive Outcome (ε σ α : Type) where
  | ok (value : α) (state : σ)
  | error (failure : ε) (state : σ)
  deriving DecidableEq, Repr

namespace Outcome

variable {ε σ α β : Type}

@[always_inline, inline]
def andThen (outcome : Outcome ε σ α) (next : α → σ → Outcome ε σ β) :
    Outcome ε σ β :=
  match outcome with
  | .ok value state => next value state
  | .error failure state => .error failure state

@[simp] theorem andThen_ok (value : α) (state : σ)
    (next : α → σ → Outcome ε σ β) :
    (ok value state).andThen next = next value state := rfl

@[simp] theorem andThen_error (failure : ε) (state : σ)
    (next : α → σ → Outcome ε σ β) :
    (error failure state).andThen next = error failure state := rfl

end Outcome

structure Operation (ε σ α : Type) where
  run : σ → Outcome ε σ α

namespace Operation

variable {ε σ α β : Type}

@[always_inline, inline]
instance : Monad (Operation ε σ) where
  pure value := ⟨fun state => .ok value state⟩
  bind operation next :=
    ⟨fun state => (operation.run state).andThen
      fun value state => (next value).run state⟩

def fail (failure : ε) : Operation ε σ α :=
  ⟨fun state => .error failure state⟩

@[simp] theorem run_pure (value : α) (state : σ) :
    (pure value : Operation ε σ α).run state = .ok value state := rfl

@[simp] theorem run_bind (operation : Operation ε σ α)
    (next : α → Operation ε σ β) (state : σ) :
    (operation >>= next).run state =
      (operation.run state).andThen fun value state => (next value).run state :=
  rfl

@[simp] theorem run_fail (failure : ε) (state : σ) :
    (fail failure : Operation ε σ α).run state = .error failure state := rfl

end Operation

end LoraRadio
