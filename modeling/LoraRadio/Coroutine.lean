import LoraRadio.Bench

/-!
# Computations that can be dropped

A coroutine stops at every access, line change and delay, and goes on with its
outcome.

At each stop the computation holds a state of its own, which is all that is left
of it when it is dropped there.  A line change is over at once, so a computation
is dropped only at an access or at a delay.
-/

namespace LoraRadio

inductive Coroutine (σ ε α : Type) where
  | finished (state : σ) (result : Except ε α)
  | read (state : σ) (header : ReadHeader)
      (resume : Option UInt8 → Coroutine σ ε α)
  | write (state : σ) (header : WriteHeader) (value : UInt8)
      (resume : Bool → Coroutine σ ε α)
  | setLine (state : σ) (line : Line) (level : Bool)
      (resume : Bool → Coroutine σ ε α)
  | delay (state : σ) (ms : UInt32) (rest : Coroutine σ ε α)

/-- Where a computation is dropped: at the access, or the delay, after the first
`passed`. -/
inductive DropPoint where
  | access (passed : Nat)
  | delay (passed : Nat)
  deriving DecidableEq, Repr

namespace DropPoint

def afterAccess : DropPoint → Option DropPoint
  | .access 0 => none
  | .access (passed + 1) => some (.access passed)
  | .delay passed => some (.delay passed)

def afterDelay : DropPoint → Option DropPoint
  | .access passed => some (.access passed)
  | .delay 0 => none
  | .delay (passed + 1) => some (.delay passed)

end DropPoint

namespace Coroutine

variable {σ τ ε δ α β : Type}

def bind : Coroutine σ ε α → (α → σ → Coroutine σ ε β) → Coroutine σ ε β
  | .finished state (.ok value), next => next value state
  | .finished state (.error error), _ => .finished state (.error error)
  | .read state header resume, next =>
      .read state header fun reply => (resume reply).bind next
  | .write state header value resume, next =>
      .write state header value fun passed => (resume passed).bind next
  | .setLine state line level resume, next =>
      .setLine state line level fun passed => (resume passed).bind next
  | .delay state ms rest, next => .delay state ms (rest.bind next)

def embed (state : τ) (rename : ε → δ) : Coroutine σ ε α → Coroutine τ δ α
  | .finished _ (.ok value) => .finished state (.ok value)
  | .finished _ (.error error) => .finished state (.error (rename error))
  | .read _ header resume =>
      .read state header fun reply => (resume reply).embed state rename
  | .write _ header value resume =>
      .write state header value fun passed => (resume passed).embed state rename
  | .setLine _ line level resume =>
      .setLine state line level fun passed => (resume passed).embed state rename
  | .delay _ ms rest => .delay state ms (rest.embed state rename)

def onError (change : σ → σ) : Coroutine σ ε α → Coroutine σ ε α
  | .finished state (.ok value) => .finished state (.ok value)
  | .finished state (.error error) => .finished (change state) (.error error)
  | .read state header resume =>
      .read state header fun reply => (resume reply).onError change
  | .write state header value resume =>
      .write state header value fun passed => (resume passed).onError change
  | .setLine state line level resume =>
      .setLine state line level fun passed => (resume passed).onError change
  | .delay state ms rest => .delay state ms (rest.onError change)

def run : Coroutine σ ε α → Bench → Except ε α × σ × Bench
  | .finished state result, bench => (result, state, bench)
  | .read _ header resume, bench =>
      let reply := bench.read header
      (resume reply.1).run reply.2
  | .write _ header value resume, bench =>
      let reply := bench.write header value
      (resume reply.1).run reply.2
  | .setLine _ line level resume, bench =>
      let reply := bench.setLine line level
      (resume reply.1).run reply.2
  | .delay _ ms rest, bench => rest.run (bench.delay ms)

def runUntil :
    Coroutine σ ε α → DropPoint → Bench → Option (Except ε α) × σ × Bench
  | .finished state result, _, bench => (some result, state, bench)
  | .read state header resume, drop, bench =>
      match drop.afterAccess with
      | none => (none, state, bench)
      | some drop =>
          let reply := bench.read header
          (resume reply.1).runUntil drop reply.2
  | .write state header value resume, drop, bench =>
      match drop.afterAccess with
      | none => (none, state, bench)
      | some drop =>
          let reply := bench.write header value
          (resume reply.1).runUntil drop reply.2
  | .setLine _ line level resume, drop, bench =>
      let reply := bench.setLine line level
      (resume reply.1).runUntil drop reply.2
  | .delay state ms rest, drop, bench =>
      match drop.afterDelay with
      | none => (none, state, bench)
      | some drop => rest.runUntil drop (bench.delay ms)

theorem run_bind (computation : Coroutine σ ε α)
    (next : α → σ → Coroutine σ ε β) (bench : Bench) :
    (computation.bind next).run bench =
      match computation.run bench with
      | (.ok value, state, bench) => (next value state).run bench
      | (.error error, state, bench) => (.error error, state, bench) := by
  induction computation generalizing bench with
  | finished state result => cases result <;> rfl
  | read state header resume ih => exact ih _ _
  | write state header value resume ih => exact ih _ _
  | setLine state line level resume ih => exact ih _ _
  | delay state ms rest ih => exact ih _

theorem run_embed (computation : Coroutine σ ε α) (state : τ) (rename : ε → δ)
    (bench : Bench) :
    (computation.embed state rename).run bench =
      match computation.run bench with
      | (.ok value, _, bench) => (.ok value, state, bench)
      | (.error error, _, bench) => (.error (rename error), state, bench) := by
  induction computation generalizing bench with
  | finished _ result => cases result <;> rfl
  | read _ header resume ih => exact ih _ _
  | write _ header value resume ih => exact ih _ _
  | setLine _ line level resume ih => exact ih _ _
  | delay _ ms rest ih => exact ih _

theorem run_onError (computation : Coroutine σ ε α) (change : σ → σ)
    (bench : Bench) :
    (computation.onError change).run bench =
      match computation.run bench with
      | (.ok value, state, bench) => (.ok value, state, bench)
      | (.error error, state, bench) =>
          (.error error, change state, bench) := by
  induction computation generalizing bench with
  | finished _ result => cases result <;> rfl
  | read _ header resume ih => exact ih _ _
  | write _ header value resume ih => exact ih _ _
  | setLine _ line level resume ih => exact ih _ _
  | delay _ ms rest ih => exact ih _

def execute (computation : Coroutine σ ε α) (drop : Option DropPoint)
    (bench : Bench) : Option (Except ε α) × σ × Bench :=
  match drop with
  | none =>
      let outcome := computation.run bench
      (some outcome.1, outcome.2)
  | some drop => computation.runUntil drop bench

end Coroutine

structure Deferred (ε σ α : Type) where
  start : σ → Coroutine σ ε α

namespace Deferred

variable {ε σ α β : Type}

instance : Monad (Deferred ε σ) where
  pure value := ⟨fun state => .finished state (.ok value)⟩
  bind operation next :=
    ⟨fun state => (operation.start state).bind
      fun value state => (next value).start state⟩

def fail (failure : ε) : Deferred ε σ α :=
  ⟨fun state => .finished state (.error failure)⟩

@[simp] theorem start_pure (value : α) (state : σ) :
    (pure value : Deferred ε σ α).start state = .finished state (.ok value) :=
  rfl

@[simp] theorem start_bind (operation : Deferred ε σ α)
    (next : α → Deferred ε σ β) (state : σ) :
    (operation >>= next).start state =
      (operation.start state).bind fun value state =>
        (next value).start state := rfl

@[simp] theorem start_fail (failure : ε) (state : σ) :
    (fail failure : Deferred ε σ α).start state =
      .finished state (.error failure) := rfl

end Deferred

end LoraRadio
