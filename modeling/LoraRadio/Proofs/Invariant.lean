import LoraRadio.Radio.State

/-!
# Invariants of operations

An operation keeps an invariant when every run that starts in the invariant ends
in it, also a run that ends with an error.  A sequence of operations keeps what
its parts keep.
-/

namespace LoraRadio

namespace Outcome

variable {ε σ τ α : Type}

def state : Outcome ε σ α → σ
  | .ok _ state => state
  | .error _ state => state

@[simp] theorem state_ok (value : α) (final : σ) :
    (ok value final : Outcome ε σ α).state = final :=
  rfl

@[simp] theorem state_error (failure : ε) (final : σ) :
    (error failure final : Outcome ε σ α).state = final := rfl

def view (look : σ → τ) : Outcome ε σ α → Outcome ε τ α
  | .ok value state => .ok value (look state)
  | .error failure state => .error failure (look state)

theorem state_view (look : σ → τ) (outcome : Outcome ε σ α) :
    (outcome.view look).state = look outcome.state := by
  cases outcome <;> rfl

theorem exists_of_view_ok {look : σ → τ} {outcome : Outcome ε σ α} {value : α}
    {seen : τ} (viewed : outcome.view look = .ok value seen) :
    ∃ final, outcome = .ok value final ∧ look final = seen := by
  cases outcome with
  | ok result final =>
      simp only [view, ok.injEq] at viewed
      exact ⟨final, by rw [viewed.1], viewed.2⟩
  | error failure final => simp [view] at viewed

theorem exists_of_view_error {look : σ → τ} {outcome : Outcome ε σ α}
    {failure : ε} {seen : τ}
    (viewed : outcome.view look = .error failure seen) :
    ∃ final, outcome = .error failure final ∧ look final = seen := by
  cases outcome with
  | ok result final => simp [view] at viewed
  | error reported final =>
      simp only [view, error.injEq] at viewed
      exact ⟨final, by rw [viewed.1], viewed.2⟩

end Outcome

namespace Operation

variable {ε σ α β γ : Type}

theorem ext {first second : Operation ε σ α}
    (same : ∀ state, first.run state = second.run state) :
    first = second := by
  cases first
  cases second
  exact congrArg Operation.mk (funext same)

theorem bind_assoc (operation : Operation ε σ α) (next : α → Operation ε σ β)
    (last : β → Operation ε σ γ) :
    (operation >>= next) >>= last = operation >>= fun value =>
      next value >>= last := by
  apply ext
  intro state
  simp only [run_bind]
  cases operation.run state <;> rfl

theorem exists_of_run_bind {operation : Operation ε σ α}
    {next : α → Operation ε σ β} {state final : σ} {value : β}
    (run : (operation >>= next).run state = .ok value final) :
    ∃ middle reached, operation.run state = .ok middle reached ∧
      (next middle).run reached = .ok value final := by
  rw [run_bind] at run
  cases outcome : operation.run state with
  | ok middle reached =>
      rw [outcome] at run
      exact ⟨middle, reached, rfl, run⟩
  | error failure reached =>
      rw [outcome] at run
      cases run

theorem cases_of_run_bind {operation : Operation ε σ α}
    {next : α → Operation ε σ β} {state final : σ} {failure : ε}
    (run : (operation >>= next).run state = .error failure final) :
    operation.run state = .error failure final ∨
      ∃ middle reached, operation.run state = .ok middle reached ∧
        (next middle).run reached = .error failure final := by
  rw [run_bind] at run
  cases outcome : operation.run state with
  | ok middle reached =>
      rw [outcome] at run
      exact .inr ⟨middle, reached, rfl, run⟩
  | error reported reached =>
      rw [outcome] at run
      cases run
      exact .inl rfl

def Keeps (invariant : σ → Prop) (operation : Operation ε σ α) : Prop :=
  ∀ state, invariant state → invariant (operation.run state).state

namespace Keeps

variable {invariant : σ → Prop}

theorem pure (value : α) :
    Keeps invariant (Pure.pure value : Operation ε σ α) :=
  fun _ holds => holds

theorem fail (failure : ε) :
    Keeps invariant (Operation.fail failure : Operation ε σ α) :=
  fun _ holds => holds

theorem bind {operation : Operation ε σ α} {next : α → Operation ε σ β}
    (first : Keeps invariant operation)
    (rest : ∀ value, Keeps invariant (next value)) :
    Keeps invariant (operation >>= next) := by
  intro state holds
  have middle := first state holds
  rw [run_bind]
  cases outcome : operation.run state with
  | ok value reached =>
      rw [outcome] at middle
      exact rest value reached middle
  | error failure reached =>
      rw [outcome] at middle
      exact middle

theorem ite {condition : Prop} [Decidable condition] {yes no : Operation ε σ α}
    (keepsYes : Keeps invariant yes) (keepsNo : Keeps invariant no) :
    Keeps invariant (if condition then yes else no) := by
  by_cases holds : condition
  · rwa [if_pos holds]
  · rwa [if_neg holds]

theorem and {other : σ → Prop} {operation : Operation ε σ α}
    (left : Keeps invariant operation) (right : Keeps other operation) :
    Keeps (fun state => invariant state ∧ other state) operation :=
  fun state holds => ⟨left state holds.1, right state holds.2⟩

end Keeps

/-- Every run from the first condition ends with a value in the second one, or
fails in the third. -/
def Meets (before : σ → Prop) (operation : Operation ε σ α)
    (done : α → σ → Prop) (failed : σ → Prop) : Prop :=
  ∀ state, before state →
    match operation.run state with
    | .ok value final => done value final
    | .error _ final => failed final

namespace Meets

variable {before failed : σ → Prop} {middle : α → σ → Prop}
  {done : β → σ → Prop}

theorem bind {operation : Operation ε σ α} {next : α → Operation ε σ β}
    (first : Meets before operation middle failed)
    (rest : ∀ value, Meets (middle value) (next value) done failed) :
    Meets before (operation >>= next) done failed := by
  intro state holds
  have reached := first state holds
  rw [run_bind]
  cases outcome : operation.run state with
  | ok value middle =>
      rw [outcome] at reached
      exact rest value middle reached
  | error failure final =>
      rw [outcome] at reached
      exact reached

theorem keeps {invariant : σ → Prop} {operation : Operation ε σ α}
    (meets : Meets invariant operation (fun _ => invariant) invariant) :
    Keeps invariant operation := by
  intro state holds
  have after := meets state holds
  cases outcome : operation.run state with
  | ok value final =>
      rw [outcome] at after
      exact after
  | error failure final =>
      rw [outcome] at after
      exact after

theorem imp {reached : β → σ → Prop} {lost : σ → Prop}
    {operation : Operation ε σ β} (meets : Meets before operation reached lost)
    (onDone : ∀ value state, reached value state → done value state)
    (onFailed : ∀ state, lost state → failed state) :
    Meets before operation done failed := by
  intro state holds
  have after := meets state holds
  cases outcome : operation.run state with
  | ok value final =>
      rw [outcome] at after
      exact onDone value final after
  | error failure final =>
      rw [outcome] at after
      exact onFailed final after

end Meets

end Operation

open Operation

/-! ## Register access -/

namespace Bus

variable {ρ : Type} {invariant : Bench → Prop}

theorem keeps_readBytes [Register ρ]
    (each : ∀ offset : Fin (Register.width ρ),
      Keeps invariant (read (Register.address ρ offset))) :
    ∀ (count : Nat) (within : count ≤ Register.width ρ),
      Keeps invariant (readBytes ρ count within)
  | 0, _ => .pure _
  | count + 1, within =>
      .bind (keeps_readBytes each count _) fun _ =>
        .bind (each ⟨count, within⟩) fun _ => .pure _

theorem keeps_readRegister [Register ρ]
    (each : ∀ offset : Fin (Register.width ρ),
      Keeps invariant (read (Register.address ρ offset))) :
    Keeps invariant (readRegister ρ) := by
  refine .bind (keeps_readBytes each _ _) fun bytes => ?_
  cases Register.decode bytes with
  | ok register => exact .pure register
  | error byte => exact .fail _

theorem keeps_writeBytes [Register ρ] {bytes : Vector UInt8 (Register.width ρ)}
    (each : ∀ (offset : Fin (Register.width ρ)) (value : UInt8),
      Keeps invariant (write (Register.address ρ offset) value)) :
    ∀ (count : Nat) (within : count ≤ Register.width ρ),
      Keeps invariant (writeBytes ρ bytes count within)
  | 0, _ => .pure _
  | count + 1, within =>
      .bind (keeps_writeBytes each count _) fun _ => each ⟨count, within⟩ _

end Bus

namespace RadioM

variable {α ρ : Type} {invariant : Station → Prop}

theorem keeps_getRadio : Keeps invariant getRadio :=
  fun _ holds => holds

theorem keeps_getConfiguration : Keeps invariant getConfiguration :=
  fun _ holds => holds

theorem keeps_checked (result : Checked α) :
    Keeps invariant (checked result) := by
  cases result with
  | ok value => exact .pure value
  | error trap => exact .fail _

theorem keeps_onError {operation : RadioM α} {change : Radio → Radio}
    (kept : Keeps invariant operation)
    (changed : Keeps invariant (modifyRadio change)) :
    Keeps invariant (operation.onError change) := by
  intro station holds
  have after := kept station holds
  simp only [onError]
  cases run : operation.run station with
  | ok value reached =>
      rw [run] at after
      exact after
  | error failure reached =>
      rw [run] at after
      exact changed reached after

theorem keeps_access {operation : BusM α}
    (each : ∀ radio, Keeps (fun bench => invariant ⟨radio, bench⟩) operation) :
    Keeps invariant (access operation) := by
  intro station holds
  have kept := each station.radio station.bench holds
  unfold access
  cases outcome : operation.run station.bench with
  | ok value bench =>
      rw [outcome] at kept
      simpa [outcome] using kept
  | error failure bench =>
      rw [outcome] at kept
      simpa [outcome] using kept

theorem keeps_access_radio (held : Radio → Prop) (operation : BusM α) :
    Keeps (fun station => held station.radio) (access operation) :=
  keeps_access fun _ _ holds => holds

theorem radio_access (operation : BusM α) (station : Station) :
    ((access operation).run station).state.radio = station.radio :=
  keeps_access_radio (· = station.radio) operation station rfl

theorem keeps_of_access {operation : BusM α}
    (kept : Keeps invariant (access operation)) (radio : Radio) :
    Keeps (fun bench => invariant ⟨radio, bench⟩) operation := by
  intro bench holds
  have after := kept ⟨radio, bench⟩ holds
  unfold access at after
  cases outcome : operation.run bench with
  | ok value bench => simpa [outcome] using after
  | error failure bench => simpa [outcome] using after

theorem keeps_readRegister [Register ρ]
    (each : ∀ offset : Fin (Register.width ρ),
      Keeps invariant (access (Bus.read (Register.address ρ offset)))) :
    Keeps invariant (readRegister ρ) :=
  keeps_access fun radio => Bus.keeps_readRegister fun offset =>
    keeps_of_access (each offset) radio

theorem keeps_writeRegister [WritableRegister ρ] (register : ρ)
    (each : ∀ (offset : Fin (Register.width ρ)) (value : UInt8),
      Keeps invariant (access (Bus.write (Register.address ρ offset) value))) :
    Keeps invariant (writeRegister register) :=
  keeps_access fun radio =>
    Bus.keeps_writeBytes (fun offset value => keeps_of_access
      (each offset value) radio) _ _

end RadioM

end LoraRadio
