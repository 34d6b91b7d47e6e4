import LoraRadio.Proofs.Quiet
import LoraRadio.Radio.Deferred

/-!
# Deferred operations run to their end

A deferred operation that nobody drops is an operation like any other.  Running
to the end respects the way operations are put together, so a deferred operation
is completed part by part.  Startup is written twice, once in each form, and
comes out the same.
-/

namespace LoraRadio

open Operation

variable {α β ρ : Type}

namespace BusTask

def complete (task : BusTask α) : BusM α where
  run bench :=
    match (task.start ()).run bench with
    | (.ok value, _, bench) => .ok value bench
    | (.error error, _, bench) => .error error bench

theorem complete_pure (value : α) : complete (pure value) = pure value := rfl

theorem complete_bind (task : BusTask α) (next : α → BusTask β) :
    complete (task >>= next) = complete task >>= fun value =>
      complete (next value) := by
  apply Operation.ext
  intro bench
  simp only [complete, run_bind, Deferred.start_bind, Coroutine.run_bind]
  obtain ⟨result, state, bench⟩ := (task.start ()).run bench
  cases result <;> rfl

theorem complete_read (header : ReadHeader) :
    complete (read header) = Bus.read header := by
  apply Operation.ext
  intro bench
  simp only [complete, read, Bus.read, Coroutine.run]
  obtain ⟨reply, bench⟩ := bench.read header
  cases reply <;> rfl

theorem complete_write (header : WriteHeader) (value : UInt8) :
    complete (write header value) = Bus.write header value := by
  apply Operation.ext
  intro bench
  simp only [complete, write, Bus.write, Coroutine.run]
  obtain ⟨passed, bench⟩ := bench.write header value
  cases passed <;> rfl

theorem complete_readBytes [Register ρ] (count : Nat)
    (within : count ≤ Register.width ρ) :
    complete (readBytes ρ count within) = Bus.readBytes ρ count within := by
  induction count with
  | zero => rfl
  | succ count ih =>
      have shorter := ih (Register.le_width_of_succ within)
      change complete (readBytes ρ count _ >>= fun bytes =>
        read (Register.address ρ ⟨count, within⟩) >>= fun byte =>
          pure (bytes.push byte)) = _
      simp only [complete_bind, complete_read, complete_pure, shorter]
      rfl

theorem complete_readRegister [Register ρ] :
    complete (readRegister ρ) = Bus.readRegister ρ := by
  simp only [readRegister, Bus.readRegister, complete_bind, complete_readBytes]
  congr 1
  funext bytes
  cases Register.decode bytes <;> rfl

theorem complete_writeBytes [Register ρ]
    (bytes : Vector UInt8 (Register.width ρ)) (count : Nat)
    (within : count ≤ Register.width ρ) :
    complete (writeBytes ρ bytes count within) =
      Bus.writeBytes ρ bytes count within := by
  induction count with
  | zero => rfl
  | succ count ih =>
      simp only [writeBytes, Bus.writeBytes, complete_bind, complete_write, ih]

theorem complete_writeRegister [WritableRegister ρ] (register : ρ) :
    complete (writeRegister register) = Bus.writeRegister register :=
  complete_writeBytes _ _ _

end BusTask

namespace RadioTask

def complete (task : RadioTask α) : RadioM α where
  run station :=
    match (task.start station.radio).run station.bench with
    | (.ok value, radio, bench) => .ok value ⟨radio, bench⟩
    | (.error failure, radio, bench) => .error failure ⟨radio, bench⟩

@[simp] theorem complete_pure (value : α) :
    complete (pure value) = pure value := rfl

@[simp] theorem complete_fail (failure : Failure) :
    complete (Deferred.fail failure : RadioTask α) = Operation.fail failure :=
  rfl

@[simp] theorem complete_bind (task : RadioTask α) (next : α → RadioTask β) :
    complete (task >>= next) = complete task >>= fun value =>
      complete (next value) := by
  apply Operation.ext
  intro station
  simp only [complete, run_bind, Deferred.start_bind, Coroutine.run_bind]
  obtain ⟨result, radio, bench⟩ := (task.start station.radio).run station.bench
  cases result <;> rfl

@[simp] theorem complete_ite {condition : Prop} [Decidable condition]
    (yes no : RadioTask α) :
    complete (if condition then yes else no) =
      if condition then complete yes else complete no := by
  by_cases holds : condition <;> simp [holds]

@[simp] theorem complete_getRadio : complete getRadio = RadioM.getRadio := rfl

@[simp] theorem complete_getConfiguration :
    complete getConfiguration = RadioM.getConfiguration := rfl

@[simp] theorem complete_modifyRadio (change : Radio → Radio) :
    complete (modifyRadio change) = RadioM.modifyRadio change := rfl

@[simp] theorem complete_modifyConfiguration
    (change : Configuration → Configuration) :
    complete (modifyConfiguration change) = RadioM.modifyConfiguration change :=
  rfl

@[simp] theorem complete_setLifecycle (lifecycle : Lifecycle) :
    complete (setLifecycle lifecycle) = RadioM.setLifecycle lifecycle := rfl

@[simp] theorem complete_checked (result : Checked α) :
    complete (checked result) = RadioM.checked result := by
  cases result <;> rfl

@[simp] theorem complete_delay (ms : UInt32) :
    complete (delay ms) = RadioM.delay ms := rfl

@[simp] theorem complete_setLine (line : Line) (level : Bool) :
    complete (setLine line level) = RadioM.setLine line level := by
  apply Operation.ext
  intro station
  simp only [complete, setLine, RadioM.setLine, Coroutine.run]
  obtain ⟨passed, bench⟩ := station.bench.setLine line level
  cases passed <;> rfl

theorem complete_access (task : BusTask α) :
    complete (access task) = RadioM.access task.complete := by
  apply Operation.ext
  intro station
  simp only [complete, access, RadioM.access, BusTask.complete,
    Coroutine.run_embed]
  obtain ⟨result, state, bench⟩ := (task.start ()).run station.bench
  cases result <;> rfl

@[simp] theorem complete_readRegister [Register ρ] :
    complete (readRegister ρ) = RadioM.readRegister ρ := by
  rw [readRegister, complete_access, BusTask.complete_readRegister]
  rfl

@[simp] theorem complete_writeRegister [WritableRegister ρ] (register : ρ) :
    complete (writeRegister register) = RadioM.writeRegister register := by
  rw [writeRegister, complete_access, BusTask.complete_writeRegister]
  rfl

@[simp] theorem complete_updateRegister [WritableRegister ρ] (change : ρ → ρ) :
    complete (updateRegister change) = RadioM.updateRegister change := by
  simp [updateRegister, RadioM.updateRegister]

@[simp] theorem complete_onError (change : Radio → Radio) (task : RadioTask α) :
    complete (onError change task) = RadioM.onError change task.complete := by
  apply Operation.ext
  intro station
  simp only [complete, onError, RadioM.onError, Coroutine.run_onError]
  obtain ⟨result, radio, bench⟩ := (task.start station.radio).run station.bench
  cases result <;> rfl

/-! ## Startup -/

@[simp] theorem complete_writeMode (mode : Mode) :
    complete (writeMode mode) = Radio.writeMode mode := by
  simp [writeMode, Radio.writeMode]

theorem complete_resetPulse : complete resetPulse = Radio.resetPulse := by
  simp [resetPulse, Radio.resetPulse]

theorem complete_programDefaults :
    complete programDefaults = Radio.programDefaults := by
  simp [programDefaults, Radio.programDefaults, Radio.programPower,
    Operation.bind_assoc]

theorem complete_bringUp : complete bringUp = Radio.bringUp := by
  simp [bringUp, Radio.bringUp, complete_resetPulse, complete_programDefaults]

@[simp] theorem complete_ensureReady :
    complete ensureReady = Radio.ensureReady := by
  simp [ensureReady, Radio.ensureReady, complete_bringUp]

@[simp] theorem complete_whenReady (neutral : α) (task : RadioTask α) :
    complete (whenReady neutral task) =
      Radio.whenReady neutral task.complete := by
  simp [whenReady, Radio.whenReady]

theorem complete_isReady : complete isReady = Radio.isReady :=
  complete_ensureReady

theorem complete_firmware : complete firmware = Radio.firmware := by
  simp [firmware, Radio.firmware]

theorem complete_idle : complete idle = Radio.idle := by
  simp [idle, Radio.idle]

end RadioTask

end LoraRadio
