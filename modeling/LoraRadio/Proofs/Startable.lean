import LoraRadio.Proofs.Startup
import LoraRadio.Proofs.Stops

/-!
# Conditions that startup keeps

Startup pulses the reset line, reads the version and writes the defaults.  A
condition that these steps cannot break holds after it, and wherever it is
dropped.
-/

namespace LoraRadio

open Operation RadioM Radio

variable {ρ : Type}

namespace RadioTask

theorem stops_ensureReady (station : Station) :
    ensureReady.stops station =
      if station.radio.lifecycle = .uninitialized then bringUp.stops station
      else [] := by
  have asked : ensureReady.stops station =
      (if station.radio.lifecycle = .uninitialized then
        (bringUp.onError fun radio => { radio with
          lifecycle := .uninitialized }) >>= fun _ =>
          getRadio >>= fun radio => pure radio.ready
      else getRadio >>= fun radio => pure radio.ready :
        RadioTask Bool).stops station := rfl
  rw [asked]
  split
  · rw [stops_bind, stops_onError]
    -- Nothing is left to wait for once startup has ended.
    cases (complete (bringUp.onError fun radio =>
        { radio with lifecycle := .uninitialized })).run station with
    | ok value reached => exact List.append_nil _
    | error failure reached => exact List.append_nil _
  · rfl

theorem stops_ensureReady_of_started {station : Station}
    (started : station.radio.lifecycle ≠ .uninitialized) :
    ensureReady.stops station = [] := by
  rw [stops_ensureReady, if_neg started]

end RadioTask

/-- A condition that no step of startup can break, changes of the lifecycle
apart. -/
structure Startable (held : Station → Prop) : Prop where
  line : ∀ line level, Keeps held (setLine line level)
  delay : ∀ ms, Keeps held (delay ms)
  read : ∀ address : Address, Keeps held (access (Bus.read address))
  write : ∀ name ∈ startupRegisters, ∀ value,
    Keeps held (access (Bus.write name.address value))
  version : ∀ version,
    Keeps held (modifyRadio fun radio => { radio with version := some version })
  power : Keeps held (modifyConfiguration (Setting.power 17 .paBoost).configure)

namespace Startable

open RadioTask (Halts)

variable {held : Station → Prop} (startable : Startable held)

include startable

theorem keeps_writeByte [WritableRegister ρ]
    (within : ∀ offset : Fin (Register.width ρ), ∃ name ∈ startupRegisters,
      name.address = Register.address ρ offset)
    (offset : Fin (Register.width ρ)) (value : UInt8) :
    Keeps held (access (Bus.write (Register.address ρ offset) value)) := by
  obtain ⟨name, member, same⟩ := within offset
  rw [← same]
  exact startable.write name member value

theorem keeps_writeRegister [WritableRegister ρ] (register : ρ)
    (within : ∀ offset : Fin (Register.width ρ), ∃ name ∈ startupRegisters,
      name.address = Register.address ρ offset) :
    Keeps held (writeRegister register) :=
  RadioM.keeps_writeRegister register (startable.keeps_writeByte within)

theorem keeps_readRegister [Register ρ] : Keeps held (readRegister ρ) :=
  RadioM.keeps_readRegister fun _ => startable.read _

theorem keeps_resetPulse : Keeps held resetPulse := by
  refine .bind (startable.line _ _) fun _ =>
    .bind (startable.line _ _) fun _ => ?_
  refine .bind (startable.delay _) fun _ =>
    .bind (startable.line _ _) fun _ => ?_
  refine .bind (startable.delay _) fun _ =>
    .bind (startable.line _ _) fun _ => ?_
  exact startable.delay _

theorem keeps_programDefaults : Keeps held programDefaults := by
  refine .bind (startable.keeps_writeRegister _ (by decide)) fun _ => ?_
  refine .bind keeps_getConfiguration fun known => ?_
  refine .bind (startable.keeps_writeRegister _ (by decide)) fun _ => ?_
  refine .bind (startable.keeps_writeRegister _ (by decide)) fun _ => ?_
  refine .bind (startable.keeps_writeRegister _ (by decide)) fun _ => ?_
  refine .bind (.bind startable.keeps_readRegister fun _ =>
    startable.keeps_writeRegister _ (by decide)) fun _ => ?_
  refine .bind (keeps_checked _) fun optimized => ?_
  refine .bind (startable.keeps_writeRegister _ (by decide)) fun _ => ?_
  refine .bind (.bind (keeps_checked _) fun setup => ?_) fun _ =>
    startable.keeps_writeRegister _ (by decide)
  exact .bind (startable.keeps_writeRegister _ (by decide)) fun _ =>
    startable.power

theorem keeps_bringUp
    (stage : ∀ lifecycle, Keeps held (setLifecycle lifecycle)) :
    Keeps held bringUp := by
  refine .bind (stage _) fun _ => .bind keeps_getRadio fun radio =>
    .ite ?_ (stage _)
  refine .bind startable.keeps_resetPulse fun _ => ?_
  refine .bind startable.keeps_readRegister fun version => ?_
  refine .bind (startable.version _) fun _ => .ite ?_ (stage _)
  exact .bind startable.keeps_programDefaults fun _ => stage _

theorem keeps_ensureReady
    (stage : ∀ lifecycle, Keeps held (setLifecycle lifecycle)) :
    Keeps held ensureReady := by
  have told : Keeps held (do return (← getRadio).ready) :=
    .bind keeps_getRadio fun _ => .pure _
  refine .bind keeps_getRadio fun radio => .ite (.bind ?_ fun _ => told) told
  exact keeps_onError (startable.keeps_bringUp stage) (stage .uninitialized)

theorem halts_writeRegister [WritableRegister ρ] (register : ρ)
    (within : ∀ offset : Fin (Register.width ρ), ∃ name ∈ startupRegisters,
      name.address = Register.address ρ offset) :
    Halts held (RadioTask.writeRegister register) held :=
  RadioTask.halts_writeRegister (fun _ => id) register
    (startable.keeps_writeByte within)

theorem halts_readRegister [Register ρ] :
    Halts held (RadioTask.readRegister ρ) held :=
  RadioTask.halts_readRegister (fun _ => id) fun _ => startable.read _

theorem halts_setLine_bind {α : Type} (line : Line) (level : Bool)
    {next : Unit → RadioTask α} (rest : ∀ value, Halts held (next value) held) :
    Halts held (RadioTask.setLine line level >>= next) held :=
  .bind_of_complete (RadioTask.complete_setLine line level)
    (RadioTask.halts_setLine _ _) (startable.line line level) rest

theorem halts_resetPulse : Halts held RadioTask.resetPulse held := by
  have waits (ms : UInt32) : Halts held (RadioTask.delay ms) held :=
    RadioTask.halts_delay (fun _ => id) ms
  refine startable.halts_setLine_bind _ _ fun _ =>
    startable.halts_setLine_bind _ _ fun _ => ?_
  refine .bind (waits _) (startable.delay _) fun _ =>
    startable.halts_setLine_bind _ _ fun _ => ?_
  refine .bind (waits _) (startable.delay _) fun _ =>
    startable.halts_setLine_bind _ _ fun _ => ?_
  exact waits _

theorem halts_writeRegister_bind {α : Type} [WritableRegister ρ] (register : ρ)
    {next : Unit → RadioTask α}
    (within : ∀ offset : Fin (Register.width ρ), ∃ name ∈ startupRegisters,
      name.address = Register.address ρ offset)
    (rest : ∀ value, Halts held (next value) held) :
    Halts held (RadioTask.writeRegister register >>= next) held :=
  .bind_of_complete (RadioTask.complete_writeRegister register)
    (startable.halts_writeRegister register within)
    (startable.keeps_writeRegister register within) rest

theorem halts_readRegister_bind {α : Type} [Register ρ] {next : ρ → RadioTask α}
    (rest : ∀ value, Halts held (next value) held) :
    Halts held (RadioTask.readRegister ρ >>= next) held :=
  .bind_of_complete RadioTask.complete_readRegister startable.halts_readRegister
    startable.keeps_readRegister rest

theorem halts_programDefaults : Halts held RadioTask.programDefaults held := by
  have checks {α β : Type} (result : Checked α) {next : α → RadioTask β}
      (rest : ∀ value, Halts held (next value) held) :
      Halts held (RadioTask.checked result >>= next) held :=
    .bind_of_complete (RadioTask.complete_checked result)
      (RadioTask.halts_checked _) (keeps_checked result) rest
  refine startable.halts_writeRegister_bind _ (by decide) fun _ => ?_
  refine .bind (.ofNone fun _ => rfl) keeps_getConfiguration fun known => ?_
  refine startable.halts_writeRegister_bind _ (by decide) fun _ => ?_
  refine startable.halts_writeRegister_bind _ (by decide) fun _ => ?_
  refine startable.halts_writeRegister_bind _ (by decide) fun _ => ?_
  refine .bind_of_complete (RadioTask.complete_updateRegister _)
    (startable.halts_readRegister_bind fun _ => startable.halts_writeRegister _
      (by decide))
    (.bind startable.keeps_readRegister fun _ => startable.keeps_writeRegister _
      (by decide)) ?_
  intro _
  refine checks _ fun optimized =>
    startable.halts_writeRegister_bind _ (by decide) fun _ => ?_
  refine checks _ fun setup =>
    startable.halts_writeRegister_bind _ (by decide) fun _ => ?_
  refine .bind (.ofNone fun _ => rfl) startable.power fun _ => ?_
  exact startable.halts_writeRegister _ (by decide)

theorem halts_bringUp {before : Station → Prop}
    (begins : ∀ station, before station →
      held ⟨{ station.radio with lifecycle := .initializing }, station.bench⟩) :
    Halts before RadioTask.bringUp held := by
  -- The change of the lifecycle comes before the first stop.
  have marked : ∀ station value reached, before station →
      (RadioTask.setLifecycle .initializing).complete.run station =
        .ok value reached →
      held reached := by
    intro station value reached holds run
    cases run
    exact begins station holds
  refine .andThen (.ofNone fun _ => rfl) marked fun _ => ?_
  refine .bind (.ofNone fun _ => rfl) keeps_getRadio fun radio => ?_
  refine .ite ?_ (.ofNone fun _ => rfl)
  refine .bind_of_complete RadioTask.complete_resetPulse
    startable.halts_resetPulse startable.keeps_resetPulse fun _ =>
      startable.halts_readRegister_bind fun version => ?_
  refine .bind (.ofNone fun _ => rfl) (startable.version _) fun _ =>
    .ite ?_ (.ofNone fun _ => rfl)
  exact .bind_of_complete RadioTask.complete_programDefaults
    startable.halts_programDefaults
    startable.keeps_programDefaults fun _ => .ofNone fun _ => rfl

theorem halts_ensureReady {before : Station → Prop}
    (begins : ∀ station, before station →
      station.radio.lifecycle = .uninitialized →
      held ⟨{ station.radio with lifecycle := .initializing }, station.bench⟩) :
    Halts before RadioTask.ensureReady held := by
  intro station holds stop member
  rw [RadioTask.stops_ensureReady] at member
  split at member
  · next new =>
      have begun : ∀ other : Station, other = station →
          held ⟨{ other.radio with lifecycle := .initializing },
            other.bench⟩ := by
        rintro _ rfl
        exact begins _ holds new
      exact startable.halts_bringUp begun station rfl stop member
  · cases member

omit startable in
theorem and {first second : Station → Prop} (left : Startable first)
    (right : Startable second) :
    Startable fun station => first station ∧ second station where
  line line level := (left.line line level).and (right.line line level)
  delay ms := (left.delay ms).and (right.delay ms)
  read address := (left.read address).and (right.read address)
  write name member value :=
    (left.write name member value).and (right.write name member value)
  version version := (left.version version).and (right.version version)
  power := left.power.and right.power

end Startable

theorem startable_initializing :
    Startable fun station => station.radio.lifecycle = .initializing where
  line line level station known := by rwa [state_setLine]
  delay ms station known := known
  read address station known := by rwa [state_read]
  write name _ value station known := by rwa [state_write]
  version version station known := known
  power station known := known

end LoraRadio
