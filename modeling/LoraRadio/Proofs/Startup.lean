import LoraRadio.Proofs.Settings

/-!
# What startup does

Without faults the first operation that needs the chip ends in one of three
ways: the control lines are missing, the firmware is another one, or the default
settings are on the chip and the driver is in service.
-/

namespace LoraRadio

open Operation RadioM

def Chip.boostHigh (chip : Chip) : Chip :=
  chip.update .lna fun byte =>
    LowNoiseAmplifier.toByte
      { LowNoiseAmplifier.ofByte byte with
        boostHigh := LowNoiseAmplifier.boostHighOn }

def Chip.putDefaults (chip : Chip) (known : Configuration) : Chip :=
  ((((((chip.setRegister RegisterName.opMode.address 0x80).putCarrier
    known.frequency).setRegister
    RegisterName.fifoTxBaseAddr.address 0).setRegister
    RegisterName.fifoRxBaseAddr.address 0).boostHigh.setRegister
    RegisterName.modemConfig3.address (ModemConfig3.toByte
      ⟨slowSymbols known.spreadingFactor known.bandwidth, true, 0⟩)).putPower
    .paBoost (Amplifier.paBoost.clampPower 17)).setRegister
    RegisterName.opMode.address 0x81

def startupRegisters : List RegisterName :=
  [.opMode, .frfMsb, .frfMid, .frfLsb, .fifoTxBaseAddr, .fifoRxBaseAddr, .lna,
    .modemConfig3, .paConfig]

theorem Chip.value_putDefaults (chip : Chip) (known : Configuration)
    {name : RegisterName} (apart : name ∉ startupRegisters) :
    (chip.putDefaults known).value name = chip.value name := by
  have other : ∀ written ∈ startupRegisters, written ≠ name := by
    rintro written member rfl
    exact apart member
  simp only [startupRegisters, List.forall_mem_cons] at other
  simp [putDefaults, putPower, boostHigh, update, putCarrier, other]

namespace Radio

variable {α : Type} {before after : Scene}

def pulseScript : List Event :=
  [.line .boot false, .line .reset true, .delay 200, .line .reset false,
    .delay 200, .line .reset true, .delay 50]

def defaultsScript (chip : Chip) (known : Configuration) : List Event :=
  let word := (Carrier.toWord known.frequency).toNat
  let gain := chip.register RegisterName.lna.address
  [.write RegisterName.opMode.address 0x80,
    .write RegisterName.frfMsb.address (UInt8.ofNat (word >>> 16)),
    .write RegisterName.frfMid.address (UInt8.ofNat (word >>> 8)),
    .write RegisterName.frfLsb.address (UInt8.ofNat word),
    .write RegisterName.fifoTxBaseAddr.address 0,
    .write RegisterName.fifoRxBaseAddr.address 0,
    .read RegisterName.lna.address gain,
    .write RegisterName.lna.address
      (LowNoiseAmplifier.toByte
        { LowNoiseAmplifier.ofByte gain with
          boostHigh := LowNoiseAmplifier.boostHighOn }),
    .write RegisterName.modemConfig3.address
      (ModemConfig3.toByte ⟨slowSymbols known.spreadingFactor known.bandwidth,
        true, 0⟩),
    .write RegisterName.paConfig.address
      (AmplifierSetup.ofLegal .paBoost
        (Amplifier.paBoost.clampPower 17)).toByte,
    .write RegisterName.opMode.address 0x81]

theorem follows_resetPulse (before : Scene) :
    Follows resetPulse before pulseScript
      (.ok () { before with elapsedMs := before.elapsedMs + 450 }) := by
  refine .bind (follows_setLine _ _ before) ?_
  refine .bind (follows_setLine _ _ before) ?_
  refine .bind (follows_delay _ before) ?_
  refine .bind (follows_setLine _ _ _) ?_
  refine .bind (follows_delay _ _) ?_
  refine .bind (follows_setLine _ _ _) ?_
  exact follows_delay _ _

theorem follows_sleep (before : Scene) :
    Follows (writeMode .sleep) before [.write RegisterName.opMode.address 0x80]
      (.ok () (before.withChip
        (before.chip.setRegister RegisterName.opMode.address 0x80))) :=
  follows_writeRegister _ before

theorem follows_standby (before : Scene) :
    Follows (writeMode .standby) before
      [.write RegisterName.opMode.address 0x81]
      (.ok () (before.withChip
        (before.chip.setRegister RegisterName.opMode.address 0x81))) :=
  follows_writeRegister _ before

theorem follows_writeCarrier (hz : UInt32) (before : Scene) :
    Follows (writeRegister (CarrierWord.ofHz hz)) before
      [.write RegisterName.frfMsb.address
        (UInt8.ofNat ((Carrier.toWord hz).toNat >>> 16)),
        .write RegisterName.frfMid.address
          (UInt8.ofNat ((Carrier.toWord hz).toNat >>> 8)),
        .write RegisterName.frfLsb.address
          (UInt8.ofNat (Carrier.toWord hz).toNat)]
      (.ok () (before.withChip (before.chip.putCarrier hz))) :=
  follows_writeRegister _ before

theorem follows_boostHigh (before : Scene) :
    Follows (updateRegister fun lna : LowNoiseAmplifier =>
        { lna with boostHigh := LowNoiseAmplifier.boostHighOn }) before
      [.read RegisterName.lna.address
          (before.chip.register RegisterName.lna.address),
        .write RegisterName.lna.address
          (LowNoiseAmplifier.toByte
            { LowNoiseAmplifier.ofByte
              (before.chip.register RegisterName.lna.address) with
              boostHigh := LowNoiseAmplifier.boostHighOn })]
      (.ok () (before.withChip before.chip.boostHigh)) :=
  follows_updateRegister _ rfl

theorem follows_programDefaults (legal : before.radio.configuration.Legal) :
    Follows programDefaults before
      (defaultsScript before.chip before.radio.configuration)
      (.ok () ((before.withChip
        (before.chip.putDefaults before.radio.configuration)).configure
          (Setting.power 17 .paBoost).configure)) := by
  refine .bind (follows_sleep before) ?_
  refine .bind (follows_getConfiguration _) ?_
  refine .bind (follows_writeCarrier _ _) ?_
  refine .bind (follows_writeRegister _ _) ?_
  refine .bind (follows_writeRegister _ _) ?_
  -- None of the writes so far goes to the register that is looked at.
  have gain : before.chip.register RegisterName.lna.address =
      ((((before.chip.setRegister RegisterName.opMode.address 0x80).putCarrier
        before.radio.configuration.frequency).setRegister
          RegisterName.fifoTxBaseAddr.address 0).setRegister
            RegisterName.fifoRxBaseAddr.address 0).register
              RegisterName.lna.address := by
    simp [Chip.putCarrier]
  rw [gain]
  refine .bind (follows_boostHigh _) ?_
  refine .bind
    (follows_checked (lowDataRate_of_legal legal.spreadingFactor _) _) ?_
  refine .bind (follows_writeRegister _ _) ?_
  refine .bind (follows_programPower 17 .paBoost _) ?_
  exact follows_standby _

theorem follows_onError {operation : RadioM α} {value : α} {script : List Event}
    (change : Radio → Radio)
    (follows : Follows operation before script (.ok value after)) :
    Follows (operation.onError change) before script (.ok value after) := by
  intro station scene
  rcases follows station scene with
    ⟨seen, records⟩ | ⟨unsound, failure, final, events, run, breaks, records⟩
  · obtain ⟨final, run, reached⟩ := Outcome.exists_of_view_ok seen
    rw [run] at records
    simp only [onError, run]
    exact .inl ⟨congrArg (Outcome.ok value) reached, records⟩
  · simp only [onError, run]
    exact .inr ⟨unsound, failure, _, events, rfl, breaks, records⟩

def startup (before : Scene) : Scene :=
  if before.radio.connection.complete then
    let version := before.chip.register RegisterName.version.address
    if version = requiredVersion then
      { radio :=
          { before.radio with
            lifecycle := .ready
            version := some version
            configuration :=
              (Setting.power 17 .paBoost).configure before.radio.configuration }
        chip := before.chip.putDefaults before.radio.configuration
        elapsedMs := before.elapsedMs + 450 }
    else
      { before with
        radio :=
          { before.radio with
            lifecycle := .firmwareMismatch, version := some version }
        elapsedMs := before.elapsedMs + 450 }
  else { before with
    radio := { before.radio with lifecycle := .invalidConfiguration } }

def startupScript (before : Scene) : List Event :=
  if before.radio.connection.complete then
    let version := before.chip.register RegisterName.version.address
    pulseScript ++ .read RegisterName.version.address version ::
      if version = requiredVersion then
        defaultsScript before.chip before.radio.configuration else []
  else []

theorem follows_bringUp (legal : before.radio.configuration.Legal) :
    Follows bringUp before (startupScript before)
      (.ok () (startup before)) := by
  refine .silent_bind (follows_modifyRadio _ before) ?_
  refine .silent_bind (follows_getRadio _) ?_
  unfold startup startupScript
  by_cases complete : before.radio.connection.complete = true
  · rw [if_pos complete, if_pos complete, if_pos complete]
    refine .bind (follows_resetPulse _) ?_
    by_cases required : before.chip.register RegisterName.version.address =
      requiredVersion
    · simp only [if_pos required]
      refine .bind (follows_readNumber (by decide) (by decide) _) ?_
      refine .silent_bind (follows_modifyRadio _ _) ?_
      simp only [required, if_true]
      exact .bind_silent (follows_programDefaults legal)
        (follows_modifyRadio _ _)
    · simp only [if_neg required]
      refine .bind (follows_readNumber (by decide) (by decide) _) ?_
      refine .silent_bind (follows_modifyRadio _ _) ?_
      simp only [required, if_false]
      exact follows_modifyRadio _ _
  · rw [if_neg complete, if_neg complete, if_neg complete]
    exact follows_modifyRadio _ _

theorem follows_ensureReady (new : before.radio.lifecycle = .uninitialized)
    (legal : before.radio.configuration.Legal) :
    Follows ensureReady before (startupScript before)
      (.ok (startup before).radio.ready (startup before)) := by
  refine .silent_bind (follows_getRadio before) ?_
  rw [if_pos new]
  refine .bind_silent (follows_onError _ (follows_bringUp legal)) ?_
  exact .bind (follows_getRadio _) (.pure _ _)

theorem lifecycle_of_run_error {station final : Station} {failure : Failure}
    (run : ensureReady.run station = .error failure final) :
    final.radio.lifecycle = .uninitialized := by
  by_cases new : station.radio.lifecycle = .uninitialized
  · simp only [ensureReady, run_bind, getRadio, new, if_true,
      Outcome.andThen_ok, onError] at run
    cases begun : bringUp.run station with
    | ok value reached =>
        rw [begun] at run
        cases run
    | error reported reached =>
        rw [begun] at run
        cases run
        rfl
  · rw [run_ensureReady_of_started new] at run
    cases run

theorem startup_started (before : Scene) :
    (startup before).radio.lifecycle ≠ .uninitialized := by
  unfold startup
  split
  · dsimp only
    split <;> simp
  · simp

theorem usable_of_startup_ready (ready : (startup before).radio.ready = true) :
    before.radio.connection.complete = true ∧
      before.chip.register RegisterName.version.address = requiredVersion := by
  unfold startup at ready
  split at ready
  · next complete =>
      dsimp only at ready
      split at ready
      · next required => exact ⟨complete, required⟩
      · cases ready
  · cases ready

theorem legal_startup (legal : before.radio.configuration.Legal) :
    (startup before).radio.configuration.Legal := by
  unfold startup
  split
  · dsimp only
    split
    · exact (Setting.power 17 .paBoost).legal_configure legal
    · exact legal
  · exact legal

def openingScript (before : Scene) : List Event :=
  if before.radio.lifecycle = .uninitialized then startupScript before else []

theorem exists_opened {station : Station} (sound : station.bench.Sound)
    (legal : station.radio.configuration.Legal) :
    ∃ reached, ensureReady.run station = .ok reached.radio.ready reached ∧
      reached.radio.lifecycle ≠ .uninitialized ∧ reached.bench.Sound ∧
      reached.radio.configuration.Legal ∧
      reached.bench.events =
        station.bench.events ++ openingScript station.scene := by
  by_cases new : station.scene.radio.lifecycle = .uninitialized
  · obtain ⟨reached, run, sound, scene, recorded⟩ :=
      (follows_ensureReady new legal).exists_run sound rfl
    have radio : reached.radio = (startup station.scene).radio :=
      congrArg Scene.radio scene
    refine ⟨reached, ?_, ?_, sound, ?_, ?_⟩
    · rw [run, radio]
    · rw [radio]
      exact startup_started station.scene
    · rw [radio]
      exact legal_startup legal
    · rw [recorded, openingScript, if_pos new]
  · refine ⟨station, run_ensureReady_of_started new, new, sound, legal, ?_⟩
    rw [openingScript, if_neg new, List.append_nil]

theorem exists_started {station : Station} (sound : station.bench.Sound)
    (legal : station.radio.configuration.Legal) :
    ∃ reached, ensureReady.run station = .ok reached.radio.ready reached ∧
      reached.radio.lifecycle ≠ .uninitialized ∧ reached.bench.Sound ∧
      reached.radio.configuration.Legal := by
  obtain ⟨reached, run, started, sound, legal, -⟩ := exists_opened sound legal
  exact ⟨reached, run, started, sound, legal⟩

/-- Startup happens once: the operation then runs as it would on the driver that
was started. -/
theorem run_whenReady_of_run {station reached : Station} (neutral : α)
    (operation : RadioM α)
    (run : ensureReady.run station = .ok reached.radio.ready reached)
    (started : reached.radio.lifecycle ≠ .uninitialized) :
    (whenReady neutral operation).run station =
      (whenReady neutral operation).run reached := by
  rw [whenReady, run_bind, run_bind, run, run_ensureReady_of_started started]

end Radio

end LoraRadio
