import LoraRadio.Proofs.Coherence
import LoraRadio.Proofs.Lasting

/-!
# Coherence along sessions

None but a setter, the choice of the header mode and startup writes a register
of the settings, so coherence lasts from call to call.  What one step keeps, a
session keeps.
-/

namespace LoraRadio

open Operation RadioM Radio

/-! ## Drivers in service -/

structure InService (scene : Scene) : Prop where
  ready : scene.radio.ready = true
  legal : scene.radio.configuration.Legal
  coherent : Coherent scene.radio.configuration scene.chip

namespace InService

theorem withChip {scene : Scene} {chip : Chip}
    (same : scene.chip.SameSettings chip) (holds : InService scene) :
    InService (scene.withChip chip) :=
  ⟨holds.ready, holds.legal, holds.coherent.congr same⟩

end InService

/-! ## Drivers that may have to start -/

/-- Before startup the driver has the settings of a new one, but for the wait
that a caller may have chosen, and the chip has the reset values of their
registers. -/
structure Tracked (scene : Scene) : Prop where
  waiting : scene.radio.lifecycle = .uninitialized →
    scene.radio.configuration.Initial ∧ Chip.fresh.SameSettings scene.chip
  inService : scene.radio.ready = true → InService scene

namespace Tracked

variable {scene : Scene}

theorem ofInService (holds : InService scene) : Tracked scene where
  waiting new := by
    have ready := holds.ready
    simp [Radio.ready, new] at ready
  inService _ := holds

theorem ofRefused (started : scene.radio.lifecycle ≠ .uninitialized)
    (refused : scene.radio.ready = false) : Tracked scene where
  waiting new := absurd new started
  inService ready := by simp [refused] at ready

theorem startup (new : scene.radio.lifecycle = .uninitialized)
    (tracked : Tracked scene) :
    Tracked (Radio.startup scene) := by
  obtain ⟨⟨polling, known⟩, reset⟩ := tracked.waiting new
  -- Only the first of the three endings leaves a driver in service.
  unfold Radio.startup
  split
  · dsimp only
    split
    · apply ofInService
      refine ⟨rfl, ?_, ?_⟩
      · rw [known]
        exact Configuration.legal_polling polling
      · rw [known]
        exact Coherent.putDefaults reset polling
    · exact ofRefused (by simp) rfl
  · exact ofRefused (by simp) rfl

theorem keeps_ensureReady : Keeps (Quietly Tracked) ensureReady := by
  intro station holds
  obtain ⟨sound, tracked⟩ := holds
  by_cases new : station.radio.lifecycle = .uninitialized
  · have legal : station.scene.radio.configuration.Legal :=
      (tracked.waiting new).1.legal
    obtain ⟨final, run, stays, reached⟩ :=
      (follows_ensureReady new legal).gives.exists_run sound rfl
    rw [run]
    refine ⟨stays, ?_⟩
    change Tracked final.scene
    rw [reached]
    exact tracked.startup new
  · rw [run_ensureReady_of_started new]
    exact ⟨sound, tracked⟩

theorem keeps_setPolling (wait : Polling) :
    Keeps (Quietly Tracked) (setPolling wait) := by
  refine Gives.keeps fun before tracked =>
    ⟨_, gives_modifyConfiguration _ before, ?_, ?_⟩
  · intro new
    obtain ⟨initial, reset⟩ := tracked.waiting new
    exact ⟨Setting.initial_polling initial wait, reset⟩
  · intro ready
    have holds := tracked.inService ready
    exact ⟨ready, { holds.legal with }, holds.coherent.withPolling _⟩

theorem keeps_live {α : Type} {operation : RadioM α}
    (each : ∀ before, InService before →
      ∃ after, Gives operation before after ∧ InService after.state) :
    Keeps (Live (Quietly Tracked)) operation := by
  rintro station ⟨⟨sound, tracked⟩, ready⟩
  obtain ⟨stays, holds⟩ :=
    Gives.keeps each station ⟨sound, tracked.inService ready⟩
  exact ⟨⟨stays, ofInService holds⟩, holds.ready⟩

theorem keeps_read (address : Address) :
    Keeps (Live (Quietly Tracked)) (access (Bus.read address)) :=
  keeps_live fun before holds =>
    ⟨_, gives_read address before, holds.withChip (Chip.sameSettings_read _ _)⟩

theorem keeps_write {address : Address} (value : UInt8)
    (apart : ∀ name ∈ settingRegisters, name.address ≠ address) :
    Keeps (Live (Quietly Tracked)) (access (Bus.write address value)) :=
  keeps_live fun before holds =>
    ⟨_, gives_write address value before,
      holds.withChip (Chip.sameSettings_write _ value apart)⟩

theorem keeps_writeMode (mode : Mode) :
    Keeps (Live (Quietly Tracked)) (writeMode mode) :=
  keeps_write _ (by decide)

theorem steady : Steady (Quietly Tracked) where
  start := keeps_ensureReady
  read _ := keeps_read _
  rest mode _ := keeps_writeMode mode

theorem lasting : Lasting (Quietly Tracked) where
  toSteady := steady
  mode := keeps_writeMode
  buffer := keeps_read _
  write name member value := by
    apply keeps_write
    revert name
    decide
  delay ms := keeps_live fun before holds =>
    ⟨_, gives_delay ms before, holds.ready, holds.legal, holds.coherent⟩
  cursor change := keeps_live fun before holds =>
    ⟨_, gives_modifyRadio _ before, holds.ready, holds.legal, holds.coherent⟩
  header mode := keeps_live fun before holds =>
    ⟨_, gives_setHeaderMode mode before, holds.ready, { holds.legal with },
      holds.coherent.putHeaderMode⟩
  set setting := by
    refine steady.keeps_set
      (fun setting => keeps_live fun before holds => ?_) keeps_setPolling _
    exact ⟨_, setting.gives_set holds.ready holds.legal, holds.ready,
      setting.legal_configure holds.legal,
      holds.coherent.setting holds.legal setting⟩

end Tracked

/-! ## Sessions -/

namespace Chip

theorem sameSettings_load (chip : Chip) (position : UInt8)
    (bytes : List UInt8) :
    chip.SameSettings (chip.load position bytes) := by
  intro name _
  exact congrArg UInt8.toNat (register_load chip position bytes name.address)

theorem SameSettings.trans {first second third : Chip}
    (left : first.SameSettings second) (right : second.SameSettings third) :
    first.SameSettings third :=
  fun name member => (right name member).trans (left name member)

theorem sameSettings_deliver (chip : Chip) (start : UInt8) (packet : List UInt8)
    (flags : UInt8) :
    chip.SameSettings (chip.deliver start packet flags) := by
  intro name member
  refine congrArg UInt8.toNat (register_deliver chip start packet flags ?_)
  revert name
  decide

end Chip

/-- A step in which nothing fails, no call is dropped, and nobody but the driver
writes registers of the settings. -/
def Step.Undisturbed : Step → Prop
  | .stimulus event =>
      match event with
      | .load _ _ | .deliver _ _ _ | .transmitter _ _ => True
      | .poke _ _ | .busFaults _ | .lineFaults _ => False
  | .reconnect _ _ chip => ∃ new ∈ chip, Chip.fresh.SameSettings new
  | .release => False
  | .call made => made.Whole

namespace Tracked

theorem withChip {scene : Scene} {chip : Chip}
    (same : scene.chip.SameSettings chip) (tracked : Tracked scene) :
    Tracked (scene.withChip chip) where
  waiting new := ⟨(tracked.waiting new).1, (tracked.waiting new).2.trans same⟩
  inService ready := (tracked.inService ready).withChip same

theorem attach {connection : Connection} {bench : Bench} (sound : bench.Sound)
    (reset : Chip.fresh.SameSettings bench.chip) :
    Quietly Tracked ⟨Radio.attach connection, bench⟩ :=
  ⟨sound, fun _ => ⟨⟨none, rfl⟩, reset⟩,
    fun ready => absurd ready Bool.false_ne_true⟩

theorem step {session : Session} {step : Step} (undisturbed : step.Undisturbed)
    (holds : Quietly Tracked session.station) :
    Quietly Tracked (session.step step).2.station := by
  cases step with
  | call call => exact lasting.perform undisturbed holds
  | release => cases undisturbed
  | reconnect boot reset chip =>
      obtain ⟨new, rfl, resetValues⟩ := undisturbed
      exact attach holds.1 resetValues
  | stimulus event =>
      obtain ⟨sound, tracked⟩ := holds
      cases event with
      | load position bytes =>
          exact ⟨sound, tracked.withChip (Chip.sameSettings_load _ _ _)⟩
      | deliver start packet flags =>
          exact ⟨sound, tracked.withChip (Chip.sameSettings_deliver _ _ _ _)⟩
      | transmitter completes doneAt =>
          refine ⟨sound, Tracked.withChip ?_ tracked⟩
          exact fun _ _ => rfl
      | poke address value => cases undisturbed
      | busFaults window => cases undisturbed
      | lineFaults window => cases undisturbed

end Tracked

namespace Session

theorem tracked_after {session : Session} {steps : List Step}
    (undisturbed : ∀ step ∈ steps, step.Undisturbed)
    (holds : Quietly Tracked session.station) :
    Quietly Tracked (session.after steps).station :=
  after_induction (fun session => Quietly Tracked session.station)
    (fun _ _ => Tracked.step) undisturbed holds

/-- After every undisturbed session that begins with a new driver and the reset
values of the settings, the registers of a chip in service hold what the driver
knows. -/
theorem coherent_after {session : Session} {connection : Connection}
    {steps : List Step}
    (attached : session.station.radio = Radio.attach connection)
    (sound : session.station.bench.Sound)
    (reset : Chip.fresh.SameSettings session.station.bench.chip)
    (undisturbed : ∀ step ∈ steps, step.Undisturbed)
    (ready : (session.after steps).station.radio.ready = true) :
    Coherent (session.after steps).station.radio.configuration
      (session.after steps).station.bench.chip := by
  have start : Quietly Tracked session.station := by
    obtain ⟨⟨radio, bench⟩, chips⟩ := session
    subst attached
    exact Tracked.attach sound reset
  exact ((tracked_after undisturbed start).2.inService ready).coherent

theorem coherent_after_retuning :
    let station := ((Session.start true true Chip.fresh).after
      [.call (.setPolling ⟨10, 20⟩), .call (.setSpreadingFactor 12),
          .call (.setBandwidth 62500),
        .stimulus (.transmitter false (some 2)),
          .call (.deferred (.send [1, 2, 3]) none),
        .stimulus (.deliver 254 [4, 5, 6] 0x40), .call (.receive 2),
          .call .readByte]).station
    station.radio.ready = true ∧
      Coherent station.radio.configuration station.bench.chip := by
  intro station
  have ready : station.radio.ready = true := by decide +kernel
  refine ⟨ready, coherent_after rfl ⟨rfl, rfl⟩ (fun _ _ => rfl) ?_ ready⟩
  simp [Step.Undisturbed, Call.Whole]

end Session

end LoraRadio
