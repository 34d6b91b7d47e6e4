import LoraRadio.Proofs.Chip
import LoraRadio.Proofs.Invariant
import LoraRadio.Radio.Startup

/-!
# Runs without faults

On a bench without faults the fault windows, the trace and the number of
accesses have no influence on a run.  What is left of a station is a scene: the
driver, the chip and the clock.  The statement `Gives operation before after`
says that the operation takes one scene to one outcome on every such bench, and
its rules follow the structure of operations.
-/

namespace LoraRadio

open Operation

/-! ## Benches without faults -/

namespace FaultWindow

theorem passes_of_count {window : FaultWindow} (empty : window.count = 0) :
    window.passes = true := by
  simp [passes, empty]

theorem count_next {window : FaultWindow} (empty : window.count = 0) :
    window.next.count = 0 := by
  obtain ⟨after, count⟩ := window
  cases after with
  | zero =>
      change count - 1 = 0
      change count = 0 at empty
      omega
  | succ after => exact empty

end FaultWindow

/-- No access and no line change fails. -/
def Bench.Sound (bench : Bench) : Prop :=
  bench.busFaults.count = 0 ∧ bench.lineFaults.count = 0

structure Scene where
  radio : Radio
  chip : Chip
  elapsedMs : Nat

def Station.scene (station : Station) : Scene :=
  ⟨station.radio, station.bench.chip, station.bench.elapsedMs⟩

namespace Scene

def withChip (scene : Scene) (chip : Chip) : Scene :=
  { scene with chip }

def configure (scene : Scene) (change : Configuration → Configuration) :
    Scene :=
  { scene with
    radio :=
    { scene.radio with configuration := change scene.radio.configuration } }

end Scene

def Quietly (condition : Scene → Prop) (station : Station) : Prop :=
  station.bench.Sound ∧ condition station.scene

/-! ## The effect of register access on the chip -/

namespace Chip

variable {ρ : Type}

def readBytes (ρ : Type) [Register ρ] (chip : Chip) :
    (count : Nat) → count ≤ Register.width ρ → Vector UInt8 count × Chip
  | 0, _ => (#v[], chip)
  | count + 1, within =>
      let first := chip.readBytes ρ count (Register.le_width_of_succ within)
      let last := first.2.read (Register.address ρ ⟨count, within⟩)
      (first.1.push last.1, last.2)

def readRegister (ρ : Type) [Register ρ] (chip : Chip) :
    Except InvalidByte ρ × Chip :=
  let bytes := chip.readBytes ρ (Register.width ρ) Register.width_le_width
  (Register.decode bytes.1, bytes.2)

def writeBytes (ρ : Type) [Register ρ] (chip : Chip)
    (bytes : Vector UInt8 (Register.width ρ)) :
    (count : Nat) → count ≤ Register.width ρ → Chip
  | 0, _ => chip
  | count + 1, within =>
      (chip.writeBytes ρ bytes count (Register.le_width_of_succ within)).write
        (Register.address ρ ⟨count, within⟩) (bytes.get ⟨count, within⟩)

def writeRegister [WritableRegister ρ] (chip : Chip) (register : ρ) : Chip :=
  chip.writeBytes ρ (EncodableRegister.encode register)
    (Register.width ρ) Register.width_le_width

end Chip

/-! ## Operations on scenes -/

/-- On every bench without faults the operation takes the scene to the outcome,
and the bench stays without faults. -/
def Gives {α : Type} (operation : RadioM α) (before : Scene)
    (after : Outcome Failure Scene α) : Prop :=
  ∀ station : Station, station.bench.Sound → station.scene = before →
    (operation.run station).view Station.scene = after ∧
      (operation.run station).state.bench.Sound

namespace Gives

variable {α β : Type} {operation : RadioM α} {next : α → RadioM β}
  {before middle : Scene}

theorem exists_run {value : α} {after : Scene}
    (gives : Gives operation before (.ok value after)) {station : Station}
    (sound : station.bench.Sound) (scene : station.scene = before) :
    ∃ final, operation.run station = .ok value final ∧ final.bench.Sound ∧
      final.scene = after := by
  obtain ⟨seen, kept⟩ := gives station sound scene
  obtain ⟨final, run, reached⟩ := Outcome.exists_of_view_ok seen
  rw [run] at kept
  exact ⟨final, run, kept, reached⟩

theorem pure (value : α) (before : Scene) :
    Gives (Pure.pure value) before (.ok value before) := by
  intro station sound scene
  exact ⟨congrArg (Outcome.ok value) scene, sound⟩

theorem bind {value : α} {after : Outcome Failure Scene β}
    (first : Gives operation before (.ok value middle))
    (rest : Gives (next value) middle after) :
    Gives (operation >>= next) before after := by
  intro station sound scene
  obtain ⟨reached, run, sound, scene⟩ := first.exists_run sound scene
  rw [run_bind, run]
  exact rest reached sound scene

theorem keeps {condition : Scene → Prop}
    (each : ∀ before, condition before →
      ∃ after, Gives operation before after ∧ condition after.state) :
    Keeps (Quietly condition) operation := by
  rintro station ⟨sound, holds⟩
  obtain ⟨after, gives, kept⟩ := each _ holds
  obtain ⟨seen, stays⟩ := gives station sound rfl
  refine ⟨stays, ?_⟩
  rw [← Outcome.state_view Station.scene, seen]
  exact kept

end Gives

theorem RadioM.access_bind {α β : Type} (operation : BusM α)
    (next : α → BusM β) :
    access (operation >>= next) = access operation >>= fun value =>
      access (next value) := by
  apply Operation.ext
  intro station
  simp only [access, run_bind]
  cases operation.run station.bench <;> rfl

/-! ## A driver in service -/

namespace Radio

open RadioM

variable {α : Type}

theorem run_ensureReady_of_ready {station : Station}
    (ready : station.radio.ready = true) :
    ensureReady.run station = .ok true station := by
  have known : station.radio.lifecycle = .ready := by
    simpa [Radio.ready] using ready
  simp [ensureReady, getRadio, known, Radio.ready]

theorem run_ensureReady_of_started {station : Station}
    (started : station.radio.lifecycle ≠ .uninitialized) :
    ensureReady.run station = .ok station.radio.ready station := by
  simp [ensureReady, getRadio, started]

theorem ready_of_run_ensureReady {station final : Station} {ready : Bool}
    (run : ensureReady.run station = .ok ready final) :
    final.radio.ready = ready := by
  obtain ⟨radio, reached, -, rest⟩ := exists_of_run_bind run
  by_cases new : radio.lifecycle = .uninitialized
  · rw [if_pos new] at rest
    obtain ⟨_, started, _, told⟩ := exists_of_run_bind rest
    cases told
    rfl
  · rw [if_neg new] at rest
    cases rest
    rfl

theorem run_whenReady_of_ready {station : Station}
    (ready : station.radio.ready = true) (neutral : α) (operation : RadioM α) :
    (whenReady neutral operation).run station = operation.run station := by
  simp [whenReady, run_ensureReady_of_ready ready]

theorem exists_of_run_whenReady {neutral value : α} {operation : RadioM α}
    {station final : Station}
    (run : (whenReady neutral operation).run station = .ok value final)
    (ready : final.radio.ready = true) :
    ∃ started, started.radio.ready = true ∧
      operation.run started = .ok value final := by
  obtain ⟨inService, started, startup, rest⟩ := exists_of_run_bind run
  have told := ready_of_run_ensureReady startup
  cases inService with
  | true => exact ⟨started, told, rest⟩
  | false =>
      cases rest
      rw [told] at ready
      cases ready

end Radio

end LoraRadio
