import LoraRadio.Proofs.Calls

/-!
# Calls that leave settings and packets alone

Getters, measurements, snapshots and the choice of a resting mode read registers
other than the packet buffer and write none but the operating mode.  A condition
that these accesses cannot break holds after every such call.
-/

namespace LoraRadio

open Operation RadioM Radio

namespace Call

def isBystander : Call → Bool
  | .isReady | .firmware | .idle | .sleep => true
  | .spreadingFactor | .bandwidth | .airtime _ | .polling _ => true
  | .signalStrength | .signalToNoise | .frequencyError => true
  | .headerCount | .packetCount | .snapshot => true
  | .deferred .isReady none | .deferred .firmware none
  | .deferred .idle none => true
  | _ => false

end Call

theorem Radio.writeMode_eq (mode : Mode) :
    writeMode mode =
      access (Bus.write RegisterName.opMode.address
        (OperatingMode.lora mode).toByte) :=
  rfl

theorem Radio.keeps_ensureReady_of_ready {kept : Station → Prop}
    (ready : ∀ {station}, kept station → station.radio.ready = true) :
    Keeps kept ensureReady := by
  intro station holds
  rw [run_ensureReady_of_ready (ready holds)]
  exact holds

def Live (kept : Station → Prop) (station : Station) : Prop :=
  kept station ∧ station.radio.ready = true

theorem Live.keeps_whenReady {α : Type} {kept : Station → Prop}
    {operation : RadioM α} (neutral : α) (live : Keeps (Live kept) operation) :
    Keeps (Live kept) (whenReady neutral operation) := by
  intro station holds
  rw [run_whenReady_of_ready holds.2]
  exact live station holds

theorem Live.keeps_access_radio {α : Type} (held : Radio → Prop)
    (operation : BusM α) :
    Keeps (Live fun station => held station.radio) (access operation) :=
  RadioM.keeps_access_radio (fun radio => held radio ∧
    radio.ready = true) operation

theorem Operation.Keeps.live_and {α : Type} {first second : Station → Prop}
    {operation : RadioM α} (left : Keeps (Live first) operation)
    (right : Keeps (Live second) operation) :
    Keeps (Live fun station => first station ∧ second station) operation := by
  rintro station ⟨⟨here, there⟩, ready⟩
  obtain ⟨one, stillReady⟩ := left station ⟨here, ready⟩
  obtain ⟨other, -⟩ := right station ⟨there, ready⟩
  exact ⟨⟨one, other⟩, stillReady⟩

def restingModes : List Mode :=
  [.sleep, .standby]

/-- A condition that neither startup nor, in service, the accesses of a
bystander can break. -/
structure Steady (kept : Station → Prop) : Prop where
  start : Keeps kept ensureReady
  read : ∀ {address : Address}, address ≠ RegisterName.fifo.address →
    Keeps (Live kept) (access (Bus.read address))
  rest : ∀ mode ∈ restingModes, Keeps (Live kept) (writeMode mode)

namespace Steady

variable {α ρ : Type} {kept : Station → Prop}

theorem ofReady {condition : Scene → Prop}
    (ready : ∀ {scene}, condition scene → scene.radio.ready = true)
    (read : ∀ {scene address}, address ≠ RegisterName.fifo.address →
      condition scene → condition (scene.withChip (scene.chip.read address).2))
    (mode : ∀ {scene} (value), condition scene →
      condition (scene.withChip
        (scene.chip.write RegisterName.opMode.address value))) :
    Steady (Quietly condition) where
  start := keeps_ensureReady_of_ready fun holds => ready holds.2
  read apart station holds := by
    have after := Gives.keeps
      (fun before holds => ⟨_, gives_read _ before, read apart holds⟩)
      station holds.1
    exact ⟨after, ready after.2⟩
  rest chosen _ station holds := by
    rw [writeMode_eq]
    generalize (OperatingMode.lora chosen).toByte = value
    have after :=
      Gives.keeps (fun before holds => ⟨_, gives_write _ value before,
        mode value holds⟩)
      station holds.1
    exact ⟨after, ready after.2⟩

variable (steady : Steady kept)

include steady

theorem keeps_whenReady {operation : RadioM α} (neutral : α)
    (live : Keeps (Live kept) operation) :
    Keeps kept (whenReady neutral operation) := by
  intro station holds
  have started := steady.start station holds
  rw [whenReady, run_bind]
  cases run : ensureReady.run station with
  | error failure reached =>
      rw [run] at started
      exact started
  | ok ready reached =>
      rw [run] at started
      have inService := ready_of_run_ensureReady run
      cases ready with
      | true => exact (live reached ⟨started, inService⟩).1
      | false => exact started

/-- What an operation keeps in service it keeps when it has to start the driver
first. -/
theorem keeps_of_live {operation : RadioM α} {neutral : α}
    (live : Keeps (Live kept) (whenReady neutral operation)) :
    Keeps kept (whenReady neutral operation) := by
  apply steady.keeps_whenReady
  intro station holds
  have after := live station holds
  rwa [run_whenReady_of_ready holds.2] at after

theorem keeps_readRegister [Register ρ]
    (apart : ∀ offset : Fin (Register.width ρ),
      Register.address ρ offset ≠ RegisterName.fifo.address) :
    Keeps (Live kept) (readRegister ρ) :=
  RadioM.keeps_readRegister fun offset => steady.read (apart offset)

theorem keeps_spreadingFactor : Keeps kept spreadingFactor :=
  steady.keeps_whenReady none
    (.bind (steady.keeps_readRegister (by decide)) fun _ => .pure _)

theorem keeps_bandwidth : Keeps kept bandwidth :=
  steady.keeps_whenReady none
    (.bind (steady.keeps_readRegister (by decide)) fun _ => .pure _)

theorem keeps_signalStrength : Keeps kept signalStrength :=
  steady.keeps_whenReady none
    (.bind (steady.keeps_readRegister (by decide)) fun _ =>
      .bind keeps_getConfiguration fun _ => .pure _)

theorem keeps_signalToNoise : Keeps kept signalToNoise :=
  steady.keeps_whenReady none
    (.bind (steady.keeps_readRegister (by decide)) fun _ => .pure _)

theorem keeps_frequencyError : Keeps kept frequencyError := by
  refine steady.keeps_whenReady none ?_
  refine .bind (steady.keeps_readRegister (by decide)) fun offset => ?_
  refine .bind (steady.keeps_readRegister (by decide)) fun modem => ?_
  cases Bandwidth.ofIndex? modem.bandwidth with
  | none => exact .pure none
  | some bandwidth => exact .bind (keeps_checked _) fun _ => .pure _

theorem keeps_count {name : RegisterName}
    (apart : ∀ offset : Fin (Register.width (CountRegister name)),
      Register.address (CountRegister name) offset ≠
        RegisterName.fifo.address) :
    Keeps kept (whenReady none do
      return some (← readRegister (CountRegister name)).count) :=
  steady.keeps_whenReady none
    (.bind (steady.keeps_readRegister apart) fun _ => .pure _)

theorem keeps_capture {names : List RegisterName}
    (apart : ∀ name ∈ names, name ≠ .fifo) (snapshot : Snapshot) :
    Keeps (Live kept) (capture names snapshot) := by
  induction names generalizing snapshot with
  | nil => exact .pure snapshot
  | cons name rest ih =>
      have notFifo : name ≠ .fifo := apart name List.mem_cons_self
      have address : name.address ≠ RegisterName.fifo.address := by
        cases name with
        | fifo => contradiction
        | _ => decide
      refine .bind (steady.read address) fun value => ?_
      refine .bind (keeps_checked _) fun snapshot => ?_
      exact ih (fun other member => apart other
        (List.mem_cons_of_mem name member)) snapshot

theorem keeps_snapshot : Keeps kept snapshot := by
  refine steady.keeps_whenReady {} (steady.keeps_capture ?_ {})
  intro name member
  simpa using (List.mem_filter.mp member).2

theorem keeps_isReady : Keeps kept isReady :=
  steady.start

theorem keeps_firmware : Keeps kept firmware :=
  .bind steady.start fun _ => .bind keeps_getRadio fun _ => .pure _

theorem keeps_idle : Keeps kept idle :=
  steady.keeps_whenReady () (steady.rest .standby (by decide))

theorem keeps_sleep : Keeps kept sleep :=
  steady.keeps_whenReady () (steady.rest .sleep (by decide))

theorem perform_deferred {call : DeferredCall}
    (bystander : (Call.deferred call none).isBystander = true)
    {station : Station} (holds : kept station) :
    kept ((Call.deferred call none).perform station).2 := by
  change kept (call.perform none station).2
  rw [call.perform_whole]
  cases call with
  | isReady => exact Call.answer_keeps steady.keeps_isReady holds
  | firmware => exact Call.answer_keeps steady.keeps_firmware holds
  | idle => exact Call.answer_keeps steady.keeps_idle holds
  | send bytes => exact absurd bystander Bool.false_ne_true
  | sendText text => exact absurd bystander Bool.false_ne_true

theorem perform_bystander {call : Call} (bystander : call.isBystander = true)
    {station : Station} (holds : kept station) :
    kept (call.perform station).2 := by
  cases call with
  | isReady => exact Call.answer_keeps steady.keeps_isReady holds
  | firmware => exact Call.answer_keeps steady.keeps_firmware holds
  | idle => exact Call.answer_keeps steady.keeps_idle holds
  | sleep => exact Call.answer_keeps steady.keeps_sleep holds
  | spreadingFactor =>
      exact Call.answer_keeps steady.keeps_spreadingFactor holds
  | bandwidth => exact Call.answer_keeps steady.keeps_bandwidth holds
  | airtime length =>
      exact Call.answer_keeps
        (.bind keeps_getConfiguration fun _ => keeps_checked _) holds
  | polling length =>
      exact Call.answer_keeps
        (.bind keeps_getConfiguration fun _ => keeps_checked _) holds
  | signalStrength => exact Call.answer_keeps steady.keeps_signalStrength holds
  | signalToNoise => exact Call.answer_keeps steady.keeps_signalToNoise holds
  | frequencyError => exact Call.answer_keeps steady.keeps_frequencyError holds
  | headerCount =>
      exact Call.answer_keeps (steady.keeps_count (by decide)) holds
  | packetCount =>
      exact Call.answer_keeps (steady.keeps_count (by decide)) holds
  | snapshot => exact Call.answer_keeps steady.keeps_snapshot holds
  | deferred call drop =>
      cases drop with
      | none => exact steady.perform_deferred bystander holds
      | some drop => cases call <;> exact absurd bystander Bool.false_ne_true
  | _ => exact absurd bystander Bool.false_ne_true

end Steady

end LoraRadio
