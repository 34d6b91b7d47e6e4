import LoraRadio.Proofs.Bystander
import LoraRadio.Proofs.Startable
import LoraRadio.Proofs.Transmission

/-!
# Conditions that every call keeps

A call is startup, followed in service by reads, by writes that carry packets,
by the start of a transmission, by setters and by the choice of the header mode;
a call that looks for a packet accepts one or goes on listening.  A condition
that these keep holds after every call.  If it also holds wherever startup and
the choice of the header mode can be dropped, it holds after every call that is
dropped on its way.
-/

namespace LoraRadio

open Operation RadioM Radio

variable {α ρ : Type} {kept : Station → Prop}

def packetRegisters : List RegisterName :=
  [.fifo, .fifoAddrPtr, .irqFlags, .payloadLength]

structure Awaiting (kept : Station → Prop) : Prop extends Steady kept where
  flags : ∀ value,
    Keeps (Live kept) (access (Bus.write RegisterName.irqFlags.address value))
  delay : ∀ ms, Keeps (Live kept) (delay ms)
  launch : Keeps (Live kept) launch

/-- A condition that no call breaks but one that looks for a packet or reads
one. -/
structure Carrying (kept : Station → Prop) : Prop extends Awaiting kept where
  buffer : Keeps (Live kept) (access (Bus.read RegisterName.fifo.address))
  write : ∀ name ∈ packetRegisters, ∀ value,
    Keeps (Live kept) (access (Bus.write name.address value))
  header : ∀ mode, Keeps (Live kept) (setHeaderMode mode)
  set : ∀ setting : Setting, Keeps kept setting.set

/-- A condition that no call breaks but one that looks for a packet. -/
structure Serving (kept : Station → Prop) : Prop extends Carrying kept where
  advance : ∀ station, kept station → station.radio.available ≠ 0 →
    kept ⟨{ station.radio with cursor := station.radio.cursor.advance },
      station.bench⟩

structure Enduring (kept : Station → Prop) : Prop extends Serving kept where
  accept : Keeps (Live kept) acceptPacket
  listen : Keeps (Live kept) listen

theorem Steady.keeps_set (steady : Steady kept)
    (live : ∀ setting : Setting, Keeps (Live kept) setting.set)
    (polling : ∀ wait, Keeps kept (setPolling wait)) (setting : Setting) :
    Keeps kept setting.set := by
  cases setting with
  | polling wait => exact polling wait
  | frequency hz => exact steady.keeps_of_live (live (.frequency hz))
  | power dbm amplifier =>
      exact steady.keeps_of_live (live (.power dbm amplifier))
  | spreadingFactor factor =>
      exact steady.keeps_of_live (live (.spreadingFactor factor))
  | bandwidth hz => exact steady.keeps_of_live (live (.bandwidth hz))
  | codingRate denominator =>
      exact steady.keeps_of_live (live (.codingRate denominator))
  | preambleLength symbols =>
      exact steady.keeps_of_live (live (.preambleLength symbols))
  | syncWord word => exact steady.keeps_of_live (live (.syncWord word))
  | checksum enabled => exact steady.keeps_of_live (live (.checksum enabled))

def Call.Whole : Call → Prop
  | .deferred _ drop => drop = none
  | _ => True

def Call.looks : Call → Bool
  | .receive _ | .readBuffer _ | .readText _ => true
  | _ => false

theorem Radio.ready_of_available {radio : Radio} (left : radio.available ≠ 0) :
    radio.ready = true := by
  cases ready : radio.ready with
  | true => rfl
  | false => simp [available, ready] at left

theorem Radio.run_readByte_of_empty {station : Station}
    (empty : station.radio.available = 0) :
    readByte.run station = .ok none station := by
  simp [readByte, run_bind, getRadio, empty]

theorem Radio.run_peekByte_of_empty {station : Station}
    (empty : station.radio.available = 0) :
    peekByte.run station = .ok none station := by
  simp [peekByte, run_bind, getRadio, empty]

theorem Radio.run_readByte_of_left {station : Station}
    (left : station.radio.available ≠ 0) :
    readByte.run station = (do
      let byte ← readRegister Fifo
      modifyRadio fun radio => { radio with cursor := radio.cursor.advance }
      return some byte.value : RadioM (Option UInt8)).run station := by
  simp [readByte, run_bind, getRadio, left]

theorem Live.keeps_ofAvailable {operation : RadioM α} (neutral : α)
    (live : Keeps (Live kept) operation) :
    Keeps kept (do if (← getRadio).available = 0 then return neutral else
      operation) := by
  intro station holds
  change kept
    (Operation.run (if station.radio.available = 0 then pure neutral else
      operation) station).state
  by_cases empty : station.radio.available = 0
  · rw [if_pos empty]
    exact holds
  · rw [if_neg empty]
    exact (live station ⟨holds, ready_of_available empty⟩).1

theorem Radio.fill_keeps (each : Keeps kept readByte) (buffer : List UInt8)
    {station : Station} (holds : kept station) :
    kept (fill buffer station).2 := by
  induction buffer generalizing station with
  | nil => exact holds
  | cons slot rest ih =>
      have after := each station holds
      unfold fill
      cases run : readByte.run station with
      | error failure reached =>
          rw [run] at after
          exact after
      | ok byte reached =>
          rw [run] at after
          cases byte with
          | none => exact after
          | some byte => exact ih after

theorem Radio.keeps_packetLength
    (read : ∀ address : Address, Keeps kept (access (Bus.read address)))
    (mode : HeaderMode) : Keeps kept (packetLength mode) := by
  have reads {ρ : Type} [Register ρ] : Keeps kept (readRegister ρ) :=
    RadioM.keeps_readRegister fun _ => read _
  cases mode with
  | implicit => exact .bind reads fun length => .pure _
  | explicit => exact .bind reads fun length => .pure _

theorem Radio.keeps_acceptPacket
    (read : ∀ address : Address, Keeps kept (access (Bus.read address)))
    (cursor : ∀ length,
      Keeps kept (modifyRadio fun radio => { radio with
        cursor := .start length }))
    (point : ∀ value,
      Keeps kept (access (Bus.write RegisterName.fifoAddrPtr.address value)))
    (rest : Keeps kept (writeMode .standby)) : Keeps kept acceptPacket := by
  refine .bind keeps_getConfiguration fun known => ?_
  refine .bind (keeps_packetLength read _) fun length =>
    .bind (cursor length) fun _ => ?_
  refine .bind (RadioM.keeps_readRegister fun _ => read _) fun start => ?_
  exact .bind (point _) fun _ => .bind rest fun _ => .pure length

theorem Radio.keeps_listen
    (read : ∀ address : Address, Keeps kept (access (Bus.read address)))
    (cursor : Keeps kept (modifyRadio fun radio => { radio with cursor := {} }))
    (point : ∀ value,
      Keeps kept (access (Bus.write RegisterName.fifoAddrPtr.address value)))
    (receive : Keeps kept (writeMode .receiveSingle)) : Keeps kept listen := by
  refine .bind (RadioM.keeps_readRegister fun _ => read _) fun current =>
    .ite (.pure ()) ?_
  exact .bind cursor fun _ => .bind (point _) fun _ => receive

namespace Awaiting

variable (awaiting : Awaiting kept)

include awaiting

theorem keeps_clearTransmitDone : Keeps (Live kept) clearTransmitDone := by
  refine RadioM.keeps_writeRegister _ fun offset value => ?_
  have same : Register.address InterruptFlags offset =
      RegisterName.irqFlags.address := by
    revert offset
    decide
  rw [same]
  exact awaiting.flags value

theorem keeps_awaitTransmitDone (intervalMs : UInt32) (attempts : Nat) :
    Keeps (Live kept) (awaitTransmitDone intervalMs attempts) := by
  induction attempts with
  | zero =>
      exact .bind (awaiting.keeps_readRegister (by decide)) fun flags => .pure _
  | succ attempts ih =>
      refine .bind (awaiting.keeps_readRegister (by decide)) fun flags =>
        .ite (.pure true) ?_
      exact .bind (awaiting.delay intervalMs) fun _ => ih

theorem keeps_awaitEnd (polling : Polling) :
    Keeps (Live kept) (awaitEnd polling) := by
  refine .bind (awaiting.keeps_awaitTransmitDone _ _) fun done => ?_
  refine .ite awaiting.keeps_clearTransmitDone
    (.bind (awaiting.rest _ (by decide)) fun _ => ?_)
  exact .bind awaiting.keeps_clearTransmitDone fun _ => .fail _

theorem keeps_launch_bind {next : RadioM α} (rest : Keeps (Live kept) next) :
    Keeps (Live kept) (clearTransmitDone >>= fun _ => writeMode .transmit >>=
      fun _ => next) := by
  rw [← bind_assoc]
  exact .bind awaiting.launch fun _ => rest

theorem keeps_endPacket : Keeps (Live kept) endPacket := by
  refine Live.keeps_whenReady ()
    (.bind (awaiting.keeps_readRegister (by decide)) fun length => ?_)
  refine .bind keeps_getConfiguration fun known =>
    .bind (keeps_checked _) fun polling => ?_
  exact awaiting.keeps_launch_bind (awaiting.keeps_awaitEnd polling)

end Awaiting

namespace Carrying

variable (carrying : Carrying kept)

include carrying

theorem keeps_read (address : Address) :
    Keeps (Live kept) (access (Bus.read address)) := by
  by_cases buffer : address = RegisterName.fifo.address
  · rw [buffer]
    exact carrying.buffer
  · exact carrying.read buffer

theorem keeps_readRegister [Register ρ] : Keeps (Live kept) (readRegister ρ) :=
  RadioM.keeps_readRegister fun _ => carrying.keeps_read _

theorem keeps_writeByte [WritableRegister ρ]
    (within : ∀ offset : Fin (Register.width ρ), ∃ name ∈ packetRegisters,
      name.address = Register.address ρ offset)
    (offset : Fin (Register.width ρ)) (value : UInt8) :
    Keeps (Live kept)
      (access (Bus.write (Register.address ρ offset) value)) := by
  obtain ⟨name, member, same⟩ := within offset
  rw [← same]
  exact carrying.write name member value

theorem keeps_writeRegister [WritableRegister ρ] (register : ρ)
    (within : ∀ offset : Fin (Register.width ρ), ∃ name ∈ packetRegisters,
      name.address = Register.address ρ offset) :
    Keeps (Live kept) (writeRegister register) :=
  RadioM.keeps_writeRegister register (carrying.keeps_writeByte within)

/-! ## Sending -/

theorem keeps_beginPacket : Keeps (Live kept) beginPacket := by
  refine Live.keeps_whenReady ()
    (.bind (carrying.rest _ (by decide)) fun _ => ?_)
  refine .bind keeps_getConfiguration fun known =>
    .bind (carrying.header _) fun _ => ?_
  refine .bind (carrying.keeps_writeRegister _ (by decide)) fun _ => ?_
  exact carrying.keeps_writeRegister _ (by decide)

theorem keeps_fillFifo (bytes : List UInt8) :
    Keeps (Live kept) (fillFifo bytes) := by
  induction bytes with
  | nil => exact .pure ()
  | cons byte rest ih =>
      exact .bind (carrying.keeps_writeRegister _ (by decide)) fun _ => ih

theorem keeps_append (bytes : List UInt8) :
    Keeps (Live kept) (append bytes) := by
  refine Live.keeps_whenReady 0
    (.bind carrying.keeps_readRegister fun current => ?_)
  refine .bind (keeps_checked _) fun room =>
    .bind (carrying.keeps_fillFifo _) fun _ => ?_
  exact .bind (carrying.keeps_writeRegister _ (by decide)) fun _ => .pure _

theorem keeps_transmitAtOnce (bytes : List UInt8) :
    Keeps (Live kept) (transmitAtOnce bytes) := by
  refine .bind (carrying.rest _ (by decide)) fun _ =>
    .bind keeps_getConfiguration fun known => ?_
  refine .bind (carrying.header _) fun _ => ?_
  refine .bind (carrying.keeps_writeRegister _ (by decide)) fun _ => ?_
  refine .bind (carrying.keeps_fillFifo _) fun _ => ?_
  refine .bind (carrying.keeps_writeRegister _ (by decide)) fun _ => ?_
  exact carrying.keeps_launch_bind
    (.bind keeps_getConfiguration fun known => keeps_checked _)

theorem keeps_sendAtOnce (bytes : List UInt8) :
    Keeps kept (sendAtOnce bytes) := by
  refine .ite (.pure ()) (carrying.keeps_whenReady () ?_)
  exact .bind (carrying.keeps_transmitAtOnce bytes) carrying.keeps_awaitEnd

theorem keeps_send (bytes : List UInt8) : Keeps kept (send bytes) := by
  refine .ite (.pure ())
    (carrying.keeps_whenReady () (.bind carrying.keeps_beginPacket fun _ => ?_))
  exact .bind (carrying.keeps_append bytes) fun _ => carrying.keeps_endPacket

/-! ## Reading -/

theorem keeps_expectPacket (size : UInt8) :
    Keeps (Live kept) (expectPacket size) := by
  refine .ite (.bind (carrying.header _) fun _ => ?_) (carrying.header _)
  exact carrying.keeps_writeRegister _ (by decide)

theorem keeps_peekByte : Keeps kept peekByte := by
  refine Live.keeps_ofAvailable none
    (.bind carrying.keeps_readRegister fun pointer => ?_)
  refine .bind carrying.keeps_readRegister fun byte => ?_
  exact .bind (carrying.keeps_writeRegister pointer (by decide)) fun _ =>
    .pure _

/-! ## Calls -/

theorem perform_deferred (call : DeferredCall) {station : Station}
    (holds : kept station) :
    kept ((Call.deferred call none).perform station).2 := by
  change kept (call.perform none station).2
  rw [call.perform_whole]
  cases call with
  | isReady => exact Call.answer_keeps carrying.keeps_isReady holds
  | firmware => exact Call.answer_keeps carrying.keeps_firmware holds
  | idle => exact Call.answer_keeps carrying.keeps_idle holds
  | send bytes =>
      exact Call.answer_keeps (carrying.keeps_sendAtOnce bytes) holds
  | sendText text => exact Call.answer_keeps (carrying.keeps_sendAtOnce _) holds

theorem perform_setting (setting : Setting) {station : Station}
    (holds : kept station) :
    kept (setting.call.perform station).2 := by
  rw [setting.perform_call]
  exact Call.answer_keeps (carrying.set setting) holds

theorem perform_apart {call : Call} (whole : call.Whole)
    (turned : call.looks = false) (apart : call ≠ .readByte) {station : Station}
    (holds : kept station) :
    kept (call.perform station).2 := by
  cases call with
  | setFrequency hz => exact carrying.perform_setting (.frequency hz) holds
  | setPower dbm amplifier =>
      exact carrying.perform_setting (.power dbm amplifier) holds
  | setSpreadingFactor factor =>
      exact carrying.perform_setting (.spreadingFactor factor) holds
  | setBandwidth hz => exact carrying.perform_setting (.bandwidth hz) holds
  | setCodingRate denominator =>
      exact carrying.perform_setting (.codingRate denominator) holds
  | setPreambleLength symbols =>
      exact carrying.perform_setting (.preambleLength symbols) holds
  | setSyncWord word => exact carrying.perform_setting (.syncWord word) holds
  | setChecksum enabled =>
      exact carrying.perform_setting (.checksum enabled) holds
  | setPolling wait => exact carrying.perform_setting (.polling wait) holds
  | beginPacket =>
      exact Call.answer_keeps
        (carrying.keeps_of_live carrying.keeps_beginPacket) holds
  | append bytes =>
      exact Call.answer_keeps
        (carrying.keeps_of_live (carrying.keeps_append bytes)) holds
  | endPacket =>
      exact Call.answer_keeps
        (carrying.keeps_of_live carrying.keeps_endPacket) holds
  | send bytes => exact Call.answer_keeps (carrying.keeps_send bytes) holds
  | sendText text => exact Call.answer_keeps (carrying.keeps_send _) holds
  | receive size => cases turned
  | readByte => cases apart rfl
  | peekByte => exact Call.answer_keeps carrying.keeps_peekByte holds
  | readBuffer buffer => cases turned
  | readText buffer => cases turned
  | deferred call drop =>
      cases drop with
      | none => exact carrying.perform_deferred call holds
      | some drop => cases whole
  | _ => exact carrying.toSteady.perform_bystander rfl holds

end Carrying

namespace Serving

variable (serving : Serving kept)

include serving

theorem keeps_readByte : Keeps kept readByte := by
  intro station holds
  by_cases empty : station.radio.available = 0
  · rw [run_readByte_of_empty empty]
    exact holds
  · -- The byte is read before the cursor moves on, and a read leaves the
    -- cursor where it is.
    have read :=
      serving.keeps_readRegister (ρ := Fifo) station
        ⟨holds, ready_of_available empty⟩
    have still : ((readRegister Fifo).run station).state.radio =
        station.radio :=
      radio_access _ station
    rw [run_readByte_of_left empty, run_bind]
    cases run : (readRegister Fifo).run station with
    | error failure reached =>
        rw [run] at read
        exact read.1
    | ok byte reached =>
        rw [run] at read still
        refine serving.advance reached read.1 ?_
        rwa [show reached.radio = station.radio from still]

theorem fill (buffer : List UInt8) {station : Station} (holds : kept station) :
    kept (Radio.fill buffer station).2 :=
  fill_keeps serving.keeps_readByte buffer holds

theorem perform {call : Call} (whole : call.Whole) (turned : call.looks = false)
    {station : Station} (holds : kept station) :
    kept (call.perform station).2 := by
  by_cases reads : call = .readByte
  · rw [reads]
    exact Call.answer_keeps serving.keeps_readByte holds
  · exact serving.perform_apart whole turned reads holds

end Serving

namespace Enduring

variable (enduring : Enduring kept)

include enduring

theorem keeps_receive (size : UInt8) : Keeps kept (receive size) := by
  refine enduring.keeps_whenReady 0
    (.bind enduring.keeps_readRegister fun flags => ?_)
  refine .bind (enduring.keeps_expectPacket size) fun _ => ?_
  refine .bind (enduring.keeps_writeRegister _ (by decide)) fun _ => ?_
  exact .ite enduring.accept (.bind enduring.listen fun _ => .pure 0)

theorem readBuffer (buffer : List UInt8) {station : Station}
    (holds : kept station) :
    kept (Radio.readBuffer buffer station).2 := by
  have after := enduring.keeps_receive 0 station holds
  unfold Radio.readBuffer
  cases run : (receive 0).run station with
  | error failure reached =>
      rw [run] at after
      exact after
  | ok length reached =>
      rw [run] at after
      cases length with
      | zero => exact after
      | succ length => exact enduring.fill buffer after

theorem perform_whole {call : Call} (whole : call.Whole) {station : Station}
    (holds : kept station) : kept (call.perform station).2 := by
  cases looks : call.looks with
  | false => exact enduring.perform whole looks holds
  | true =>
      cases call with
      | receive size =>
          exact Call.answer_keeps (enduring.keeps_receive size) holds
      | readBuffer buffer => exact enduring.readBuffer buffer holds
      | readText buffer => exact enduring.readBuffer buffer holds
      | _ => cases looks

end Enduring

/-! ## Dropped calls -/

/-- A condition that also holds wherever a call can be dropped. -/
structure Abandonable (kept : Station → Prop) : Prop extends Carrying kept where
  startStops : RadioTask.Halts kept RadioTask.ensureReady kept
  headerStops : ∀ mode,
    RadioTask.Halts (Live kept) (RadioTask.setHeaderMode mode) kept

structure Droppable (kept : Station → Prop) :
    Prop extends Serving kept, Abandonable kept

/-- A condition that no call breaks, wherever it is dropped. -/
structure Robust (kept : Station → Prop) :
    Prop extends Enduring kept, Droppable kept

theorem Live.left (station : Station) (holds : Live kept station) :
    kept station :=
  holds.1

namespace Abandonable

open RadioTask (Halts)

theorem halts_writeMode (mode : Mode) :
    Halts (Live kept) (RadioTask.writeMode mode) kept :=
  RadioTask.halts_write Live.left _ _

variable (abandonable : Abandonable kept)

include abandonable

theorem halts_whenReady {task : RadioTask α} (neutral : α)
    (live : Halts (Live kept) task kept) :
    Halts kept (RadioTask.whenReady neutral task) kept := by
  intro station holds stop member
  have started := abandonable.start station holds
  rw [RadioTask.whenReady, RadioTask.stops_bind, List.mem_append] at member
  rcases member with early | late
  · exact abandonable.startStops station holds stop early
  · -- The task only goes on if startup left the driver in service.
    rw [RadioTask.complete_ensureReady] at late
    cases run : ensureReady.run station with
    | error failure reached =>
        rw [run] at late
        cases late
    | ok ready reached =>
        rw [run] at late started
        have inService := ready_of_run_ensureReady run
        cases ready with
        | true => exact live reached ⟨started, inService⟩ stop late
        | false => cases late

theorem halts_readRegister [Register ρ] :
    Halts (Live kept) (RadioTask.readRegister ρ) kept :=
  RadioTask.halts_readRegister Live.left fun _ => abandonable.keeps_read _

theorem halts_writeRegister [WritableRegister ρ] (register : ρ)
    (within : ∀ offset : Fin (Register.width ρ), ∃ name ∈ packetRegisters,
      name.address = Register.address ρ offset) :
    Halts (Live kept) (RadioTask.writeRegister register) kept :=
  RadioTask.halts_writeRegister Live.left register
    (abandonable.keeps_writeByte within)

theorem halts_readRegister_bind [Register ρ] {next : ρ → RadioTask α}
    (rest : ∀ value, Halts (Live kept) (next value) kept) :
    Halts (Live kept) (RadioTask.readRegister ρ >>= next) kept :=
  .bind_of_complete RadioTask.complete_readRegister
    abandonable.halts_readRegister abandonable.keeps_readRegister rest

theorem halts_writeRegister_bind [WritableRegister ρ] (register : ρ)
    {next : Unit → RadioTask α}
    (within : ∀ offset : Fin (Register.width ρ), ∃ name ∈ packetRegisters,
      name.address = Register.address ρ offset)
    (rest : ∀ value, Halts (Live kept) (next value) kept) :
    Halts (Live kept) (RadioTask.writeRegister register >>= next) kept :=
  .bind_of_complete (RadioTask.complete_writeRegister register)
    (abandonable.halts_writeRegister register within)
    (abandonable.keeps_writeRegister register within) rest

theorem halts_rest_bind {mode : Mode} (resting : mode ∈ restingModes)
    {next : Unit → RadioTask α}
    (rest : ∀ value, Halts (Live kept) (next value) kept) :
    Halts (Live kept) (RadioTask.writeMode mode >>= next) kept :=
  .bind_of_complete (RadioTask.complete_writeMode mode) (halts_writeMode mode)
    (abandonable.rest mode resting) rest

theorem halts_fillFifo (bytes : List UInt8) :
    Halts (Live kept) (RadioTask.fillFifo bytes) kept := by
  induction bytes with
  | nil => exact .ofNone fun _ => rfl
  | cons byte rest ih =>
      exact abandonable.halts_writeRegister_bind _ (by decide) fun _ => ih

theorem halts_awaitTransmitDone (intervalMs : UInt32) (attempts : Nat) :
    Halts (Live kept)
      (RadioTask.awaitTransmitDone intervalMs attempts) kept := by
  induction attempts with
  | zero => exact abandonable.halts_readRegister_bind fun flags =>
      .ofNone fun _ => rfl
  | succ attempts ih =>
      refine abandonable.halts_readRegister_bind fun flags =>
        .ite (.ofNone fun _ => rfl) ?_
      exact .bind (RadioTask.halts_delay Live.left _) (abandonable.delay _)
        fun _ => ih

theorem halts_clearTransmitDone :
    Halts (Live kept) RadioTask.clearTransmitDone kept :=
  abandonable.halts_writeRegister _ (by decide)

theorem halts_launch_bind {next : RadioTask α}
    (rest : Halts (Live kept) next kept) :
    Halts (Live kept)
      (RadioTask.clearTransmitDone >>=
        fun _ => RadioTask.writeMode .transmit >>= fun _ => next)
      kept := by
  intro station holds stop member
  have cleared := abandonable.keeps_clearTransmitDone station holds
  have launched := abandonable.launch station holds
  rw [RadioTask.stops_bind, RadioTask.complete_clearTransmitDone,
    List.mem_append] at member
  rcases member with early | late
  · exact abandonable.halts_clearTransmitDone station holds stop early
  -- A drop can also come between the two writes, when only the first one has
  -- been made.
  rw [Radio.launch, run_bind] at launched
  cases clears : clearTransmitDone.run station with
  | error failure reached =>
      rw [clears] at late
      cases late
  | ok value reached =>
      rw [clears] at late launched cleared
      change Live kept ((writeMode .transmit).run reached).state at launched
      dsimp only at late
      rw [RadioTask.stops_bind, RadioTask.complete_writeMode,
        List.mem_append] at late
      rcases late with early | late
      · exact halts_writeMode _ reached cleared stop early
      cases starts : (writeMode .transmit).run reached with
      | error failure final =>
          rw [starts] at late
          cases late
      | ok value final =>
          rw [starts] at late launched
          exact rest final launched stop late

theorem halts_send (bytes : List UInt8) :
    Halts kept (RadioTask.send bytes) kept := by
  refine .ite (.ofNone fun _ => rfl) (abandonable.halts_whenReady () ?_)
  refine abandonable.halts_rest_bind (by decide) fun _ => ?_
  refine .bind (.ofNone fun _ => rfl) keeps_getConfiguration fun known => ?_
  refine .bind_of_complete (RadioTask.complete_setHeaderMode _)
    (abandonable.headerStops _) (abandonable.header _) fun _ =>
      abandonable.halts_writeRegister_bind _ (by decide) fun _ => ?_
  refine .bind_of_complete (RadioTask.complete_fillFifo _)
    (abandonable.halts_fillFifo _) (abandonable.keeps_fillFifo _) fun _ => ?_
  refine abandonable.halts_writeRegister_bind _ (by decide) fun _ => ?_
  refine abandonable.halts_launch_bind ?_
  refine .bind (.ofNone fun _ => rfl) keeps_getConfiguration fun known => ?_
  refine .bind_of_complete (RadioTask.complete_checked _)
    (RadioTask.halts_checked _) (keeps_checked _) fun polling => ?_
  refine .bind_of_complete (RadioTask.complete_awaitTransmitDone _ _)
    (abandonable.halts_awaitTransmitDone _ _)
      (abandonable.keeps_awaitTransmitDone _ _) fun done => ?_
  refine .ite abandonable.halts_clearTransmitDone ?_
  refine abandonable.halts_rest_bind (by decide) fun _ => ?_
  exact .bind_of_complete RadioTask.complete_clearTransmitDone
    abandonable.halts_clearTransmitDone
    abandonable.keeps_clearTransmitDone fun _ => .ofNone fun _ => rfl

theorem halts_firmware : Halts kept RadioTask.firmware kept :=
  .bind_of_complete RadioTask.complete_ensureReady abandonable.startStops
    abandonable.start fun _ =>
    .ofNone fun _ => rfl

theorem halts_idle : Halts kept RadioTask.idle kept :=
  abandonable.halts_whenReady () (halts_writeMode _)

omit abandonable in
theorem answerDeferred {success : α → Reply} {task : RadioTask α}
    (halts : Halts kept task kept) {drop : DropPoint} {station : Station}
    (holds : kept station)
    (whole : kept (Call.answerDeferred success task none station).2) :
    kept (Call.answerDeferred success task (some drop) station).2 := by
  rw [Call.answerDeferred_some]
  cases found : (task.stopsOf drop.kind station)[drop.passed]? with
  | none => exact whole
  | some stop =>
      exact halts station holds stop
        (RadioTask.mem_stops_of_stopsOf (List.mem_of_getElem? found))

theorem perform_dropped (call : DeferredCall) (drop : DropPoint)
    {station : Station} (holds : kept station) :
    kept ((Call.deferred call (some drop)).perform station).2 := by
  have whole := abandonable.perform_deferred call holds
  cases call with
  | isReady => exact answerDeferred abandonable.startStops holds whole
  | firmware => exact answerDeferred abandonable.halts_firmware holds whole
  | idle => exact answerDeferred abandonable.halts_idle holds whole
  | send bytes =>
      exact answerDeferred (abandonable.halts_send bytes) holds whole
  | sendText text => exact answerDeferred (abandonable.halts_send _) holds whole

theorem perform_turned_apart {call : Call} (turned : call.looks = false)
    (apart : call ≠ .readByte) {station : Station} (holds : kept station) :
    kept (call.perform station).2 := by
  cases call with
  | deferred call drop =>
      cases drop with
      | none => exact abandonable.perform_deferred call holds
      | some drop => exact abandonable.perform_dropped call drop holds
  | _ => exact abandonable.perform_apart (by trivial) turned apart holds

end Abandonable

theorem Droppable.perform_turned (droppable : Droppable kept) {call : Call}
    (turned : call.looks = false) {station : Station} (holds : kept station) :
    kept (call.perform station).2 := by
  by_cases reads : call = .readByte
  · rw [reads]
    exact Call.answer_keeps droppable.keeps_readByte holds
  · exact droppable.toAbandonable.perform_turned_apart turned reads holds

theorem Robust.perform_any (robust : Robust kept) (call : Call)
    {station : Station} (holds : kept station) :
    kept (call.perform station).2 := by
  cases call with
  | deferred call drop => exact robust.toDroppable.perform_turned rfl holds
  | _ => exact robust.perform_whole (by trivial) holds

end LoraRadio
