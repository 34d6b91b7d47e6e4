import LoraRadio.Proofs.Airtime
import LoraRadio.Proofs.Calls
import LoraRadio.Proofs.Record
import LoraRadio.Proofs.Startup
import LoraRadio.Proofs.Transmission

/-!
# Staging a packet

Between the beginning of a packet and its end, the bytes given so far are known
to nobody but the chip: they lie at the start of the packet buffer, and their
number is in the length register and in the pointer.  Every append continues
from there, so the packet is the concatenation of what was given, cut at the
largest payload.
-/

namespace LoraRadio

open Operation RadioM Radio

/-! ## The chip with a staged packet -/

namespace Chip

def fill (chip : Chip) (bytes : List UInt8) : Chip :=
  (chip.load chip.pointer bytes).setRegister RegisterName.fifoAddrPtr.address
    (chip.pointer + UInt8.ofNat bytes.length)

theorem fill_nil (chip : Chip) : chip.fill [] = chip := by
  have same : chip.pointer + UInt8.ofNat ([] : List UInt8).length =
    chip.pointer := UInt8.add_zero _
  rw [fill, same]
  exact setRegister_register chip _

theorem fill_cons (chip : Chip) (byte : UInt8) (rest : List UInt8) :
    chip.fill (byte :: rest) =
      ((chip.setCell chip.pointer byte).movePointer).fill rest := by
  have moved : (chip.setCell chip.pointer byte).movePointer.pointer =
      chip.pointer + 1 := by
    simp [movePointer, pointer]
  rw [fill, fill, moved, List.length_cons, add_ofNat_succ, movePointer,
    load_setRegister, setRegister_setRegister]
  rfl

theorem value_payloadLength_le (chip : Chip) :
    chip.value .payloadLength ≤ maxPayload :=
  Nat.le_of_lt_succ (chip.register RegisterName.payloadLength.address).toNat_lt

def beginScript (chip : Chip) (mode : HeaderMode) : List Event :=
  .write RegisterName.opMode.address 0x81 ::
    ((chip.setRegister RegisterName.opMode.address 0x81).headerScript mode ++
      [.write RegisterName.fifoAddrPtr.address 0,
        .write RegisterName.payloadLength.address 0])

def putScript (chip : Chip) (chunk : List UInt8) (size : Nat) : List Event :=
  .read RegisterName.payloadLength.address
    (chip.register RegisterName.payloadLength.address) ::
    (chunk.take size).map (.write RegisterName.fifo.address)

def appendScript (chip : Chip) (chunk : List UInt8) (size : Nat) : List Event :=
  chip.putScript chunk size ++
    [.write RegisterName.payloadLength.address
      (UInt8.ofNat (chip.value .payloadLength + size))]

def opened (chip : Chip) (mode : HeaderMode) : Chip :=
  (chip.setRegister RegisterName.opMode.address 0x81).putHeaderMode mode

/-- The chip with a packet staged: the bytes as far as they fit, and their
number. -/
def staged (chip : Chip) (bytes : List UInt8) : Chip :=
  ((chip.load 0 (bytes.take maxPayload)).setRegister
    RegisterName.fifoAddrPtr.address
    (UInt8.ofNat (min bytes.length maxPayload))).setRegister
    RegisterName.payloadLength.address
    (UInt8.ofNat (min bytes.length maxPayload))

theorem toNat_stagedLength (bytes : List UInt8) :
    (UInt8.ofNat (min bytes.length maxPayload)).toNat =
      min bytes.length maxPayload := by
  apply UInt8.toNat_ofNat_of_lt'
  exact Nat.lt_of_le_of_lt (Nat.min_le_right _ _) (by decide)

theorem register_staged (chip : Chip) (bytes : List UInt8) :
    (chip.staged bytes).register RegisterName.payloadLength.address =
      UInt8.ofNat (min bytes.length maxPayload) := by
  simp [staged]

theorem pointer_staged (chip : Chip) (bytes : List UInt8) :
    (chip.staged bytes).pointer =
      UInt8.ofNat (min bytes.length maxPayload) := by
  simp [staged, pointer]

theorem staged_append (chip : Chip) (bytes chunk : List UInt8) {size : Nat}
    (fits : size =
      min chunk.length (maxPayload - min bytes.length maxPayload)) :
    ((chip.staged bytes).fill (chunk.take size)).setRegister
      RegisterName.payloadLength.address
      (UInt8.ofNat (min bytes.length maxPayload + size)) =
        chip.staged (bytes ++ chunk) := by
  have total : min (bytes ++ chunk).length maxPayload =
      min bytes.length maxPayload + size := by
    rw [List.length_append]
    omega
  have added : (chunk.take size).length = size := by
    rw [List.length_take]
    omega
  have cut : (bytes ++ chunk).take maxPayload =
      bytes.take maxPayload ++ chunk.take size := by
    rw [List.take_append, fits]
    congr 1
    by_cases full : maxPayload ≤ bytes.length
    · rw [Nat.sub_eq_zero_of_le full, Nat.min_eq_right full, Nat.sub_self,
        Nat.min_zero]
    · rw [Nat.min_eq_left (by omega : bytes.length ≤ maxPayload), Nat.min_comm,
        ← List.take_eq_take_min]
  have start : (0 : UInt8) + UInt8.ofNat (bytes.take maxPayload).length =
      UInt8.ofNat (min bytes.length maxPayload) := by
    rw [UInt8.zero_add, List.length_take, Nat.min_comm]
  rw [fill, pointer_staged, added, staged, staged, total, cut,
    load_append, start]
  rw [load_setRegister, load_setRegister, setRegister_comm _ (by decide),
    setRegister_setRegister, setRegister_comm _ (by decide),
    setRegister_setRegister, UInt8.ofNat_add]

end Chip

/-! ## Beginning and appending -/

namespace Radio

variable {before : Scene}

theorem follows_fillFifo (bytes : List UInt8) (before : Scene) :
    Follows (fillFifo bytes) before
      (bytes.map (.write RegisterName.fifo.address))
      (.ok () (before.withChip (before.chip.fill bytes))) := by
  induction bytes generalizing before with
  | nil =>
      rw [Chip.fill_nil]
      exact .pure () before
  | cons byte rest ih =>
      rw [Chip.fill_cons]
      exact .bind (follows_writeRegister (⟨byte⟩ : Fifo) before) (ih _)

theorem follows_beginPacket (ready : before.radio.ready = true) :
    Follows beginPacket before
      (before.chip.beginScript before.radio.configuration.headerMode)
      (.ok () (before.withChip
        ((before.chip.opened before.radio.configuration.headerMode).staged
          []))) := by
  refine follows_whenReady ready () (.bind (follows_standby before) ?_)
  refine .silent_bind (follows_getConfiguration _)
    (.bind (follows_setHeaderMode _ _) ?_)
  exact .bind (follows_writeRegister (⟨0⟩ : FifoPointer) _)
    (follows_writeRegister (⟨0⟩ : PayloadLength) _)

theorem gives_beginPacket (ready : before.radio.ready = true) :
    Gives beginPacket before (.ok () (before.withChip
      ((before.chip.opened before.radio.configuration.headerMode).staged
        []))) :=
  (follows_beginPacket ready).gives

theorem follows_append_chunk (chunk : List UInt8)
    (ready : before.radio.ready = true) {size : Nat}
    (fits : size =
      min chunk.length (maxPayload - before.chip.value .payloadLength)) :
    Follows (append chunk) before (before.chip.appendScript chunk size)
      (.ok size (before.withChip
        ((before.chip.fill (chunk.take size)).setRegister
          RegisterName.payloadLength.address
          (UInt8.ofNat (before.chip.value .payloadLength + size))))) := by
  have most := before.chip.value_payloadLength_le
  subst fits
  rw [Chip.appendScript, Chip.putScript, List.cons_append]
  refine follows_whenReady ready 0
    (.bind (follows_readNumber (by decide) (by decide) before) ?_)
  refine .silent_bind (follows_checked (Checked.sub_of_le most) before) ?_
  refine .bind (follows_fillFifo _ before) ?_
  exact .bind_silent (follows_writeRegister (⟨_⟩ : PayloadLength) _) (.pure _ _)

theorem gives_append_chunk (chunk : List UInt8)
    (ready : before.radio.ready = true) {size : Nat}
    (fits : size =
      min chunk.length (maxPayload - before.chip.value .payloadLength)) :
    Gives (append chunk) before (.ok size (before.withChip
      ((before.chip.fill (chunk.take size)).setRegister
        RegisterName.payloadLength.address
        (UInt8.ofNat (before.chip.value .payloadLength + size))))) :=
  (follows_append_chunk chunk ready fits).gives

theorem gives_append {base : Chip} {bytes : List UInt8} (chunk : List UInt8)
    (ready : before.radio.ready = true)
    (holds : before.chip = base.staged bytes) :
    Gives (append chunk) before
      (.ok (min chunk.length (maxPayload - min bytes.length maxPayload))
        (before.withChip (base.staged (bytes ++ chunk)))) := by
  have current : before.chip.value .payloadLength =
      min bytes.length maxPayload := by
    rw [holds, Chip.value, Chip.register_staged, Chip.toNat_stagedLength]
  have appended := gives_append_chunk chunk ready rfl
  rwa [current, holds, base.staged_append bytes chunk rfl] at appended

end Radio

/-! ## Packets in chunks -/

def accepted (held : Nat) : List (List UInt8) → List Nat
  | [] => []
  | chunk :: rest =>
      let size := min chunk.length (maxPayload - held)
      size :: accepted (held + size) rest

/-- The second chip is the first with a packet at the start of its buffer. -/
structure Chip.Stages (before after : Chip) (bytes : List UInt8) : Prop where
  content : ∀ index < min bytes.length maxPayload,
    bytes[index]? = some (after.cell (UInt8.ofNat index))
  rest : ∀ position : UInt8, min bytes.length maxPayload ≤ position.toNat →
    after.cell position = before.cell position
  length : after.value .payloadLength = min bytes.length maxPayload
  pointer : after.value .fifoAddrPtr = min bytes.length maxPayload

namespace Chip

theorem cell_staged (chip : Chip) (bytes : List UInt8) (position : UInt8) :
    (chip.staged bytes).cell position =
      ((bytes.take maxPayload)[position.toNat]?).getD (chip.cell position) := by
  have fits : (bytes.take maxPayload).length ≤ 256 :=
    Nat.le_trans (List.length_take_le _ _) (by decide)
  have distance : position - 0 = position := UInt8.sub_zero position
  rw [staged, cell_setRegister, cell_setRegister,
    cell_load chip 0 fits, distance]

theorem stages_staged (chip : Chip) (bytes : List UInt8) :
    chip.Stages (chip.staged bytes) bytes where
  content index inside := by
    have small : index < maxPayload :=
      Nat.lt_of_lt_of_le inside (Nat.min_le_right _ _)
    have within : index < bytes.length :=
      Nat.lt_of_lt_of_le inside (Nat.min_le_left _ _)
    have number : (UInt8.ofNat index).toNat = index :=
      UInt8.toNat_ofNat_of_lt' (Nat.lt_trans small (by decide))
    rw [cell_staged, number, List.getElem?_take_of_lt small,
      List.getElem?_eq_getElem within]
    rfl
  rest position outside := by
    rw [cell_staged,
      List.getElem?_eq_none (by simpa [Nat.min_comm] using outside)]
    rfl
  length := by
    rw [value, register_staged, toNat_stagedLength]
  pointer := by
    have pointer := chip.pointer_staged bytes
    rw [Chip.pointer] at pointer
    rw [value, pointer, toNat_stagedLength]

end Chip

namespace Call

theorem performAll_append (chunks : List (List UInt8)) {station : Station}
    {base : Chip} {bytes : List UInt8} (sound : station.bench.Sound)
    (ready : station.radio.ready = true)
    (holds : station.bench.chip = base.staged bytes) :
    ∃ final, performAll (chunks.map .append) station =
        ((accepted (min bytes.length maxPayload) chunks).map .count, final) ∧
      final.bench.Sound ∧
      final.scene =
        station.scene.withChip (base.staged (bytes ++ chunks.flatten)) := by
  -- The bytes staged so far grow with every chunk, and the chip below them
  -- stays the same.
  induction chunks generalizing station bytes with
  | nil =>
      refine ⟨station, rfl, sound, ?_⟩
      rw [List.flatten_nil, List.append_nil, ← holds]
      rfl
  | cons chunk rest ih =>
      obtain ⟨reached, run, sound, scene⟩ :=
        (gives_append chunk ready holds).exists_run sound rfl
      have held : min (bytes ++ chunk).length maxPayload =
          min bytes.length maxPayload
          + min chunk.length (maxPayload - min bytes.length maxPayload) := by
        rw [List.length_append]
        omega
      have radio : reached.radio = station.radio := congrArg Scene.radio scene
      obtain ⟨final, others, sound, last⟩ :=
        ih sound (radio ▸ ready) (congrArg Scene.chip scene)
      refine ⟨final, performAll_cons (answer_of_ok run) ?_, sound, ?_⟩
      · rw [others, held]
      · rw [last, scene, List.flatten_cons, List.append_assoc]
        rfl

theorem performAll_packet (chunks : List (List UInt8)) {station : Station}
    (sound : station.bench.Sound) (ready : station.radio.ready = true) :
    ∃ final, performAll (.beginPacket :: chunks.map .append) station =
        (.done :: (accepted 0 chunks).map .count, final) ∧
      final.bench.Sound ∧
      final.scene = station.scene.withChip
        ((station.bench.chip.opened
          station.radio.configuration.headerMode).staged chunks.flatten) := by
  obtain ⟨reached, run, sound, scene⟩ :=
    (gives_beginPacket ready).exists_run sound rfl
  have radio : reached.radio = station.radio := congrArg Scene.radio scene
  obtain ⟨final, others, sound, last⟩ :=
    performAll_append chunks sound (radio ▸ ready) (congrArg Scene.chip scene)
  refine ⟨final, performAll_cons (answer_of_ok run) others, sound, ?_⟩
  rw [last, scene]
  rfl

end Call

/-! ## Sending -/

def Chip.withoutTransmitDone (chip : Chip) : Chip :=
  chip.setRegister RegisterName.irqFlags.address
    (chip.register RegisterName.irqFlags.address &&& ~~~0x08)

namespace Radio

theorem follows_prepareTransmit {before : Scene} {polling : Polling}
    (chosen : before.radio.configuration.pollingFor
      (before.chip.register RegisterName.payloadLength.address) = .ok polling) :
    Follows prepareTransmit before
      [.read RegisterName.payloadLength.address
        (before.chip.register RegisterName.payloadLength.address),
        .write RegisterName.irqFlags.address 0x08]
      (.ok polling (before.withChip before.chip.withoutTransmitDone)) := by
  refine .bind (follows_readNumber (by decide) (by decide) before) ?_
  refine .bind (follows_getConfiguration before)
    (.bind (follows_checked chosen before) ?_)
  exact .bind (follows_writeRegister _ before) (.pure polling _)

theorem exists_loaded {station : Station} {bytes : List UInt8}
    (some : bytes ≠ []) (sound : station.bench.Sound)
    (ready : station.radio.ready = true)
    (legal : station.radio.configuration.Legal) :
    ∃ loaded polling, (send bytes).run station = (transmit polling).run loaded ∧
      loaded.bench.Sound ∧
      station.radio.configuration.pollingFor
          (UInt8.ofNat (min bytes.length maxPayload)) = .ok polling ∧
      loaded.scene = station.scene.withChip
        ((station.bench.chip.opened
          station.radio.configuration.headerMode).staged
          bytes).withoutTransmitDone := by
  -- The three parts run one after the other; the scene after each is known
  -- exactly.
  obtain ⟨polling, chosen⟩ := Configuration.exists_pollingFor legal
    (UInt8.ofNat (min bytes.length maxPayload))
  obtain ⟨begun, first, sound, scene⟩ :=
    (gives_beginPacket ready).exists_run sound rfl
  have radio : begun.scene.radio = station.radio := congrArg Scene.radio scene
  obtain ⟨filled, second, sound, after⟩ :=
    (gives_append bytes (radio ▸ ready) (congrArg Scene.chip scene)).exists_run
      sound rfl
  have same : filled.scene.radio = station.radio :=
    (congrArg Scene.radio after).trans radio
  have length : filled.scene.chip.register RegisterName.payloadLength.address =
      UInt8.ofNat (min bytes.length maxPayload) := by
    rw [after]
    exact Chip.register_staged _ bytes
  have wait : filled.scene.radio.configuration.pollingFor
      (filled.scene.chip.register RegisterName.payloadLength.address) =
        .ok polling := by
    rw [length, same]
    exact chosen
  obtain ⟨loaded, third, sound, last⟩ :=
    (follows_prepareTransmit wait).gives.exists_run sound rfl
  refine ⟨loaded, polling, ?_, sound, chosen, ?_⟩
  · rw [send, if_neg (by simpa using some), run_whenReady_of_ready ready,
      run_bind, first]
    change ((append bytes) >>= fun _ => endPacket).run begun = _
    rw [run_bind, second]
    change endPacket.run filled = _
    have inService : filled.scene.radio.ready = true := by
      rw [same]
      exact ready
    rw [endPacket_eq, run_whenReady_of_ready inService, run_bind, third]
    rfl
  · rw [last, after, scene]
    rfl

end Radio

namespace Chip.Stages

variable {before after : Chip} {bytes : List UInt8}

theorem congr {other last : Chip} (stages : before.Stages after bytes)
    (start : other.fifo = before.fifo) (buffer : last.fifo = after.fifo)
    (length : last.value .payloadLength = after.value .payloadLength)
    (pointer : last.value .fifoAddrPtr = after.value .fifoAddrPtr) :
    other.Stages last bytes where
  content index inside := by
    rw [stages.content index inside, cell, cell, buffer]
  rest position outside := by
    have kept := stages.rest position outside
    rw [cell, cell] at kept ⊢
    rw [buffer, start, kept]
  length := length.trans stages.length
  pointer := pointer.trans stages.pointer

theorem ofOpened {mode : HeaderMode}
    (stages : (before.opened mode).Stages after bytes) :
    before.Stages after bytes :=
  stages.congr rfl rfl rfl rfl

theorem transmitting (stages : before.Stages after bytes) :
    before.Stages
      (after.withoutTransmitDone.write RegisterName.opMode.address 0x83)
        bytes := by
  have kept : ∀ name : RegisterName, name ≠ .opMode → name ≠ .fifoAddrPtr →
      name ≠ .irqFlags →
      (after.withoutTransmitDone.write RegisterName.opMode.address 0x83).value
          name =
        after.withoutTransmitDone.value name := by
    intro name mode pointer flags
    exact congrArg UInt8.toNat
      (register_write (by simpa using mode) (by simpa using pointer)
        (by simpa using flags))
  refine stages.congr rfl (fifo_write (by decide)) ?_ ?_
  · rw [kept _ (by decide) (by decide) (by decide)]
    simp [withoutTransmitDone]
  · have pointer :
        (after.withoutTransmitDone.write
            RegisterName.opMode.address 0x83).pointer =
          after.withoutTransmitDone.pointer :=
      pointer_write (by decide) (by decide)
    exact (congrArg UInt8.toNat pointer).trans
      (by simp [withoutTransmitDone, Chip.pointer, value])

end Chip.Stages

namespace Call

/-- A packet given in chunks is staged as their concatenation, whatever the chip
held before and however the bytes were cut.  A buffer that is sent lies on the
chip in the same way when the transmitter starts. -/
theorem stages_concatenation {station : Station} (sound : station.bench.Sound)
    (ready : station.radio.ready = true)
    (legal : station.radio.configuration.Legal) :
    (∀ chunks : List (List UInt8), ∃ final,
      performAll (.beginPacket :: chunks.map .append) station =
        (.done :: (accepted 0 chunks).map .count, final) ∧
      station.bench.chip.Stages final.bench.chip chunks.flatten) ∧
    (∀ chunks others : List (List UInt8), chunks.flatten = others.flatten →
      (performAll (.beginPacket :: chunks.map .append) station).2.bench.chip =
        (performAll (.beginPacket :: others.map .append)
          station).2.bench.chip) ∧
    ∀ bytes : List UInt8, bytes ≠ [] → ∃ loaded sending polling,
      (Call.send bytes).perform station =
        answer acknowledge (transmit polling) loaded ∧
      (writeMode .transmit).run loaded = .ok () sending ∧
      sending.bench.chip.register RegisterName.opMode.address = 0x83 ∧
      station.bench.chip.Stages sending.bench.chip bytes ∧
      0 < sending.bench.chip.value .payloadLength := by
  refine ⟨?_, ?_, ?_⟩
  · intro chunks
    obtain ⟨final, run, -, scene⟩ := performAll_packet chunks sound ready
    have chip : final.bench.chip = _ := congrArg Scene.chip scene
    refine ⟨final, run, ?_⟩
    rw [chip]
    exact (Chip.stages_staged _ _).ofOpened
  · intro chunks others same
    obtain ⟨final, run, -, scene⟩ := performAll_packet chunks sound ready
    obtain ⟨last, otherRun, -, otherScene⟩ :=
      performAll_packet others sound ready
    rw [run, otherRun]
    refine (congrArg Scene.chip scene).trans
      ((congrArg Scene.chip otherScene).trans ?_).symm
    rw [same]
  · intro bytes some
    obtain ⟨loaded, polling, run, sound, -, scene⟩ :=
      exists_loaded some sound ready legal
    obtain ⟨sending, started, -, after⟩ :=
      (gives_writeRegister (OperatingMode.lora .transmit)
        loaded.scene).exists_run sound rfl
    have chip : sending.bench.chip =
        loaded.scene.chip.write RegisterName.opMode.address 0x83 :=
      congrArg Scene.chip after
    rw [scene] at chip
    have stages : station.bench.chip.Stages sending.bench.chip bytes := by
      rw [chip]
      exact (Chip.stages_staged _ bytes).transmitting.ofOpened
    refine ⟨loaded, sending, polling, answer_congr run, started, ?_, stages, ?_⟩
    · rw [chip]
      exact Chip.register_write_transmit _
    · rw [stages.length]
      have positive := List.length_pos_iff.mpr some
      have most : 0 < maxPayload := by decide
      omega

theorem stages_concatenation_past_limit :
    let station : Station :=
      ⟨{ Radio.attach ⟨0, true, true⟩ with lifecycle := .ready },
        { chip := Chip.fresh.setRegister RegisterName.fifoAddrPtr.address 200 }⟩
    let chunks : List (List UInt8) :=
      [List.replicate 200 7, List.replicate 100 9]
    station.radio.ready = true ∧ ∃ final,
      performAll (.beginPacket :: chunks.map .append) station =
        ([.done, .count 200, .count 55], final) ∧
      station.bench.chip.Stages final.bench.chip chunks.flatten := by
  intro station chunks
  have counts : accepted 0 chunks = [200, 55] := by decide +kernel
  obtain ⟨final, run, stages⟩ :=
    (@stages_concatenation station ⟨rfl, rfl⟩ rfl Configuration.legal_default).1
      chunks
  rw [counts] at run
  exact ⟨rfl, final, run, stages⟩

end Call

end LoraRadio
