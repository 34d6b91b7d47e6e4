import LoraRadio.Proofs.Bystander
import LoraRadio.Proofs.Looking

/-!
# Reading a received packet

The driver counts how far a packet has been read, and the chip has a pointer of
its own into the packet buffer.  Both start with the packet and move together,
around the end of the buffer if need be, whatever else is done between two
bytes.
-/

namespace LoraRadio

open Operation RadioM Radio

/-! ## Bytes -/

namespace Radio

variable {scene : Scene}

theorem gives_readByte_of_left (left : scene.radio.available ≠ 0) :
    Gives readByte scene (.ok (some (scene.chip.cell scene.chip.pointer))
      { scene.withChip scene.chip.movePointer with
        radio :=
            { scene.radio with cursor := scene.radio.cursor.advance } }) := by
  refine .bind (gives_getRadio scene) ?_
  rw [if_neg left]
  exact .bind (gives_readRegister rfl)
    (.bind (gives_modifyRadio _ _) (.pure _ _))

theorem gives_readByte_of_empty (empty : scene.radio.available = 0) :
    Gives readByte scene (.ok none scene) := by
  refine .bind (gives_getRadio scene) ?_
  rw [if_pos empty]
  exact .pure _ scene

theorem follows_peekByte_of_left (left : scene.radio.available ≠ 0) :
    Follows peekByte scene
      [.read RegisterName.fifoAddrPtr.address scene.chip.pointer,
        .read RegisterName.fifo.address (scene.chip.cell scene.chip.pointer),
        .write RegisterName.fifoAddrPtr.address scene.chip.pointer]
      (.ok (some (scene.chip.cell scene.chip.pointer)) scene) := by
  have back : scene.chip.movePointer.setRegister
      RegisterName.fifoAddrPtr.address scene.chip.pointer = scene.chip := by
    rw [Chip.movePointer, Chip.setRegister_setRegister]
    exact Chip.setRegister_register scene.chip _
  have looked : Follows (readRegister Fifo) scene
      [.read RegisterName.fifo.address (scene.chip.cell scene.chip.pointer)]
      (.ok ⟨scene.chip.cell scene.chip.pointer⟩
        (scene.withChip scene.chip.movePointer)) :=
    follows_readRegister rfl
  have restored : Follows (writeRegister (⟨scene.chip.pointer⟩ : FifoPointer))
      (scene.withChip scene.chip.movePointer)
      [.write RegisterName.fifoAddrPtr.address scene.chip.pointer]
      (.ok () (scene.withChip
        (scene.chip.movePointer.setRegister RegisterName.fifoAddrPtr.address
        scene.chip.pointer))) := follows_writeRegister _ _
  rw [back] at restored
  refine .silent_bind (follows_getRadio scene) ?_
  rw [if_neg left]
  refine .bind (follows_readNumber (by decide) (by decide) scene)
    (.bind looked ?_)
  exact .bind_silent restored (.pure _ _)

theorem gives_peekByte_of_left (left : scene.radio.available ≠ 0) :
    Gives peekByte scene
      (.ok (some (scene.chip.cell scene.chip.pointer)) scene) :=
  (follows_peekByte_of_left left).gives

theorem gives_peekByte_of_empty (empty : scene.radio.available = 0) :
    Gives peekByte scene (.ok none scene) := by
  refine .bind (gives_getRadio scene) ?_
  rw [if_pos empty]
  exact .pure _ scene

end Radio

/-! ## Packets in the buffer -/

/-- The packet lies in the buffer from a cell on; the first cell follows the
last. -/
def Chip.HoldsPacket (chip : Chip) (start : UInt8) (packet : List UInt8) :
    Prop :=
  ∀ index < packet.length,
    packet[index]? = some (chip.cell (start + UInt8.ofNat index))

/-- A driver in service that has read `position` bytes of a packet. -/
structure Reading (packet : List UInt8) (fifo : Vector UInt8 256)
    (start : UInt8) (position : Nat) (scene : Scene) : Prop where
  ready : scene.radio.ready = true
  legal : scene.radio.configuration.Legal
  cursor : scene.radio.cursor = ⟨position, packet.length⟩
  pointer : scene.chip.pointer = start + UInt8.ofNat position
  buffer : scene.chip.fifo = fifo
  content : scene.chip.HoldsPacket start packet

namespace Reading

variable {packet : List UInt8} {fifo : Vector UInt8 256} {start : UInt8}
  {position : Nat} {scene : Scene}

theorem withChip {chip : Chip} (pointer : chip.pointer = scene.chip.pointer)
    (buffer : chip.fifo = scene.chip.fifo)
    (reading : Reading packet fifo start position scene) :
    Reading packet fifo start position (scene.withChip chip) where
  ready := reading.ready
  legal := reading.legal
  cursor := reading.cursor
  pointer := pointer.trans reading.pointer
  buffer := buffer.trans reading.buffer
  content index inside := by
    change _ = some (chip.fifo[_])
    rw [buffer]
    exact reading.content index inside

theorem available (reading : Reading packet fifo start position scene) :
    scene.radio.available = packet.length - position := by
  rw [Radio.available, reading.ready, reading.cursor]
  rfl

theorem steady : Steady (Quietly (Reading packet fifo start position)) :=
  .ofReady Reading.ready
    (fun apart reading => reading.withChip
      (Chip.pointer_read apart) Chip.fifo_read)
    fun _ reading =>
      reading.withChip (Chip.pointer_write (by decide) (by decide))
        (Chip.fifo_write (by decide))

/-! ## Bytes of the packet -/

theorem cell_pointer (reading : Reading packet fifo start position scene)
    (left : position < packet.length) :
    packet[position]? = some (scene.chip.cell scene.chip.pointer) := by
  rw [reading.pointer]
  exact reading.content position left

theorem gives_readByte (reading : Reading packet fifo start position scene)
    (left : position < packet.length) :
    ∃ after, Gives readByte scene (.ok packet[position]? after) ∧
      Reading packet fifo start (position + 1) after := by
  have some : scene.radio.available ≠ 0 := by
    rw [reading.available]
    omega
  have moved : scene.chip.movePointer.pointer =
      start + UInt8.ofNat (position + 1) := by
    have stepped : scene.chip.movePointer.pointer = scene.chip.pointer + 1 := by
      simp [Chip.movePointer, Chip.pointer]
    rw [stepped, reading.pointer, UInt8.ofNat_add, UInt8.add_assoc]
    rfl
  rw [reading.cell_pointer left]
  refine ⟨_, gives_readByte_of_left some, ?_⟩
  exact {
    ready := reading.ready
    legal := reading.legal
    cursor := by
      change scene.radio.cursor.advance = _
      rw [reading.cursor]
      rfl
    pointer := moved
    buffer := reading.buffer
    content := reading.content }

theorem gives_readByte_end (reading : Reading packet fifo start position scene)
    (ended : packet.length ≤ position) :
    Gives readByte scene (.ok packet[position]? scene) := by
  rw [List.getElem?_eq_none ended]
  apply gives_readByte_of_empty
  rw [reading.available]
  omega

theorem gives_peekByte (reading : Reading packet fifo start position scene) :
    Gives peekByte scene (.ok packet[position]? scene) := by
  have count := reading.available
  by_cases left : position < packet.length
  · rw [reading.cell_pointer left]
    exact gives_peekByte_of_left (by omega)
  · rw [List.getElem?_eq_none (by omega)]
    exact gives_peekByte_of_empty (by omega)

end Reading

/-! ## Other calls between two bytes -/

namespace Setting

theorem call_ne_readByte (setting : Setting) : setting.call ≠ .readByte := by
  cases setting <;> exact Call.noConfusion

theorem fifo_program (setting : Setting) (known : Configuration) (chip : Chip) :
    (setting.program known chip).fifo = chip.fifo := by
  cases setting <;> rfl

theorem pointer_program (setting : Setting) (known : Configuration)
    (chip : Chip) :
    (setting.program known chip).pointer = chip.pointer := by
  cases setting <;>
    simp [program, Chip.pointer, Chip.update, Chip.putCarrier, Chip.putPower,
      Chip.putDetection, Chip.putFactor, Chip.putChecksum, Chip.putBandwidth,
      Chip.putCodingRate, Chip.putLowDataRate, Chip.putPreambleLength]

end Setting

inductive Call.WhileReading : Call → Prop where
  | bystander {call : Call} (known : call.isBystander = true) :
      call.WhileReading
  | setting (setting : Setting) : setting.call.WhileReading
  | readByte : WhileReading .readByte
  | peekByte : WhileReading .peekByte

namespace Reading

variable {packet : List UInt8} {fifo : Vector UInt8 256} {start : UInt8}
  {position : Nat}

theorem applyTo {scene : Scene} (setting : Setting)
    (reading : Reading packet fifo start position scene) :
    Reading packet fifo start position (setting.applyTo scene) := by
  have programmed := reading.withChip
    (setting.pointer_program (setting.configure scene.radio.configuration)
      scene.chip)
    (setting.fifo_program _ _)
  exact { programmed with legal := setting.legal_configure reading.legal }

def next (packet : List UInt8) (position : Nat) (call : Call) : Nat :=
  if call = .readByte then min (position + 1) packet.length else position

theorem perform {call : Call} (allowed : call.WhileReading) {station : Station}
    (within : position ≤ packet.length)
    (holds : Quietly (Reading packet fifo start position) station) :
    Quietly (Reading packet fifo start (next packet position call))
      (call.perform station).2 := by
  obtain ⟨sound, reading⟩ := holds
  cases allowed with
  | bystander known =>
      have other : call ≠ .readByte := by
        rintro rfl
        cases known
      rw [next, if_neg other]
      exact steady.perform_bystander known ⟨sound, reading⟩
  | setting setting =>
      rw [next, if_neg setting.call_ne_readByte, setting.perform_call]
      have kept : Keeps
          (Quietly (Reading packet fifo start position)) setting.set :=
        Gives.keeps fun before holds =>
          ⟨_, setting.gives_set holds.ready holds.legal, holds.applyTo setting⟩
      exact Call.answer_keeps kept ⟨sound, reading⟩
  | peekByte =>
      obtain ⟨final, run, sound, scene⟩ :=
        reading.gives_peekByte.exists_run sound rfl
      change Quietly _ (Call.answer _ peekByte station).2
      rw [Call.answer_of_ok run]
      exact ⟨sound, scene ▸ reading⟩
  | readByte =>
      change Quietly _ (Call.answer _ readByte station).2
      rw [next, if_pos rfl]
      by_cases left : position < packet.length
      · obtain ⟨after, gives, moved⟩ := reading.gives_readByte left
        obtain ⟨final, run, sound, scene⟩ := gives.exists_run sound rfl
        rw [Call.answer_of_ok run, Nat.min_eq_left left]
        exact ⟨sound, scene ▸ moved⟩
      · obtain ⟨final, run, sound, scene⟩ :=
          (reading.gives_readByte_end (Nat.le_of_not_lt left)).exists_run sound
            rfl
        have last : min (position + 1) packet.length = position := by omega
        rw [Call.answer_of_ok run, last]
        exact ⟨sound, scene ▸ reading⟩

theorem performAll {calls : List Call}
    (allowed : ∀ call ∈ calls, call.WhileReading) {station : Station}
    (within : position ≤ packet.length)
    (holds : Quietly (Reading packet fifo start position) station) :
    Quietly (Reading packet fifo start
      (min (position + calls.count .readByte) packet.length))
      (Call.performAll calls station).2 := by
  -- The position stops at the end of the packet while the count of calls goes
  -- on.
  induction calls generalizing station position with
  | nil =>
      rw [List.count_nil, Nat.add_zero, Nat.min_eq_left within]
      exact holds
  | cons call rest ih =>
      rw [List.forall_mem_cons] at allowed
      have reached := perform allowed.1 within holds
      have bound : next packet position call ≤ packet.length := by
        unfold next
        split <;> omega
      have total :
            min (next packet position call + rest.count .readByte)
              packet.length =
          min (position + (call :: rest).count .readByte) packet.length := by
        rw [List.count_cons]
        unfold next
        by_cases same : call = .readByte
        · simp only [same, if_true, beq_self_eq_true]
          omega
        · simp [same]
      rw [Call.performAll_snd_cons, ← total]
      exact ih allowed.2 bound reached

end Reading

/-! ## A packet that is found -/

theorem Reading.accepted {scene : Scene} {size start : UInt8}
    {packet : List UInt8} (ready : scene.radio.ready = true)
    (legal : scene.radio.configuration.Legal)
    (begins : scene.chip.register RegisterName.fifoRxCurrentAddr.address =
      start) (length : packet.length = (scene.polled size).packetLength)
    (content : scene.chip.HoldsPacket start packet) :
    Reading packet scene.chip.fifo start 0 (scene.polled size).accepted where
  ready := ready
  legal := { legal with }
  cursor := congrArg Cursor.start length.symm
  pointer :=
    (scene.pointer_accepted size).trans
      (begins.trans (UInt8.add_zero start).symm)
  buffer := scene.chip.fifo_polled size
  content index inside := by
    change _ = some ((scene.chip.polled size).fifo[_])
    rw [scene.chip.fifo_polled size]
    exact content index inside

/-! ## The stream of bytes -/

namespace Call

theorem perform_bytes {packet : List UInt8} {fifo : Vector UInt8 256}
    {start : UInt8} {position : Nat} {station : Station}
    (holds : Quietly (Reading packet fifo start position) station) :
    (Call.readByte.perform station).1 = .byte packet[position]? ∧
      (Call.peekByte.perform station).1 = .byte packet[position]? ∧
      (Call.peekByte.perform station).2.bench.chip = station.bench.chip := by
  obtain ⟨sound, reading⟩ := holds
  obtain ⟨peeked, look, -, scene⟩ := reading.gives_peekByte.exists_run sound rfl
  have peek : Call.peekByte.perform station =
    (.byte packet[position]?, peeked) := answer_of_ok look
  refine ⟨?_, ?_, ?_⟩
  · by_cases left : position < packet.length
    · obtain ⟨after, gives, -⟩ := reading.gives_readByte left
      obtain ⟨final, run, -⟩ := gives.exists_run sound rfl
      exact congrArg Prod.fst (answer_of_ok run)
    · obtain ⟨final, run, -⟩ :=
        (reading.gives_readByte_end (Nat.le_of_not_lt left)).exists_run sound
          rfl
      exact congrArg Prod.fst (answer_of_ok run)
  · rw [peek]
  · rw [peek]
    exact congrArg Scene.chip scene

/-- A packet that is ready is received and then read byte by byte, wherever it
lies in the buffer and whatever is done in between that leaves it there. -/
theorem receive_stream {station : Station} {size start : UInt8}
    {packet : List UInt8} (sound : station.bench.Sound)
    (ready : station.radio.ready = true)
    (legal : station.radio.configuration.Legal)
    (found : InterruptFlags.packetReady
      ⟨station.bench.chip.register RegisterName.irqFlags.address⟩ = true)
    (begins : station.bench.chip.register
      RegisterName.fifoRxCurrentAddr.address = start)
    (length : packet.length = if 0 < size then size.toNat else
      station.bench.chip.value .rxNbBytes)
    (content : station.bench.chip.HoldsPacket start packet) :
    ∃ received, (Call.receive size).perform station =
        (.count packet.length, received) ∧
      received.bench.chip.register RegisterName.irqFlags.address = 0 ∧
      received.bench.chip.register RegisterName.opMode.address = 0x81 ∧
      ∀ calls : List Call, (∀ call ∈ calls, call.WhileReading) →
        let reads := calls.count .readByte
        let now := (performAll calls received).2
        now.radio.available = packet.length - reads ∧
        now.bench.chip.fifo = station.bench.chip.fifo ∧
        (Call.readByte.perform now).1 = .byte packet[reads]? ∧
        (Call.peekByte.perform now).1 = .byte packet[reads]? ∧
        (Call.peekByte.perform now).2.bench.chip = now.bench.chip := by
  have measured : packet.length = (station.scene.polled size).packetLength :=
    length.trans (station.scene.packetLength_polled size).symm
  rw [← Chip.packetReady_flags] at found
  obtain ⟨received, run, sound, scene⟩ :=
    (@gives_receive_found station.scene size ready found).exists_run sound rfl
  have chip : received.bench.chip = (station.bench.chip.polled size).atPacket :=
    congrArg Scene.chip scene
  have begun :
      Quietly (Reading packet station.bench.chip.fifo start 0) received := by
    refine ⟨sound, ?_⟩
    rw [scene]
    exact Reading.accepted ready legal begins measured content
  refine ⟨received, ?_, ?_, ?_, ?_⟩
  · rw [measured]
    exact answer_of_ok run
  · rw [chip, Chip.flags_atPacket]
  · rw [chip]
    simp [Chip.atPacket]
  · intro calls allowed reads now
    have reading := Reading.performAll allowed (Nat.zero_le _) begun
    rw [Nat.zero_add] at reading
    have bytes := perform_bytes reading
    -- Past the end there is no byte, however many more were asked for.
    have same : packet[min reads packet.length]? = packet[reads]? := by
      by_cases inside : reads ≤ packet.length
      · rw [Nat.min_eq_left inside]
      · rw [List.getElem?_eq_none (by omega), List.getElem?_eq_none (by omega)]
    rw [same] at bytes
    refine ⟨?_, reading.2.buffer, bytes⟩
    have left := reading.2.available
    change now.radio.available = _ at left
    rw [left]
    omega

theorem receive_stream_around_the_end :
    let station : Station :=
      ⟨{ Radio.attach ⟨0, true, true⟩ with lifecycle := .ready },
        { chip := Chip.fresh.deliver 254 [1, 2, 3] 0x40 }⟩
    let calls : List Call :=
      [.readByte, .setSyncWord 7, .peekByte, .snapshot, .readByte]
    ∃ received, (Call.receive 0).perform station = (.count 3, received) ∧
      (performAll calls received).2.radio.available = 1 ∧
      (Call.readByte.perform (performAll calls received).2).1 =
        .number (some 3) := by
  intro station calls
  have content : station.bench.chip.HoldsPacket 254 [1, 2, 3] := by
    unfold Chip.HoldsPacket
    decide +kernel
  have allowed : ∀ call ∈ calls, call.WhileReading := by
    simp only [calls, List.forall_mem_cons, List.not_mem_nil, false_imp_iff,
      implies_true, and_true]
    exact ⟨.readByte, .setting (.syncWord 7), .peekByte, .bystander rfl,
      .readByte⟩
  obtain ⟨received, run, -, -, stream⟩ :=
    @receive_stream station 0 254 [1, 2, 3] ⟨rfl, rfl⟩ rfl
      Configuration.legal_default (by decide +kernel) (by decide +kernel)
        (by decide +kernel) content
  obtain ⟨left, -, byte, -⟩ := stream calls allowed
  exact ⟨received, run, left, byte⟩

end Call

end LoraRadio
