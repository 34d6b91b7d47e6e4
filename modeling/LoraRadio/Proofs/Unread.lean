import LoraRadio.Proofs.Reception

/-!
# The bytes left to read

What is left to read of a packet is a list of bytes: the cells of the packet
buffer from the pointer of the chip on, as many as the driver has not read yet.
Reading a byte takes the first one off this list.
-/

namespace LoraRadio

open Operation RadioM Radio

/-! ## Cells in a row -/

namespace Chip

/-- The content of `count` cells from one on, around the end of the buffer. -/
def cellsFrom (chip : Chip) (start : UInt8) : Nat → List UInt8
  | 0 => []
  | count + 1 => chip.cell start :: chip.cellsFrom (start + 1) count

theorem length_cellsFrom (chip : Chip) (start : UInt8) (count : Nat) :
    (chip.cellsFrom start count).length = count := by
  induction count generalizing start with
  | zero => rfl
  | succ count ih => rw [cellsFrom, List.length_cons, ih]

theorem cellsFrom_succ (chip : Chip) (start : UInt8) (count : Nat) :
    chip.cellsFrom start (count + 1) =
      chip.cellsFrom start count ++
        [chip.cell (start + UInt8.ofNat count)] := by
  induction count generalizing start with
  | zero =>
      rw [cellsFrom, cellsFrom]
      exact congrArg (fun position => [chip.cell position])
        (UInt8.add_zero start).symm
  | succ count ih =>
      rw [cellsFrom, ih (start + 1), cellsFrom, List.cons_append,
        ← add_ofNat_succ]

theorem cellsFrom_congr {chip other : Chip} (same : other.fifo = chip.fifo)
    (start : UInt8) (count : Nat) :
    other.cellsFrom start count = chip.cellsFrom start count := by
  induction count generalizing start with
  | zero => rfl
  | succ count ih => rw [cellsFrom, cellsFrom, ih, cell, same, cell]

namespace HoldsPacket

variable {chip : Chip} {start : UInt8} {packet : List UInt8}

theorem eq_cellsFrom (holds : chip.HoldsPacket start packet) :
    packet = chip.cellsFrom start packet.length := by
  induction packet generalizing start with
  | nil => rfl
  | cons byte rest ih =>
      have first : byte = chip.cell start := by
        have head := holds 0 (Nat.zero_lt_succ _)
        rw [show start + UInt8.ofNat 0 = start from UInt8.add_zero start]
          at head
        exact Option.some.inj head
      have others : chip.HoldsPacket (start + 1) rest := by
        intro index inside
        have next := holds (index + 1) (Nat.succ_lt_succ inside)
        rwa [add_ofNat_succ] at next
      rw [List.length_cons, cellsFrom, ← first, ← ih others]

theorem drop (holds : chip.HoldsPacket start packet) (position : Nat) :
    chip.HoldsPacket (start + UInt8.ofNat position) (packet.drop position) := by
  intro index inside
  rw [List.length_drop] at inside
  rw [List.getElem?_drop, UInt8.add_assoc, ← UInt8.ofNat_add]
  exact holds (position + index) (by omega)

end HoldsPacket

end Chip

/-! ## Reading byte by byte -/

theorem Radio.available_advance (radio : Radio) :
    { radio with cursor := radio.cursor.advance }.available =
      radio.available - 1 := by
  change (if radio.ready then
      radio.cursor.length - (radio.cursor.position + 1) else 0) =
    (if radio.ready then radio.cursor.length - radio.cursor.position else 0) - 1
  split <;> omega

namespace Scene

def unread (scene : Scene) : List UInt8 :=
  scene.chip.cellsFrom scene.chip.pointer scene.radio.available

theorem length_unread (scene : Scene) :
    scene.unread.length = scene.radio.available :=
  scene.chip.length_cellsFrom _ _

theorem unread_accepted {scene : Scene} {size start : UInt8}
    {packet : List UInt8} (ready : scene.radio.ready = true)
    (begins : scene.chip.register RegisterName.fifoRxCurrentAddr.address =
      start) (length : packet.length = (scene.polled size).packetLength)
    (content : scene.chip.HoldsPacket start packet) :
    (scene.polled size).accepted.unread = packet := by
  have count : (scene.polled size).accepted.radio.available =
      packet.length := by
    have inService : (scene.polled size).accepted.radio.ready = true := ready
    rw [Radio.available, inService, length]
    rfl
  have buffer : (scene.polled size).accepted.chip.fifo = scene.chip.fifo :=
    scene.chip.fifo_polled size
  rw [unread, pointer_accepted, begins, count, Chip.cellsFrom_congr buffer,
    ← content.eq_cellsFrom]

end Scene

theorem Radio.exists_gives_readByte (scene : Scene) :
    ∃ after, Gives readByte scene (.ok scene.unread.head? after) ∧
      after.unread = scene.unread.tail := by
  cases count : scene.radio.available with
  | zero =>
      have none : scene.unread = [] :=
        List.length_eq_zero_iff.mp (scene.length_unread.trans count)
      rw [none]
      exact ⟨scene, gives_readByte_of_empty count, none⟩
  | succ left =>
      have bytes : scene.unread = scene.chip.cell scene.chip.pointer ::
          scene.chip.cellsFrom (scene.chip.pointer + 1) left := by
        rw [Scene.unread, count, Chip.cellsFrom]
      rw [bytes]
      refine ⟨_, gives_readByte_of_left (by omega), ?_⟩
      have moved : scene.chip.movePointer.pointer = scene.chip.pointer + 1 := by
        simp [Chip.movePointer, Chip.pointer]
      have buffer : scene.chip.movePointer.fifo = scene.chip.fifo := rfl
      change scene.chip.movePointer.cellsFrom scene.chip.movePointer.pointer
        { scene.radio with cursor := scene.radio.cursor.advance }.available = _
      rw [moved, Radio.available_advance, count, Chip.cellsFrom_congr buffer]
      rfl

namespace Call

theorem performAll_reads {station : Station} (sound : station.bench.Sound)
    (reads : Nat) :
    (performAll (List.replicate reads .readByte) station).1 =
      (List.range reads).map fun index =>
        .byte station.scene.unread[index]? := by
  induction reads generalizing station with
  | zero => rfl
  | succ reads ih =>
      obtain ⟨after, gives, rest⟩ := Radio.exists_gives_readByte station.scene
      obtain ⟨final, run, stillSound, rfl⟩ := gives.exists_run sound rfl
      have first : Call.readByte.perform station =
          (.byte station.scene.unread.head?, final) :=
        answer_of_ok run
      have others := ih stillSound
      rw [rest] at others
      rw [List.replicate_succ, performAll_cons first rfl, others,
        List.range_succ_eq_map]
      simp [List.head?_eq_getElem?]

end Call

end LoraRadio
