import LoraRadio.Chip

/-!
# What an access leaves alone

An access changes the register it names, the pointer into the packet buffer when
it goes through the buffer, and the interrupt flags when it finds or starts a
transmission.  All other registers keep their values.
-/

namespace LoraRadio

namespace RegisterName

theorem find?_address (name : RegisterName) :
    all.find? (fun other => other.address = name.address) = some name := by
  cases name <;> rfl

@[simp] theorem address_inj {first second : RegisterName} :
    first.address = second.address ↔ first = second := by
  constructor
  · intro same
    have found := find?_address first
    rw [same, find?_address second] at found
    exact (Option.some.inj found).symm
  · intro same
    rw [same]

end RegisterName

namespace Chip

variable {chip : Chip} {address other : Address}

/-! ## Registers -/

def value (chip : Chip) (name : RegisterName) : Nat :=
  (chip.register name.address).toNat

@[simp] theorem value_setRegister (chip : Chip) (name other : RegisterName)
    (byte : UInt8) :
    (chip.setRegister name.address byte).value other =
      if name = other then byte.toNat else chip.value other := by
  unfold value
  rw [register_setRegister]
  by_cases same : name = other
  · simp [same]
  · simp [same]

theorem setRegister_setRegister (chip : Chip) (address : Address)
    (first second : UInt8) :
    (chip.setRegister address first).setRegister address second =
      chip.setRegister address second := by
  simp [setRegister]

theorem setRegister_comm (chip : Chip) {first second : Address}
    (apart : first ≠ second) (left right : UInt8) :
    (chip.setRegister first left).setRegister second right =
      (chip.setRegister second right).setRegister first left := by
  have differ : first.val ≠ second.val := fun same => apart (Fin.ext same)
  simp only [setRegister]
  rw [Vector.set_comm _ _ differ]

theorem setRegister_register (chip : Chip) (address : Address) :
    chip.setRegister address (chip.register address) = chip := by
  simp [setRegister, register]

theorem register_movePointer
    (apart : other ≠ RegisterName.fifoAddrPtr.address) :
    chip.movePointer.register other = chip.register other := by
  simp [movePointer, apart.symm]

theorem register_raiseTransmitDone
    (apart : other ≠ RegisterName.irqFlags.address) :
    chip.raiseTransmitDone.register other = chip.register other := by
  simp [raiseTransmitDone, apart.symm]

theorem register_countFlagRead (apart : other ≠ RegisterName.irqFlags.address) :
    chip.countFlagRead.register other = chip.register other := by
  unfold countFlagRead
  split
  · rw [register_raiseTransmitDone apart]
    rfl
  · rfl

theorem register_startTransmitter
    (apart : other ≠ RegisterName.irqFlags.address) :
    chip.startTransmitter.register other = chip.register other := by
  unfold startTransmitter
  split
  · rw [register_raiseTransmitDone apart]
    rfl
  · rfl

theorem register_read (pointer : other ≠ RegisterName.fifoAddrPtr.address)
    (flags : other ≠ RegisterName.irqFlags.address) :
    (chip.read address).2.register other = chip.register other := by
  unfold read
  split
  · exact register_movePointer pointer
  · split
    · exact register_countFlagRead flags
    · rfl

theorem read_elsewhere (buffer : address ≠ RegisterName.fifo.address)
    (flags : address ≠ RegisterName.irqFlags.address) :
    chip.read address = (chip.register address, chip) := by
  rw [read, if_neg buffer, if_neg flags]

theorem read_plain {name : RegisterName} (buffer : name ≠ .fifo)
    (flags : name ≠ .irqFlags) :
    chip.read name.address = (chip.register name.address, chip) :=
  read_elsewhere (by simpa using buffer) (by simpa using flags)

theorem write_elsewhere (buffer : address ≠ RegisterName.fifo.address)
    (flags : address ≠ RegisterName.irqFlags.address)
    (mode : address ≠ RegisterName.opMode.address) (value : UInt8) :
    chip.write address value = chip.setRegister address value := by
  rw [write, if_neg buffer, if_neg flags, if_neg fun starts => mode starts.1]

theorem write_plain {name : RegisterName} (buffer : name ≠ .fifo)
    (flags : name ≠ .irqFlags) (mode : name ≠ .opMode) (value : UInt8) :
    chip.write name.address value = chip.setRegister name.address value :=
  write_elsewhere (by simpa using buffer) (by simpa using flags)
    (by simpa using mode) value

theorem register_write {value : UInt8} (apart : other ≠ address)
    (pointer : other ≠ RegisterName.fifoAddrPtr.address)
    (flags : other ≠ RegisterName.irqFlags.address) :
    (chip.write address value).register other = chip.register other := by
  unfold write
  split
  · rw [register_movePointer pointer, register_setCell]
  · split
    · simp [apart.symm]
    · split
      · rw [register_startTransmitter flags]
        simp [apart.symm]
      · simp [apart.symm]

theorem register_write_mode (chip : Chip) (value : UInt8) :
    (chip.write RegisterName.opMode.address value).register
      RegisterName.opMode.address = value := by
  rw [write, if_neg (by decide), if_neg (by decide)]
  split
  · rw [register_startTransmitter (by decide)]
    simp
  · simp

theorem register_write_transmit (chip : Chip) :
    (chip.write RegisterName.opMode.address 0x83).register
      RegisterName.opMode.address = 0x83 :=
  chip.register_write_mode 0x83

/-! ## The packet buffer and its pointer -/

theorem fifo_countFlagRead : chip.countFlagRead.fifo = chip.fifo := by
  unfold countFlagRead
  split <;> rfl

theorem fifo_startTransmitter : chip.startTransmitter.fifo = chip.fifo := by
  unfold startTransmitter
  split <;> rfl

theorem fifo_read : (chip.read address).2.fifo = chip.fifo := by
  unfold read
  split
  · rfl
  · split
    · exact fifo_countFlagRead
    · rfl

theorem fifo_write {value : UInt8}
    (apart : address ≠ RegisterName.fifo.address) :
    (chip.write address value).fifo = chip.fifo := by
  unfold write
  rw [if_neg apart]
  split
  · rfl
  · split
    · exact fifo_startTransmitter
    · rfl

theorem pointer_read (apart : address ≠ RegisterName.fifo.address) :
    (chip.read address).2.pointer = chip.pointer := by
  unfold read
  rw [if_neg apart]
  split
  · exact register_countFlagRead (by decide)
  · rfl

theorem pointer_write {value : UInt8}
    (apart : address ≠ RegisterName.fifo.address)
    (elsewhere : address ≠ RegisterName.fifoAddrPtr.address) :
    (chip.write address value).pointer = chip.pointer := by
  unfold write pointer
  rw [if_neg apart]
  split
  · simp [elsewhere]
  · split
    · rw [register_startTransmitter (by decide)]
      simp [elsewhere]
    · simp [elsewhere]

/-! ## Bytes in the packet buffer -/

theorem register_load (chip : Chip) (position : UInt8) (bytes : List UInt8)
    (address : Address) :
    (chip.load position bytes).register address = chip.register address := by
  induction bytes generalizing chip position with
  | nil => rfl
  | cons byte rest ih =>
      rw [load, ih]
      rfl

theorem register_deliver (chip : Chip) (start : UInt8) (packet : List UInt8)
    (flags : UInt8) {name : RegisterName}
    (apart : name ∉ [RegisterName.fifoRxCurrentAddr, .rxNbBytes, .irqFlags]) :
    (chip.deliver start packet flags).register name.address =
      chip.register name.address := by
  simp only [List.mem_cons, List.not_mem_nil, or_false, not_or] at apart
  obtain ⟨current, count, raised⟩ := apart
  simp [deliver, register_load, Ne.symm current, Ne.symm count, Ne.symm raised]

theorem load_setRegister (chip : Chip) (address : Address)
    (value position : UInt8) (bytes : List UInt8) :
    (chip.setRegister address value).load position bytes =
      (chip.load position bytes).setRegister address value := by
  induction bytes generalizing chip position with
  | nil => rfl
  | cons byte rest ih => exact ih (chip.setCell position byte) (position + 1)

theorem add_ofNat_succ (position : UInt8) (count : Nat) :
    position + UInt8.ofNat (count + 1) = position + 1 + UInt8.ofNat count := by
  rw [UInt8.ofNat_add, UInt8.add_assoc, UInt8.add_comm (UInt8.ofNat count)]
  rfl

theorem load_append (chip : Chip) (position : UInt8)
    (first second : List UInt8) :
    chip.load position (first ++ second) =
      (chip.load position first).load
        (position + UInt8.ofNat first.length) second := by
  induction first generalizing chip position with
  | nil => simp [load]
  | cons byte rest ih =>
      rw [List.cons_append, load, ih, ← add_ofNat_succ]
      rfl

theorem cell_load (chip : Chip) (position : UInt8) {bytes : List UInt8}
    (fits : bytes.length ≤ 256) (other : UInt8) :
    (chip.load position bytes).cell other =
      (bytes[(other - position).toNat]?).getD (chip.cell other) := by
  induction bytes generalizing chip position with
  | nil => simp [load]
  | cons byte rest ih =>
      rw [List.length_cons] at fits
      rw [load, ih _ _ (by omega), cell_setCell]
      have next : (other - (position + 1)).toNat =
          (256 - (position.toNat + 1) % 256 + other.toNat) % 256 := by
        rw [UInt8.toNat_sub, UInt8.toNat_add]
        rfl
      have here : (other - position).toNat =
          (256 - position.toNat + other.toNat) % 256 := by
        rw [UInt8.toNat_sub]
      have bound := position.toNat_lt
      have otherBound := other.toNat_lt
      by_cases same : position = other
      · -- The way from the next cell around the ring to this one is longer
        -- than the rest.
        have last : (other - (position + 1)).toNat = 255 := by
          subst same
          omega
        rw [if_pos same, last, List.getElem?_eq_none (by omega)]
        simp [same]
      · have differ : position.toNat ≠ other.toNat :=
          fun equal => same (UInt8.toNat_inj.mp equal)
        have further : (other - position).toNat =
          (other - (position + 1)).toNat + 1 := by omega
        rw [if_neg same, further, List.getElem?_cons_succ]

end Chip

end LoraRadio
