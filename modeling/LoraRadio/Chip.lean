import LoraRadio.RegisterName

/-!
# A simulated chip

Its register map, its packet buffer and its transmitter.

Three registers act when they are accessed.  Register `fifo` stands for the cell
of the packet buffer under the pointer, and moves the pointer on.  A read of
`irqFlags` may find the packet sent, and a write clears flags.  A write to
`opMode` may start the transmitter.
-/

namespace LoraRadio

structure Chip where
  registers : Vector UInt8 128
  fifo : Vector UInt8 256
  /-- Whether a packet is sent as soon as the transmitter starts. -/
  transmitCompletes : Bool
  /-- The look at the interrupt flags, counted from the start of the
  transmitter, that finds the packet sent. -/
  transmitDoneAt : Option Nat
  flagReads : Nat
  deriving DecidableEq, Repr

namespace Chip

def register (chip : Chip) (address : Address) : UInt8 :=
  chip.registers[address]

/-- Sets a register without any other effect. -/
def setRegister (chip : Chip) (address : Address) (value : UInt8) : Chip :=
  { chip with registers := chip.registers.set address.val value address.isLt }

def cell (chip : Chip) (position : UInt8) : UInt8 :=
  chip.fifo[position.toFin]

def setCell (chip : Chip) (position value : UInt8) : Chip :=
  { chip with fifo := chip.fifo.set position.toNat value position.toNat_lt }

def pointer (chip : Chip) : UInt8 :=
  chip.register RegisterName.fifoAddrPtr.address

def movePointer (chip : Chip) : Chip :=
  chip.setRegister RegisterName.fifoAddrPtr.address (chip.pointer + 1)

def raiseTransmitDone (chip : Chip) : Chip :=
  chip.setRegister RegisterName.irqFlags.address
    (chip.register RegisterName.irqFlags.address ||| 0x08)

def countFlagRead (chip : Chip) : Chip :=
  let counted := { chip with flagReads := chip.flagReads + 1 }
  if chip.transmitDoneAt = some (chip.flagReads + 1) then
    counted.raiseTransmitDone
  else
    counted

def startTransmitter (chip : Chip) : Chip :=
  let started := { chip with flagReads := 0 }
  if chip.transmitCompletes then started.raiseTransmitDone else started

def read (chip : Chip) (address : Address) : UInt8 × Chip :=
  if address = RegisterName.fifo.address then
    (chip.cell chip.pointer, chip.movePointer)
  else if address = RegisterName.irqFlags.address then
    (chip.countFlagRead.register address, chip.countFlagRead)
  else
    (chip.register address, chip)

def write (chip : Chip) (address : Address) (value : UInt8) : Chip :=
  if address = RegisterName.fifo.address then
    (chip.setCell chip.pointer value).movePointer
  else if address = RegisterName.irqFlags.address then
    chip.setRegister address (chip.register address &&& ~~~value)
  else if address = RegisterName.opMode.address ∧ value &&& 7 = 3 then
    (chip.setRegister address value).startTransmitter
  else
    chip.setRegister address value

def load (chip : Chip) (position : UInt8) : List UInt8 → Chip
  | [] => chip
  | byte :: rest => (chip.setCell position byte).load (position + 1) rest

def deliver (chip : Chip) (start : UInt8) (packet : List UInt8)
    (flags : UInt8) : Chip :=
  (((chip.load start packet).setRegister
    RegisterName.fifoRxCurrentAddr.address start).setRegister
    RegisterName.rxNbBytes.address (UInt8.ofNat packet.length)).setRegister
    RegisterName.irqFlags.address flags

/-- The values of the registers after a reset; those left out are zero. -/
def resetValues : List (RegisterName × UInt8) :=
  [(.opMode, 0x09), (.frfMsb, 0x6C), (.frfMid, 0x80), (.paConfig, 0x4F),
    (.lna, 0x20), (.fifoTxBaseAddr, 0x80), (.modemConfig1, 0x72),
    (.modemConfig2, 0x70), (.preambleLsb, 0x08), (.payloadLength, 0x01),
    (.detectionOptimize, 0xC3), (.detectionThreshold, 0x0A), (.syncWord, 0x12),
    (.version, 0x12)]

def ofValues (values : List (RegisterName × UInt8)) : Chip :=
  values.foldl (fun chip entry => chip.setRegister entry.1.address entry.2)
    { registers := Vector.replicate 128 0
      fifo := Vector.replicate 256 0
      transmitCompletes := true
      transmitDoneAt := none
      flagReads := 0 }

def fresh : Chip :=
  ofValues resetValues

@[simp] theorem register_setRegister (chip : Chip) (address other : Address)
    (value : UInt8) :
    (chip.setRegister address value).register other =
      if address = other then value else chip.register other := by
  simp [register, setRegister, Vector.getElem_set, Fin.ext_iff]

@[simp] theorem cell_setRegister (chip : Chip) (address : Address)
    (value position : UInt8) :
    (chip.setRegister address value).cell position = chip.cell position := rfl

@[simp] theorem register_setCell (chip : Chip) (position value : UInt8)
    (address : Address) :
    (chip.setCell position value).register address = chip.register address :=
  rfl

@[simp] theorem cell_setCell (chip : Chip) (position other value : UInt8) :
    (chip.setCell position value).cell other =
      if position = other then value else chip.cell other := by
  simp [cell, setCell, Vector.getElem_set, UInt8.toNat_inj]

end Chip

end LoraRadio
