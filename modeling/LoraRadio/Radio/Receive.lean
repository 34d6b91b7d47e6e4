import LoraRadio.Radio.Settings
import LoraRadio.Register.Interrupt

/-!
# Receiving a packet

The driver looks for a packet and never waits for one.  It either finds a packet
and points the chip at its first byte, or makes sure that the chip is listening.
The bytes are then read one at a time.
-/

namespace LoraRadio.Radio

open RadioM

/-- Prepares for a packet of a size known in advance, or for one that says its
size when that is zero. -/
def expectPacket (size : UInt8) : RadioM Unit :=
  if 0 < size then do
    setHeaderMode .implicit
    writeRegister (⟨size⟩ : PayloadLength)
  else
    setHeaderMode .explicit

def packetLength (mode : HeaderMode) : RadioM Nat :=
  match mode with
  | .implicit => do return (← readRegister PayloadLength).value.toNat
  | .explicit => do return (← readRegister ReceivedLength).value.toNat

def acceptPacket : RadioM Nat := do
  let length ← packetLength (← getConfiguration).headerMode
  modifyRadio fun radio => { radio with cursor := .start length }
  let start ← readRegister ReceiveStart
  writeRegister (⟨start.value⟩ : FifoPointer)
  writeMode .standby
  return length

def listen : RadioM Unit := do
  let current ← readRegister OperatingMode
  if current.longRange && current.mode.isReceiving then
    return ()
  else
    modifyRadio fun radio => { radio with cursor := {} }
    writeRegister (⟨0⟩ : FifoPointer)
    writeMode .receiveSingle

/-- Looks for a packet and gives its length; zero when there is none.  Every
flag that was found set is cleared. -/
def receive (size : UInt8) : RadioM Nat :=
  whenReady 0 do
    let flags ← readRegister InterruptFlags
    expectPacket size
    writeRegister flags
    if flags.packetReady then
      acceptPacket
    else
      listen
      return 0

def readByte : RadioM (Option UInt8) := do
  if (← getRadio).available = 0 then
    return none
  else
    let byte ← readRegister Fifo
    modifyRadio fun radio => { radio with cursor := radio.cursor.advance }
    return some byte.value

/-- The byte that comes next, which stays there: the pointer that moved with the
look is put back. -/
def peekByte : RadioM (Option UInt8) := do
  if (← getRadio).available = 0 then
    return none
  else
    let pointer ← readRegister FifoPointer
    let byte ← readRegister Fifo
    writeRegister pointer
    return some byte.value

/-- A caller's buffer after a reception, and what the caller is told.  Bytes
read before a failure stay in the buffer. -/
structure Filled (α : Type) where
  result : Except Failure α
  buffer : List UInt8
  deriving Repr

def fill : List UInt8 → Station → Filled Nat × Station
  | [], station => (⟨.ok 0, []⟩, station)
  | slot :: rest, station =>
      match readByte.run station with
      | .ok (some byte) station =>
          let (filled, station) := fill rest station
          (⟨filled.result.map (· + 1), byte :: filled.buffer⟩, station)
      | .ok none station => (⟨.ok 0, slot :: rest⟩, station)
      | .error failure station => (⟨.error failure, slot :: rest⟩, station)

def readBuffer (buffer : List UInt8) (station : Station) :
    Filled Nat × Station :=
  match (receive 0).run station with
  | .ok 0 station => (⟨.ok 0, buffer⟩, station)
  | .ok (_ + 1) station => fill buffer station
  | .error failure station => (⟨.error failure, buffer⟩, station)

def textOfBytes (bytes : List UInt8) : Option String :=
  if bytes.isEmpty then none else String.fromUTF8? ⟨bytes.toArray⟩

def readText (buffer : List UInt8) (station : Station) :
    Filled (Option String) × Station :=
  let (filled, station) := readBuffer buffer station
  (⟨filled.result.map fun count => textOfBytes (filled.buffer.take count),
    filled.buffer⟩, station)

end LoraRadio.Radio
