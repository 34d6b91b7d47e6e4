import LoraRadio.Radio.Settings
import LoraRadio.Register.Interrupt

/-!
# Sending a packet

A packet is begun, filled in any number of steps, and sent.  The driver then
looks at the interrupt flags until the chip reports the end of the transmission,
or until the wait is over.
-/

namespace LoraRadio.Radio

open RadioM

def beginPacket : RadioM Unit :=
  whenReady () do
    writeMode .standby
    setHeaderMode (← getConfiguration).headerMode
    writeRegister (⟨0⟩ : FifoPointer)
    writeRegister (⟨0⟩ : PayloadLength)

def fillFifo : List UInt8 → RadioM Unit
  | [] => return ()
  | byte :: rest => do
      writeRegister (⟨byte⟩ : Fifo)
      fillFifo rest

def append (bytes : List UInt8) : RadioM Nat :=
  whenReady 0 do
    let current := (← readRegister PayloadLength).value.toNat
    let room ← checked (Checked.sub maxPayload current)
    let size := min bytes.length room
    fillFifo (bytes.take size)
    writeRegister (⟨UInt8.ofNat (current + size)⟩ : PayloadLength)
    return size

def clearTransmitDone : RadioM Unit :=
  writeRegister (InterruptFlags.ofList [.transmitDone])

/-- Looks for the end of the transmission, with `attempts` intervals in between,
and says whether it was found. -/
def awaitTransmitDone (intervalMs : UInt32) : (attempts : Nat) → RadioM Bool
  | 0 => do return (← readRegister InterruptFlags).has .transmitDone
  | attempts + 1 => do
      if (← readRegister InterruptFlags).has .transmitDone then
        return true
      else
        delay intervalMs
        awaitTransmitDone intervalMs attempts

/-- A flag left over from an earlier packet is cleared before the transmission
starts, so that it cannot end the wait for this one. -/
def endPacket : RadioM Unit :=
  whenReady () do
    let length ← readRegister PayloadLength
    let polling ← checked ((← getConfiguration).pollingFor length.value)
    clearTransmitDone
    writeMode .transmit
    if ← awaitTransmitDone polling.intervalMs polling.attempts then
      clearTransmitDone
    else
      writeMode .standby
      clearTransmitDone
      Operation.fail .transmitTimeout

/-- Sends the first 255 of some bytes as one packet; there is nothing to do for
no bytes. -/
def send (bytes : List UInt8) : RadioM Unit :=
  if bytes.isEmpty then return ()
  else
    whenReady () do
      beginPacket
      let _ ← append bytes
      endPacket

def sendText (text : String) : RadioM Unit :=
  send text.toUTF8.toList

end LoraRadio.Radio
