import LoraRadio.Proofs.Completion
import LoraRadio.Radio.Transmit

/-!
# The two ways to send

A packet is sent in steps, or in one go by an operation that can be dropped.
Both end in the same wait for the end of the transmission.
-/

namespace LoraRadio

namespace Radio

open RadioM

def awaitEnd (polling : Polling) : RadioM Unit := do
  if ← awaitTransmitDone polling.intervalMs polling.attempts then
    clearTransmitDone
  else
    writeMode .standby
    clearTransmitDone
    Operation.fail .transmitTimeout

def prepareTransmit : RadioM Polling := do
  let length ← readRegister PayloadLength
  let polling ← checked ((← getConfiguration).pollingFor length.value)
  clearTransmitDone
  return polling

def transmit (polling : Polling) : RadioM Unit := do
  writeMode .transmit
  awaitEnd polling

theorem endPacket_eq :
    endPacket = whenReady () (prepareTransmit >>= transmit) := by
  simp only [endPacket, prepareTransmit, Operation.bind_assoc]
  rfl

theorem clearTransmitDone_eq :
    clearTransmitDone = access (Bus.write RegisterName.irqFlags.address 0x08) :=
  rfl

def launch : RadioM Unit := do
  clearTransmitDone
  writeMode .transmit

/-- Writes the packet and starts the transmitter, without a look at what is on
the chip. -/
def transmitAtOnce (bytes : List UInt8) : RadioM Polling := do
  writeMode .standby
  setHeaderMode (← getConfiguration).headerMode
  writeRegister (⟨0⟩ : FifoPointer)
  fillFifo (bytes.take (min bytes.length maxPayload))
  writeRegister (⟨UInt8.ofNat (min bytes.length maxPayload)⟩ : PayloadLength)
  clearTransmitDone
  writeMode .transmit
  checked ((← getConfiguration).pollingFor
    (UInt8.ofNat (min bytes.length maxPayload)))

def sendAtOnce (bytes : List UInt8) : RadioM Unit :=
  if bytes.isEmpty then return ()
  else
    whenReady () do
      let polling ← transmitAtOnce bytes
      awaitEnd polling

end Radio

namespace RadioTask

@[simp] theorem complete_setHeaderMode (mode : HeaderMode) :
    complete (setHeaderMode mode) = Radio.setHeaderMode mode := by
  simp [setHeaderMode, Radio.setHeaderMode]

@[simp] theorem complete_fillFifo (bytes : List UInt8) :
    complete (fillFifo bytes) = Radio.fillFifo bytes := by
  induction bytes with
  | nil => rfl
  | cons byte rest ih => simp [fillFifo, Radio.fillFifo, ih]

@[simp] theorem complete_clearTransmitDone :
    complete clearTransmitDone = Radio.clearTransmitDone := by
  simp [clearTransmitDone, Radio.clearTransmitDone]

@[simp] theorem complete_awaitTransmitDone (intervalMs : UInt32)
    (attempts : Nat) :
    complete (awaitTransmitDone intervalMs attempts) =
      Radio.awaitTransmitDone intervalMs attempts := by
  induction attempts with
  | zero => simp [awaitTransmitDone, Radio.awaitTransmitDone]
  | succ attempts ih => simp [awaitTransmitDone, Radio.awaitTransmitDone, ih]

theorem complete_send (bytes : List UInt8) :
    complete (send bytes) = Radio.sendAtOnce bytes := by
  simp [send, Radio.sendAtOnce, Radio.transmitAtOnce, Radio.awaitEnd,
    Operation.bind_assoc]

end RadioTask

end LoraRadio
