import LoraRadio.Bus.Deferred
import LoraRadio.Radio.Startup
import LoraRadio.Register.Interrupt

/-!
# Deferred operations of the driver

Startup, idling and sending, as operations that can be dropped on their way.

A packet is sent in one go: it is written to the chip without looking back at
what is there.
-/

namespace LoraRadio

abbrev RadioTask := Deferred Failure Radio

namespace RadioTask

variable {α : Type}

def getRadio : RadioTask Radio :=
  ⟨fun radio => .finished radio (.ok radio)⟩

def modifyRadio (change : Radio → Radio) : RadioTask Unit :=
  ⟨fun radio => .finished (change radio) (.ok ())⟩

def getConfiguration : RadioTask Configuration :=
  ⟨fun radio => .finished radio (.ok radio.configuration)⟩

def modifyConfiguration (change : Configuration → Configuration) :
    RadioTask Unit :=
  modifyRadio fun radio =>
    { radio with configuration := change radio.configuration }

def setLifecycle (lifecycle : Lifecycle) : RadioTask Unit :=
  modifyRadio fun radio => { radio with lifecycle }

def access (operation : BusTask α) : RadioTask α :=
  ⟨fun radio => (operation.start ()).embed radio Failure.ofAccess⟩

def readRegister (ρ : Type) [Register ρ] : RadioTask ρ :=
  access (BusTask.readRegister ρ)

def writeRegister {ρ : Type} [WritableRegister ρ] (register : ρ) :
    RadioTask Unit :=
  access (BusTask.writeRegister register)

def updateRegister {ρ : Type} [WritableRegister ρ] (change : ρ → ρ) :
    RadioTask Unit := do
  let register ← readRegister ρ
  writeRegister (change register)

def checked (result : Checked α) : RadioTask α :=
  match result with
  | .ok value => pure value
  | .error trap => .fail (.trap trap)

def setLine (line : Line) (level : Bool) : RadioTask Unit where
  start radio := .setLine radio line level fun
    | true => .finished radio (.ok ())
    | false => .finished radio (.error .line)

def delay (ms : UInt32) : RadioTask Unit :=
  ⟨fun radio => .delay radio ms (.finished radio (.ok ()))⟩

def onError (change : Radio → Radio) (operation : RadioTask α) : RadioTask α :=
  ⟨fun radio => (operation.start radio).onError change⟩

/-! ## Startup -/

def resetPulse : RadioTask Unit := do
  setLine .boot false
  setLine .reset true
  delay 200
  setLine .reset false
  delay 200
  setLine .reset true
  delay 50

def writeMode (mode : Mode) : RadioTask Unit :=
  writeRegister (OperatingMode.lora mode)

def programDefaults : RadioTask Unit := do
  writeMode .sleep
  let settings ← getConfiguration
  writeRegister (CarrierWord.ofHz settings.frequency)
  writeRegister (⟨0⟩ : TransmitBase)
  writeRegister (⟨0⟩ : ReceiveBase)
  updateRegister fun lna : LowNoiseAmplifier =>
    { lna with boostHigh := LowNoiseAmplifier.boostHighOn }
  let optimized ←
    checked (lowDataRate settings.spreadingFactor settings.bandwidth)
  writeRegister (⟨optimized, true, 0⟩ : ModemConfig3)
  let level := Amplifier.paBoost.clampPower 17
  let setup ← checked (AmplifierSetup.ofPower .paBoost level)
  writeRegister setup
  modifyConfiguration fun configuration =>
    { configuration with power := level, amplifier := .paBoost }
  writeMode .standby

def bringUp : RadioTask Unit := do
  setLifecycle .initializing
  if (← getRadio).connection.complete then
    resetPulse
    let version ← readRegister Version
    modifyRadio fun radio => { radio with version := some version.value }
    if version.value = Radio.requiredVersion then
      programDefaults
      setLifecycle .ready
    else
      setLifecycle .firmwareMismatch
  else
    setLifecycle .invalidConfiguration

/-- Brings the chip into service if that was not tried yet, and says whether it
is.  A failure lets the next operation start over; a drop does not. -/
def ensureReady : RadioTask Bool := do
  if (← getRadio).lifecycle = .uninitialized then
    bringUp.onError fun radio => { radio with lifecycle := .uninitialized }
  return (← getRadio).ready

def whenReady (neutral : α) (operation : RadioTask α) : RadioTask α := do
  if ← ensureReady then operation else return neutral

def isReady : RadioTask Bool :=
  ensureReady

def firmware : RadioTask (Option UInt8) := do
  let _ ← ensureReady
  return (← getRadio).version

def idle : RadioTask Unit :=
  whenReady () (writeMode .standby)

/-! ## Sending -/

def setHeaderMode (mode : HeaderMode) : RadioTask Unit := do
  updateRegister fun modem : ModemConfig1 =>
    { modem with implicitHeader := mode = .implicit }
  modifyConfiguration fun configuration =>
    { configuration with headerMode := mode }

def fillFifo : List UInt8 → RadioTask Unit
  | [] => return ()
  | byte :: rest => do
      writeRegister (⟨byte⟩ : Fifo)
      fillFifo rest

def clearTransmitDone : RadioTask Unit :=
  writeRegister (InterruptFlags.ofList [.transmitDone])

def awaitTransmitDone (intervalMs : UInt32) : (attempts : Nat) → RadioTask Bool
  | 0 => do return (← readRegister InterruptFlags).has .transmitDone
  | attempts + 1 => do
      if (← readRegister InterruptFlags).has .transmitDone then
        return true
      else
        delay intervalMs
        awaitTransmitDone intervalMs attempts

def send (bytes : List UInt8) : RadioTask Unit :=
  if bytes.isEmpty then return ()
  else
    whenReady () do
      writeMode .standby
      setHeaderMode (← getConfiguration).headerMode
      writeRegister (⟨0⟩ : FifoPointer)
      let size := min bytes.length maxPayload
      fillFifo (bytes.take size)
      writeRegister (⟨UInt8.ofNat size⟩ : PayloadLength)
      clearTransmitDone
      writeMode .transmit
      let polling ← checked ((← getConfiguration).pollingFor (UInt8.ofNat size))
      if ← awaitTransmitDone polling.intervalMs polling.attempts then
        clearTransmitDone
      else
        writeMode .standby
        clearTransmitDone
        Deferred.fail .transmitTimeout

def sendText (text : String) : RadioTask Unit :=
  send text.toUTF8.toList

end RadioTask

end LoraRadio
