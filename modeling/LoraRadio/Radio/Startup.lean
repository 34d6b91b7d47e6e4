import LoraRadio.Radio.State
import LoraRadio.Register.Number
import LoraRadio.Register.FrontEnd
import LoraRadio.Register.Modem
import LoraRadio.Register.OperatingMode

/-!
# Startup

The first operation that needs the chip resets it, checks its firmware version
and programs the default settings.  A chip without its control lines, or with
another firmware, is left alone from then on.  A failure on the way is reported,
and the next operation starts over.
-/

namespace LoraRadio

def CarrierWord.ofHz (hz : UInt32) : CarrierWord :=
  ⟨Carrier.toWord hz⟩

namespace Radio

open RadioM

def requiredVersion : UInt8 := 0x12

def resetPulse : RadioM Unit := do
  setLine .boot false
  setLine .reset true
  delay 200
  setLine .reset false
  delay 200
  setLine .reset true
  delay 50

def writeMode (mode : Mode) : RadioM Unit :=
  writeRegister (OperatingMode.lora mode)

def programPower (dbm : Int8) (amplifier : Amplifier) : RadioM Unit := do
  let level := amplifier.clampPower dbm
  let setup ← checked (AmplifierSetup.ofPower amplifier level)
  writeRegister setup
  modifyConfiguration fun configuration =>
    { configuration with power := level, amplifier }

/-- Long range mode is selected from sleep, before anything else is written. -/
def programDefaults : RadioM Unit := do
  writeMode .sleep
  let settings ← getConfiguration
  writeRegister (CarrierWord.ofHz settings.frequency)
  writeRegister (⟨0⟩ : TransmitBase)
  writeRegister (⟨0⟩ : ReceiveBase)
  updateRegister fun lna : LowNoiseAmplifier =>
    { lna with boostHigh := LowNoiseAmplifier.boostHighOn }
  let optimized ←
    checked (lowDataRate settings.spreadingFactor settings.bandwidth)
  writeRegister (⟨optimized, true, 0⟩ : ModemConfig3)
  programPower 17 .paBoost
  writeMode .standby

def bringUp : RadioM Unit := do
  setLifecycle .initializing
  if (← getRadio).connection.complete then
    resetPulse
    let version ← readRegister Version
    modifyRadio fun radio => { radio with version := some version.value }
    if version.value = requiredVersion then
      programDefaults
      setLifecycle .ready
    else
      setLifecycle .firmwareMismatch
  else
    setLifecycle .invalidConfiguration

def ensureReady : RadioM Bool := do
  if (← getRadio).lifecycle = .uninitialized then
    bringUp.onError fun radio => { radio with lifecycle := .uninitialized }
  return (← getRadio).ready

def whenReady {α : Type} (neutral : α) (operation : RadioM α) : RadioM α := do
  if ← ensureReady then operation else return neutral

def isReady : RadioM Bool :=
  ensureReady

def firmware : RadioM (Option UInt8) := do
  let _ ← ensureReady
  return (← getRadio).version

def idle : RadioM Unit :=
  whenReady () (writeMode .standby)

def sleep : RadioM Unit :=
  whenReady () (writeMode .sleep)

end Radio

end LoraRadio
