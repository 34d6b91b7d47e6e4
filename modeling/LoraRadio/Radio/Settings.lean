import LoraRadio.Radio.Startup

/-!
# Setters and getters

Each setter takes any argument, goes to the nearest legal value, changes only
its own fields on the chip, and then remembers the value.
-/

namespace LoraRadio.Radio

open RadioM

def setFrequency (hz : UInt32) : RadioM Unit :=
  whenReady () do
    let hz := Carrier.clamp hz
    writeRegister (CarrierWord.ofHz hz)
    modifyConfiguration fun configuration =>
      { configuration with frequency := hz }

def setPower (dbm : Int8) (amplifier : Amplifier) : RadioM Unit :=
  whenReady () (programPower dbm amplifier)

def updateLowDataRate : RadioM Unit := do
  let settings ← getConfiguration
  let enabled ←
    checked (lowDataRate settings.spreadingFactor settings.bandwidth)
  updateRegister fun modem : ModemConfig3 =>
    { modem with lowDataRate := enabled }

def setSpreadingFactor (factor : UInt8) : RadioM Unit :=
  whenReady () do
    let factor := SpreadingFactor.clamp factor
    writeRegister (⟨.ofFactor factor⟩ : DetectionOptimize)
    writeRegister (⟨.ofFactor factor⟩ : DetectionThreshold)
    updateRegister fun modem : ModemConfig2 =>
      { modem with spreadingFactor := factor }
    modifyConfiguration fun configuration =>
      { configuration with spreadingFactor := factor }
    updateLowDataRate

def spreadingFactor : RadioM (Option UInt8) :=
  whenReady none do
    let modem ← readRegister ModemConfig2
    return some modem.spreadingFactor

def setBandwidth (hz : UInt32) : RadioM Unit :=
  whenReady () do
    let bandwidth := Bandwidth.ofHz hz
    updateRegister fun modem : ModemConfig1 =>
      { modem with bandwidth := bandwidth.index }
    modifyConfiguration fun configuration => { configuration with bandwidth }
    updateLowDataRate

def bandwidth : RadioM (Option UInt32) :=
  whenReady none do
    let modem ← readRegister ModemConfig1
    return (Bandwidth.ofIndex? modem.bandwidth).map Bandwidth.hz

def setCodingRate (denominator : UInt8) : RadioM Unit :=
  whenReady () do
    let denominator := CodingRate.clamp denominator
    let modem ← readRegister ModemConfig1
    let code ← checked (Checked.sub denominator.toNat 4)
    writeRegister { modem with codingRate := UInt8.ofNat code }
    modifyConfiguration fun configuration =>
      { configuration with codingRate := denominator }

def setPreambleLength (symbols : UInt16) : RadioM Unit :=
  whenReady () do
    writeRegister (⟨symbols⟩ : PreambleLength)
    modifyConfiguration fun configuration =>
      { configuration with preambleLength := symbols }

def setSyncWord (word : UInt8) : RadioM Unit :=
  whenReady () do
    writeRegister (⟨word⟩ : SyncWord)
    modifyConfiguration fun configuration =>
      { configuration with syncWord := word }

def setChecksum (enabled : Bool) : RadioM Unit :=
  whenReady () do
    updateRegister fun modem : ModemConfig2 =>
      { modem with checksum := enabled }
    modifyConfiguration fun configuration =>
      { configuration with checksum := enabled }

/-- The header mode follows the packets; it is no setting of its own. -/
def setHeaderMode (mode : HeaderMode) : RadioM Unit := do
  updateRegister fun modem : ModemConfig1 =>
    { modem with implicitHeader := mode = .implicit }
  modifyConfiguration fun configuration =>
    { configuration with headerMode := mode }

/-- Replaces the derived wait for a transmission, without the chip. -/
def setPolling (polling : Polling) : RadioM Unit :=
  modifyConfiguration fun configuration =>
    { configuration with polling := some polling }

def airtime (length : UInt8) : RadioM UInt32 := do
  checked ((← getConfiguration).airtimeMs length)

def polling (length : UInt8) : RadioM Polling := do
  checked ((← getConfiguration).pollingFor length)

end LoraRadio.Radio
