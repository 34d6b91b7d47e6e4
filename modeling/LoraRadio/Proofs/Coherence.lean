import LoraRadio.Proofs.Codec
import LoraRadio.Proofs.Startup

/-!
# The chip holds what the driver knows

The driver keeps the settings that it wrote and never reads them back.  On a
chip that starts from its reset values, without faults and with nobody else
writing registers, the registers of the settings agree with the known settings
after every call that leaves the driver in service.

Registers that startup does not write agree from the beginning, because the
settings of a new driver are those of a chip after a reset.
-/

namespace LoraRadio

open Operation RadioM Radio

/-! ## Coherence -/

/-- The settings that lie in one byte each, or in fields of one byte. -/
structure Agrees (known : Configuration) (chip : Chip) : Prop where
  power : (AmplifierSetup.ofPower known.amplifier
      (known.amplifier.clampPower known.power)).map
        (fun setup => setup.toByte.toNat) =
    .ok (chip.value .paConfig)
  modem1 : chip.value .modemConfig1 =
    16 * known.bandwidth.index.toNat + 2 * (known.codingRate.toNat - 4)
      + Bool.toNat (known.headerMode = .implicit)
  modem2 : chip.value .modemConfig2 =
    16 * known.spreadingFactor.toNat + 4 * known.checksum.toNat
  syncWord : chip.value .syncWord = known.syncWord.toNat

/-- The registers of the settings hold what the settings say. -/
structure Coherent (known : Configuration) (chip : Chip) : Prop
    extends Agrees known chip where
  carrier : 65536 * chip.value .frfMsb + 256 * chip.value .frfMid
      + chip.value .frfLsb =
    (Carrier.toWord known.frequency).toNat
  modem3 : (lowDataRate known.spreadingFactor known.bandwidth).map
      (fun optimized => 4 + 8 * optimized.toNat) =
        .ok (chip.value .modemConfig3)
  preamble : 256 * chip.value .preambleMsb + chip.value .preambleLsb =
    known.preambleLength.toNat
  detection : (chip.value .detectionOptimize, chip.value .detectionThreshold) =
    if known.spreadingFactor = 6 then (0xC5, 0x0C) else (0xC3, 0x0A)
  bases : chip.value .fifoTxBaseAddr = 0 ∧ chip.value .fifoRxBaseAddr = 0

def singleRegisters : List RegisterName :=
  [.paConfig, .modemConfig1, .modemConfig2, .syncWord]

namespace Chip

@[simp] theorem value_update (chip : Chip) (name other : RegisterName)
    (change : UInt8 → UInt8) :
    (chip.update name change).value other =
      if name = other then (change (chip.register name.address)).toNat
      else chip.value other :=
  value_setRegister chip name other _

def SameSettings (first second : Chip) : Prop :=
  ∀ name ∈ settingRegisters, second.value name = first.value name

theorem sameSettings_read (chip : Chip) (address : Address) :
    chip.SameSettings (chip.read address).2 := by
  intro name member
  have pointer : name ≠ .fifoAddrPtr := by rintro rfl; revert member; decide
  have flags : name ≠ .irqFlags := by rintro rfl; revert member; decide
  exact congrArg UInt8.toNat
    (register_read (by simpa using pointer) (by simpa using flags))

theorem sameSettings_write (chip : Chip) {address : Address} (value : UInt8)
    (apart : ∀ name ∈ settingRegisters, name.address ≠ address) :
    chip.SameSettings (chip.write address value) := by
  intro name member
  have pointer : name ≠ .fifoAddrPtr := by rintro rfl; revert member; decide
  have flags : name ≠ .irqFlags := by rintro rfl; revert member; decide
  exact congrArg UInt8.toNat
    (register_write (apart name member) (by simpa using pointer)
      (by simpa using flags))

end Chip

namespace Agrees

variable {known : Configuration} {chip : Chip}

theorem congr {other : Chip}
    (same : ∀ name ∈ singleRegisters, other.value name = chip.value name)
    (agrees : Agrees known chip) : Agrees known other := by
  simp only [singleRegisters, List.forall_mem_cons] at same
  obtain ⟨paConfig, modemConfig1, modemConfig2, syncWord, -⟩ := same
  constructor
  · rw [paConfig, agrees.power]
  · rw [modemConfig1, agrees.modem1]
  · rw [modemConfig2, agrees.modem2]
  · rw [syncWord, agrees.syncWord]

end Agrees

namespace Coherent

variable {known : Configuration} {chip : Chip}

theorem congr {other : Chip} (same : chip.SameSettings other)
    (coherent : Coherent known chip) : Coherent known other := by
  have single : ∀ name ∈ singleRegisters,
      other.value name = chip.value name := by
    intro name member
    have setting : name ∈ settingRegisters := by
      revert name
      decide
    exact same name setting
  refine ⟨coherent.toAgrees.congr single, ?_, ?_, ?_, ?_, ?_⟩
  · rw [same .frfMsb (by decide), same .frfMid (by decide),
      same .frfLsb (by decide), coherent.carrier]
  · rw [same .modemConfig3 (by decide), coherent.modem3]
  · rw [same .preambleMsb (by decide), same .preambleLsb (by decide),
      coherent.preamble]
  · rw [same .detectionOptimize (by decide),
      same .detectionThreshold (by decide), coherent.detection]
  · rw [same .fifoTxBaseAddr (by decide), same .fifoRxBaseAddr (by decide)]
    exact coherent.bases

end Coherent

/-! ## Setters keep coherence -/

theorem Carrier.toNat_toWord_lt {hz : UInt32} (legal : span.Contains hz) :
    (toWord hz).toNat < 16777216 := by
  have bound : hz.toNat ≤ 1020000000 := UInt32.le_iff_toNat_le.mp legal.2
  have product : hz.toNat <<< 19 = hz.toNat * 524288 := Nat.shiftLeft_eq _ _
  have quotient : hz.toNat * 524288 / 32000000 < 16777216 := by omega
  rw [toWord, product, crystalHz,
    UInt32.toNat_ofNat_of_lt' (Nat.lt_trans quotient (by decide))]
  exact quotient

theorem bytes_of_word {word : Nat} (small : word < 16777216) :
    65536 * (UInt8.ofNat (word >>> 16)).toNat
      + 256 * (UInt8.ofNat (word >>> 8)).toNat
      + (UInt8.ofNat word).toNat = word := by
  simp only [UInt8.toNat_ofNat', Nat.shiftRight_eq_div_pow]
  omega

theorem bytes_of_half {half : Nat} (small : half < 65536) :
    256 * (UInt8.ofNat (half >>> 8)).toNat + (UInt8.ofNat half).toNat =
      half := by
  simp only [UInt8.toNat_ofNat', Nat.shiftRight_eq_div_pow]
  omega

theorem Bandwidth.toNat_index_le (bandwidth : Bandwidth) :
    bandwidth.index.toNat ≤ 9 := by
  cases bandwidth <;> decide

theorem detection_bytes (factor : UInt8) :
    ((DetectionOptimize.toByte ⟨.ofFactor factor⟩).toNat,
      (DetectionThreshold.toByte ⟨.ofFactor factor⟩).toNat) =
        if factor = 6 then (0xC5, 0x0C) else (0xC3, 0x0A) := by
  unfold Detection.ofFactor
  split <;> rfl

namespace Agrees

variable {known : Configuration} {chip : Chip}

theorem power_of_legal {amplifier : Amplifier} {level : Int8}
    (legal : amplifier.powerSpan.Contains level) :
    (AmplifierSetup.ofPower amplifier (amplifier.clampPower level)).map
        (fun setup => setup.toByte.toNat) =
      .ok (AmplifierSetup.ofLegal amplifier level).toByte.toNat := by
  have same : amplifier.clampPower level = level := Span.clamp_of_contains legal
  rw [same, AmplifierSetup.ofPower_of_legal legal]
  rfl

theorem putPower {amplifier : Amplifier} {level : Int8}
    (legal : amplifier.powerSpan.Contains level) (agrees : Agrees known chip) :
    Agrees { known with power := level, amplifier }
      (chip.putPower amplifier level) := by
  obtain ⟨power, modem1, modem2, syncWord⟩ := agrees
  constructor
  case power => simpa [Chip.putPower] using power_of_legal legal
  all_goals simpa [Chip.putPower]

theorem putFactor {factor : UInt8} (fits : SpreadingFactor.span.Contains factor)
    (agrees : Agrees known chip) :
    Agrees { known with spreadingFactor := factor }
      (chip.putFactor factor) := by
  have flag := Bool.toNat_le known.checksum
  have small : factor.toNat ≤ 12 := UInt8.le_iff_toNat_le.mp fits.2
  obtain ⟨power, modem1, modem2, syncWord⟩ := agrees
  constructor
  case modem2 =>
    simpa [Chip.putFactor] using
      ModemConfig2.toNat_withFactor modem2 (by omega)
        (Nat.le_trans small (by decide))
  all_goals simpa [Chip.putFactor]

theorem putBandwidth {bandwidth : Bandwidth} (legal : known.Legal)
    (agrees : Agrees known chip) :
    Agrees { known with bandwidth } (chip.putBandwidth bandwidth) := by
  have header := Bool.toNat_le (known.headerMode = .implicit)
  have rate : known.codingRate.toNat - 4 ≤ 7 :=
    Nat.le_trans (Nat.sub_le_sub_right
      (UInt8.le_iff_toNat_le.mp legal.codingRate.2) 4) (by decide)
  have index := Nat.le_trans bandwidth.toNat_index_le (by decide : 9 ≤ 15)
  obtain ⟨power, modem1, modem2, syncWord⟩ := agrees
  constructor
  case modem1 =>
    simpa [Chip.putBandwidth] using
      ModemConfig1.toNat_withBandwidth modem1 rate header index
  all_goals simpa [Chip.putBandwidth]

theorem putCodingRate {denominator : UInt8} (legal : known.Legal)
    (fits : CodingRate.span.Contains denominator) (agrees : Agrees known chip) :
    Agrees { known with codingRate := denominator }
      (chip.putCodingRate denominator) := by
  have header := Bool.toNat_le (known.headerMode = .implicit)
  have old : known.codingRate.toNat ≤ 8 :=
    UInt8.le_iff_toNat_le.mp legal.codingRate.2
  have new : denominator.toNat ≤ 8 := UInt8.le_iff_toNat_le.mp fits.2
  have code : (UInt8.ofNat (denominator.toNat - 4)).toNat =
      denominator.toNat - 4 :=
    UInt8.toNat_ofNat_of_lt' (show denominator.toNat - 4 < 256 by omega)
  obtain ⟨power, modem1, modem2, syncWord⟩ := agrees
  constructor
  case modem1 =>
    have written :=
      ModemConfig1.toNat_withCodingRate (UInt8.ofNat (denominator.toNat - 4))
        modem1
      (by omega) header (by omega)
    rw [code] at written
    simpa [Chip.putCodingRate] using written
  all_goals simpa [Chip.putCodingRate]

theorem putSyncWord {word : UInt8} (agrees : Agrees known chip) :
    Agrees { known with syncWord := word }
      (chip.setRegister RegisterName.syncWord.address word) := by
  obtain ⟨power, modem1, modem2, syncWord⟩ := agrees
  constructor
  case syncWord => simp
  all_goals simpa

theorem putChecksum {enabled : Bool} (agrees : Agrees known chip) :
    Agrees { known with checksum := enabled } (chip.putChecksum enabled) := by
  obtain ⟨power, modem1, modem2, syncWord⟩ := agrees
  constructor
  case modem2 =>
    simpa [Chip.putChecksum] using
      ModemConfig2.toNat_withChecksum enabled modem2
  all_goals simpa [Chip.putChecksum]

theorem putHeaderMode {mode : HeaderMode} (agrees : Agrees known chip) :
    Agrees { known with headerMode := mode } (chip.putHeaderMode mode) := by
  have header := Bool.toNat_le (known.headerMode = .implicit)
  obtain ⟨power, modem1, modem2, syncWord⟩ := agrees
  constructor
  case modem1 =>
    simpa [Chip.putHeaderMode] using
      ModemConfig1.toNat_withHeader (mode = .implicit) modem1 header
  all_goals simpa [Chip.putHeaderMode]

/-- The registers that startup does not write agree with the settings of a new
driver through their reset values. -/
theorem putDefaults (polling : Option Polling)
    (reset : ∀ name ∈ [RegisterName.modemConfig1, .modemConfig2, .syncWord],
      chip.value name = Chip.fresh.value name) :
    Agrees { polling } (chip.putDefaults { polling }) := by
  have kept : ∀ name ∈ [RegisterName.modemConfig1, .modemConfig2, .syncWord],
      (chip.putDefaults { polling }).value name = Chip.fresh.value name := by
    intro name member
    have apart : name ∉ startupRegisters := by
      revert name
      decide
    rw [chip.value_putDefaults _ apart, reset name member]
  constructor
  case power =>
    simp only [Chip.putDefaults, Chip.putPower, Chip.value_setRegister]
    exact power_of_legal (Configuration.legal_polling polling).power
  case modem1 =>
    rw [kept .modemConfig1 (by decide)]
    rfl
  case modem2 =>
    rw [kept .modemConfig2 (by decide)]
    rfl
  case syncWord =>
    rw [kept .syncWord (by decide)]
    rfl

end Agrees

namespace Coherent

variable {known : Configuration} {chip : Chip}

theorem modem3_putLowDataRate {factor : UInt8} {bandwidth : Bandwidth}
    {optimized : Bool} (legal : SpreadingFactor.span.Contains factor)
    (before : chip.value .modemConfig3 = 4 + 8 * optimized.toNat) :
    (lowDataRate factor bandwidth).map
        (fun optimized => 4 + 8 * optimized.toNat) =
      .ok ((chip.putLowDataRate (slowSymbols factor bandwidth)).value
        .modemConfig3) := by
  rw [lowDataRate_of_legal legal]
  change Except.ok _ = Except.ok _
  congr 1
  change (chip.register RegisterName.modemConfig3.address).toNat = _ at before
  simp only [Chip.putLowDataRate, Chip.value_update, if_true,
    ModemConfig3.toNat_toByte, ModemConfig3.toNat_automaticGain_ofByte,
    ModemConfig3.toNat_reserved_ofByte, before]
  cases slowSymbols factor bandwidth <;> cases optimized <;> rfl

theorem modem3_value (legal : known.Legal) (coherent : Coherent known chip) :
    chip.value .modemConfig3 =
      4 + 8 * (slowSymbols known.spreadingFactor known.bandwidth).toNat := by
  have stated := coherent.modem3
  rw [lowDataRate_of_legal legal.spreadingFactor] at stated
  exact (Except.ok.inj stated).symm

theorem putCarrier {hz : UInt32} (legal : Carrier.span.Contains hz)
    (coherent : Coherent known chip) :
    Coherent { known with frequency := hz } (chip.putCarrier hz) := by
  obtain ⟨⟨power, modem1, modem2, syncWord⟩, carrier, modem3, preamble,
      detection, bases⟩ :=
    coherent
  constructor
  case carrier =>
    simpa [Chip.putCarrier] using bytes_of_word (Carrier.toNat_toWord_lt legal)
  case toAgrees => constructor <;> simpa [Chip.putCarrier]
  all_goals simpa [Chip.putCarrier]

theorem putPower {amplifier : Amplifier} {level : Int8}
    (legal : amplifier.powerSpan.Contains level)
    (coherent : Coherent known chip) :
    Coherent { known with power := level, amplifier }
      (chip.putPower amplifier level) := by
  obtain ⟨agrees, carrier, modem3, preamble, detection, bases⟩ := coherent
  refine ⟨agrees.putPower legal, ?_, ?_, ?_, ?_, ?_⟩
  all_goals simpa [Chip.putPower]

theorem putSpreadingFactor {factor : UInt8} (legal : known.Legal)
    (fits : SpreadingFactor.span.Contains factor)
    (coherent : Coherent known chip) :
    Coherent { known with spreadingFactor := factor }
      (((chip.putDetection factor).putFactor factor).putLowDataRate
        (slowSymbols factor known.bandwidth)) := by
  have gain := coherent.modem3_value legal
  obtain ⟨agrees, carrier, modem3, preamble, detection, bases⟩ := coherent
  constructor
  case toAgrees =>
    have detected : Agrees known (chip.putDetection factor) :=
      agrees.congr (by simp [singleRegisters, Chip.putDetection])
    exact (detected.putFactor fits).congr
      (by simp [singleRegisters, Chip.putLowDataRate])
  case modem3 =>
    apply modem3_putLowDataRate fits
    simpa [Chip.putDetection, Chip.putFactor] using gain
  case detection =>
    simpa [Chip.putDetection, Chip.putFactor, Chip.putLowDataRate] using
      detection_bytes factor
  all_goals simpa [Chip.putDetection, Chip.putFactor, Chip.putLowDataRate]

theorem putBandwidth {bandwidth : Bandwidth} (legal : known.Legal)
    (coherent : Coherent known chip) :
    Coherent { known with bandwidth }
      ((chip.putBandwidth bandwidth).putLowDataRate
        (slowSymbols known.spreadingFactor bandwidth)) := by
  have gain := coherent.modem3_value legal
  obtain ⟨agrees, carrier, modem3, preamble, detection, bases⟩ := coherent
  constructor
  case toAgrees =>
    exact (agrees.putBandwidth legal).congr
      (by simp [singleRegisters, Chip.putLowDataRate])
  case modem3 =>
    apply modem3_putLowDataRate legal.spreadingFactor
    simpa [Chip.putBandwidth] using gain
  all_goals simpa [Chip.putBandwidth, Chip.putLowDataRate]

theorem putCodingRate {denominator : UInt8} (legal : known.Legal)
    (fits : CodingRate.span.Contains denominator)
    (coherent : Coherent known chip) :
    Coherent { known with codingRate := denominator }
      (chip.putCodingRate denominator) := by
  obtain ⟨agrees, carrier, modem3, preamble, detection, bases⟩ := coherent
  refine ⟨agrees.putCodingRate legal fits, ?_, ?_, ?_, ?_, ?_⟩
  all_goals simpa [Chip.putCodingRate]

theorem putPreambleLength {symbols : UInt16} (coherent : Coherent known chip) :
    Coherent { known with preambleLength := symbols }
      (chip.putPreambleLength symbols) := by
  obtain ⟨⟨power, modem1, modem2, syncWord⟩, carrier, modem3, preamble,
      detection, bases⟩ :=
    coherent
  constructor
  case preamble =>
    simpa [Chip.putPreambleLength] using bytes_of_half symbols.toNat_lt
  case toAgrees => constructor <;> simpa [Chip.putPreambleLength]
  all_goals simpa [Chip.putPreambleLength]

theorem putSyncWord {word : UInt8} (coherent : Coherent known chip) :
    Coherent { known with syncWord := word }
      (chip.setRegister RegisterName.syncWord.address word) := by
  obtain ⟨agrees, carrier, modem3, preamble, detection, bases⟩ := coherent
  refine ⟨agrees.putSyncWord, ?_, ?_, ?_, ?_, ?_⟩
  all_goals simpa

theorem putChecksum {enabled : Bool} (coherent : Coherent known chip) :
    Coherent { known with checksum := enabled } (chip.putChecksum enabled) := by
  obtain ⟨agrees, carrier, modem3, preamble, detection, bases⟩ := coherent
  refine ⟨agrees.putChecksum, ?_, ?_, ?_, ?_, ?_⟩
  all_goals simpa [Chip.putChecksum]

theorem putHeaderMode {mode : HeaderMode} (coherent : Coherent known chip) :
    Coherent { known with headerMode := mode } (chip.putHeaderMode mode) := by
  obtain ⟨agrees, carrier, modem3, preamble, detection, bases⟩ := coherent
  refine ⟨agrees.putHeaderMode, ?_, ?_, ?_, ?_, ?_⟩
  all_goals simpa [Chip.putHeaderMode]

theorem putDefaults {chip : Chip} (reset : Chip.fresh.SameSettings chip)
    (polling : Option Polling) :
    Coherent { polling } (chip.putDefaults { polling }) := by
  have legal := Configuration.legal_polling polling
  have kept : ∀ name ∈ settingRegisters, name ∉ startupRegisters →
      (chip.putDefaults { polling }).value name = Chip.fresh.value name := by
    intro name member apart
    rw [chip.value_putDefaults _ apart, reset name member]
  have agrees : Agrees { polling } (chip.putDefaults { polling }) := by
    refine .putDefaults polling fun name member => reset name ?_
    revert name
    decide
  refine ⟨agrees, ?_, ?_, ?_, ?_, ?_⟩
  · simpa [Chip.putDefaults, Chip.putPower, Chip.boostHigh,
      Chip.putCarrier] using
      bytes_of_word (Carrier.toNat_toWord_lt legal.frequency)
  · simp only [Chip.putDefaults, Chip.putPower, Chip.value_setRegister]
    exact congrArg _ (lowDataRate_of_legal legal.spreadingFactor _)
  · rw [kept .preambleMsb (by decide) (by decide),
      kept .preambleLsb (by decide) (by decide)]
    rfl
  · rw [kept .detectionOptimize (by decide) (by decide),
      kept .detectionThreshold (by decide) (by decide)]
    rfl
  · simp [Chip.putDefaults, Chip.putPower, Chip.boostHigh]

theorem withPolling (coherent : Coherent known chip)
    (polling : Option Polling) :
    Coherent { known with polling } chip where
  toAgrees := { coherent.toAgrees with }
  carrier := coherent.carrier
  modem3 := coherent.modem3
  preamble := coherent.preamble
  detection := coherent.detection
  bases := coherent.bases

theorem setting (legal : known.Legal) (coherent : Coherent known chip)
    (setting : Setting) :
    Coherent (setting.configure known)
      (setting.program (setting.configure known) chip) := by
  have legalAfter := setting.legal_configure legal
  cases setting with
  | frequency hz => exact coherent.putCarrier legalAfter.frequency
  | power dbm amplifier => exact coherent.putPower legalAfter.power
  | spreadingFactor factor =>
      exact coherent.putSpreadingFactor legal legalAfter.spreadingFactor
  | bandwidth hz => exact coherent.putBandwidth legal
  | codingRate denominator =>
      exact coherent.putCodingRate legal legalAfter.codingRate
  | preambleLength symbols => exact coherent.putPreambleLength
  | syncWord word => exact coherent.putSyncWord
  | checksum enabled => exact coherent.putChecksum
  | polling wait => exact coherent.withPolling _

end Coherent

end LoraRadio
