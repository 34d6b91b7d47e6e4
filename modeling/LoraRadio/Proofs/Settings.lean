import LoraRadio.Proofs.Record
import LoraRadio.Radio.Settings

/-!
# What the setters do

The settings that a driver can know are legal ones.  On a chip in service and
without faults each setter has one effect: the known settings change, and the
registers of the parameter are written from the new settings.
-/

namespace LoraRadio

open Operation RadioM

/-! ## Legal settings -/

namespace Span

variable {α : Type} [LE α]

def Contains (span : Span α) (value : α) : Prop :=
  span.low ≤ value ∧ value ≤ span.high

variable [LT α] [DecidableLT α] [Std.IsLinearOrder α] [Std.LawfulOrderLT α]

theorem contains_clamp {span : Span α} (order : span.low ≤ span.high)
    (value : α) :
    span.Contains (span.clamp value) := by
  unfold clamp
  split
  · exact ⟨Std.le_refl _, order⟩
  · next notBelow =>
      split
      · exact ⟨order, Std.le_refl _⟩
      · next notAbove => exact ⟨Std.not_lt.mp notBelow, Std.not_lt.mp notAbove⟩

theorem clamp_of_contains {span : Span α} {value : α}
    (inside : span.Contains value) :
    span.clamp value = value := by
  have notBelow : ¬value < span.low := Std.not_lt.mpr inside.1
  have notAbove : ¬span.high < value := Std.not_lt.mpr inside.2
  rw [clamp, if_neg notBelow, if_neg notAbove]

end Span

theorem Amplifier.contains_clampPower (amplifier : Amplifier) (dbm : Int8) :
    amplifier.powerSpan.Contains (amplifier.clampPower dbm) := by
  apply Span.contains_clamp
  cases amplifier <;> decide

/-- Every setting lies in the range that its setter goes to. -/
structure Configuration.Legal (configuration : Configuration) : Prop where
  frequency : Carrier.span.Contains configuration.frequency
  power : configuration.amplifier.powerSpan.Contains configuration.power
  spreadingFactor : SpreadingFactor.span.Contains configuration.spreadingFactor
  codingRate : CodingRate.span.Contains configuration.codingRate

theorem Configuration.legal_default : ({} : Configuration).Legal where
  frequency := ⟨by decide, by decide⟩
  power := ⟨by decide, by decide⟩
  spreadingFactor := ⟨by decide, by decide⟩
  codingRate := ⟨by decide, by decide⟩

theorem Configuration.legal_polling (polling : Option Polling) :
    ({ polling } : Configuration).Legal :=
  { legal_default with }

/-- The settings of a new driver, but for the wait that a caller may have
chosen. -/
def Configuration.Initial (configuration : Configuration) : Prop :=
  ∃ polling, configuration = { polling }

theorem Configuration.Initial.legal {known : Configuration}
    (initial : known.Initial) :
    known.Legal := by
  obtain ⟨polling, rfl⟩ := initial
  exact legal_polling polling

def settingRegisters : List RegisterName :=
  [.frfMsb, .frfMid, .frfLsb, .paConfig, .fifoTxBaseAddr, .fifoRxBaseAddr,
    .modemConfig1, .modemConfig2, .preambleMsb, .preambleLsb, .modemConfig3,
    .detectionOptimize, .detectionThreshold, .syncWord]

/-- Whether a symbol lasts longer than 16 ms, without the limits of machine
arithmetic. -/
def slowSymbols (factor : UInt8) (bandwidth : Bandwidth) : Bool :=
  16 * bandwidth.hz.toNat < 1000 * 1 <<< factor.toNat

theorem one_shiftLeft_le_of_factor {factor : UInt8}
    (legal : SpreadingFactor.span.Contains factor) :
    1 <<< factor.toNat ≤ 4096 := by
  have bound : factor.toNat ≤ 12 := UInt8.le_iff_toNat_le.mp legal.2
  rw [Nat.one_shiftLeft]
  exact Nat.pow_le_pow_right (by decide) bound

theorem Checked.ok_bind {α β : Type} (value : α) (next : α → Checked β) :
    (.ok value >>= next) = next value := rfl

/-- The product with the number of chips fits a word up to a factor of 54. -/
theorem lowDataRate_of_lt {factor : UInt8} (small : factor.toNat < 55)
    (bandwidth : Bandwidth) :
    lowDataRate factor bandwidth = .ok (slowSymbols factor bandwidth) := by
  have chips : 1 <<< factor.toNat ≤ 18014398509481984 := by
    rw [Nat.one_shiftLeft]
    exact Nat.pow_le_pow_right (by decide) (Nat.le_of_lt_succ small)
  have product : 1000 * 1 <<< factor.toNat < UInt64.size :=
    Nat.lt_of_le_of_lt (Nat.mul_le_mul_left 1000 chips) (by decide)
  rw [lowDataRate, Checked.pow64_of_lt (by omega), Checked.ok_bind,
    Checked.mul64_of_lt product]
  rfl

theorem lowDataRate_of_legal {factor : UInt8}
    (legal : SpreadingFactor.span.Contains factor) (bandwidth : Bandwidth) :
    lowDataRate factor bandwidth = .ok (slowSymbols factor bandwidth) :=
  lowDataRate_of_lt (Nat.lt_of_le_of_lt (UInt8.le_iff_toNat_le.mp legal.2)
    (by decide)) bandwidth

namespace AmplifierSetup

def ofLegal (amplifier : Amplifier) (level : Int8) : AmplifierSetup :=
  match amplifier with
  | .paBoost => ⟨.paBoost, 0, (level - 2).toUInt8⟩
  | .rfo => ⟨.rfo, 7, level.toUInt8⟩

theorem ofPower_of_legal {amplifier : Amplifier} {level : Int8}
    (legal : amplifier.powerSpan.Contains level) :
    ofPower amplifier level = .ok (ofLegal amplifier level) := by
  cases amplifier with
  | rfo => rfl
  | paBoost =>
      have low : (2 : Int8).toInt ≤ level.toInt :=
        Int8.le_iff_toInt_le.mp legal.1
      have high : level.toInt ≤ (17 : Int8).toInt :=
        Int8.le_iff_toInt_le.mp legal.2
      have two : (2 : Int8).toInt = 2 := by decide
      have most : (17 : Int8).toInt = 17 := by decide
      have least : Int8.minValue.toInt = -128 := by decide
      have greatest : Int8.maxValue.toInt = 127 := by decide
      have fits : Int8.minValue.toInt ≤ level.toInt - (2 : Int8).toInt ∧
          level.toInt - (2 : Int8).toInt ≤ Int8.maxValue.toInt := by omega
      rw [ofPower, Checked.subInt8, if_pos fits]
      rfl

end AmplifierSetup

/-! ## Setters -/

inductive Setting where
  | frequency (hz : UInt32)
  | power (dbm : Int8) (amplifier : Amplifier)
  | spreadingFactor (factor : UInt8)
  | bandwidth (hz : UInt32)
  | codingRate (denominator : UInt8)
  | preambleLength (symbols : UInt16)
  | syncWord (word : UInt8)
  | checksum (enabled : Bool)
  | polling (wait : Polling)
  deriving DecidableEq, Repr

namespace Chip

def update (chip : Chip) (name : RegisterName) (change : UInt8 → UInt8) :
    Chip :=
  chip.setRegister name.address (change (chip.register name.address))

def updateScript (chip : Chip) (name : RegisterName) (change : UInt8 → UInt8) :
    List Event :=
  [.read name.address (chip.register name.address),
    .write name.address (change (chip.register name.address))]

@[simp] theorem updateScript_setRegister (chip : Chip)
    {name other : RegisterName} (apart : other ≠ name) (value : UInt8)
    (change : UInt8 → UInt8) :
    (chip.setRegister other.address value).updateScript name change =
      chip.updateScript name change := by
  simp [updateScript, apart]

def putCarrier (chip : Chip) (hz : UInt32) : Chip :=
  ((chip.setRegister RegisterName.frfMsb.address
      (UInt8.ofNat ((Carrier.toWord hz).toNat >>> 16))).setRegister
        RegisterName.frfMid.address
    (UInt8.ofNat ((Carrier.toWord hz).toNat >>> 8))).setRegister
      RegisterName.frfLsb.address
    (UInt8.ofNat (Carrier.toWord hz).toNat)

def putPower (chip : Chip) (amplifier : Amplifier) (level : Int8) : Chip :=
  chip.setRegister RegisterName.paConfig.address
    (AmplifierSetup.ofLegal amplifier level).toByte

def putDetection (chip : Chip) (factor : UInt8) : Chip :=
  (chip.setRegister RegisterName.detectionOptimize.address
      (DetectionOptimize.toByte ⟨.ofFactor factor⟩)).setRegister
    RegisterName.detectionThreshold.address
      (DetectionThreshold.toByte ⟨.ofFactor factor⟩)

def putFactor (chip : Chip) (factor : UInt8) : Chip :=
  chip.update .modemConfig2 fun byte =>
    ModemConfig2.toByte { ModemConfig2.ofByte byte with
      spreadingFactor := factor }

def putChecksum (chip : Chip) (enabled : Bool) : Chip :=
  chip.update .modemConfig2 fun byte =>
    ModemConfig2.toByte { ModemConfig2.ofByte byte with checksum := enabled }

def putBandwidth (chip : Chip) (bandwidth : Bandwidth) : Chip :=
  chip.update .modemConfig1 fun byte =>
    ModemConfig1.toByte { ModemConfig1.ofByte byte with
      bandwidth := bandwidth.index }

def putCodingRate (chip : Chip) (denominator : UInt8) : Chip :=
  chip.update .modemConfig1 fun byte =>
    ModemConfig1.toByte
      { ModemConfig1.ofByte byte with
        codingRate := UInt8.ofNat (denominator.toNat - 4) }

def putLowDataRate (chip : Chip) (enabled : Bool) : Chip :=
  chip.update .modemConfig3 fun byte =>
    ModemConfig3.toByte { ModemConfig3.ofByte byte with lowDataRate := enabled }

def putHeaderMode (chip : Chip) (mode : HeaderMode) : Chip :=
  chip.update .modemConfig1 fun byte =>
    ModemConfig1.toByte { ModemConfig1.ofByte byte with implicitHeader := mode =
      .implicit }

def headerScript (chip : Chip) (mode : HeaderMode) : List Event :=
  chip.updateScript .modemConfig1 fun byte =>
    ModemConfig1.toByte { ModemConfig1.ofByte byte with implicitHeader := mode =
      .implicit }

def putPreambleLength (chip : Chip) (symbols : UInt16) : Chip :=
  (chip.setRegister RegisterName.preambleMsb.address
      (UInt8.ofNat (symbols.toNat >>> 8))).setRegister
    RegisterName.preambleLsb.address (UInt8.ofNat symbols.toNat)

end Chip

namespace Setting

def set : Setting → RadioM Unit
  | .frequency hz => Radio.setFrequency hz
  | .power dbm amplifier => Radio.setPower dbm amplifier
  | .spreadingFactor factor => Radio.setSpreadingFactor factor
  | .bandwidth hz => Radio.setBandwidth hz
  | .codingRate denominator => Radio.setCodingRate denominator
  | .preambleLength symbols => Radio.setPreambleLength symbols
  | .syncWord word => Radio.setSyncWord word
  | .checksum enabled => Radio.setChecksum enabled
  | .polling wait => Radio.setPolling wait

def configure (setting : Setting) (known : Configuration) : Configuration :=
  match setting with
  | .frequency hz => { known with frequency := Carrier.clamp hz }
  | .power dbm amplifier =>
      { known with power := amplifier.clampPower dbm, amplifier }
  | .spreadingFactor factor =>
      { known with spreadingFactor := SpreadingFactor.clamp factor }
  | .bandwidth hz => { known with bandwidth := Bandwidth.ofHz hz }
  | .codingRate denominator =>
      { known with codingRate := CodingRate.clamp denominator }
  | .preambleLength symbols => { known with preambleLength := symbols }
  | .syncWord word => { known with syncWord := word }
  | .checksum enabled => { known with checksum := enabled }
  | .polling wait => { known with polling := some wait }

def program (setting : Setting) (known : Configuration) (chip : Chip) : Chip :=
  match setting with
  | .frequency _ => chip.putCarrier known.frequency
  | .power _ _ => chip.putPower known.amplifier known.power
  | .spreadingFactor _ =>
      ((chip.putDetection known.spreadingFactor).putFactor
        known.spreadingFactor).putLowDataRate
        (slowSymbols known.spreadingFactor known.bandwidth)
  | .bandwidth _ =>
      (chip.putBandwidth known.bandwidth).putLowDataRate
        (slowSymbols known.spreadingFactor known.bandwidth)
  | .codingRate _ => chip.putCodingRate known.codingRate
  | .preambleLength _ => chip.putPreambleLength known.preambleLength
  | .syncWord _ => chip.setRegister RegisterName.syncWord.address known.syncWord
  | .checksum _ => chip.putChecksum known.checksum
  | .polling _ => chip

def script (setting : Setting) (known : Configuration) (chip : Chip) :
    List Event :=
  let optimize := chip.updateScript .modemConfig3 fun byte =>
    ModemConfig3.toByte
      { ModemConfig3.ofByte byte with
        lowDataRate := slowSymbols known.spreadingFactor known.bandwidth }
  match setting with
  | .frequency _ =>
      let word := (Carrier.toWord known.frequency).toNat
      [.write RegisterName.frfMsb.address (UInt8.ofNat (word >>> 16)),
        .write RegisterName.frfMid.address (UInt8.ofNat (word >>> 8)),
        .write RegisterName.frfLsb.address (UInt8.ofNat word)]
  | .power _ _ =>
      [.write RegisterName.paConfig.address
        (AmplifierSetup.ofLegal known.amplifier known.power).toByte]
  | .spreadingFactor _ =>
      .write RegisterName.detectionOptimize.address
          (DetectionOptimize.toByte ⟨.ofFactor known.spreadingFactor⟩) ::
        .write RegisterName.detectionThreshold.address
            (DetectionThreshold.toByte ⟨.ofFactor known.spreadingFactor⟩) ::
          (chip.updateScript .modemConfig2 (fun byte =>
            ModemConfig2.toByte
              { ModemConfig2.ofByte byte with
                spreadingFactor := known.spreadingFactor }) ++
            optimize)
  | .bandwidth _ =>
      chip.updateScript .modemConfig1 (fun byte =>
        ModemConfig1.toByte { ModemConfig1.ofByte byte with
            bandwidth := known.bandwidth.index }) ++
          optimize
  | .codingRate _ =>
      chip.updateScript .modemConfig1 fun byte =>
        ModemConfig1.toByte
          { ModemConfig1.ofByte byte with
            codingRate := UInt8.ofNat (known.codingRate.toNat - 4) }
  | .preambleLength _ =>
      [.write RegisterName.preambleMsb.address
        (UInt8.ofNat (known.preambleLength.toNat >>> 8)),
        .write RegisterName.preambleLsb.address
          (UInt8.ofNat known.preambleLength.toNat)]
  | .syncWord _ => [.write RegisterName.syncWord.address known.syncWord]
  | .checksum _ =>
      chip.updateScript .modemConfig2 fun byte =>
        ModemConfig2.toByte { ModemConfig2.ofByte byte with
          checksum := known.checksum }
  | .polling _ => []

theorem legal_configure (setting : Setting) {known : Configuration}
    (legal : known.Legal) :
    (setting.configure known).Legal := by
  cases setting with
  | frequency hz =>
      exact { legal with frequency := Span.contains_clamp (by decide) hz }
  | power dbm amplifier =>
      exact { legal with power := amplifier.contains_clampPower dbm }
  | spreadingFactor factor =>
      exact { legal with
        spreadingFactor := Span.contains_clamp (by decide) factor }
  | codingRate denominator =>
      exact { legal with
        codingRate := Span.contains_clamp (by decide) denominator }
  | bandwidth hz => exact { legal with }
  | preambleLength symbols => exact { legal with }
  | syncWord word => exact { legal with }
  | checksum enabled => exact { legal with }
  | polling wait => exact { legal with }

theorem initial_power {known : Configuration} (initial : known.Initial) :
    ((power 17 .paBoost).configure known).Initial := by
  obtain ⟨polling, rfl⟩ := initial
  exact ⟨polling, rfl⟩

theorem initial_polling {known : Configuration} (initial : known.Initial)
    (wait : Polling) :
    ((polling wait).configure known).Initial := by
  obtain ⟨_, rfl⟩ := initial
  exact ⟨some wait, rfl⟩

def applyTo (setting : Setting) (scene : Scene) : Scene :=
  (scene.withChip
    (setting.program (setting.configure scene.radio.configuration)
      scene.chip)).configure
      setting.configure

end Setting

namespace Radio

theorem follows_setHeaderMode (mode : HeaderMode) (before : Scene) :
    Follows (setHeaderMode mode) before (before.chip.headerScript mode)
      (.ok () ((before.withChip (before.chip.putHeaderMode mode)).configure
        fun configuration =>
        { configuration with headerMode := mode })) :=
  .bind_silent (follows_updateRegister _ rfl) (follows_modifyConfiguration _ _)

theorem gives_setHeaderMode (mode : HeaderMode) (before : Scene) :
    Gives (setHeaderMode mode) before
      (.ok () ((before.withChip (before.chip.putHeaderMode mode)).configure
        fun configuration =>
        { configuration with headerMode := mode })) :=
  (follows_setHeaderMode mode before).gives

theorem follows_updateLowDataRate {before : Scene}
    (factor : SpreadingFactor.span.Contains
      before.radio.configuration.spreadingFactor) :
    Follows updateLowDataRate before
      (before.chip.updateScript .modemConfig3 fun byte =>
        ModemConfig3.toByte
          { ModemConfig3.ofByte byte with
            lowDataRate :=
              slowSymbols before.radio.configuration.spreadingFactor
                before.radio.configuration.bandwidth })
      (.ok () (before.withChip (before.chip.putLowDataRate
        (slowSymbols before.radio.configuration.spreadingFactor
          before.radio.configuration.bandwidth)))) := by
  refine .bind (follows_getConfiguration before) ?_
  refine .bind (follows_checked (lowDataRate_of_legal factor _) before) ?_
  exact follows_updateRegister _ rfl

theorem follows_setBandwidth (hz : UInt32) {before : Scene}
    (ready : before.radio.ready = true)
    (factor : SpreadingFactor.span.Contains
      before.radio.configuration.spreadingFactor) :
    Follows (setBandwidth hz) before
      ((Setting.bandwidth hz).script
        ((Setting.bandwidth hz).configure before.radio.configuration)
        before.chip)
      (.ok () ((Setting.bandwidth hz).applyTo before)) := by
  have tuned (change : UInt8 → UInt8) :
      before.chip.updateScript .modemConfig3 change =
        (before.chip.putBandwidth (Bandwidth.ofHz hz)).updateScript
          .modemConfig3 change := by
    simp [Chip.putBandwidth, Chip.update]
  rw [Setting.script, tuned]
  refine follows_whenReady ready () ?_
  refine .bind (follows_updateRegister _ rfl) ?_
  refine .bind (follows_modifyConfiguration _ _) ?_
  exact follows_updateLowDataRate factor

theorem follows_programPower (dbm : Int8) (amplifier : Amplifier)
    (before : Scene) :
    Follows (programPower dbm amplifier) before
      [.write RegisterName.paConfig.address
        (AmplifierSetup.ofLegal amplifier (amplifier.clampPower dbm)).toByte]
      (.ok () ((before.withChip
        (before.chip.putPower amplifier (amplifier.clampPower dbm))).configure
          (Setting.power dbm amplifier).configure)) := by
  have setup :=
    AmplifierSetup.ofPower_of_legal (amplifier.contains_clampPower dbm)
  refine .bind (follows_checked setup before) ?_
  exact .bind (follows_writeRegister _ before) (follows_modifyConfiguration _ _)

end Radio

namespace Setting

open Radio

theorem follows_set (setting : Setting) {before : Scene}
    (ready : before.radio.ready = true)
    (legal : before.radio.configuration.Legal) :
    Follows setting.set before
      (setting.script (setting.configure before.radio.configuration)
        before.chip)
      (.ok () (setting.applyTo before)) := by
  have legalAfter := setting.legal_configure legal
  cases setting with
  | frequency hz =>
      refine follows_whenReady ready () ?_
      exact .bind (follows_writeRegister _ before)
        (follows_modifyConfiguration _ _)
  | power dbm amplifier =>
      exact follows_whenReady ready ()
        (follows_programPower dbm amplifier before)
  | spreadingFactor factor =>
      -- The bytes that are looked at are still those of the start.
      have detected (change : UInt8 → UInt8) :
          before.chip.updateScript .modemConfig2 change =
            (before.chip.putDetection
              (SpreadingFactor.clamp factor)).updateScript .modemConfig2
              change := by
        simp [Chip.putDetection]
      have spread (change : UInt8 → UInt8) :
          before.chip.updateScript .modemConfig3 change =
            ((before.chip.putDetection (SpreadingFactor.clamp factor)).putFactor
              (SpreadingFactor.clamp factor)).updateScript .modemConfig3
                change := by
        simp [Chip.putFactor, Chip.update, Chip.putDetection]
      rw [script, detected, spread]
      refine follows_whenReady ready () ?_
      refine .bind (follows_writeRegister _ before) ?_
      refine .bind (follows_writeRegister _ _) ?_
      refine .bind (follows_updateRegister _ rfl) ?_
      refine .bind (follows_modifyConfiguration _ _) ?_
      exact follows_updateLowDataRate legalAfter.spreadingFactor
  | bandwidth hz => exact follows_setBandwidth hz ready legal.spreadingFactor
  | codingRate denominator =>
      have atLeast : 4 ≤ (CodingRate.clamp denominator).toNat :=
        Nat.le_of_succ_le (UInt8.le_iff_toNat_le.mp legalAfter.codingRate.1)
      refine follows_whenReady ready () ?_
      refine .bind (follows_readRegister rfl) ?_
      refine .bind (follows_checked (Checked.sub_of_le atLeast) _) ?_
      exact .bind (follows_writeRegister _ _) (follows_modifyConfiguration _ _)
  | preambleLength symbols =>
      refine follows_whenReady ready () ?_
      exact .bind (follows_writeRegister _ before)
        (follows_modifyConfiguration _ _)
  | syncWord word =>
      refine follows_whenReady ready () ?_
      exact .bind (follows_writeRegister _ before)
        (follows_modifyConfiguration _ _)
  | checksum enabled =>
      refine follows_whenReady ready () ?_
      exact .bind (follows_updateRegister _ rfl)
        (follows_modifyConfiguration _ _)
  | polling wait =>
      exact follows_modifyConfiguration (polling wait).configure before

theorem gives_set (setting : Setting) {before : Scene}
    (ready : before.radio.ready = true)
    (legal : before.radio.configuration.Legal) :
    Gives setting.set before (.ok () (setting.applyTo before)) :=
  (setting.follows_set ready legal).gives

end Setting

end LoraRadio
