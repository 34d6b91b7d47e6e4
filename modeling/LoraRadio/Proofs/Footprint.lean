import LoraRadio.Proofs.Bits
import LoraRadio.Proofs.Calls
import LoraRadio.Proofs.Startup

/-!
# The bits that belong to a setting

Each setting owns some bits of the register map.  A setter writes registers that
hold bits of several owners by reading the byte first, and every bit that the
setting does not own is written back as it was.  The same holds of startup, and
since it holds of every single event on the record it also holds of a run that
breaks off.
-/

namespace LoraRadio

open Operation RadioM Radio

structure BitRange where
  name : RegisterName
  low : Nat
  size : Nat
  deriving DecidableEq, Repr

namespace BitRange

def whole (name : RegisterName) : BitRange :=
  ⟨name, 0, 8⟩

def Has (range : BitRange) (address : Address) (position : Nat) : Prop :=
  range.name.address = address ∧ range.low ≤ position ∧
    position < range.low + range.size

end BitRange

def Covered (ranges : List BitRange) (address : Address) (position : Nat) :
    Prop :=
  ∃ range ∈ ranges, range.Has address position

theorem covered_whole {ranges : List BitRange} {name : RegisterName}
    {position : Nat} (owned : .whole name ∈ ranges) (within : position < 8) :
    Covered ranges name.address position :=
  ⟨.whole name, owned, rfl, Nat.zero_le _,
    by simpa [BitRange.whole] using within⟩

/-! ## Chips that differ in some bits -/

namespace Chip

/-- All bits that no range has are the same, and so is everything that is no
register. -/
structure SameOutside (ranges : List BitRange) (before after : Chip) :
    Prop where
  bits : ∀ address, ∀ position < 8, ¬Covered ranges address position →
    bit position (after.register address) =
      bit position (before.register address)
  others : { after with registers := before.registers } = before

theorem ext_register {first second : Chip}
    (same : ∀ address, first.register address = second.register address)
    (others : { first with registers := second.registers } = second) :
    first = second := by
  have registers : first.registers = second.registers := by
    apply Vector.ext
    intro index within
    exact same ⟨index, within⟩
  rw [← others, ← registers]

namespace SameOutside

variable {ranges : List BitRange} {first second third : Chip}

theorem refl (chip : Chip) : SameOutside ranges chip chip :=
  ⟨fun _ _ _ _ => rfl, rfl⟩

theorem trans (left : SameOutside ranges first second)
    (right : SameOutside ranges second third) :
    SameOutside ranges first third where
  bits address position within apart := by
    rw [right.bits address position within apart,
      left.bits address position within apart]
  others := by
    rw [← left.others, ← right.others]

theorem register (same : SameOutside ranges first second) {address : Address}
    (apart : ∀ position < 8, ¬Covered ranges address position) :
    second.register address = first.register address :=
  eq_of_bit fun position within =>
    same.bits address position within (apart position within)

end SameOutside

end Chip

/-! ## Events that keep to the ranges -/

/-- The event has no effect but that of a write to its register, and that write
leaves all bits outside of the ranges as they are on the chip. -/
def Event.Within (ranges : List BitRange) (origin : Chip) : Event → Prop
  | .read header _ => ∀ chip : Chip, (chip.read header.address).2 = chip
  | .write header value =>
      (∀ chip : Chip,
        chip.write header.address value =
          chip.setRegister header.address value) ∧
        ∀ position < 8, ¬Covered ranges header.address position →
          bit position value = bit position (origin.register header.address)
  | .readFailed _ | .writeFailed _ _ | .line _ _ | .lineFailed _ _
  | .delay _ => True

theorem Chip.hear_broken {event failed : Event} {failure : Failure}
    (chip : Chip) (fails : event.broken = some (failed, failure)) :
    chip.hear failed = chip := by
  rcases Event.cases_of_broken fails with
    ⟨_, _, -, rfl, -⟩ | ⟨_, _, -, rfl, -⟩ | ⟨_, _, -, rfl, -⟩ <;>
    rfl

namespace Chip.SameOutside

variable {ranges : List BitRange} {origin chip : Chip}

theorem hear (same : SameOutside ranges origin chip) {event : Event}
    (within : event.Within ranges origin) :
    SameOutside ranges origin (chip.hear event) := by
  cases event with
  | read header value =>
      rw [Chip.hear, within chip]
      exact same
  | write header value =>
      rw [Chip.hear, within.1]
      refine ⟨fun other position inside apart => ?_, same.others⟩
      rw [register_setRegister]
      split
      · next here =>
          subst here
          exact within.2 position inside apart
      · exact same.bits other position inside apart
  | readFailed | writeFailed | line | lineFailed | delay => exact same

theorem replay (same : SameOutside ranges origin chip) {events : List Event}
    (within : ∀ event ∈ events, event.Within ranges origin) :
    SameOutside ranges origin (chip.replay events) := by
  induction events generalizing chip with
  | nil => exact same
  | cons event rest ih =>
      rw [List.forall_mem_cons] at within
      exact ih (same.hear within.1) within.2

theorem replay_of_breaks (same : SameOutside ranges origin chip)
    {failure : Failure} {script events : List Event}
    (breaks : Breaks failure script events)
    (within : ∀ event ∈ script, event.Within ranges origin) :
    SameOutside ranges origin (chip.replay events) := by
  induction breaks generalizing chip with
  | here fails =>
      change SameOutside ranges origin (chip.hear _)
      rw [hear_broken chip fails]
      exact same
  | later _ ih =>
      rw [List.forall_mem_cons] at within
      exact ih (same.hear within.1) within.2

end Chip.SameOutside

namespace Event.Within

variable {ranges : List BitRange} {origin : Chip}

theorem whole {name : RegisterName} {value : UInt8}
    (owned : .whole name ∈ ranges)
    (plain : ∀ chip : Chip, chip.write name.address value =
      chip.setRegister name.address value) :
    (Event.write name.address value).Within ranges origin := by
  refine ⟨plain, fun position inside apart => ?_⟩
  exact absurd (covered_whole owned inside) apart

theorem part {range : BitRange} {value : UInt8} (owned : range ∈ ranges)
    (plain : ∀ chip : Chip, chip.write range.name.address value =
      chip.setRegister range.name.address value)
    (same : ∀ position < 8,
      ¬(range.low ≤ position ∧ position < range.low + range.size) →
      bit position value = bit position (origin.register range.name.address)) :
    (Event.write range.name.address value).Within ranges origin := by
  refine ⟨plain,
    fun position inside apart => same position inside fun has => ?_⟩
  exact apart ⟨range, owned, rfl, has⟩

theorem updateScript (range : BitRange) {change : UInt8 → UInt8}
    (owned : range ∈ ranges)
    (looks : ∀ chip : Chip, (chip.read range.name.address).2 = chip)
    (plain : ∀ (value : UInt8) (chip : Chip),
      chip.write range.name.address value =
        chip.setRegister range.name.address value)
    (same : ∀ (byte : UInt8) (position : Nat),
      ¬(range.low ≤ position ∧ position < range.low + range.size) →
      bit position (change byte) = bit position byte) :
    ∀ event ∈ origin.updateScript range.name change,
      event.Within ranges origin := by
  simp only [Chip.updateScript, List.forall_mem_cons]
  exact ⟨looks, part owned (plain _) fun position _ => same _ position, by simp⟩

end Event.Within

/-! ## Setters -/

namespace Setting

/-- The bits that a setting owns.  Bit 3 of `modemConfig3`, the low data rate
optimization, belongs to the spreading factor and to the bandwidth. -/
def ranges : Setting → List BitRange
  | .frequency _ => [.whole .frfMsb, .whole .frfMid, .whole .frfLsb]
  | .power _ _ => [.whole .paConfig]
  | .spreadingFactor _ =>
      [.whole .detectionOptimize, .whole .detectionThreshold,
        ⟨.modemConfig2, 4, 4⟩, ⟨.modemConfig3, 3, 1⟩]
  | .bandwidth _ => [⟨.modemConfig1, 4, 4⟩, ⟨.modemConfig3, 3, 1⟩]
  | .codingRate _ => [⟨.modemConfig1, 1, 3⟩]
  | .preambleLength _ => [.whole .preambleMsb, .whole .preambleLsb]
  | .syncWord _ => [.whole .syncWord]
  | .checksum _ => [⟨.modemConfig2, 2, 1⟩]
  | .polling _ => []

theorem within_optimize {ranges : List BitRange}
    (owned : ⟨.modemConfig3, 3, 1⟩ ∈ ranges) (enabled : Bool) (chip : Chip) :
    ∀ event ∈ chip.updateScript .modemConfig3 fun byte =>
        ModemConfig3.toByte { ModemConfig3.ofByte byte with
          lowDataRate := enabled },
      event.Within ranges chip := by
  refine Event.Within.updateScript ⟨.modemConfig3, 3, 1⟩ owned (fun _ => rfl)
    (fun _ _ => rfl) ?_
  intro byte position apart
  dsimp only at apart
  exact ModemConfig3.bit_withLowDataRate (by omega) byte enabled

theorem within_script (setting : Setting) (known : Configuration)
    (chip : Chip) :
    ∀ event ∈ setting.script known chip, event.Within setting.ranges chip := by
  cases setting with
  | frequency hz =>
      simp only [script, List.forall_mem_cons]
      exact ⟨.whole (by simp [ranges]) fun _ => rfl,
        .whole (by simp [ranges]) fun _ => rfl,
        .whole (by simp [ranges]) fun _ => rfl, by simp⟩
  | power dbm amplifier =>
      simp only [script, List.forall_mem_cons]
      exact ⟨.whole (by simp [ranges]) fun _ => rfl, by simp⟩
  | spreadingFactor factor =>
      simp only [script, List.forall_mem_cons, List.forall_mem_append]
      refine ⟨.whole (by simp [ranges]) fun _ => rfl,
        .whole (by simp [ranges]) fun _ => rfl, ?_,
        within_optimize (by simp [ranges]) _ chip⟩
      refine Event.Within.updateScript ⟨.modemConfig2, 4, 4⟩ (by simp [ranges])
        (fun _ => rfl) (fun _ _ => rfl) ?_
      intro byte position apart
      exact ModemConfig2.bit_withFactor apart byte known.spreadingFactor
  | bandwidth hz =>
      simp only [script, List.forall_mem_append]
      refine ⟨?_, within_optimize (by simp [ranges]) _ chip⟩
      refine Event.Within.updateScript ⟨.modemConfig1, 4, 4⟩ (by simp [ranges])
        (fun _ => rfl) (fun _ _ => rfl) ?_
      intro byte position apart
      exact ModemConfig1.bit_withBandwidth apart byte known.bandwidth.index
  | codingRate denominator =>
      simp only [script]
      refine Event.Within.updateScript ⟨.modemConfig1, 1, 3⟩ (by simp [ranges])
        (fun _ => rfl) (fun _ _ => rfl) ?_
      intro byte position apart
      exact ModemConfig1.bit_withCodingRate apart byte _
  | preambleLength symbols =>
      simp only [script, List.forall_mem_cons]
      exact ⟨.whole (by simp [ranges]) fun _ => rfl,
        .whole (by simp [ranges]) fun _ => rfl, by simp⟩
  | syncWord word =>
      simp only [script, List.forall_mem_cons]
      exact ⟨.whole (by simp [ranges]) fun _ => rfl, by simp⟩
  | checksum enabled =>
      simp only [script]
      refine Event.Within.updateScript ⟨.modemConfig2, 2, 1⟩ (by simp [ranges])
        (fun _ => rfl) (fun _ _ => rfl) ?_
      intro byte position apart
      dsimp only at apart
      exact ModemConfig2.bit_withChecksum (by omega) byte known.checksum
  | polling wait => simp [script]

theorem program_eq_replay (setting : Setting) (known : Configuration)
    (chip : Chip) :
    setting.program known chip = chip.replay (setting.script known chip) := by
  cases setting with
  | spreadingFactor factor =>
      simp [program, script, Chip.putDetection, Chip.putFactor,
        Chip.putLowDataRate, Chip.update, Chip.updateScript, Chip.replay,
        Chip.hear, Chip.read_plain, Chip.write_plain]
  | bandwidth hz =>
      simp [program, script, Chip.putBandwidth, Chip.putLowDataRate,
        Chip.update, Chip.updateScript, Chip.replay, Chip.hear, Chip.read_plain,
        Chip.write_plain]
  | frequency | power | codingRate | preambleLength | syncWord | checksum
  | polling => rfl

theorem sameOutside_program (setting : Setting) (known : Configuration)
    (chip : Chip) :
    chip.SameOutside setting.ranges (setting.program known chip) := by
  rw [program_eq_replay]
  exact (Chip.SameOutside.refl chip).replay (setting.within_script known chip)

end Setting

/-! ## Startup -/

def startupRanges : List BitRange :=
  [.whole .opMode, .whole .frfMsb, .whole .frfMid, .whole .frfLsb,
    .whole .paConfig, ⟨.lna, 0, 2⟩, .whole .fifoTxBaseAddr,
    .whole .fifoRxBaseAddr, .whole .modemConfig3]

namespace Radio

theorem within_defaultsScript (chip : Chip) (known : Configuration) :
    ∀ event ∈ defaultsScript chip known, event.Within startupRanges chip := by
  have boost : (Event.write RegisterName.lna.address
      (LowNoiseAmplifier.toByte
        { LowNoiseAmplifier.ofByte (chip.register RegisterName.lna.address) with
          boostHigh :=
              LowNoiseAmplifier.boostHighOn })).Within startupRanges chip := by
    refine @Event.Within.part _ _ ⟨.lna, 0, 2⟩ _ (by decide) (fun _ => rfl) ?_
    intro position _ apart
    exact LowNoiseAmplifier.bit_withBoostHigh (by simpa using apart) _ _
  simp only [defaultsScript, List.forall_mem_cons]
  exact ⟨.whole (by decide) fun _ => rfl, .whole (by decide) fun _ => rfl,
    .whole (by decide) fun _ => rfl, .whole (by decide) fun _ => rfl,
    .whole (by decide) fun _ => rfl, .whole (by decide) fun _ => rfl,
    fun _ => rfl, boost, .whole (by decide) fun _ => rfl,
    .whole (by decide) fun _ => rfl, .whole (by decide) fun _ => rfl, by simp⟩

theorem putDefaults_eq_replay (chip : Chip) (known : Configuration) :
    chip.putDefaults known = chip.replay (defaultsScript chip known) := by
  -- The mode is written twice; neither value starts the transmitter.
  have asleep (chip : Chip) : chip.write RegisterName.opMode.address 0x80 =
      chip.setRegister RegisterName.opMode.address 0x80 := rfl
  have awake (chip : Chip) : chip.write RegisterName.opMode.address 0x81 =
      chip.setRegister RegisterName.opMode.address 0x81 := rfl
  simp [Chip.putDefaults, Chip.putCarrier, Chip.boostHigh, Chip.update,
    Chip.putPower, defaultsScript, Chip.replay, Chip.hear, Chip.read_plain,
    Chip.write_plain, asleep, awake]

theorem sameOutside_putDefaults (chip : Chip) (known : Configuration) :
    chip.SameOutside startupRanges (chip.putDefaults known) := by
  rw [putDefaults_eq_replay]
  exact (Chip.SameOutside.refl chip).replay (within_defaultsScript chip known)

theorem startup_of_usable {before : Scene}
    (complete : before.radio.connection.complete = true)
    (required : before.chip.register RegisterName.version.address =
      requiredVersion) :
    startup before =
      { radio :=
          { before.radio with
            lifecycle := .ready
            version := some requiredVersion
            configuration :=
              (Setting.power 17 .paBoost).configure before.radio.configuration }
        chip := before.chip.putDefaults before.radio.configuration
        elapsedMs := before.elapsedMs + 450 } := by
  simp [startup, complete, required]

theorem within_startupScript (before : Scene) :
    ∀ event ∈ startupScript before, event.Within startupRanges before.chip := by
  unfold startupScript
  split
  · simp only [List.forall_mem_append, List.forall_mem_cons]
    refine ⟨by simp [pulseScript, Event.Within], fun _ => rfl, ?_⟩
    split
    · exact within_defaultsScript _ _
    · simp
  · simp

end Radio

/-! ## Calls -/

namespace Call

variable {station : Station}

/-- A setter changes no bit that its setting does not own and no other known
setting.  Startup changes no bit outside of the registers that it programs.
This holds whatever the registers contain. -/
theorem changes_own_bits (sound : station.bench.Sound)
    (legal : station.radio.configuration.Legal) :
    (station.radio.ready = true → ∀ setting : Setting, ∃ final,
      setting.call.perform station = (.done, final) ∧
      final.radio =
        { station.radio with
          configuration := setting.configure station.radio.configuration } ∧
      station.bench.chip.SameOutside setting.ranges final.bench.chip) ∧
    (station.radio.lifecycle = .uninitialized →
      station.radio.connection.complete = true →
      station.bench.chip.register RegisterName.version.address =
        requiredVersion →
      ∃ final, Call.isReady.perform station = (.truth true, final) ∧
      final.radio =
        { station.radio with
          lifecycle := .ready
          version := some requiredVersion
          configuration :=
            (Setting.power 17 .paBoost).configure
              station.radio.configuration } ∧
      final.bench.chip.register RegisterName.opMode.address = 0x81 ∧
      station.bench.chip.SameOutside startupRanges final.bench.chip) := by
  constructor
  · intro ready setting
    obtain ⟨final, told, -, scene⟩ :=
      setting.exists_perform_call sound ready legal
    have chip : final.bench.chip = setting.program _ station.bench.chip :=
      congrArg Scene.chip scene
    refine ⟨final, told, congrArg Scene.radio scene, ?_⟩
    rw [chip]
    exact setting.sameOutside_program _ _
  · intro new complete required
    obtain ⟨final, run, -, scene⟩ :=
      (@follows_ensureReady station.scene new legal).gives.exists_run sound rfl
    rw [startup_of_usable complete required] at run scene
    have chip : final.bench.chip =
        station.bench.chip.putDefaults station.radio.configuration :=
      congrArg Scene.chip scene
    refine ⟨final, answer_of_ok run, congrArg Scene.radio scene, ?_, ?_⟩
    · rw [chip, Chip.putDefaults]
      simp
    · rw [chip]
      exact sameOutside_putDefaults _ _

/-- A chip with all bits set: the factor changes between its neighbours, and
startup comes through on the same chip once its version is the required one. -/
theorem changes_own_bits_of_full_chip :
    let full : Chip :=
      { Chip.fresh with registers := Vector.replicate 128 0xFF }
    let usable := full.setRegister RegisterName.version.address requiredVersion
    let inService : Station :=
      ⟨{ connection := ⟨0, true, true⟩, lifecycle := .ready, cursor := ⟨1, 4⟩ },
        { chip := full }⟩
    let new : Station := ⟨{ connection := ⟨0, true, true⟩ }, { chip := usable }⟩
    (∃ final, (Call.setSpreadingFactor 6).perform inService = (.done, final) ∧
      final.radio =
        { inService.radio with configuration := { spreadingFactor := 6 } } ∧
      full.SameOutside
        [.whole .detectionOptimize, .whole .detectionThreshold,
            ⟨.modemConfig2, 4, 4⟩,
          ⟨.modemConfig3, 3, 1⟩] final.bench.chip) ∧
    ∃ final, Call.isReady.perform new = (.truth true, final) ∧
      final.radio =
        { new.radio with lifecycle := .ready, version := some 0x12 } ∧
      final.bench.chip.register RegisterName.opMode.address = 0x81 ∧
      usable.SameOutside startupRanges final.bench.chip := by
  intro full usable inService new
  have setter :=
    (@changes_own_bits inService ⟨rfl, rfl⟩ Configuration.legal_default).1 rfl
      (.spreadingFactor 6)
  have startup :=
    (@changes_own_bits new ⟨rfl, rfl⟩ Configuration.legal_default).2 rfl rfl
      (by simp [new, usable])
  exact ⟨setter, startup⟩

end Call

end LoraRadio
