import LoraRadio.Proofs.Footprint

/-!
# What the known settings say about the bits

The known settings determine every bit that a setting owns, whatever else is on
the chip.  So a chip is determined by the bits that no setting owns and by the
known settings, and it does not matter what the owned bits were before.
-/

namespace LoraRadio

/-- The bytes of the settings, with all bits clear that no setting owns. -/
def Configuration.byte (known : Configuration) : RegisterName → UInt8
  | .frfMsb => UInt8.ofNat ((Carrier.toWord known.frequency).toNat >>> 16)
  | .frfMid => UInt8.ofNat ((Carrier.toWord known.frequency).toNat >>> 8)
  | .frfLsb => UInt8.ofNat (Carrier.toWord known.frequency).toNat
  | .paConfig => (AmplifierSetup.ofLegal known.amplifier known.power).toByte
  | .detectionOptimize =>
      DetectionOptimize.toByte ⟨.ofFactor known.spreadingFactor⟩
  | .detectionThreshold =>
      DetectionThreshold.toByte ⟨.ofFactor known.spreadingFactor⟩
  | .modemConfig1 =>
      ModemConfig1.toByte ⟨known.bandwidth.index,
        UInt8.ofNat (known.codingRate.toNat - 4), false⟩
  | .modemConfig2 =>
      ModemConfig2.toByte ⟨known.spreadingFactor, false, known.checksum, 0⟩
  | .modemConfig3 =>
      ModemConfig3.toByte ⟨slowSymbols known.spreadingFactor known.bandwidth,
        false, 0⟩
  | .preambleMsb => UInt8.ofNat (known.preambleLength.toNat >>> 8)
  | .preambleLsb => UInt8.ofNat known.preambleLength.toNat
  | .syncWord => known.syncWord
  | _ => 0

def Chip.Holds (chip : Chip) (bytes : RegisterName → UInt8)
    (ranges : List BitRange) : Prop :=
  ∀ range ∈ ranges, ∀ position < 8, range.low ≤ position →
    position < range.low + range.size →
    bit position (chip.register range.name.address) =
      bit position (bytes range.name)

namespace Chip

variable {ranges more : List BitRange} {origin first second : Chip}
  {bytes : RegisterName → UInt8}

theorem Holds.nil (chip : Chip) (bytes : RegisterName → UInt8) :
    chip.Holds bytes [] := by
  simp [Holds]

theorem Holds.single {chip : Chip} {range : BitRange}
    (each : ∀ position < 8, range.low ≤ position →
      position < range.low + range.size →
      bit position (chip.register range.name.address) =
        bit position (bytes range.name)) :
    chip.Holds bytes [range] := by
  intro other member
  obtain rfl := List.mem_singleton.mp member
  exact each

theorem Holds.append {chip : Chip} (left : chip.Holds bytes ranges)
    (right : chip.Holds bytes more) : chip.Holds bytes (ranges ++ more) :=
  List.forall_mem_append.mpr ⟨left, right⟩

theorem Holds.mono {chip : Chip} (holds : chip.Holds bytes more)
    (larger : ∀ range ∈ ranges, range ∈ more) : chip.Holds bytes ranges :=
  fun range member => holds range (larger range member)

theorem SameOutside.mono (same : SameOutside ranges first second)
    (larger : ∀ range ∈ ranges, range ∈ more) :
    SameOutside more first second where
  bits address position within apart := by
    apply same.bits address position within
    rintro ⟨range, member, has⟩
    exact apart ⟨range, larger range member, has⟩
  others := same.others

/-- What is outside of the ranges and what is in them leave no choice. -/
theorem eq_of_holds (left : SameOutside ranges origin first)
    (right : SameOutside ranges origin second)
    (holdsLeft : first.Holds bytes ranges)
    (holdsRight : second.Holds bytes ranges) :
    first = second := by
  apply ext_register
  · intro address
    apply eq_of_bit
    intro position within
    by_cases covered : Covered ranges address position
    · obtain ⟨range, member, here, above, below⟩ := covered
      subst here
      rw [holdsLeft range member position within above below,
        holdsRight range member position within above below]
    · rw [left.bits address position within covered,
        right.bits address position within covered]
  · have same := left.others.trans right.others.symm
    simp only [mk.injEq, true_and] at same
    obtain ⟨fifo, completes, doneAt, reads⟩ := same
    simp [fifo, completes, doneAt, reads]

end Chip

@[simp] theorem Chip.register_update (chip : Chip) (name other : RegisterName)
    (change : UInt8 → UInt8) :
    (chip.update name change).register other.address =
      if name = other then change (chip.register name.address)
      else chip.register other.address := by
  simp [update]

namespace Setting

theorem bit_putLowDataRate (known : Configuration) (chip : Chip)
    {position : Nat} (above : 3 ≤ position) (below : position < 3 + 1) :
    bit position ((chip.putLowDataRate
        (slowSymbols known.spreadingFactor known.bandwidth)).register
          RegisterName.modemConfig3.address) =
      bit position (known.byte .modemConfig3) := by
  obtain rfl : position = 3 := by omega
  simp [Chip.putLowDataRate, Configuration.byte, ModemConfig3.bit_lowDataRate]

theorem holds_program (setting : Setting) (known : Configuration)
    (chip : Chip) :
    (setting.program known chip).Holds known.byte setting.ranges := by
  cases setting with
  | frequency hz =>
      simp [Chip.Holds, ranges, BitRange.whole, program, Chip.putCarrier,
        Configuration.byte]
  | power dbm amplifier =>
      simp [Chip.Holds, ranges, BitRange.whole, program, Chip.putPower,
        Configuration.byte]
  | spreadingFactor factor =>
      have detected :
          ((spreadingFactor factor).program known chip).Holds known.byte
          [.whole .detectionOptimize, .whole .detectionThreshold] := by
        simp [Chip.Holds, BitRange.whole, program, Chip.putLowDataRate,
          Chip.putFactor, Chip.putDetection, Configuration.byte]
      have spread :
          ((spreadingFactor factor).program known chip).Holds known.byte
          [⟨.modemConfig2, 4, 4⟩] := by
        refine .single fun position _ above below => ?_
        simp only [program, Chip.putLowDataRate, Chip.putFactor,
          Chip.register_update, reduceCtorEq, if_false, if_true,
          Configuration.byte]
        rw [ModemConfig2.bit_spreadingFactor above below,
          ModemConfig2.bit_spreadingFactor above below]
      exact detected.append
        (spread.append (.single fun _ _ => bit_putLowDataRate known _))
  | bandwidth hz =>
      have tuned :
          ((bandwidth hz).program known chip).Holds known.byte
            [⟨.modemConfig1, 4, 4⟩] := by
        refine .single fun position _ above below => ?_
        simp only [program, Chip.putLowDataRate, Chip.putBandwidth,
          Chip.register_update, reduceCtorEq, if_false, if_true,
          Configuration.byte]
        rw [ModemConfig1.bit_bandwidth above below,
          ModemConfig1.bit_bandwidth above below]
      exact tuned.append (.single fun _ _ => bit_putLowDataRate known _)
  | codingRate denominator =>
      refine .single fun position _ above below => ?_
      simp only [program, Chip.putCodingRate, Chip.register_update, if_true,
        Configuration.byte]
      rw [ModemConfig1.bit_codingRate above below,
        ModemConfig1.bit_codingRate above below]
  | preambleLength symbols =>
      simp [Chip.Holds, ranges, BitRange.whole, program, Chip.putPreambleLength,
        Configuration.byte]
  | syncWord word =>
      simp [Chip.Holds, ranges, BitRange.whole, program, Configuration.byte]
  | checksum enabled =>
      refine .single fun position _ above below => ?_
      obtain rfl : position = 2 := by
        dsimp only at above below
        omega
      simp [program, Chip.putChecksum, Configuration.byte,
        ModemConfig2.bit_checksum]
  | polling wait => simp [Chip.Holds, ranges]

theorem program_congr (setting : Setting) (known : Configuration)
    {first second : Chip} (same : first.SameOutside setting.ranges second) :
    setting.program known second = setting.program known first :=
  Chip.eq_of_holds (same.trans (setting.sameOutside_program known second))
    (setting.sameOutside_program known first)
      (setting.holds_program known second)
    (setting.holds_program known first)

theorem bit_byte_configure (setting : Setting) (known : Configuration)
    {name : RegisterName} {position : Nat} (within : position < 8)
    (apart : ¬Covered setting.ranges name.address position) :
    bit position ((setting.configure known).byte name) =
      bit position (known.byte name) := by
  have outside (range : BitRange) (owned : range ∈ setting.ranges)
      (here : range.name = name) :
      ¬(range.low ≤ position ∧ position < range.low + range.size) :=
    fun has => apart ⟨range, owned, congrArg RegisterName.address here, has⟩
  have nowhere (owned : .whole name ∈ setting.ranges) : False :=
    apart (covered_whole owned within)
  cases setting with
  | frequency hz =>
      cases name with
      | frfMsb | frfMid | frfLsb => exact (nowhere (by simp [ranges])).elim
      | _ => rfl
  | power dbm amplifier =>
      cases name with
      | paConfig => exact (nowhere (by simp [ranges])).elim
      | _ => rfl
  | spreadingFactor factor =>
      cases name with
      | detectionOptimize | detectionThreshold =>
          exact (nowhere (by simp [ranges])).elim
      | modemConfig2 =>
          have low : ¬(4 ≤ position ∧ position < 8) :=
            outside ⟨.modemConfig2, 4, 4⟩ (by simp [ranges]) rfl
          simp [configure, Configuration.byte, ModemConfig2.bit_toByte, low]
      | modemConfig3 =>
          have other : ¬(3 ≤ position ∧ position < 3 + 1) :=
            outside ⟨.modemConfig3, 3, 1⟩ (by simp [ranges]) rfl
          have differ : ¬3 = position := by omega
          simp [configure, Configuration.byte, ModemConfig3.bit_toByte, differ]
      | _ => rfl
  | bandwidth hz =>
      cases name with
      | modemConfig1 =>
          have low : ¬(4 ≤ position ∧ position < 8) :=
            outside ⟨.modemConfig1, 4, 4⟩ (by simp [ranges]) rfl
          simp [configure, Configuration.byte, ModemConfig1.bit_toByte, low]
      | modemConfig3 =>
          have other : ¬(3 ≤ position ∧ position < 3 + 1) :=
            outside ⟨.modemConfig3, 3, 1⟩ (by simp [ranges]) rfl
          have differ : ¬3 = position := by omega
          simp [configure, Configuration.byte, ModemConfig3.bit_toByte, differ]
      | _ => rfl
  | codingRate denominator =>
      cases name with
      | modemConfig1 =>
          have other : ¬(1 ≤ position ∧ position < 4) :=
            outside ⟨.modemConfig1, 1, 3⟩ (by simp [ranges]) rfl
          simp [configure, Configuration.byte, ModemConfig1.bit_toByte, other]
      | _ => rfl
  | preambleLength symbols =>
      cases name with
      | preambleMsb | preambleLsb => exact (nowhere (by simp [ranges])).elim
      | _ => rfl
  | syncWord word =>
      cases name with
      | syncWord => exact (nowhere (by simp [ranges])).elim
      | _ => rfl
  | checksum enabled =>
      cases name with
      | modemConfig2 =>
          have other : ¬(2 ≤ position ∧ position < 2 + 1) :=
            outside ⟨.modemConfig2, 2, 1⟩ (by simp [ranges]) rfl
          have differ : ¬2 = position := by omega
          simp [configure, Configuration.byte, ModemConfig2.bit_toByte, differ]
      | _ => rfl
  | polling wait => cases name <;> rfl

end Setting

/-! ## Startup -/

namespace Radio

theorem holds_putDefaults (known : Configuration) (first second : Chip) :
    (second.putDefaults known).Holds
      (fun name => (first.putDefaults known).register name.address)
        startupRanges := by
  have boosted (position : Nat) (below : position < 0 + 2) :
      bit position
          ((second.putDefaults known).register RegisterName.lna.address) =
        bit position
          ((first.putDefaults known).register RegisterName.lna.address) := by
    rw [Nat.zero_add] at below
    simp [Chip.putDefaults, Chip.putPower, Chip.boostHigh,
      LowNoiseAmplifier.bit_boostHigh below]
  simp only [Chip.Holds, startupRanges, List.forall_mem_cons]
  refine ⟨?_, ?_, ?_, ?_, ?_, fun position _ _ => boosted position, ?_, ?_,
    ?_, by simp⟩
  -- All other registers are written as a whole.
  all_goals
    simp [BitRange.whole, Chip.putDefaults, Chip.putPower, Chip.boostHigh,
      Chip.putCarrier]

theorem putDefaults_congr (known : Configuration) {first second : Chip}
    (same : first.SameOutside startupRanges second) :
    second.putDefaults known = first.putDefaults known :=
  Chip.eq_of_holds (same.trans (sameOutside_putDefaults second known))
    (sameOutside_putDefaults first known) (holds_putDefaults known first second)
    fun _ _ _ _ _ _ => rfl

end Radio

end LoraRadio
