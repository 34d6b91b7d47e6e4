import LoraRadio.Proofs.Codec

/-!
# Bits of a byte made of fields

Fields at different places of a byte have no bit in common, so a sum of them is
made bit by bit, and each bit of a register comes from the one field that it
lies in.
-/

namespace LoraRadio

variable {first second : UInt8}

theorem bit_of_le {position : Nat} (past : 8 ≤ position) (byte : UInt8) :
    bit position byte = false := by
  rw [bit_eq_testBit]
  apply Nat.testBit_lt_two_pow
  exact Nat.lt_of_lt_of_le byte.toNat_lt (Nat.pow_le_pow_right (by decide) past)

theorem eq_of_bit
    (same : ∀ position < 8, bit position first = bit position second) :
    first = second := by
  apply UInt8.toNat_inj.mp
  apply Nat.eq_of_testBit_eq
  intro position
  rw [← bit_eq_testBit, ← bit_eq_testBit]
  by_cases within : position < 8
  · exact same position within
  · rw [bit_of_le (by omega), bit_of_le (by omega)]

theorem bit_place {low size : Nat} (within : low + size ≤ 8) (position : Nat)
    (value : UInt8) :
    bit position (place low size value) =
      (decide (low ≤ position ∧ position < low + size) &&
        bit (position - low) value) := by
  rw [bit_eq_testBit, toNat_place within, Nat.testBit_shiftLeft,
    Nat.one_shiftLeft, Nat.testBit_mod_two_pow, ← bit_eq_testBit]
  by_cases above : low ≤ position
  · have same : position - low < size ↔ position < low + size := by omega
    simp [above, same]
  · simp [above]

theorem bit_place_zero {size : Nat} (within : size ≤ 8) (position : Nat)
    (value : UInt8) :
    bit position (place 0 size value) =
      (decide (position < size) && bit position value) := by
  rw [bit_place (by omega)]
  simp

theorem bit_field (low size position : Nat) (byte : UInt8) :
    bit position (field low size byte) =
      (decide (position < size) && bit (low + position) byte) := by
  rw [bit_eq_testBit, toNat_field, Nat.one_shiftLeft, Nat.testBit_mod_two_pow,
    Nat.testBit_shiftRight, ← bit_eq_testBit]

theorem bit_flag {place : Nat} (within : place < 8) (position : Nat)
    (on : Bool) :
    bit position (flag place on) = (decide (place = position) && on) := by
  rw [bit_eq_testBit, toNat_flag within]
  cases on <;> simp [Nat.one_shiftLeft, Nat.testBit_two_pow]

theorem bit_add
    (apart : ∀ position, (bit position first && bit position second) = false)
    (position : Nat) :
    bit position (first + second) =
      (bit position first || bit position second) := by
  have none : first &&& second = 0 := by
    apply eq_of_bit
    intro position _
    rw [bit_and, apart]
    simp [bit]
  have sum : first + second = first ||| second := by
    apply UInt8.toBitVec_inj.mp
    rw [UInt8.toBitVec_add, UInt8.toBitVec_or]
    apply BitVec.add_eq_or_of_and_eq_zero
    rw [← UInt8.toBitVec_and, none]
    rfl
  rw [sum, bit_or]

/-! ## Registers -/

namespace ModemConfig1

theorem bit_toByte (register : ModemConfig1) (position : Nat) :
    bit position register.toByte =
      (decide (4 ≤ position ∧ position < 8) &&
          bit (position - 4) register.bandwidth ||
        decide (1 ≤ position ∧ position < 4) &&
        bit (position - 1) register.codingRate ||
        decide (0 = position) && register.implicitHeader) := by
  have high := bit_place (show 4 + 4 ≤ 8 by decide)
  have middle := bit_place (show 1 + 3 ≤ 8 by decide)
  have low := bit_flag (show 0 < 8 by decide)
  rw [toByte, bit_add, bit_add, high, middle, low]
  · intro position
    grind
  · intro position
    grind [bit_add]

theorem toByte_ofByte (byte : UInt8) : (ofByte byte).toByte = byte := by
  apply UInt8.toNat_inj.mp
  rw [toNat_toByte, toNat_bandwidth_ofByte, toNat_codingRate_ofByte,
    toNat_implicitHeader_ofByte]
  have bound := byte.toNat_lt
  omega

/-! A bit inside of a field comes from the field alone, and a new value of a
field changes no bit outside of it. -/

theorem bit_bandwidth {position : Nat} (above : 4 ≤ position)
    (below : position < 8) (register : ModemConfig1) :
    bit position register.toByte = bit (position - 4) register.bandwidth := by
  have noRate : ¬position < 4 := by omega
  have noHeader : ¬0 = position := by omega
  simp [bit_toByte, above, below, noRate, noHeader]

theorem bit_codingRate {position : Nat} (above : 1 ≤ position)
    (below : position < 4) (register : ModemConfig1) :
    bit position register.toByte = bit (position - 1) register.codingRate := by
  have noBandwidth : ¬4 ≤ position := by omega
  have noHeader : ¬0 = position := by omega
  simp [bit_toByte, above, below, noBandwidth, noHeader]

theorem bit_withBandwidth {position : Nat}
    (apart : ¬(4 ≤ position ∧ position < 8)) (byte index : UInt8) :
    bit position (toByte { ofByte byte with bandwidth := index }) =
      bit position byte := by
  have back := congrArg (bit position) (toByte_ofByte byte)
  rw [bit_toByte] at back ⊢
  simpa [apart] using back

theorem bit_withCodingRate {position : Nat}
    (apart : ¬(1 ≤ position ∧ position < 4)) (byte code : UInt8) :
    bit position (toByte { ofByte byte with codingRate := code }) =
      bit position byte := by
  have back := congrArg (bit position) (toByte_ofByte byte)
  rw [bit_toByte] at back ⊢
  simpa [apart] using back

end ModemConfig1

namespace ModemConfig2

theorem bit_toByte (register : ModemConfig2) (position : Nat) :
    bit position register.toByte =
      (decide (4 ≤ position ∧ position < 8) &&
          bit (position - 4) register.spreadingFactor ||
        decide (3 = position) && register.continuousTransmit ||
        decide (2 = position) && register.checksum ||
        decide (position < 2) && bit position register.symbolTimeoutHigh) := by
  have high := bit_place (show 4 + 4 ≤ 8 by decide)
  have third := bit_flag (show 3 < 8 by decide)
  have second := bit_flag (show 2 < 8 by decide)
  have low := bit_place_zero (show 2 ≤ 8 by decide)
  rw [toByte, bit_add, bit_add, bit_add, high, third, second, low]
  · intro position
    grind
  · intro position
    grind [bit_add]
  · intro position
    grind [bit_add]

theorem toByte_ofByte (byte : UInt8) : (ofByte byte).toByte = byte := by
  apply UInt8.toNat_inj.mp
  rw [toNat_toByte, toNat_spreadingFactor_ofByte,
    toNat_continuousTransmit_ofByte, toNat_checksum_ofByte,
    toNat_symbolTimeoutHigh_ofByte]
  have bound := byte.toNat_lt
  omega

theorem bit_spreadingFactor {position : Nat} (above : 4 ≤ position)
    (below : position < 8) (register : ModemConfig2) :
    bit position register.toByte =
      bit (position - 4) register.spreadingFactor := by
  have noContinuous : ¬3 = position := by omega
  have noChecksum : ¬2 = position := by omega
  have noTimeout : ¬position < 2 := by omega
  simp [bit_toByte, above, below, noContinuous, noChecksum, noTimeout]

theorem bit_checksum (register : ModemConfig2) :
    bit 2 register.toByte = register.checksum := by
  simp [bit_toByte]

theorem bit_withFactor {position : Nat} (apart : ¬(4 ≤ position ∧ position < 8))
    (byte factor : UInt8) :
    bit position (toByte { ofByte byte with spreadingFactor := factor }) =
      bit position byte := by
  have back := congrArg (bit position) (toByte_ofByte byte)
  rw [bit_toByte] at back ⊢
  simpa [apart] using back

theorem bit_withChecksum {position : Nat} (apart : 2 ≠ position) (byte : UInt8)
    (enabled : Bool) :
    bit position (toByte { ofByte byte with checksum := enabled }) =
      bit position byte := by
  have back := congrArg (bit position) (toByte_ofByte byte)
  rw [bit_toByte] at back ⊢
  simpa [apart] using back

end ModemConfig2

namespace ModemConfig3

theorem bit_reservedBits (byte : UInt8) (position : Nat) :
    bit position (reservedBits byte) =
      (decide (position ≠ 2 ∧ position ≠ 3) && bit position byte) := by
  have high := bit_place (show 4 + 4 ≤ 8 by decide)
  have past := @bit_of_le position
  rw [reservedBits, bit_add]
  · grind [bit_field]
  · intro position
    grind [bit_field]

theorem bit_toByte (register : ModemConfig3) (position : Nat) :
    bit position register.toByte =
      (decide (3 = position) && register.lowDataRate ||
        decide (2 = position) && register.automaticGain ||
        decide (position ≠ 2 ∧ position ≠ 3) &&
          bit position register.reserved) := by
  have third := bit_flag (show 3 < 8 by decide)
  have second := bit_flag (show 2 < 8 by decide)
  rw [toByte, bit_add, bit_add, third, second, bit_reservedBits]
  · intro position
    grind
  · intro position
    grind [bit_add, bit_reservedBits]

theorem toByte_ofByte (byte : UInt8) : (ofByte byte).toByte = byte := by
  apply eq_of_bit
  intro position _
  simp only [bit_toByte, ofByte, bit_reservedBits]
  grind

theorem bit_lowDataRate (register : ModemConfig3) :
    bit 3 register.toByte = register.lowDataRate := by
  simp [bit_toByte]

theorem bit_withLowDataRate {position : Nat} (apart : 3 ≠ position)
    (byte : UInt8) (enabled : Bool) :
    bit position (toByte { ofByte byte with lowDataRate := enabled }) =
      bit position byte := by
  have back := congrArg (bit position) (toByte_ofByte byte)
  rw [bit_toByte] at back ⊢
  simpa [apart] using back

end ModemConfig3

namespace LowNoiseAmplifier

theorem bit_reservedBit (byte : UInt8) (position : Nat) :
    bit position (reservedBit byte) =
      (decide (position = 2) && bit position byte) := by
  have middle := bit_place (show 2 + 1 ≤ 8 by decide)
  rw [reservedBit, middle, bit_field]
  grind

theorem bit_toByte (register : LowNoiseAmplifier) (position : Nat) :
    bit position register.toByte =
      (decide (5 ≤ position ∧ position < 8) &&
          bit (position - 5) register.gain ||
        decide (3 ≤ position ∧ position < 5) &&
        bit (position - 3) register.boostLow ||
        decide (position < 2) && bit position register.boostHigh ||
        decide (position = 2) && bit position register.reserved) := by
  have high := bit_place (show 5 + 3 ≤ 8 by decide)
  have middle := bit_place (show 3 + 2 ≤ 8 by decide)
  have low := bit_place_zero (show 2 ≤ 8 by decide)
  rw [toByte, bit_add, bit_add, bit_add, high, middle, low, bit_reservedBit]
  · intro position
    grind
  · intro position
    grind [bit_add]
  · intro position
    grind [bit_add, bit_reservedBit]

theorem toByte_ofByte (byte : UInt8) : (ofByte byte).toByte = byte := by
  apply eq_of_bit
  intro position within
  simp only [bit_toByte, ofByte, bit_field, bit_reservedBit]
  grind

theorem bit_boostHigh {position : Nat} (below : position < 2)
    (register : LowNoiseAmplifier) :
    bit position register.toByte = bit position register.boostHigh := by
  have noGain : ¬5 ≤ position := by omega
  have noBoostLow : ¬3 ≤ position := by omega
  have noReserved : ¬position = 2 := by omega
  simp [bit_toByte, below, noGain, noBoostLow, noReserved]

theorem bit_withBoostHigh {position : Nat} (apart : ¬position < 2)
    (byte boost : UInt8) :
    bit position (toByte { ofByte byte with boostHigh := boost }) =
      bit position byte := by
  have back := congrArg (bit position) (toByte_ofByte byte)
  rw [bit_toByte] at back ⊢
  simpa [apart] using back

end LowNoiseAmplifier

end LoraRadio
