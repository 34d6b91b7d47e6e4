import LoraRadio.Register.FrontEnd
import LoraRadio.Register.Modem
import LoraRadio.Register.Reception

/-!
# Bytes of registers as numbers

A byte made of bit fields is a sum of multiples, and a field read from a byte is
a quotient with a remainder.  Read, change and write of a register is arithmetic
on these numbers.  A field with a sign is a remainder around zero.
-/

namespace LoraRadio

theorem toNat_place_mul {low size : Nat} (within : low + size ≤ 8)
    (value : UInt8) :
    (place low size value).toNat = 1 <<< low * (value.toNat % 1 <<< size) := by
  rw [toNat_place within, Nat.shiftLeft_eq, Nat.one_shiftLeft low, Nat.mul_comm]

theorem toNat_flag_mul {position : Nat} (within : position < 8) (on : Bool) :
    (flag position on).toNat = 1 <<< position * on.toNat := by
  rw [toNat_flag within]
  cases on <;> simp

theorem toNat_bit (position : Nat) (byte : UInt8) :
    (bit position byte).toNat = byte.toNat / 1 <<< position % 2 := by
  rw [bit, Nat.shiftRight_eq_div_pow, Nat.one_shiftLeft]
  have parity := Nat.mod_two_eq_zero_or_one (byte.toNat / 2 ^ position)
  rcases parity with even | odd
  · simp [even]
  · simp [odd]

theorem bit_eq_testBit (position : Nat) (byte : UInt8) :
    bit position byte = byte.toNat.testBit position := by
  rw [bit, Nat.testBit_eq_decide_div_mod_eq, Nat.shiftRight_eq_div_pow]

theorem bit_or (position : Nat) (first second : UInt8) :
    bit position (first ||| second) =
      (bit position first || bit position second) := by
  simp [bit_eq_testBit]

theorem bit_and (position : Nat) (first second : UInt8) :
    bit position (first &&& second) =
      (bit position first && bit position second) := by
  simp [bit_eq_testBit]

theorem or_and_not (bits mask : UInt8) :
    (bits ||| mask) &&& ~~~mask = bits &&& ~~~mask := by
  apply UInt8.toBitVec_inj.mp
  ext index bound
  simp only [UInt8.toBitVec_and, UInt8.toBitVec_or, UInt8.toBitVec_not,
    BitVec.getElem_and, BitVec.getElem_or, BitVec.getElem_not]
  cases bits.toBitVec[index] <;> cases mask.toBitVec[index] <;> rfl

theorem toNat_field_div (low size : Nat) (byte : UInt8) :
    (field low size byte).toNat = byte.toNat / 1 <<< low % 1 <<< size := by
  rw [toNat_field, Nat.shiftRight_eq_div_pow, Nat.one_shiftLeft low]

namespace ModemConfig1

theorem toNat_toByte (register : ModemConfig1) :
    register.toByte.toNat = 16 * (register.bandwidth.toNat % 16)
      + 2 * (register.codingRate.toNat % 8)
        + register.implicitHeader.toNat := by
  have header := Bool.toNat_le register.implicitHeader
  simp [toByte, UInt8.toNat_add, toNat_place_mul, toNat_flag_mul]
  omega

theorem toNat_bandwidth_ofByte (byte : UInt8) :
    (ofByte byte).bandwidth.toNat = byte.toNat / 16 := by
  have bound := byte.toNat_lt
  simp [ofByte, toNat_field_div]
  omega

theorem toNat_codingRate_ofByte (byte : UInt8) :
    (ofByte byte).codingRate.toNat = byte.toNat / 2 % 8 := by
  simp [ofByte, toNat_field_div]

theorem toNat_implicitHeader_ofByte (byte : UInt8) :
    (ofByte byte).implicitHeader.toNat = byte.toNat % 2 := by
  simp [ofByte, toNat_bit]

/-! The next three say that a change of one field leaves the other two as they
were. -/

theorem toNat_withBandwidth {byte index : UInt8} {bandwidth rate header : Nat}
    (fields : byte.toNat = 16 * bandwidth + 2 * rate + header)
    (rateFits : rate ≤ 7) (headerFits : header ≤ 1) (fits : index.toNat ≤ 15) :
    (toByte { ofByte byte with bandwidth := index }).toNat =
      16 * index.toNat + 2 * rate + header := by
  simp only [toNat_toByte, toNat_codingRate_ofByte,
    toNat_implicitHeader_ofByte, fields]
  omega

theorem toNat_withCodingRate {byte : UInt8} {bandwidth rate header : Nat}
    (code : UInt8) (fields : byte.toNat = 16 * bandwidth + 2 * rate + header)
    (rateFits : rate ≤ 7) (headerFits : header ≤ 1) (fits : code.toNat ≤ 7) :
    (toByte { ofByte byte with codingRate := code }).toNat =
      16 * bandwidth + 2 * code.toNat + header := by
  have bound := byte.toNat_lt
  simp only [toNat_toByte, toNat_bandwidth_ofByte,
    toNat_implicitHeader_ofByte, fields]
  omega

theorem toNat_withHeader {byte : UInt8} {bandwidth rate header : Nat}
    (implicit : Bool) (fields : byte.toNat = 16 * bandwidth + 2 * rate + header)
    (headerFits : header ≤ 1) :
    (toByte { ofByte byte with implicitHeader := implicit }).toNat =
      16 * bandwidth + 2 * rate + implicit.toNat := by
  have bound := byte.toNat_lt
  simp only [toNat_toByte, toNat_bandwidth_ofByte,
    toNat_codingRate_ofByte, fields]
  omega

end ModemConfig1

namespace ModemConfig2

theorem toNat_toByte (register : ModemConfig2) :
    register.toByte.toNat = 16 * (register.spreadingFactor.toNat % 16)
      + 8 * register.continuousTransmit.toNat + 4 * register.checksum.toNat
      + register.symbolTimeoutHigh.toNat % 4 := by
  have continuous := Bool.toNat_le register.continuousTransmit
  have checksum := Bool.toNat_le register.checksum
  simp [toByte, UInt8.toNat_add, toNat_place_mul, toNat_flag_mul]
  omega

theorem toNat_spreadingFactor_ofByte (byte : UInt8) :
    (ofByte byte).spreadingFactor.toNat = byte.toNat / 16 := by
  have bound := byte.toNat_lt
  simp [ofByte, toNat_field_div]
  omega

theorem toNat_continuousTransmit_ofByte (byte : UInt8) :
    (ofByte byte).continuousTransmit.toNat = byte.toNat / 8 % 2 := by
  simp [ofByte, toNat_bit]

theorem toNat_checksum_ofByte (byte : UInt8) :
    (ofByte byte).checksum.toNat = byte.toNat / 4 % 2 := by
  simp [ofByte, toNat_bit]

theorem toNat_symbolTimeoutHigh_ofByte (byte : UInt8) :
    (ofByte byte).symbolTimeoutHigh.toNat = byte.toNat % 4 := by
  simp [ofByte, toNat_field_div]

theorem toNat_withFactor {byte new : UInt8} {factor rest : Nat}
    (fields : byte.toNat = 16 * factor + rest) (restFits : rest ≤ 15)
    (fits : new.toNat ≤ 15) :
    (toByte { ofByte byte with spreadingFactor := new }).toNat =
      16 * new.toNat + rest := by
  simp only [toNat_toByte, toNat_continuousTransmit_ofByte,
    toNat_checksum_ofByte, toNat_symbolTimeoutHigh_ofByte, fields]
  omega

theorem toNat_withChecksum {byte : UInt8} {factor : Nat} {old : Bool}
    (new : Bool) (fields : byte.toNat = 16 * factor + 4 * old.toNat) :
    (toByte { ofByte byte with checksum := new }).toNat =
      16 * factor + 4 * new.toNat := by
  have bound := byte.toNat_lt
  have wasFlag := Bool.toNat_le old
  simp only [toNat_toByte, toNat_spreadingFactor_ofByte,
    toNat_continuousTransmit_ofByte, toNat_symbolTimeoutHigh_ofByte, fields]
  omega

end ModemConfig2

namespace ModemConfig3

theorem toNat_reservedBits (byte : UInt8) :
    (reservedBits byte).toNat = 16 * (byte.toNat / 16) + byte.toNat % 4 := by
  have bound := byte.toNat_lt
  simp [reservedBits, UInt8.toNat_add, toNat_place_mul, toNat_field_div]
  omega

theorem toNat_toByte (register : ModemConfig3) :
    register.toByte.toNat = 16 * (register.reserved.toNat / 16)
      + 8 * register.lowDataRate.toNat + 4 * register.automaticGain.toNat
      + register.reserved.toNat % 4 := by
  have optimized := Bool.toNat_le register.lowDataRate
  have gain := Bool.toNat_le register.automaticGain
  have bound := register.reserved.toNat_lt
  simp [toByte, UInt8.toNat_add, toNat_flag_mul, toNat_reservedBits]
  omega

theorem toNat_automaticGain_ofByte (byte : UInt8) :
    (ofByte byte).automaticGain.toNat = byte.toNat / 4 % 2 := by
  simp [ofByte, toNat_bit]

theorem toNat_reserved_ofByte (byte : UInt8) :
    (ofByte byte).reserved.toNat = 16 * (byte.toNat / 16) + byte.toNat % 4 :=
  toNat_reservedBits byte

end ModemConfig3

/-! ## The carrier offset -/

theorem toNat_append_byte {size : Nat} (high : BitVec size) (low : UInt8) :
    (high ++ low.toBitVec).toNat = high.toNat * 256 + low.toNat := by
  rw [BitVec.toNat_append, ← Nat.shiftLeft_add_eq_or_of_lt low.toBitVec.isLt,
    Nat.shiftLeft_eq]
  rfl

/-- Moving the lower 20 bits to the top and back extends their sign. -/
theorem toInt_shift_back (raw : UInt32) :
    ((raw <<< 12).toInt32 >>> 12).toInt = Int.bmod raw.toNat 1048576 := by
  have top : (raw <<< 12).toInt32.toInt =
      Int.bmod (raw.toNat * 4096) 4294967296 := by
    change (raw.toBitVec <<< 12).toInt = _
    rw [BitVec.toInt_shiftLeft, Nat.shiftLeft_eq]
    rfl
  have back : ((raw <<< 12).toInt32 >>> 12).toInt =
      (raw <<< 12).toInt32.toInt / 4096 := by
    change ((raw <<< 12).toInt32.toBitVec.sshiftRight 12).toInt = _
    rw [BitVec.toInt_sshiftRight, Int.shiftRight_eq_div_pow]
    rfl
  rw [back, top, Int.bmod_def, Int.bmod_def]
  split <;> split <;> omega

namespace CarrierOffset

/-- The number of 20 bits that is left of three bytes, with its sign. -/
theorem value_ofBytes (high middle low : UInt8) :
    (ofBytes #v[high, middle, low]).value =
      (high.toBitVec.setWidth 4 ++ middle.toBitVec ++ low.toBitVec).toInt := by
  have half : (high &&& 0x0F).toNat = high.toNat % 16 := by
    rw [UInt8.toNat_and]
    exact Nat.and_two_pow_sub_one_eq_mod _ 4
  have number : bigEndian #v[0, high &&& 0x0F, middle, low] =
      (high.toNat % 16 * 256 + middle.toNat) * 256 + low.toNat := by
    simp [bigEndian, half]
  have fits : bigEndian #v[0, high &&& 0x0F, middle, low] < 4294967296 := by
    have small := middle.toNat_lt
    have last := low.toNat_lt
    omega
  change
    ((UInt32.ofNat (bigEndian #v[0, high &&& 0x0F, middle, low]) <<< 12).toInt32
      >>> 12).toInt = _
  rw [toInt_shift_back, UInt32.toNat_ofNat_of_lt' fits, number,
    BitVec.toInt_eq_toNat_bmod, toNat_append_byte, toNat_append_byte,
    BitVec.toNat_setWidth, UInt8.toNat_toBitVec]

theorem bounds_ofBytes (bytes : Vector UInt8 3) :
    -524288 ≤ (ofBytes bytes).value ∧ (ofBytes bytes).value < 524288 := by
  rw [value, ofBytes, toInt_shift_back]
  exact ⟨Int.le_bmod (by decide), Int.bmod_lt (by decide)⟩

end CarrierOffset

end LoraRadio
