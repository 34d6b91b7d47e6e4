import LoraRadio.Proofs.Bits
import LoraRadio.Register.Interrupt
import LoraRadio.Register.Number
import LoraRadio.Register.OperatingMode

/-!
# The layout of each register

A register is laid out as parts: neighbouring bits that hold one number each.
Its bytes have every part in its place, cut to its size, and reading them gives
back what was written but for that cut.  In the other direction bytes that are
read and written back stay the same.  There are two exceptions.  The operating
mode has three bits that belong to no part, and these are written as zero.  The
two detection registers have a byte for each of their values and refuse all
others.
-/

namespace LoraRadio

variable {ρ : Type}

/-- Neighbouring bits of the number that the bytes of a register stand for, and
what they hold. -/
structure Part (ρ : Type) where
  low : Nat
  size : Nat
  value : ρ → Nat

abbrev Layout (ρ : Type) := List (Part ρ)

namespace Layout

/-- The number with every part in its place, cut to its size, and no bit outside
of the parts. -/
def number (register : ρ) : Layout ρ → Nat
  | [] => 0
  | part :: rest =>
      part.value register % 1 <<< part.size * 1 <<< part.low
        + number register rest

def Apart : Nat → Layout ρ → Prop
  | _, [] => True
  | top, part :: rest => part.low + part.size ≤ top ∧ Apart part.low rest

/-- The bytes of a register have its layout.  What is written and read back is
cut to the parts, and of what is read and written back each byte keeps some
bits. -/
structure Exact [EncodableRegister ρ] (layout : Layout ρ) (cut : ρ → ρ)
    (keep : UInt8 → UInt8) :
    Prop where
  apart : layout.Apart (8 * Register.width ρ)
  placed : ∀ register : ρ,
    bigEndian (EncodableRegister.encode register) = layout.number register
  decode_encode : ∀ register : ρ,
    Register.decode (EncodableRegister.encode register) = .ok (cut register)
  encode_decode : ∀ bytes, ∃ register : ρ,
    Register.decode bytes = .ok register ∧ EncodableRegister.encode register =
      bytes.map keep

end Layout

/-- The register has one of the codes for each of its values, and reports every
other byte. -/
structure Enumerated (ρ : Type) [EncodableRegister ρ] (codes : List UInt8) :
    Prop where
  mem_codes : ∀ code, code ∈ codes ↔ ∃ register : ρ,
    (EncodableRegister.encode register).toList = [code]
  decode_eq_ok : ∀ (bytes : Vector UInt8 (Register.width ρ)) (register : ρ),
    Register.decode bytes = .ok register ↔
      bytes = EncodableRegister.encode register
  decode_other : ∀ bytes : Vector UInt8 (Register.width ρ), ∀ byte ∉ codes,
    bytes.toList = [byte] →
    (Register.decode bytes : Except InvalidByte ρ) = .error ⟨byte⟩

/-! ## Bytes -/

theorem exists_single (bytes : Vector UInt8 1) : ∃ byte, bytes = #v[byte] := by
  refine ⟨single bytes, ?_⟩
  ext index within
  obtain rfl : index = 0 := by omega
  rfl

theorem bigEndian_single (byte : UInt8) : bigEndian #v[byte] = byte.toNat := by
  simp [bigEndian]

theorem Layout.exact_ofByte {name : RegisterName} {ofByte : UInt8 → ρ}
    {toByte : ρ → UInt8} {layout : Layout ρ} {cut : ρ → ρ}
    {keep : UInt8 → UInt8} (apart : layout.Apart 8)
    (placed : ∀ register, (toByte register).toNat = layout.number register)
    (back : ∀ register, ofByte (toByte register) = cut register)
    (again : ∀ byte, toByte (ofByte byte) = keep byte) :
    @Exact ρ (.ofByte name (fun byte => .ok (ofByte byte)) toByte) layout cut
      keep := by
  let _ : EncodableRegister ρ :=
    .ofByte name (fun byte => .ok (ofByte byte)) toByte
  refine ⟨apart, fun register => ?_, fun register => ?_, fun bytes => ?_⟩
  · exact (bigEndian_single _).trans (placed register)
  · exact congrArg Except.ok (back register)
  · obtain ⟨byte, rfl⟩ := exists_single bytes
    refine ⟨ofByte byte, rfl, ?_⟩
    change #v[toByte (ofByte byte)] = _
    simp [again]

theorem field_eq {low size : Nat} {byte value : UInt8}
    (same : byte.toNat / 1 <<< low % 1 <<< size = value.toNat) :
    field low size byte = value := by
  apply UInt8.toNat_inj.mp
  rw [toNat_field_div, same]

theorem bit_eq {position : Nat} {byte : UInt8} {on : Bool}
    (same : byte.toNat / 1 <<< position % 2 = on.toNat) :
    bit position byte = on := by
  rw [← toNat_bit] at same
  revert same
  cases bit position byte <;> cases on <;> simp

/-! ## The amplifiers -/

namespace AmplifierSetup

def layout : Layout AmplifierSetup :=
  [⟨7, 1, fun setup => (decide (setup.amplifier = .paBoost)).toNat⟩,
    ⟨4, 3, fun setup => setup.maxPower.toNat⟩,
    ⟨0, 4, fun setup => setup.outputPower.toNat⟩]

theorem toNat_toByte (setup : AmplifierSetup) :
    setup.toByte.toNat = 128 * (decide (setup.amplifier = .paBoost)).toNat
      + 16 * (setup.maxPower.toNat % 8) + setup.outputPower.toNat % 16 := by
  have select := Bool.toNat_le (decide (setup.amplifier = .paBoost))
  simp [toByte, UInt8.toNat_add, toNat_place_mul, toNat_flag_mul]
  omega

theorem ofByte_toByte (setup : AmplifierSetup) :
    ofByte setup.toByte =
      ⟨setup.amplifier, setup.maxPower % 8, setup.outputPower % 16⟩ := by
  have select := Bool.toNat_le (decide (setup.amplifier = .paBoost))
  have selected : bit 7 setup.toByte = decide (setup.amplifier = .paBoost) := by
    apply bit_eq
    rw [toNat_toByte]
    simp
    omega
  rw [ofByte, mk.injEq]
  refine ⟨?_, field_eq ?_, field_eq ?_⟩
  · rw [selected]
    cases setup.amplifier <;> rfl
  all_goals
    rw [toNat_toByte]
    simp
    omega

theorem toByte_ofByte (byte : UInt8) : (ofByte byte).toByte = byte := by
  have bound := byte.toNat_lt
  have selected : decide ((ofByte byte).amplifier = .paBoost) = bit 7 byte := by
    cases bit : bit 7 byte <;> simp [ofByte, bit]
  apply UInt8.toNat_inj.mp
  rw [toNat_toByte, selected, toNat_bit]
  simp [ofByte, toNat_field_div]
  omega

theorem exact_layout : layout.Exact
    (fun setup => ⟨setup.amplifier, setup.maxPower % 8, setup.outputPower % 16⟩)
      id := by
  refine Layout.exact_ofByte ?_ (fun setup => ?_) ofByte_toByte toByte_ofByte
  · simp [layout, Layout.Apart]
  · have select := Bool.toNat_le (decide (setup.amplifier = .paBoost))
    rw [toNat_toByte]
    simp [layout, Layout.number]
    omega

end AmplifierSetup

namespace LowNoiseAmplifier

def layout : Layout LowNoiseAmplifier :=
  [⟨5, 3, fun lna => lna.gain.toNat⟩, ⟨3, 2, fun lna => lna.boostLow.toNat⟩,
    ⟨2, 1, fun lna => lna.reserved.toNat / 4⟩,
    ⟨0, 2, fun lna => lna.boostHigh.toNat⟩]

theorem toNat_reservedBit (byte : UInt8) :
    (reservedBit byte).toNat = 4 * (byte.toNat / 4 % 2) := by
  simp [reservedBit, toNat_place_mul, toNat_field_div]

theorem reservedBit_eq (byte : UInt8) : reservedBit byte = byte &&& 0x04 := by
  have mask : ∀ position < 8,
    bit position (0x04 : UInt8) = decide (position = 2) := by decide
  apply eq_of_bit
  intro position within
  rw [bit_reservedBit, bit_and, mask position within, Bool.and_comm]

theorem toNat_toByte (lna : LowNoiseAmplifier) :
    lna.toByte.toNat = 32 * (lna.gain.toNat % 8) + 8 * (lna.boostLow.toNat % 4)
      + 4 * (lna.reserved.toNat / 4 % 2) + lna.boostHigh.toNat % 4 := by
  simp [toByte, UInt8.toNat_add, toNat_place_mul, toNat_reservedBit]
  omega

theorem ofByte_toByte (lna : LowNoiseAmplifier) :
    ofByte lna.toByte =
      ⟨lna.gain % 8, lna.boostLow % 4, lna.boostHigh % 4,
        lna.reserved &&& 0x04⟩ := by
  rw [ofByte, mk.injEq, ← reservedBit_eq]
  refine ⟨field_eq ?_, field_eq ?_, field_eq ?_, UInt8.toNat_inj.mp ?_⟩
  case refine_4 =>
    rw [toNat_reservedBit, toNat_reservedBit, toNat_toByte]
    omega
  all_goals
    rw [toNat_toByte]
    simp
    omega

theorem exact_layout : layout.Exact
    (fun lna => ⟨lna.gain % 8, lna.boostLow % 4, lna.boostHigh % 4,
      lna.reserved &&& 0x04⟩) id := by
  refine Layout.exact_ofByte ?_ (fun lna => ?_) ofByte_toByte toByte_ofByte
  · simp [layout, Layout.Apart]
  · rw [toNat_toByte]
    simp [layout, Layout.number]
    omega

end LowNoiseAmplifier

/-! ## The modem -/

namespace ModemConfig1

def layout : Layout ModemConfig1 :=
  [⟨4, 4, fun modem => modem.bandwidth.toNat⟩,
    ⟨1, 3, fun modem => modem.codingRate.toNat⟩,
    ⟨0, 1, fun modem => modem.implicitHeader.toNat⟩]

theorem ofByte_toByte (modem : ModemConfig1) :
    ofByte modem.toByte =
      ⟨modem.bandwidth % 16, modem.codingRate % 8, modem.implicitHeader⟩ := by
  have header := Bool.toNat_le modem.implicitHeader
  rw [ofByte, mk.injEq]
  refine ⟨field_eq ?_, field_eq ?_, bit_eq ?_⟩
  all_goals
    rw [toNat_toByte]
    simp
    omega

theorem exact_layout : layout.Exact
    (fun modem => ⟨modem.bandwidth % 16, modem.codingRate % 8,
      modem.implicitHeader⟩) id := by
  refine Layout.exact_ofByte ?_ (fun modem => ?_) ofByte_toByte toByte_ofByte
  · simp [layout, Layout.Apart]
  · have header := Bool.toNat_le modem.implicitHeader
    rw [toNat_toByte]
    simp [layout, Layout.number]
    omega

end ModemConfig1

namespace ModemConfig2

def layout : Layout ModemConfig2 :=
  [⟨4, 4, fun modem => modem.spreadingFactor.toNat⟩,
    ⟨3, 1, fun modem => modem.continuousTransmit.toNat⟩,
    ⟨2, 1, fun modem => modem.checksum.toNat⟩,
    ⟨0, 2, fun modem => modem.symbolTimeoutHigh.toNat⟩]

theorem ofByte_toByte (modem : ModemConfig2) :
    ofByte modem.toByte =
      ⟨modem.spreadingFactor % 16, modem.continuousTransmit, modem.checksum,
        modem.symbolTimeoutHigh % 4⟩ := by
  have continuous := Bool.toNat_le modem.continuousTransmit
  have checksum := Bool.toNat_le modem.checksum
  rw [ofByte, mk.injEq]
  refine ⟨field_eq ?_, bit_eq ?_, bit_eq ?_, field_eq ?_⟩
  all_goals
    rw [toNat_toByte]
    simp
    omega

theorem exact_layout : layout.Exact
    (fun modem => ⟨modem.spreadingFactor % 16, modem.continuousTransmit,
        modem.checksum,
      modem.symbolTimeoutHigh % 4⟩) id := by
  refine Layout.exact_ofByte ?_ (fun modem => ?_) ofByte_toByte toByte_ofByte
  · simp [layout, Layout.Apart]
  · have continuous := Bool.toNat_le modem.continuousTransmit
    have checksum := Bool.toNat_le modem.checksum
    rw [toNat_toByte]
    simp [layout, Layout.number]
    omega

end ModemConfig2

namespace ModemConfig3

def layout : Layout ModemConfig3 :=
  [⟨4, 4, fun modem => modem.reserved.toNat / 16⟩,
    ⟨3, 1, fun modem => modem.lowDataRate.toNat⟩,
    ⟨2, 1, fun modem => modem.automaticGain.toNat⟩,
    ⟨0, 2, fun modem => modem.reserved.toNat⟩]

theorem reservedBits_eq (byte : UInt8) : reservedBits byte = byte &&& 0xF3 := by
  have mask : ∀ position < 8, bit position (0xF3 : UInt8) =
      decide (position ≠ 2 ∧ position ≠ 3) := by decide
  apply eq_of_bit
  intro position within
  rw [bit_reservedBits, bit_and, mask position within, Bool.and_comm]

theorem ofByte_toByte (modem : ModemConfig3) :
    ofByte modem.toByte =
      ⟨modem.lowDataRate, modem.automaticGain, modem.reserved &&& 0xF3⟩ := by
  have optimized := Bool.toNat_le modem.lowDataRate
  have gain := Bool.toNat_le modem.automaticGain
  have bound := modem.reserved.toNat_lt
  rw [ofByte, mk.injEq, ← reservedBits_eq]
  refine ⟨bit_eq ?_, bit_eq ?_, UInt8.toNat_inj.mp ?_⟩
  case refine_3 =>
    rw [toNat_reservedBits, toNat_reservedBits, toNat_toByte]
    omega
  all_goals
    rw [toNat_toByte]
    simp
    omega

theorem exact_layout : layout.Exact
    (fun modem => ⟨modem.lowDataRate, modem.automaticGain,
      modem.reserved &&& 0xF3⟩) id := by
  refine Layout.exact_ofByte ?_ (fun modem => ?_) ofByte_toByte toByte_ofByte
  · simp [layout, Layout.Apart]
  · have optimized := Bool.toNat_le modem.lowDataRate
    have gain := Bool.toNat_le modem.automaticGain
    have bound := modem.reserved.toNat_lt
    rw [toNat_toByte]
    simp [layout, Layout.number]
    omega

end ModemConfig3

/-! ## The operating mode -/

namespace Mode

theorem toNat_code_lt (mode : Mode) : mode.code.toNat < 8 := by
  cases mode <;> decide

theorem ofCode_congr {first second : UInt8}
    (same : first.toNat % 8 = second.toNat % 8) :
    ofCode first = ofCode second := by
  rw [ofCode, ofCode, same]

theorem code_ofCode (byte : UInt8) : (ofCode byte).code = field 0 3 byte := by
  have small : byte.toNat % 8 < 8 := Nat.mod_lt _ (by decide)
  apply UInt8.toNat_inj.mp
  have cut : (field 0 3 byte).toNat = byte.toNat % 8 := by
    simp [toNat_field_div]
  rw [cut, ofCode]
  split
  all_goals simp_all [code]
  -- A code that is none of the first seven is the last one.
  omega

end Mode

namespace OperatingMode

def layout : Layout OperatingMode :=
  [⟨7, 1, fun current => current.longRange.toNat⟩,
    ⟨3, 1, fun current => current.lowFrequency.toNat⟩,
    ⟨0, 3, fun current => current.mode.code.toNat⟩]

theorem toNat_toByte (current : OperatingMode) :
    current.toByte.toNat =
      128 * current.longRange.toNat + 8 * current.lowFrequency.toNat
      + current.mode.code.toNat := by
  have long := Bool.toNat_le current.longRange
  have low := Bool.toNat_le current.lowFrequency
  have small := current.mode.toNat_code_lt
  simp [toByte, UInt8.toNat_add, toNat_flag_mul]
  omega

theorem ofByte_toByte (current : OperatingMode) :
    ofByte current.toByte = current := by
  have long := Bool.toNat_le current.longRange
  have low := Bool.toNat_le current.lowFrequency
  have small := current.mode.toNat_code_lt
  have mode : Mode.ofCode current.toByte = current.mode := by
    rw [← Mode.ofCode_code current.mode]
    apply Mode.ofCode_congr
    rw [toNat_toByte]
    omega
  rw [ofByte, mode]
  congr
  all_goals
    apply bit_eq
    rw [toNat_toByte]
    simp
    omega

/-- Bits 6 to 4 are lost. -/
theorem toByte_ofByte (byte : UInt8) :
    (ofByte byte).toByte = byte &&& 0x8F := by
  have mask : ∀ position < 8, bit position (0x8F : UInt8) =
      decide (position < 4 ∨ position = 7) := by decide
  have high := bit_flag (show 7 < 8 by decide)
  have middle := bit_flag (show 3 < 8 by decide)
  apply eq_of_bit
  intro position within
  rw [bit_and, mask position within, toByte, ofByte, Mode.code_ofCode, bit_add,
    bit_add, high, middle, bit_field]
  · grind
  · intro position
    grind
  · intro position
    grind [bit_add, bit_field]

theorem exact_layout : layout.Exact id (· &&& 0x8F) := by
  refine Layout.exact_ofByte ?_ (fun current => ?_) ofByte_toByte toByte_ofByte
  · simp [layout, Layout.Apart]
  · have long := Bool.toNat_le current.longRange
    have low := Bool.toNat_le current.lowFrequency
    have small := current.mode.toNat_code_lt
    rw [toNat_toByte]
    simp [layout, Layout.number]
    omega

end OperatingMode

/-! ## Numbers -/

def continued (number : Nat) (bytes : List UInt8) : Nat :=
  bytes.foldl (fun number byte => number * 256 + byte.toNat) number

theorem continued_cons (number : Nat) (byte : UInt8) (rest : List UInt8) :
    continued number (byte :: rest) =
      continued (number * 256 + byte.toNat) rest := rfl

theorem continued_inj {first second : List UInt8}
    (length : first.length = second.length) {number other : Nat}
    (same : continued number first = continued other second) :
    number = other ∧ first = second := by
  -- The last bytes are the last digits, so the numbers before them are the same
  -- too.
  induction first generalizing second number other with
  | nil =>
      obtain rfl := List.length_eq_zero_iff.mp length.symm
      exact ⟨same, rfl⟩
  | cons byte rest ih =>
      obtain ⟨head, tail, rfl⟩ :=
        List.exists_cons_of_length_eq_add_one length.symm
      rw [continued_cons, continued_cons] at same
      obtain ⟨numbers, rests⟩ := ih (Nat.succ.inj length) same
      have bound := byte.toNat_lt
      have headBound := head.toNat_lt
      have bytes : byte = head := UInt8.toNat_inj.mp (by omega)
      exact ⟨by omega, by rw [bytes, rests]⟩

theorem continued_lt (number : Nat) (bytes : List UInt8) :
    continued number bytes < (number + 1) * 1 <<< (8 * bytes.length) := by
  induction bytes generalizing number with
  | nil => simp [continued]
  | cons byte rest ih =>
      have bound := byte.toNat_lt
      have power : 1 <<< (8 * (rest.length + 1)) =
          256 * 1 <<< (8 * rest.length) := by
        rw [Nat.one_shiftLeft, Nat.one_shiftLeft, Nat.mul_add, Nat.pow_add,
          Nat.mul_comm]
      calc
        _ < (number * 256 + byte.toNat + 1) * 1 <<< (8 * rest.length) := ih _
        _ ≤ (number + 1) * 256 * 1 <<< (8 * rest.length) :=
          Nat.mul_le_mul_right _ (by omega)
        _ = (number + 1) * 1 <<< (8 * (byte :: rest).length) := by
          rw [List.length_cons, power, Nat.mul_assoc]

theorem bigEndian_inj {count : Nat} {first second : Vector UInt8 count}
    (same : bigEndian first = bigEndian second) : first = second :=
  Vector.toList_inj.mp (continued_inj (by simp) same).2

theorem bigEndian_lt {count : Nat} (bytes : Vector UInt8 count) :
    bigEndian bytes < 1 <<< (8 * count) := by
  have bound := continued_lt 0 bytes.toList
  rwa [Nat.zero_add, Nat.one_mul, Vector.length_toList] at bound

theorem Layout.exact_ofNumber [EncodableRegister ρ] {value : ρ → Nat}
    (ofNumber : Nat → ρ) {cut : ρ → ρ}
    (decode : ∀ bytes : Vector UInt8 (Register.width ρ),
      Register.decode bytes = .ok (ofNumber (bigEndian bytes)))
    (encode : ∀ register : ρ, bigEndian (EncodableRegister.encode register) =
      value register % 1 <<< (8 * Register.width ρ))
    (whole : ∀ number < 1 <<< (8 * Register.width ρ),
      value (ofNumber number) = number)
    (back : ∀ register,
      ofNumber (value register % 1 <<< (8 * Register.width ρ)) = cut register) :
    Layout.Exact [⟨0, 8 * Register.width ρ, value⟩] cut id where
  apart := by simp [Apart]
  placed register := by
    rw [encode]
    simp [number]
  decode_encode register := by rw [decode, encode, back]
  encode_decode bytes := by
    have small := bigEndian_lt bytes
    refine ⟨_, decode bytes, ?_⟩
    rw [Vector.map_id]
    apply bigEndian_inj
    rw [encode, whole _ small, Nat.mod_eq_of_lt small]

def ByteRegister.layout (name : RegisterName) : Layout (ByteRegister name) :=
  [⟨0, 8, fun register => register.value.toNat⟩]

theorem ByteRegister.exact_layout (name : RegisterName) :
    (layout name).Exact id id := by
  refine Layout.exact_ofByte ?_ (fun register => ?_) (fun _ => rfl) fun _ => rfl
  · simp [layout, Layout.Apart]
  · simp [layout, Layout.number]

def InterruptFlags.layout : Layout InterruptFlags :=
  [⟨0, 8, fun flags => flags.bits.toNat⟩]

theorem InterruptFlags.exact_layout : layout.Exact id id := by
  refine Layout.exact_ofByte ?_ (fun flags => ?_) (fun _ => rfl) fun _ => rfl
  · simp [layout, Layout.Apart]
  · simp [layout, Layout.number]

def PreambleLength.layout : Layout PreambleLength :=
  [⟨0, 16, fun preamble => preamble.symbols.toNat⟩]

theorem PreambleLength.exact_layout : layout.Exact id id := by
  refine Layout.exact_ofNumber (fun number => ⟨UInt16.ofNat number⟩)
    (fun bytes => rfl)
    (fun preamble => ?_) (fun number small => ?_) fun preamble => ?_
  · have bound := preamble.symbols.toNat_lt
    simp [EncodableRegister.encode, bigEndian, Register.width,
      Nat.shiftRight_eq_div_pow]
    omega
  · exact UInt16.toNat_ofNat_of_lt' small
  · simp [Register.width]

def CarrierWord.layout : Layout CarrierWord :=
  [⟨0, 24, fun carrier => carrier.word.toNat⟩]

theorem CarrierWord.exact_layout :
    layout.Exact (fun carrier => ⟨carrier.word % 0x1000000⟩) id := by
  refine Layout.exact_ofNumber (fun number => ⟨UInt32.ofNat number⟩)
    (fun bytes => rfl)
    (fun carrier => ?_) (fun number small => ?_) fun carrier => ?_
  · have bound := carrier.word.toNat_lt
    simp [EncodableRegister.encode, bigEndian, Register.width,
      Nat.shiftRight_eq_div_pow]
    omega
  · exact UInt32.toNat_ofNat_of_lt' (Nat.lt_trans small (by decide))
  · congr
    apply UInt32.toNat_inj.mp
    rw [UInt32.toNat_mod]
    exact UInt32.toNat_ofNat_of_lt'
      (Nat.lt_trans (Nat.mod_lt _ (by decide)) (by decide))

/-! ## Detection -/

theorem enumerated_ofByte (name : RegisterName)
    (ofByte : UInt8 → Except InvalidByte ρ) (toByte : ρ → UInt8)
    (first second : ρ) (both : ∀ register, register = first ∨ register = second)
    (readFirst : ofByte (toByte first) = .ok first)
    (readSecond : ofByte (toByte second) = .ok second)
    (other : ∀ byte, byte ≠ toByte first → byte ≠ toByte second →
      ofByte byte = .error ⟨byte⟩) :
    @Enumerated ρ (.ofByte name ofByte toByte)
      [toByte first, toByte second] := by
  let _ : EncodableRegister ρ := .ofByte name ofByte toByte
  have back (register : ρ) : ofByte (toByte register) = .ok register := by
    obtain rfl | rfl := both register
    · exact readFirst
    · exact readSecond
  refine ⟨fun code => ?_, fun bytes register => ?_,
    fun bytes byte outside same => ?_⟩
  · change _ ↔ ∃ register : ρ, [toByte register] = [code]
    simp only [List.mem_cons, List.not_mem_nil, or_false,
      List.cons.injEq, and_true]
    constructor
    · rintro (rfl | rfl)
      · exact ⟨first, rfl⟩
      · exact ⟨second, rfl⟩
    · rintro ⟨register, rfl⟩
      obtain rfl | rfl := both register
      · exact .inl rfl
      · exact .inr rfl
  · obtain ⟨byte, rfl⟩ := exists_single bytes
    change ofByte byte = .ok register ↔ #v[byte] = #v[toByte register]
    constructor
    · intro read
      by_cases isFirst : byte = toByte first
      · rw [isFirst, readFirst] at read
        cases read
        rw [isFirst]
      by_cases isSecond : byte = toByte second
      · rw [isSecond, readSecond] at read
        cases read
        rw [isSecond]
      rw [other byte isFirst isSecond] at read
      cases read
    · intro same
      have bytes : byte = toByte register := congrArg single same
      rw [bytes, back]
  · obtain ⟨read, rfl⟩ := exists_single bytes
    obtain rfl : read = byte := by simpa using same
    simp only [List.mem_cons, List.not_mem_nil, or_false, not_or] at outside
    exact other read outside.1 outside.2

theorem DetectionOptimize.enumerated :
    Enumerated DetectionOptimize [0xC5, 0xC3] := by
  refine enumerated_ofByte .detectionOptimize ofByte toByte ⟨.factor6⟩
    ⟨.factor7To12⟩ (fun register => ?_) rfl rfl ?_
  · obtain ⟨detection⟩ := register
    cases detection <;> decide
  · intro byte notFirst notSecond
    exact (if_neg notFirst).trans (if_neg notSecond)

theorem DetectionThreshold.enumerated :
    Enumerated DetectionThreshold [0x0C, 0x0A] := by
  refine enumerated_ofByte .detectionThreshold ofByte toByte ⟨.factor6⟩
    ⟨.factor7To12⟩ (fun register => ?_) rfl rfl ?_
  · obtain ⟨detection⟩ := register
    cases detection <;> decide
  · intro byte notFirst notSecond
    exact (if_neg notFirst).trans (if_neg notSecond)

/-! ## All registers -/

/-- What is written to a register and read back is cut to the parts of the
register, and what is read and written back is the same, but for three bits of
the operating mode and for bytes that the detection registers refuse. -/
theorem registers_round_trip :
    AmplifierSetup.layout.Exact
      (fun setup => ⟨setup.amplifier, setup.maxPower % 8,
        setup.outputPower % 16⟩) id ∧
    LowNoiseAmplifier.layout.Exact
      (fun lna => ⟨lna.gain % 8, lna.boostLow % 4, lna.boostHigh % 4,
        lna.reserved &&& 0x04⟩) id ∧
    ModemConfig1.layout.Exact
      (fun modem => ⟨modem.bandwidth % 16, modem.codingRate % 8,
        modem.implicitHeader⟩) id ∧
    ModemConfig2.layout.Exact
      (fun modem => ⟨modem.spreadingFactor % 16, modem.continuousTransmit,
          modem.checksum,
        modem.symbolTimeoutHigh % 4⟩) id ∧
    ModemConfig3.layout.Exact
      (fun modem => ⟨modem.lowDataRate, modem.automaticGain,
        modem.reserved &&& 0xF3⟩) id ∧
    CarrierWord.layout.Exact (fun carrier => ⟨carrier.word % 0x1000000⟩) id ∧
    PreambleLength.layout.Exact id id ∧
    InterruptFlags.layout.Exact id id ∧
    (∀ name, (ByteRegister.layout name).Exact id id) ∧
    OperatingMode.layout.Exact id (· &&& 0x8F) ∧
    Enumerated DetectionOptimize [0xC5, 0xC3] ∧
    Enumerated DetectionThreshold [0x0C, 0x0A] :=
  ⟨AmplifierSetup.exact_layout, LowNoiseAmplifier.exact_layout,
    ModemConfig1.exact_layout, ModemConfig2.exact_layout,
    ModemConfig3.exact_layout, CarrierWord.exact_layout,
    PreambleLength.exact_layout, InterruptFlags.exact_layout,
    ByteRegister.exact_layout, OperatingMode.exact_layout,
    DetectionOptimize.enumerated, DetectionThreshold.enumerated⟩

end LoraRadio
