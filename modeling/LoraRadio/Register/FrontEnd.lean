import LoraRadio.Checked
import LoraRadio.Configuration
import LoraRadio.Register.Basic

/-!
# The power amplifier and the low noise amplifier
-/

namespace LoraRadio

/-- Bit 7 selects the amplifier, bits 6 to 4 the largest power, bits 3 to 0 the
power. -/
structure AmplifierSetup where
  amplifier : Amplifier
  maxPower : UInt8
  outputPower : UInt8
  deriving DecidableEq, Repr

namespace AmplifierSetup

def ofByte (byte : UInt8) : AmplifierSetup :=
  ⟨if bit 7 byte then .paBoost else .rfo, field 4 3 byte, field 0 4 byte⟩

def toByte (register : AmplifierSetup) : UInt8 :=
  flag 7 (register.amplifier = .paBoost) + place 4 3 register.maxPower
    + place 0 4 register.outputPower

instance : WritableRegister AmplifierSetup where
  toEncodableRegister :=
    .ofByte .paConfig (fun byte => .ok (ofByte byte)) toByte

def ofPower (amplifier : Amplifier) (level : Int8) : Checked AmplifierSetup :=
  match amplifier with
  | .paBoost =>
      (Checked.subInt8 level 2).map fun power => ⟨.paBoost, 0, power.toUInt8⟩
  | .rfo => .ok ⟨.rfo, 7, level.toUInt8⟩

end AmplifierSetup

/-- Bits 7 to 5 set the gain, bits 4 and 3 the low band boost, bits 1 and 0 the
high band boost.  Bit 2 is kept where it was read. -/
structure LowNoiseAmplifier where
  gain : UInt8
  boostLow : UInt8
  boostHigh : UInt8
  reserved : UInt8
  deriving DecidableEq, Repr

namespace LowNoiseAmplifier

def boostHighOn : UInt8 := 3

def reservedBit (byte : UInt8) : UInt8 :=
  place 2 1 (field 2 1 byte)

def ofByte (byte : UInt8) : LowNoiseAmplifier :=
  ⟨field 5 3 byte, field 3 2 byte, field 0 2 byte, reservedBit byte⟩

def toByte (register : LowNoiseAmplifier) : UInt8 :=
  place 5 3 register.gain + place 3 2 register.boostLow
    + place 0 2 register.boostHigh + reservedBit register.reserved

instance : WritableRegister LowNoiseAmplifier where
  toEncodableRegister := .ofByte .lna (fun byte => .ok (ofByte byte)) toByte

end LowNoiseAmplifier

end LoraRadio
