import LoraRadio.Register.Basic

/-!
# The modulation registers
-/

namespace LoraRadio

/-- Bits 7 to 4 select the bandwidth, bits 3 to 1 the coding rate, bit 0 the
implicit header. -/
structure ModemConfig1 where
  bandwidth : UInt8
  codingRate : UInt8
  implicitHeader : Bool
  deriving DecidableEq, Repr

namespace ModemConfig1

def ofByte (byte : UInt8) : ModemConfig1 :=
  ⟨field 4 4 byte, field 1 3 byte, bit 0 byte⟩

def toByte (register : ModemConfig1) : UInt8 :=
  place 4 4 register.bandwidth + place 1 3 register.codingRate
    + flag 0 register.implicitHeader

instance : WritableRegister ModemConfig1 where
  toEncodableRegister :=
    .ofByte .modemConfig1 (fun byte => .ok (ofByte byte)) toByte

end ModemConfig1

/-- Bits 7 to 4 hold the spreading factor, bit 3 the continuous transmission,
bit 2 the checksum, bits 1 and 0 the high bits of the symbol timeout. -/
structure ModemConfig2 where
  spreadingFactor : UInt8
  continuousTransmit : Bool
  checksum : Bool
  symbolTimeoutHigh : UInt8
  deriving DecidableEq, Repr

namespace ModemConfig2

def ofByte (byte : UInt8) : ModemConfig2 :=
  ⟨field 4 4 byte, bit 3 byte, bit 2 byte, field 0 2 byte⟩

def toByte (register : ModemConfig2) : UInt8 :=
  place 4 4 register.spreadingFactor + flag 3 register.continuousTransmit
    + flag 2 register.checksum + place 0 2 register.symbolTimeoutHigh

instance : WritableRegister ModemConfig2 where
  toEncodableRegister :=
    .ofByte .modemConfig2 (fun byte => .ok (ofByte byte)) toByte

end ModemConfig2

/-- Bit 3 switches the low data rate optimization, bit 2 the automatic gain.
The other bits are kept where they were read. -/
structure ModemConfig3 where
  lowDataRate : Bool
  automaticGain : Bool
  reserved : UInt8
  deriving DecidableEq, Repr

namespace ModemConfig3

def reservedBits (byte : UInt8) : UInt8 :=
  place 4 4 (field 4 4 byte) + field 0 2 byte

def ofByte (byte : UInt8) : ModemConfig3 :=
  ⟨bit 3 byte, bit 2 byte, reservedBits byte⟩

def toByte (register : ModemConfig3) : UInt8 :=
  flag 3 register.lowDataRate + flag 2 register.automaticGain
    + reservedBits register.reserved

instance : WritableRegister ModemConfig3 where
  toEncodableRegister :=
    .ofByte .modemConfig3 (fun byte => .ok (ofByte byte)) toByte

end ModemConfig3

/-- How packets are detected: spreading factor 6 needs a setting of its own. -/
inductive Detection where
  | factor6
  | factor7To12
  deriving DecidableEq, Repr

def Detection.ofFactor (factor : UInt8) : Detection :=
  if factor = 6 then .factor6 else .factor7To12

structure DetectionOptimize where
  detection : Detection
  deriving DecidableEq, Repr

namespace DetectionOptimize

def ofByte (byte : UInt8) : Except InvalidByte DetectionOptimize :=
  if byte = 0xC5 then .ok ⟨.factor6⟩
  else if byte = 0xC3 then .ok ⟨.factor7To12⟩
  else .error ⟨byte⟩

def toByte (register : DetectionOptimize) : UInt8 :=
  match register.detection with
  | .factor6 => 0xC5
  | .factor7To12 => 0xC3

instance : WritableRegister DetectionOptimize where
  toEncodableRegister := .ofByte .detectionOptimize ofByte toByte

end DetectionOptimize

structure DetectionThreshold where
  detection : Detection
  deriving DecidableEq, Repr

namespace DetectionThreshold

def ofByte (byte : UInt8) : Except InvalidByte DetectionThreshold :=
  if byte = 0x0C then .ok ⟨.factor6⟩
  else if byte = 0x0A then .ok ⟨.factor7To12⟩
  else .error ⟨byte⟩

def toByte (register : DetectionThreshold) : UInt8 :=
  match register.detection with
  | .factor6 => 0x0C
  | .factor7To12 => 0x0A

instance : WritableRegister DetectionThreshold where
  toEncodableRegister := .ofByte .detectionThreshold ofByte toByte

end DetectionThreshold

end LoraRadio
