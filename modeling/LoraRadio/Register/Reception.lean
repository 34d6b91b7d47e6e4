import LoraRadio.Register.Number

/-!
# Measurements on the last received packet
-/

namespace LoraRadio

/-- The ratio of signal to noise in quarters of a decibel, a signed byte. -/
structure PacketNoise where
  quarters : Int8
  deriving DecidableEq, Repr

instance : Register PacketNoise where
  name := .pktSnrValue
  width := 1
  fits := RegisterName.address_add_one_le _
  decode bytes := .ok ⟨(single bytes).toInt8⟩

/-- The offset of the received carrier, a signed number of 20 bits.  The four
bits above it have no meaning. -/
structure CarrierOffset where
  word : Int32
  deriving DecidableEq, Repr

namespace CarrierOffset

def value (offset : CarrierOffset) : Int :=
  offset.word.toInt

def ofBytes (bytes : Vector UInt8 3) : CarrierOffset :=
  let raw :=
    UInt32.ofNat (bigEndian #v[0, bytes[0] &&& 0x0F, bytes[1], bytes[2]])
  -- The sign goes to the top of the word and comes back with copies of itself.
  ⟨(raw <<< 12).toInt32 >>> 12⟩

end CarrierOffset

instance : Register CarrierOffset where
  name := .freqErrorMsb
  width := 3
  fits := by decide
  decode bytes := .ok (.ofBytes bytes)

end LoraRadio
