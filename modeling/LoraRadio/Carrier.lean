import LoraRadio.Span

/-!
# Carrier frequencies

Frequencies and the words that program the synthesizer.

One step of the synthesizer is the crystal frequency divided by `2 ^ 19`.
-/

namespace LoraRadio.Carrier

def crystalHz : Nat := 32000000

def span : Span UInt32 := ⟨137000000, 1020000000⟩

def defaultHz : UInt32 := 915000000

def lowBandLimitHz : UInt32 := 868000000

def toWord (hz : UInt32) : UInt32 :=
  UInt32.ofNat ((hz.toNat <<< 19) / crystalHz)

def ofWord (word : UInt32) : UInt32 :=
  UInt32.ofNat ((word.toNat * crystalHz) >>> 19)

def clamp (hz : UInt32) : UInt32 :=
  span.clamp hz

end LoraRadio.Carrier
