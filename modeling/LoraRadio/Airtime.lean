import LoraRadio.Checked
import LoraRadio.Configuration

/-!
# Airtime

How long a packet is on air, and how long to wait for it.

Lengths are counted in quarter symbols, because the sync word and the start of
the frame take 4.25 symbols.  A symbol lasts `2 ^ factor / bandwidth` seconds.
-/

namespace LoraRadio

def lowDataRate (factor : UInt8) (bandwidth : Bandwidth) : Checked Bool := do
  let chips ← Checked.pow64 factor.toNat
  let scaled ← Checked.mul64 1000 chips
  return 16 * bandwidth.hz.toNat < scaled

namespace Configuration

/-- The bits of a packet that its first eight symbols leave over; none when the
number is negative. -/
def payloadBits (configuration : Configuration) (length : UInt8) : Int :=
  8 * length.toNat - 4 * configuration.spreadingFactor.toNat + 28
    + (if configuration.checksum then 16 else 0)
    - (if configuration.headerMode = .implicit then 20 else 0)

def blockBits (configuration : Configuration) (optimized : Bool) : Int :=
  4 * (configuration.spreadingFactor.toNat - if optimized then 2 else 0)

def payloadBlocks (configuration : Configuration) (optimized : Bool)
    (length : UInt8) : Checked Int :=
  let bits := configuration.payloadBits length
  let block := configuration.blockBits optimized
  if 0 < bits then Checked.div (bits + block - 1) block else .ok 0

def quarterSymbols (configuration : Configuration) (blocks : Int) : Nat :=
  4 * configuration.preambleLength.toNat + 17
    + 4 * (8 + blocks * configuration.codingRate.toNat).toNat

/-- The airtime of a packet with `length` payload bytes: whole microseconds,
rounded up to whole milliseconds, as a 32-bit word. -/
def airtimeMs (configuration : Configuration) (length : UInt8) :
    Checked UInt32 := do
  let optimized ←
    lowDataRate configuration.spreadingFactor configuration.bandwidth
  let blocks ← configuration.payloadBlocks optimized length
  let chips ← Checked.pow64 configuration.spreadingFactor.toNat
  let scaled ← Checked.mul64 (configuration.quarterSymbols blocks) chips
  let scaled ← Checked.mul64 scaled 1000000
  let microseconds := scaled / (4 * configuration.bandwidth.hz.toNat)
  return UInt32.ofNat ((microseconds + 999) / 1000)

def pollingFor (configuration : Configuration) (length : UInt8) :
    Checked Polling :=
  match configuration.polling with
  | some polling => .ok polling
  | none => (configuration.airtimeMs length).map Polling.forAirtime

end Configuration

end LoraRadio
