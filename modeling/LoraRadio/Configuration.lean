import LoraRadio.Bandwidth
import LoraRadio.Carrier

/-!
# Settings of the physical layer

The legal values of each setting, and the settings after startup.
-/

namespace LoraRadio

inductive Amplifier where
  | rfo
  | paBoost
  deriving DecidableEq, Repr

namespace Amplifier

def powerSpan : Amplifier → Span Int8
  | .rfo => ⟨0, 14⟩
  | .paBoost => ⟨2, 17⟩

def clampPower (amplifier : Amplifier) (dbm : Int8) : Int8 :=
  amplifier.powerSpan.clamp dbm

end Amplifier

/-- Whether a packet carries its length, coding rate and checksum presence in a
header. -/
inductive HeaderMode where
  | explicit
  | implicit
  deriving DecidableEq, Repr

/-- A bounded wait: the time between two looks, and the time after which to give
up. -/
structure Polling where
  intervalMs : UInt32
  timeoutMs : UInt32
  deriving DecidableEq, Repr

namespace Polling

def defaultIntervalMs : UInt32 := 10

/-- The wait for a packet of the given airtime: twice that time and a second
more, as far as a 32-bit word goes. -/
def forAirtime (airtimeMs : UInt32) : Polling where
  intervalMs := defaultIntervalMs
  timeoutMs := UInt32.ofNat
    (min (min (2 * airtimeMs.toNat) (UInt32.size - 1) + 1000) (UInt32.size - 1))

/-- How many intervals fit before giving up, the last one begun counted whole.
An interval of zero counts as one. -/
def attempts (polling : Polling) : Nat :=
  let interval := max polling.intervalMs.toNat 1
  (polling.timeoutMs.toNat + interval - 1) / interval

end Polling

namespace SpreadingFactor

def span : Span UInt8 := ⟨6, 12⟩

def clamp (factor : UInt8) : UInt8 :=
  span.clamp factor

end SpreadingFactor

namespace CodingRate

/-- Denominators of the rates `4/5`, …, `4/8`. -/
def span : Span UInt8 := ⟨5, 8⟩

def clamp (denominator : UInt8) : UInt8 :=
  span.clamp denominator

end CodingRate

def maxPayload : Nat := 255

structure Configuration where
  frequency : UInt32 := Carrier.defaultHz
  power : Int8 := 17
  amplifier : Amplifier := .paBoost
  spreadingFactor : UInt8 := 7
  bandwidth : Bandwidth := .khz125
  codingRate : UInt8 := 5
  preambleLength : UInt16 := 8
  syncWord : UInt8 := 0x12
  checksum : Bool := false
  headerMode : HeaderMode := .explicit
  /-- The wait for a transmission; derived from the airtime of the packet when
  there is none. -/
  polling : Option Polling := none
  deriving DecidableEq, Repr

end LoraRadio
