import LoraRadio.Radio.Settings
import LoraRadio.Register.Reception

/-!
# Inspection

The quality of the last reception, and a snapshot of the registers.
-/

namespace LoraRadio

namespace PacketStrength

def floorDbm (carrierHz : UInt32) : Int :=
  if carrierHz < Carrier.lowBandLimitHz then -164 else -157

def dbm (strength : PacketStrength) (carrierHz : UInt32) : Int :=
  strength.value.toNat + floorDbm carrierHz

end PacketStrength

def PacketNoise.text (noise : PacketNoise) : String :=
  let magnitude := noise.quarters.toInt.natAbs
  let sign := if noise.quarters.toInt < 0 then "-" else ""
  let hundredths := magnitude % 4 * 25
  let padding := if hundredths < 10 then "0" else ""
  s!"{sign}{magnitude / 4}.{padding}{hundredths}"

/-- The offset in Hz, rounded toward zero.  The reading is in units of the
crystal frequency over `2 ^ 24`, for a bandwidth of 500 kHz. -/
def CarrierOffset.hz (offset : CarrierOffset) (bandwidth : Bandwidth) :
    Checked Int32 := do
  let scaled ← Checked.mulInt64 offset.value (1 <<< 24 : Nat)
  let scaled ← Checked.mulInt64 scaled bandwidth.hz.toNat
  let quotient ← Checked.div scaled (Carrier.crystalHz * 500000)
  return Int32.ofInt quotient

/-- Values of named registers, in the order in which they were read.  There are
as many slots as names, and those from `length` on are not in use. -/
structure Snapshot where
  slots : Vector (RegisterName × UInt8) RegisterName.count :=
    .replicate _ (.fifo, 0)
  length : Nat := 0
  within : length ≤ RegisterName.count := by exact Nat.zero_le _
  deriving DecidableEq, Repr

namespace Snapshot

def push (snapshot : Snapshot) (name : RegisterName) (value : UInt8) :
    Checked Snapshot :=
  if room : snapshot.length < RegisterName.count then
    .ok ⟨snapshot.slots.set snapshot.length (name, value),
      snapshot.length + 1, room⟩
  else
    .error (.indexOutOfBounds RegisterName.count snapshot.length)

def entries (snapshot : Snapshot) : List (RegisterName × UInt8) :=
  snapshot.slots.toList.take snapshot.length

def get? (snapshot : Snapshot) (name : RegisterName) : Option UInt8 :=
  (snapshot.entries.find? fun entry => entry.1 = name).map Prod.snd

end Snapshot

namespace Radio

open RadioM

def signalStrength : RadioM (Option Int) :=
  whenReady none do
    let strength ← readRegister PacketStrength
    return some (strength.dbm (← getConfiguration).frequency)

def signalToNoise : RadioM (Option PacketNoise) :=
  whenReady none do
    return some (← readRegister PacketNoise)

def frequencyError : RadioM (Option Int32) :=
  whenReady none do
    let offset ← readRegister CarrierOffset
    let modem ← readRegister ModemConfig1
    match Bandwidth.ofIndex? modem.bandwidth with
    | none => return none
    | some bandwidth => return some (← checked (offset.hz bandwidth))

def headerCount : RadioM (Option UInt16) :=
  whenReady none do
    return some (← readRegister HeaderCount).count

def packetCount : RadioM (Option UInt16) :=
  whenReady none do
    return some (← readRegister PacketCount).count

def capture : List RegisterName → Snapshot → RadioM Snapshot
  | [], snapshot => return snapshot
  | name :: rest, snapshot => do
      let value ← access (Bus.read name.address)
      let snapshot ← checked (snapshot.push name value)
      capture rest snapshot

/-- Every named register but the packet buffer, which a read would move on. -/
def snapshot : RadioM Snapshot :=
  whenReady {} (capture (RegisterName.all.filter (· ≠ .fifo)) {})

end Radio

end LoraRadio
