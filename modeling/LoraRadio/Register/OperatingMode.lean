import LoraRadio.Register.Basic

/-!
# The operating mode
-/

namespace LoraRadio

inductive Mode where
  | sleep
  | standby
  | synthesizeTransmit
  | transmit
  | synthesizeReceive
  | receiveContinuous
  | receiveSingle
  | activityDetection
  deriving DecidableEq, Repr

namespace Mode

def code : Mode → UInt8
  | .sleep => 0
  | .standby => 1
  | .synthesizeTransmit => 2
  | .transmit => 3
  | .synthesizeReceive => 4
  | .receiveContinuous => 5
  | .receiveSingle => 6
  | .activityDetection => 7

/-- The mode of a code, of which only the last three bits count. -/
def ofCode (code : UInt8) : Mode :=
  match code.toNat % 8 with
  | 0 => .sleep
  | 1 => .standby
  | 2 => .synthesizeTransmit
  | 3 => .transmit
  | 4 => .synthesizeReceive
  | 5 => .receiveContinuous
  | 6 => .receiveSingle
  | _ => .activityDetection

def isReceiving : Mode → Bool
  | .receiveContinuous | .receiveSingle => true
  | _ => false

theorem ofCode_code (mode : Mode) : ofCode mode.code = mode := by
  cases mode <;> rfl

end Mode

/-- Bit 7 selects long range modulation, bit 3 the low frequency registers, bits
2 to 0 the mode.  The other bits are written as zero. -/
structure OperatingMode where
  longRange : Bool
  lowFrequency : Bool
  mode : Mode
  deriving DecidableEq, Repr

namespace OperatingMode

def lora (mode : Mode) : OperatingMode :=
  ⟨true, false, mode⟩

def ofByte (byte : UInt8) : OperatingMode :=
  ⟨bit 7 byte, bit 3 byte, Mode.ofCode byte⟩

def toByte (register : OperatingMode) : UInt8 :=
  flag 7 register.longRange + flag 3 register.lowFrequency + register.mode.code

instance : WritableRegister OperatingMode where
  toEncodableRegister := .ofByte .opMode (fun byte => .ok (ofByte byte)) toByte

end OperatingMode

end LoraRadio
