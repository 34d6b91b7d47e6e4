import LoraRadio.Register.Basic

/-!
# The interrupt flags

Writing a set flag back clears it.
-/

namespace LoraRadio

inductive Interrupt where
  | receiveTimeout
  | receiveDone
  | checksumError
  | validHeader
  | transmitDone
  | detectionDone
  | channelChange
  | detected
  deriving DecidableEq, Repr

namespace Interrupt

def position : Interrupt → Nat
  | .receiveTimeout => 7
  | .receiveDone => 6
  | .checksumError => 5
  | .validHeader => 4
  | .transmitDone => 3
  | .detectionDone => 2
  | .channelChange => 1
  | .detected => 0

def all : List Interrupt :=
  [.receiveTimeout, .receiveDone, .checksumError, .validHeader, .transmitDone,
    .detectionDone, .channelChange, .detected]

def mask (interrupt : Interrupt) : UInt8 :=
  flag interrupt.position true

end Interrupt

structure InterruptFlags where
  bits : UInt8
  deriving DecidableEq, Repr

namespace InterruptFlags

def has (flags : InterruptFlags) (interrupt : Interrupt) : Bool :=
  bit interrupt.position flags.bits

def ofList (interrupts : List Interrupt) : InterruptFlags :=
  ⟨(interrupts.map Interrupt.mask).foldl (· ||| ·) 0⟩

def toList (flags : InterruptFlags) : List Interrupt :=
  Interrupt.all.filter flags.has

/-- A packet has come in and its checksum did not fail. -/
def packetReady (flags : InterruptFlags) : Bool :=
  flags.has .receiveDone && !flags.has .checksumError

end InterruptFlags

instance : WritableRegister InterruptFlags where
  toEncodableRegister :=
    .ofByte .irqFlags (fun byte => .ok ⟨byte⟩) (fun register => register.bits)

end LoraRadio
