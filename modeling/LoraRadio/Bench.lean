import LoraRadio.Chip

/-!
# The bench

A chip on its bus, two control lines, a clock, and a record of what happened.

An access or a line change can fail.  A failing one is recorded and changes
nothing on the chip.
-/

namespace LoraRadio

inductive Line where
  | boot
  | reset
  deriving DecidableEq, Repr

/-- The next `after` attempts pass, the `count` attempts after those fail, all
others pass. -/
structure FaultWindow where
  after : Nat
  count : Nat
  deriving DecidableEq, Repr

namespace FaultWindow

def closed : FaultWindow := ⟨0, 0⟩

def passes (window : FaultWindow) : Bool :=
  0 < window.after || window.count = 0

def next : FaultWindow → FaultWindow
  | ⟨after + 1, count⟩ => ⟨after, count⟩
  | ⟨0, count⟩ => ⟨0, count - 1⟩

end FaultWindow

/-! ## What is sent -/

/-- The bit that tells a write from a read in the first byte of an access. -/
def writeFlag : UInt8 := 0x80

/-- The first byte of an access, which has the address below a flag. -/
structure Header (flag : UInt8) where
  address : Address
  byte : UInt8
  sent : byte = UInt8.ofNat address.val ||| flag
  deriving DecidableEq, Repr

abbrev ReadHeader := Header 0

abbrev WriteHeader := Header writeFlag

namespace Header

variable {flag : UInt8}

@[coe, reducible] def ofAddress (address : Address) : Header flag :=
  ⟨address, UInt8.ofNat address.val ||| flag, rfl⟩

instance coeAddress : Coe Address (Header flag) := ⟨ofAddress⟩

@[simp] theorem ofAddress_inj {first second : Address} :
    (first : Header flag) = second ↔ first = second :=
  ⟨congrArg address, congrArg ofAddress⟩

end Header

theorem ofNat_ofByte (byte : UInt8) :
    UInt8.ofNat (Address.ofByte byte).val = byte &&& ~~~writeFlag := by
  apply UInt8.toNat_inj.mp
  have low : (byte &&& 0x7F).toNat = byte.toNat % 128 := by
    rw [UInt8.toNat_and]
    exact Nat.and_two_pow_sub_one_eq_mod _ 7
  change byte.toNat % 128 % 256 = (byte &&& 0x7F).toNat
  rw [low]
  omega

/-- The header of a read at a raw address, of which only the last seven bits
count. -/
def ReadHeader.ofByte (byte : UInt8) : ReadHeader where
  address := Address.ofByte byte
  byte := byte &&& ~~~writeFlag
  sent := by rw [ofNat_ofByte, UInt8.or_zero]

def WriteHeader.ofByte (byte : UInt8) : WriteHeader where
  address := Address.ofByte byte
  byte := byte ||| writeFlag
  sent := by
    rw [ofNat_ofByte]
    apply UInt8.toBitVec_inj.mp
    ext index bound
    simp only [UInt8.toBitVec_and, UInt8.toBitVec_or, UInt8.toBitVec_not,
      BitVec.getElem_and, BitVec.getElem_or, BitVec.getElem_not]
    cases byte.toBitVec[index] <;> cases writeFlag.toBitVec[index] <;> rfl

/-! ## What happens -/

inductive Event where
  | read (header : ReadHeader) (value : UInt8)
  | readFailed (header : ReadHeader)
  | write (header : WriteHeader) (value : UInt8)
  | writeFailed (header : WriteHeader) (value : UInt8)
  | line (line : Line) (level : Bool)
  | lineFailed (line : Line) (level : Bool)
  | delay (ms : UInt32)
  deriving DecidableEq, Repr

structure Bench where
  chip : Chip := Chip.fresh
  busFaults : FaultWindow := .closed
  lineFaults : FaultWindow := .closed
  /-- What happened since the record was last cleared, oldest first. -/
  trace : Array Event := #[]
  elapsedMs : Nat := 0
  /-- How many accesses were tried. -/
  transactions : Nat := 0
  deriving DecidableEq, Repr

namespace Bench

def record (bench : Bench) (event : Event) : Bench :=
  { bench with trace := bench.trace.push event }

def countAccess (bench : Bench) : Bench :=
  { bench with
    busFaults := bench.busFaults.next, transactions := bench.transactions + 1 }

def read (bench : Bench) (header : ReadHeader) : Option UInt8 × Bench :=
  if bench.busFaults.passes then
    let result := bench.chip.read header.address
    (some result.1,
      { bench.countAccess with chip := result.2 }.record
        (.read header result.1))
  else
    (none, bench.countAccess.record (.readFailed header))

def write (bench : Bench) (header : WriteHeader) (value : UInt8) :
    Bool × Bench :=
  if bench.busFaults.passes then
    (true,
      { bench.countAccess with
        chip := bench.chip.write header.address value }.record
          (.write header value))
  else
    (false, bench.countAccess.record (.writeFailed header value))

def setLine (bench : Bench) (line : Line) (level : Bool) : Bool × Bench :=
  let moved := { bench with lineFaults := bench.lineFaults.next }
  if bench.lineFaults.passes then (true, moved.record (.line line level))
  else (false, moved.record (.lineFailed line level))

def delay (bench : Bench) (ms : UInt32) : Bench :=
  { bench with elapsedMs := bench.elapsedMs + ms.toNat }.record (.delay ms)

def clearTrace (bench : Bench) : Bench :=
  { bench with trace := #[] }

end Bench

inductive Stimulus where
  | poke (address : Address) (value : UInt8)
  | load (position : UInt8) (bytes : List UInt8)
  | deliver (start : UInt8) (packet : List UInt8) (flags : UInt8)
  | transmitter (completes : Bool) (doneAt : Option Nat)
  | busFaults (window : FaultWindow)
  | lineFaults (window : FaultWindow)
  deriving DecidableEq, Repr

def Stimulus.apply (bench : Bench) : Stimulus → Bench
  | .poke address value =>
      { bench with chip := bench.chip.setRegister address value }
  | .load position bytes =>
      { bench with chip := bench.chip.load position bytes }
  | .deliver start packet flags =>
      { bench with chip := bench.chip.deliver start packet flags }
  | .transmitter completes doneAt =>
      { bench with
        chip :=
          { bench.chip with
            transmitCompletes := completes, transmitDoneAt := doneAt } }
  | .busFaults window => { bench with busFaults := window }
  | .lineFaults window => { bench with lineFaults := window }

end LoraRadio
