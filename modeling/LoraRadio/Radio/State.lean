import LoraRadio.Airtime
import LoraRadio.Bus

/-!
# The driver

What the driver knows about its chip, and the steps that its operations are made
of.
-/

namespace LoraRadio

inductive Lifecycle where
  | uninitialized
  | initializing
  | ready
  | firmwareMismatch
  | invalidConfiguration
  deriving DecidableEq, Repr

structure Cursor where
  position : Nat := 0
  length : Nat := 0
  deriving DecidableEq, Repr

namespace Cursor

def start (length : Nat) : Cursor :=
  ⟨0, length⟩

def remaining (cursor : Cursor) : Nat :=
  cursor.length - cursor.position

def advance (cursor : Cursor) : Cursor :=
  { cursor with position := cursor.position + 1 }

end Cursor

/-- The way to a chip: its number on the bench, and which control lines are
there. -/
structure Connection where
  chip : Nat
  boot : Bool
  reset : Bool
  deriving DecidableEq, Repr

def Connection.complete (connection : Connection) : Bool :=
  connection.boot && connection.reset

structure Radio where
  connection : Connection
  lifecycle : Lifecycle := .uninitialized
  /-- The firmware version, once it has been read. -/
  version : Option UInt8 := none
  /-- The settings last written to the chip. -/
  configuration : Configuration := {}
  cursor : Cursor := {}
  deriving DecidableEq, Repr

namespace Radio

def attach (connection : Connection) : Radio :=
  { connection }

def ready (radio : Radio) : Bool :=
  radio.lifecycle = .ready

def available (radio : Radio) : Nat :=
  if radio.ready then radio.cursor.remaining else 0

end Radio

structure Station where
  radio : Radio
  bench : Bench
  deriving DecidableEq, Repr

abbrev RadioM := Operation Failure Station

namespace RadioM

variable {α : Type}

def getRadio : RadioM Radio :=
  ⟨fun station => .ok station.radio station⟩

def modifyRadio (change : Radio → Radio) : RadioM Unit :=
  ⟨fun station => .ok () { station with radio := change station.radio }⟩

def getConfiguration : RadioM Configuration :=
  ⟨fun station => .ok station.radio.configuration station⟩

def modifyConfiguration (change : Configuration → Configuration) :
    RadioM Unit :=
  modifyRadio fun radio =>
    { radio with configuration := change radio.configuration }

def setLifecycle (lifecycle : Lifecycle) : RadioM Unit :=
  modifyRadio fun radio => { radio with lifecycle }

def access (operation : BusM α) : RadioM α where
  run station :=
    match operation.run station.bench with
    | .ok value bench => .ok value { station with bench }
    | .error error bench => .error (.ofAccess error) { station with bench }

def readRegister (ρ : Type) [Register ρ] : RadioM ρ :=
  access (Bus.readRegister ρ)

def writeRegister {ρ : Type} [WritableRegister ρ] (register : ρ) :
    RadioM Unit :=
  access (Bus.writeRegister register)

def updateRegister {ρ : Type} [WritableRegister ρ] (change : ρ → ρ) :
    RadioM Unit := do
  let register ← readRegister ρ
  writeRegister (change register)

def checked (result : Checked α) : RadioM α :=
  match result with
  | .ok value => pure value
  | .error trap => .fail (.trap trap)

def setLine (line : Line) (level : Bool) : RadioM Unit where
  run station :=
    match station.bench.setLine line level with
    | (true, bench) => .ok () { station with bench }
    | (false, bench) => .error .line { station with bench }

def delay (ms : UInt32) : RadioM Unit :=
  ⟨fun station => .ok () { station with bench := station.bench.delay ms }⟩

def onError (change : Radio → Radio) (operation : RadioM α) : RadioM α where
  run station :=
    match operation.run station with
    | .ok value station => .ok value station
    | .error failure station =>
        .error failure { station with radio := change station.radio }

end RadioM

end LoraRadio
