import LoraRadio.Bench
import LoraRadio.Failure
import LoraRadio.Operation
import LoraRadio.Register.Basic

/-!
# Register access

A wide register takes one access per byte, at consecutive addresses.  The first
failing access ends the operation, and a value is decoded only once all its
bytes are there.
-/

namespace LoraRadio

abbrev BusM := Operation AccessError Bench

namespace Bus

def clockHz : Nat := 250000

def read (header : ReadHeader) : BusM UInt8 where
  run bench :=
    match bench.read header with
    | (some value, bench) => .ok value bench
    | (none, bench) => .error .bus bench

def write (header : WriteHeader) (value : UInt8) : BusM Unit where
  run bench :=
    match bench.write header value with
    | (true, bench) => .ok () bench
    | (false, bench) => .error .bus bench

def readAt (address : UInt8) : BusM UInt8 :=
  read (ReadHeader.ofByte address)

def writeAt (address value : UInt8) : BusM Unit :=
  write (WriteHeader.ofByte address) value

def readBytes (ρ : Type) [Register ρ] :
    (count : Nat) → count ≤ Register.width ρ → BusM (Vector UInt8 count)
  | 0, _ => pure #v[]
  | count + 1, within => do
      let bytes ← readBytes ρ count (Register.le_width_of_succ within)
      let byte ← read (Register.address ρ ⟨count, within⟩)
      return bytes.push byte

def readRegister (ρ : Type) [Register ρ] : BusM ρ := do
  let bytes ← readBytes ρ (Register.width ρ) Register.width_le_width
  match Register.decode bytes with
  | .ok register => return register
  | .error _ => Operation.fail .decoding

def writeBytes (ρ : Type) [Register ρ]
    (bytes : Vector UInt8 (Register.width ρ)) :
    (count : Nat) → count ≤ Register.width ρ → BusM Unit
  | 0, _ => pure ()
  | count + 1, within => do
      writeBytes ρ bytes count (Register.le_width_of_succ within)
      write (Register.address ρ ⟨count, within⟩) (bytes.get ⟨count, within⟩)

def writeAll (ρ : Type) [Register ρ] (bytes : Vector UInt8 (Register.width ρ)) :
    BusM Unit :=
  writeBytes ρ bytes (Register.width ρ) Register.width_le_width

def writeRegister {ρ : Type} [WritableRegister ρ] (register : ρ) : BusM Unit :=
  writeAll ρ (EncodableRegister.encode register)

end Bus

end LoraRadio
