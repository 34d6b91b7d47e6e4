import LoraRadio.Bus
import LoraRadio.Coroutine

/-!
# Deferred register access

The same accesses as operations that can be dropped between two bytes.
-/

namespace LoraRadio

abbrev BusTask := Deferred AccessError Unit

namespace BusTask

def read (header : ReadHeader) : BusTask UInt8 where
  start state := .read state header fun
    | some value => .finished state (.ok value)
    | none => .finished state (.error .bus)

def write (header : WriteHeader) (value : UInt8) : BusTask Unit where
  start state := .write state header value fun
    | true => .finished state (.ok ())
    | false => .finished state (.error .bus)

def readAt (address : UInt8) : BusTask UInt8 :=
  read (ReadHeader.ofByte address)

def writeAt (address value : UInt8) : BusTask Unit :=
  write (WriteHeader.ofByte address) value

def readBytes (ρ : Type) [Register ρ] :
    (count : Nat) → count ≤ Register.width ρ → BusTask (Vector UInt8 count)
  | 0, _ => pure #v[]
  | count + 1, within => do
      let bytes ← readBytes ρ count (Register.le_width_of_succ within)
      let byte ← read (Register.address ρ ⟨count, within⟩)
      return bytes.push byte

def readRegister (ρ : Type) [Register ρ] : BusTask ρ := do
  let bytes ← readBytes ρ (Register.width ρ) Register.width_le_width
  match Register.decode bytes with
  | .ok register => return register
  | .error _ => Deferred.fail .decoding

def writeBytes (ρ : Type) [Register ρ]
    (bytes : Vector UInt8 (Register.width ρ)) :
    (count : Nat) → count ≤ Register.width ρ → BusTask Unit
  | 0, _ => pure ()
  | count + 1, within => do
      writeBytes ρ bytes count (Register.le_width_of_succ within)
      write (Register.address ρ ⟨count, within⟩) (bytes.get ⟨count, within⟩)

def writeAll (ρ : Type) [Register ρ] (bytes : Vector UInt8 (Register.width ρ)) :
    BusTask Unit :=
  writeBytes ρ bytes (Register.width ρ) Register.width_le_width

def writeRegister {ρ : Type} [WritableRegister ρ] (register : ρ) :
    BusTask Unit :=
  writeAll ρ (EncodableRegister.encode register)

end BusTask

end LoraRadio
