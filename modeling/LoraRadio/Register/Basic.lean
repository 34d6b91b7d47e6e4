import LoraRadio.RegisterName

/-!
# Typed registers

A register type says where its value lies in the register map, how many bytes it
takes, and how its fields and those bytes correspond.  Bytes of a wide register
are ordered most significant first.

Bit fields are cut out of a byte with `field` and `bit` and put back with
`place` and `flag`.  A number too large for its field loses its high bits and
never reaches a neighbour.
-/

namespace LoraRadio

/-- The bits `low`, …, `low + size - 1` of a byte, as a number. -/
def field (low size : Nat) (byte : UInt8) : UInt8 :=
  UInt8.ofNat ((byte.toNat >>> low) % (1 <<< size))

/-- The last `size` bits of a number, moved up to position `low`. -/
def place (low size : Nat) (value : UInt8) : UInt8 :=
  UInt8.ofNat ((value.toNat % (1 <<< size)) <<< low)

def bit (position : Nat) (byte : UInt8) : Bool :=
  (byte.toNat >>> position) % 2 = 1

def flag (position : Nat) (on : Bool) : UInt8 :=
  if on then UInt8.ofNat (1 <<< position) else 0

theorem toNat_field (low size : Nat) (byte : UInt8) :
    (field low size byte).toNat = (byte.toNat >>> low) % (1 <<< size) := by
  have small : (byte.toNat >>> low) % (1 <<< size) < 256 :=
    Nat.lt_of_le_of_lt (Nat.mod_le _ _)
      (Nat.lt_of_le_of_lt (Nat.shiftRight_le _ _) byte.toNat_lt)
  simp [field, Nat.mod_eq_of_lt small]

theorem toNat_place {low size : Nat} (within : low + size ≤ 8) (value : UInt8) :
    (place low size value).toNat = (value.toNat % (1 <<< size)) <<< low := by
  have cut : value.toNat % (1 <<< size) < 2 ^ size := by
    rw [Nat.one_shiftLeft]
    exact Nat.mod_lt _ (Nat.two_pow_pos size)
  have room : 2 ^ size * 2 ^ low ≤ 2 ^ 8 := by
    rw [← Nat.pow_add]
    exact Nat.pow_le_pow_right (by decide) (by omega)
  have small : (value.toNat % (1 <<< size)) <<< low < 256 := by
    rw [Nat.shiftLeft_eq]
    exact Nat.lt_of_lt_of_le
      (Nat.mul_lt_mul_of_pos_right cut (Nat.two_pow_pos low)) room
  simp [place, Nat.mod_eq_of_lt small]

theorem toNat_flag {position : Nat} (within : position < 8) (on : Bool) :
    (flag position on).toNat = if on then 1 <<< position else 0 := by
  have small : 1 <<< position < 256 := by
    rw [Nat.one_shiftLeft]
    exact Nat.pow_lt_pow_right (by decide) within
  cases on <;> simp [flag, Nat.mod_eq_of_lt small]

structure InvalidByte where
  byte : UInt8
  deriving DecidableEq, Repr

class Register (ρ : Type) where
  /-- The register at the first byte. -/
  name : RegisterName
  width : Nat
  fits : name.address.val + width ≤ 128
  decode : Vector UInt8 width → Except InvalidByte ρ

class EncodableRegister (ρ : Type) extends Register ρ where
  encode : ρ → Vector UInt8 width

class WritableRegister (ρ : Type) extends EncodableRegister ρ

namespace Register

variable {ρ : Type} [Register ρ]

theorem width_le_width : width ρ ≤ width ρ :=
  Nat.le_refl _

theorem le_width_of_succ {count : Nat} (within : count + 1 ≤ width ρ) :
    count ≤ width ρ :=
  Nat.le_of_succ_le within

theorem address_lt (offset : Fin (width ρ)) :
    (name ρ).address.val + offset.val < 128 :=
  Nat.lt_of_lt_of_le (Nat.add_lt_add_left offset.isLt _) fits

end Register

def Register.address (ρ : Type) [Register ρ] (offset : Fin (Register.width ρ)) :
    Address :=
  ⟨(Register.name ρ).address.val + offset.val, Register.address_lt offset⟩

def single (bytes : Vector UInt8 1) : UInt8 :=
  bytes[0]

/-- The number that bytes stand for, most significant first. -/
def bigEndian {count : Nat} (bytes : Vector UInt8 count) : Nat :=
  bytes.toList.foldl (fun number byte => number * 256 + byte.toNat) 0

@[reducible] def EncodableRegister.ofByte {ρ : Type} (name : RegisterName)
    (decode : UInt8 → Except InvalidByte ρ) (encode : ρ → UInt8) :
    EncodableRegister ρ where
  name := name
  width := 1
  fits := name.address_add_one_le
  decode bytes := decode (single bytes)
  encode register := #v[encode register]

end LoraRadio
