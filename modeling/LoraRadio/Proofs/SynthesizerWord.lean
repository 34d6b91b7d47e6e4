import LoraRadio.Proofs.CarrierRounding
import LoraRadio.Proofs.Coherence
import LoraRadio.Proofs.RegisterLayout
import Mathlib.Data.Nat.GCD.Basic
import Mathlib.Data.Rat.Floor
import Mathlib.Tactic.Linarith

/-!
# The word of a carrier

The word that programs a carrier is the largest number of whole steps that does
not exceed the carrier.  It fits into the three bytes of its register, so the
chip is never tuned above the carrier and always less than one step below it.

In the other direction the carrier of a word is rounded down to whole Hz, and
the word of what is left is one too small, except where nothing had to be
rounded: at every 256th word.
-/

namespace LoraRadio.Carrier

def stepHz : ℚ :=
  crystalHz / 2 ^ 19

def tunedHz (word : UInt32) : ℚ :=
  word.toNat * stepHz

theorem le_toWord_iff {steps : Nat} {hz : UInt32} :
    steps ≤ (toWord hz).toNat ↔ steps * crystalHz ≤ hz.toNat <<< 19 := by
  rw [toNat_toWord]
  exact Nat.le_div_iff_mul_le (by decide)

theorem toWord_bounds (hz : UInt32) :
    (toWord hz).toNat * crystalHz ≤ hz.toNat * 2 ^ 19 ∧
      hz.toNat * 2 ^ 19 < ((toWord hz).toNat + 1) * crystalHz := by
  rw [← Nat.shiftLeft_eq, ← le_toWord_iff, ← Nat.not_le, ← le_toWord_iff]
  exact ⟨Nat.le_refl _, Nat.not_succ_le_self _⟩

theorem toWord_le_toWord {low high : UInt32} (order : low ≤ high) :
    toWord low ≤ toWord high := by
  have given := UInt32.le_iff_toNat_le.mp order
  rw [UInt32.le_iff_toNat_le, le_toWord_iff, Nat.shiftLeft_eq]
  calc
    (toWord low).toNat * crystalHz ≤ low.toNat * 2 ^ 19 := (toWord_bounds low).1
    _ ≤ high.toNat * 2 ^ 19 := Nat.mul_le_mul_right _ given

theorem tunedHz_toWord (hz : UInt32) :
    tunedHz (toWord hz) ≤ hz.toNat ∧
      hz.toNat < tunedHz (toWord hz) + stepHz := by
  obtain ⟨low, high⟩ := toWord_bounds hz
  have low : ((toWord hz).toNat * crystalHz : ℚ) ≤ hz.toNat * 2 ^ 19 := by
    exact_mod_cast low
  have high : (hz.toNat * 2 ^ 19 : ℚ) <
      ((toWord hz).toNat + 1) * crystalHz := by
    exact_mod_cast high
  unfold tunedHz stepHz
  constructor <;> linarith

theorem toNat_ofWord {word : UInt32} (small : word.toNat < 2 ^ 24) :
    (ofWord word).toNat = 15625 * word.toNat / 256 := by
  have fits : (word.toNat * crystalHz) >>> 19 < UInt32.size := by
    rw [crystalHz, UInt32.size]
    omega
  obtain ⟨low, high⟩ := ofWord_bounds fits
  rw [crystalHz] at low high
  omega

theorem toWord_ofWord {word : UInt32} (small : word.toNat < 2 ^ 24) :
    toWord (ofWord word) = if 256 ∣ word.toNat then word else word - 1 := by
  have exact := Nat.div_add_mod (15625 * word.toNat) 256
  have below := Nat.mod_lt (15625 * word.toNat) (show 0 < 256 by decide)
  rw [← toNat_ofWord small] at exact
  -- What is rounded off is less than a step, so the word falls by one unless
  -- nothing is.
  have rounded : 15625 * word.toNat % 256 = 0 ↔ 256 ∣ word.toNat := by
    rw [← Nat.dvd_iff_mod_eq_zero]
    exact Nat.Coprime.dvd_mul_left (by decide)
  have reaches (steps : Nat) : steps ≤ (toWord (ofWord word)).toNat ↔
      15625 * steps + 15625 * word.toNat % 256 ≤ 15625 * word.toNat := by
    rw [le_toWord_iff, crystalHz]
    omega
  generalize 15625 * word.toNat % 256 = part at below rounded reaches
  have same := reaches word.toNat
  have less := reaches (word.toNat - 1)
  have more := reaches (word.toNat + 1)
  apply UInt32.toNat_inj.mp
  by_cases whole : 256 ∣ word.toNat
  · rw [if_pos whole]
    have nothing := rounded.mpr whole
    omega
  · have something : part ≠ 0 := mt rounded.mp whole
    have positive : word.toNat ≠ 0 := by
      intro zero
      exact whole (zero ▸ Nat.dvd_zero 256)
    have before : (word - 1).toNat = word.toNat - 1 :=
      UInt32.toNat_sub_of_le _ _
        (UInt32.le_iff_toNat_le.mpr (Nat.one_le_iff_ne_zero.mpr positive))
    rw [if_neg whole, before]
    omega

/-- The word of every carrier that can be asked for fits its register, comes
back from it, and is the largest number of steps up to the carrier.  A higher
carrier never has a smaller word.  The word of the carrier of a word is the same
for every 256th word, and one less for the others. -/
theorem toWord_exact :
    (∀ hz : UInt32,
      let carrier := clamp hz
      let word := toWord carrier
      word.toNat < 2 ^ 24 ∧
      Register.width CarrierWord = 3 ∧
      Register.decode (EncodableRegister.encode (⟨word⟩ : CarrierWord)) =
        .ok (⟨word⟩ : CarrierWord) ∧
      (∀ steps : Int, steps * 32000000 ≤ carrier.toNat * 2 ^ 19 ↔
        steps ≤ word.toNat) ∧
      tunedHz word ≤ carrier.toNat ∧ carrier.toNat < tunedHz word + stepHz) ∧
    (∀ low high : UInt32, low ≤ high → toWord low ≤ toWord high) ∧
    ∀ word : UInt32, word.toNat < 2 ^ 24 →
      toWord (ofWord word) = if 256 ∣ word.toNat then word else word - 1 := by
  refine ⟨fun hz => ?_, fun _ _ => toWord_le_toWord, fun _ => toWord_ofWord⟩
  intro carrier word
  have fits : word.toNat < 2 ^ 24 :=
    toNat_toWord_lt (Span.contains_clamp (by decide) hz)
  have cut : word % 0x1000000 = word := by
    apply UInt32.toNat_inj.mp
    rw [UInt32.toNat_mod]
    exact Nat.mod_eq_of_lt fits
  refine ⟨fits, rfl, ?_, fun steps => ?_, tunedHz_toWord carrier⟩
  · rw [CarrierWord.exact_layout.decode_encode, cut]
  · have bounds : word.toNat * 32000000 ≤ carrier.toNat * 2 ^ 19 ∧
        carrier.toNat * 2 ^ 19 < (word.toNat + 1) * 32000000 :=
          toWord_bounds carrier
    omega

/-- The highest carrier, and the highest word, which does not come back. -/
theorem toWord_exact_highest :
    toWord (clamp 0xFFFFFFFF) = 0xFF0000 ∧ tunedHz 0xFF0000 ≤ 1020000000 ∧
      toWord 137000000 ≤ toWord 0xFFFFFFFF ∧
        toWord (ofWord 0xFFFFFF) = 0xFFFFFE := by
  obtain ⟨words, order, back⟩ := toWord_exact
  obtain ⟨-, -, -, -, tuned, -⟩ := words 0xFFFFFFFF
  have highest : toWord (clamp 0xFFFFFFFF) = 0xFF0000 := by decide
  have carrier : (clamp 0xFFFFFFFF).toNat = 1020000000 := by decide
  rw [highest, carrier] at tuned
  refine ⟨highest, by exact_mod_cast tuned, order _ _ (by decide), ?_⟩
  rw [back 0xFFFFFF (by decide), if_neg (by decide)]
  rfl

end LoraRadio.Carrier
