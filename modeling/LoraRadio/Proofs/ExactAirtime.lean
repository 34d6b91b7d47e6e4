import LoraRadio.Proofs.Airtime
import Mathlib.Data.Rat.Floor
import Mathlib.Tactic.Linarith
import Mathlib.Tactic.Ring

/-!
# The exact airtime

The airtime of a packet is a rational number of milliseconds.  The computed one
is rounded twice: down to whole microseconds, and up to whole milliseconds.  It
is nevertheless the exact time rounded up once, because the exact time is a
fraction whose denominator is at most a thousand.
-/

namespace LoraRadio

/-! ## Rounding -/

theorem ceil_div_eq (dividend : ℤ) {divisor : ℤ} (positive : 0 < divisor) :
    ⌈(dividend : ℚ) / divisor⌉ = (dividend + divisor - 1) / divisor := by
  have exact := Int.ediv_mul_add_emod (dividend + divisor - 1) divisor
  have low := Int.emod_nonneg (dividend + divisor - 1) positive.ne'
  have high := Int.emod_lt_of_pos (dividend + divisor - 1) positive
  have scale : (0 : ℚ) < divisor := by exact_mod_cast positive
  rw [Int.ceil_eq_iff, lt_div_iff₀ scale, div_le_iff₀ scale]
  refine ⟨?_, ?_⟩
  · have below : ((dividend + divisor - 1) / divisor - 1) * divisor <
      dividend := by linarith
    exact_mod_cast below
  · have above : dividend ≤ (dividend + divisor - 1) / divisor * divisor := by
      linarith
    exact_mod_cast above

/-- A fraction with at most a thousand parts to the whole is a thousandth or
more above the whole number that it exceeds, so rounding it down to thousandths
first does not reach that number. -/
theorem ceil_div_of_le {dividend divisor : ℕ} (positive : 0 < divisor)
    (fine : divisor ≤ 1000) :
    ⌈(dividend : ℚ) / divisor⌉ =
      ((dividend * 1000 / divisor + 999) / 1000 : ℕ) := by
  have scale : (0 : ℚ) < divisor := by exact_mod_cast positive
  have exact := Nat.div_add_mod (dividend * 1000) divisor
  have rest := Nat.mod_lt (dividend * 1000) positive
  generalize dividend * 1000 / divisor = parts at exact ⊢
  generalize dividend * 1000 % divisor = left at exact rest
  have low : (parts + 999) / 1000 * 1000 < parts + 1000 := by omega
  have high : parts ≤ (parts + 999) / 1000 * 1000 := by omega
  generalize (parts + 999) / 1000 = whole at low high ⊢
  rw [Int.ceil_eq_iff, lt_div_iff₀ scale, div_le_iff₀ scale]
  refine ⟨?_, ?_⟩
  · have below : whole * divisor < dividend + divisor := by nlinarith
    have below : (whole * divisor : ℚ) < dividend + divisor := by
      exact_mod_cast below
    push_cast
    linarith
  · have above : dividend * 1000 < (whole * divisor + 1) * 1000 := by nlinarith
    have above : dividend ≤ whole * divisor := by omega
    exact_mod_cast above

theorem ceil_div_of_dvd {common dividend divisor : ℕ}
    (above : common ∣ dividend) (below : common ∣ divisor)
    (positive : 0 < divisor) (fine : divisor ≤ 1000 * common) :
    ⌈(dividend : ℚ) / divisor⌉ =
      ((dividend * 1000 / divisor + 999) / 1000 : ℕ) := by
  obtain ⟨first, rfl⟩ := above
  obtain ⟨second, rfl⟩ := below
  have nonzero : 0 < common := Nat.pos_of_mul_pos_right positive
  have reduced :=
    @ceil_div_of_le first second (Nat.pos_of_mul_pos_left positive)
      (by nlinarith)
  have scale : (common : ℚ) ≠ 0 := by exact_mod_cast nonzero.ne'
  rw [Nat.cast_mul, Nat.cast_mul, mul_div_mul_left _ _ scale, reduced,
    Nat.mul_assoc, Nat.mul_div_mul_left _ _ nonzero]

namespace Bandwidth

theorem hz_ge (bandwidth : Bandwidth) : 7800 ≤ bandwidth.hz.toNat := by
  cases bandwidth <;> decide

theorem hz_pos (bandwidth : Bandwidth) : 0 < bandwidth.hz.toNat :=
  Nat.lt_of_lt_of_le (by decide) bandwidth.hz_ge

/-- A quarter symbol of the smallest spreading factor is a fraction of a
millisecond with at most a thousand parts to the whole. -/
theorem parts_le (bandwidth : Bandwidth) :
    4 * bandwidth.hz.toNat ≤
      1000 * Nat.gcd (64 * 1000) (4 * bandwidth.hz.toNat) := by
  cases bandwidth <;> decide

end Bandwidth

namespace Configuration

/-! ## The formula -/

section

variable (known : Configuration)

def symbolMs : ℚ :=
  2 ^ known.spreadingFactor.toNat * 1000 / known.bandwidth.hz.toNat

/-- The bits of one coded block.  A symbol of more than 16 ms holds two bits
less. -/
def exactBlockBits : ℚ :=
  4 * (known.spreadingFactor.toNat - 2 * if 16 < known.symbolMs then 1 else 0)

def exactBlocks (length : UInt8) : ℤ :=
  max 0 ⌈(8 * length.toNat - 4 * known.spreadingFactor.toNat + 28
    + 16 * (if known.checksum then 1 else 0)
    - 20 * (if known.headerMode = .implicit then 1 else
      0)) / known.exactBlockBits⌉

def exactMs (length : UInt8) : ℚ :=
  (known.preambleLength.toNat + 17 / 4 + 8
    + known.exactBlocks length * known.codingRate.toNat) * known.symbolMs

end

/-! ## What is computed -/

variable {known : Configuration}

theorem cast_payloadBits (length : UInt8) :
    (known.payloadBits length : ℚ) =
      8 * length.toNat - 4 * known.spreadingFactor.toNat + 28
      + 16 * (if known.checksum then 1 else 0)
      - 20 * (if known.headerMode = .implicit then 1 else 0) := by
  unfold payloadBits
  split_ifs <;> push_cast <;> ring

theorem slowSymbols_iff :
    slowSymbols known.spreadingFactor known.bandwidth = true ↔
    16 < known.symbolMs := by
  have scale : (0 : ℚ) < known.bandwidth.hz.toNat := by
    exact_mod_cast known.bandwidth.hz_pos
  rw [slowSymbols, decide_eq_true_iff, symbolMs, lt_div_iff₀ scale,
    Nat.one_shiftLeft, mul_comm 1000]
  norm_cast

theorem cast_blockBits :
    (known.blockBits (slowSymbols known.spreadingFactor known.bandwidth) : ℚ) =
      known.exactBlockBits := by
  unfold blockBits exactBlockBits
  by_cases slow : 16 < known.symbolMs
  · rw [slowSymbols_iff.mpr slow, if_pos slow]
    simp
  · rw [Bool.eq_false_iff.mpr (mt slowSymbols_iff.mp slow), if_neg slow]
    simp

theorem payloadBlocks_exact_of_pos
    (block : 0 <
      known.blockBits (slowSymbols known.spreadingFactor known.bandwidth))
    (length : UInt8) :
    known.payloadBlocks
        (slowSymbols known.spreadingFactor known.bandwidth) length =
      .ok (known.exactBlocks length) := by
  rw [payloadBlocks_eq block, exactBlocks, ← cast_payloadBits, ← cast_blockBits,
    ceil_div_eq _ block]
  congr 1
  split
  case isTrue positive =>
    rw [max_eq_right]
    exact Int.ediv_nonneg (by omega) (by omega)
  case isFalse negative =>
    rw [max_eq_left]
    exact Int.le_of_lt_add_one (Int.ediv_lt_of_lt_mul (by omega) (by omega))

theorem payloadBlocks_exact
    (factor : SpreadingFactor.span.Contains known.spreadingFactor)
    (length : UInt8) :
    known.payloadBlocks
        (slowSymbols known.spreadingFactor known.bandwidth) length =
      .ok (known.exactBlocks length) :=
  payloadBlocks_exact_of_pos
    (Int.lt_of_lt_of_le (by decide) (blockBits_bounds factor _).1) length

theorem cast_quarterSymbols {blocks : ℤ} (nonneg : 0 ≤ blocks) :
    (known.quarterSymbols blocks : ℚ) =
      4 * (known.preambleLength.toNat + 17 / 4 + 8
        + blocks * known.codingRate.toNat) := by
  obtain ⟨count, rfl⟩ := Int.eq_ofNat_of_zero_le nonneg
  have whole : (8 + (count : ℤ) * known.codingRate.toNat).toNat =
      8 + count * known.codingRate.toNat := by
    exact_mod_cast Int.toNat_natCast (8 + count * known.codingRate.toNat)
  rw [quarterSymbols, whole]
  push_cast
  ring

theorem dvd_chips
    (factor : SpreadingFactor.span.Contains known.spreadingFactor) :
    64 ∣ 1 <<< known.spreadingFactor.toNat := by
  have low : 6 ≤ known.spreadingFactor.toNat :=
    UInt8.le_iff_toNat_le.mp factor.1
  rw [Nat.one_shiftLeft]
  exact pow_dvd_pow 2 low

/-- The two roundings make one. -/
theorem ceil_quarters
    (factor : SpreadingFactor.span.Contains known.spreadingFactor)
    (quarters : ℕ) :
    ⌈(quarters : ℚ) / 4 * known.symbolMs⌉ =
      ((quarters * 1 <<< known.spreadingFactor.toNat * 1000000
        / (4 * known.bandwidth.hz.toNat) + 999) / 1000 : ℕ) := by
  have positive : 0 < 4 * known.bandwidth.hz.toNat :=
    Nat.mul_pos (by decide) known.bandwidth.hz_pos
  have whole : Nat.gcd (64 * 1000) (4 * known.bandwidth.hz.toNat) ∣
      quarters * 1 <<< known.spreadingFactor.toNat * 1000 :=
    (Nat.gcd_dvd_left _ _).trans
      (Nat.mul_dvd_mul (Dvd.dvd.mul_left (dvd_chips factor) quarters) dvd_rfl)
  have exact : (quarters : ℚ) / (4 : ℚ) * known.symbolMs =
      ((quarters * 1 <<< known.spreadingFactor.toNat * 1000 : ℕ) : ℚ)
        / ((4 * known.bandwidth.hz.toNat : ℕ) : ℚ) := by
    rw [symbolMs, Nat.one_shiftLeft]
    push_cast
    ring
  rw [exact, ceil_div_of_dvd whole
    (Nat.gcd_dvd_right _ _) positive known.bandwidth.parts_le,
    Nat.mul_assoc _ 1000 1000]

/-- No setting makes a packet longer than a day, so that the number fits its
word. -/
theorem exists_airtimeMs_ceil (known : Configuration)
    (factor : SpreadingFactor.span.Contains known.spreadingFactor)
    (rate : CodingRate.span.Contains known.codingRate) (length : UInt8) :
    ∃ ms, known.airtimeMs length = .ok ms ∧
      (ms.toNat : ℤ) = ⌈known.exactMs length⌉ ∧
      ms.toNat ≤ 24 * 60 * 60 * 1000 := by
  have counted := payloadBlocks_exact factor length
  obtain ⟨blocks, sameBlocks, high⟩ := exists_payloadBlocks factor
    (slowSymbols known.spreadingFactor known.bandwidth) length
  obtain rfl : known.exactBlocks length = blocks :=
    Except.ok.inj (counted.symm.trans sameBlocks)
  have bound : (known.quarterSymbols (known.exactBlocks length)
      * 1 <<< known.spreadingFactor.toNat * 1000000
        / (4 * known.bandwidth.hz.toNat) + 999) / 1000 ≤
          24 * 60 * 60 * 1000 := by
    have product := quarterSymbols_mul_le factor rate high
    have quotient := Nat.div_le_div (Nat.mul_le_mul_right 1000000 product)
      (Nat.mul_le_mul_left 4 known.bandwidth.hz_ge) (by decide)
    omega
  have number := UInt32.toNat_ofNat_of_lt'
    (Nat.lt_of_le_of_lt bound (by decide : _ < UInt32.size))
  have nonneg : 0 ≤ known.exactBlocks length := le_max_left _ _
  have exact : known.exactMs length =
      (known.quarterSymbols (known.exactBlocks length) : ℚ) / 4
        * known.symbolMs := by
    rw [exactMs, cast_quarterSymbols nonneg]
    ring
  refine ⟨_, airtimeMs_eq factor rate counted high, ?_, ?_⟩
  · rw [number, exact, ceil_quarters factor]
  · rw [number]
    exact bound

theorem airtimeMs_eq_ceil (known : Configuration)
    (factor : SpreadingFactor.span.Contains known.spreadingFactor)
    (rate : CodingRate.span.Contains known.codingRate) (length : UInt8) :
    ∃ ms, known.airtimeMs length = .ok ms ∧
      (ms.toNat : ℤ) = ⌈known.exactMs length⌉ := by
  obtain ⟨ms, computed, exact, -⟩ :=
    exists_airtimeMs_ceil known factor rate length
  exact ⟨ms, computed, exact⟩

/-- The longest packet at 41.7 kHz, where the exact time has the most parts. -/
theorem ceil_exactMs_longest :
    let longest : Configuration :=
      { spreadingFactor := 12, bandwidth := .khz41_7, codingRate :=
        8, checksum := true }
    SpreadingFactor.span.Contains longest.spreadingFactor ∧
      CodingRate.span.Contains longest.codingRate ∧
        ⌈longest.exactMs 255⌉ = 42066 := by
  intro longest
  have factor : SpreadingFactor.span.Contains longest.spreadingFactor :=
    ⟨by decide, by decide⟩
  have rate : CodingRate.span.Contains longest.codingRate :=
    ⟨by decide, by decide⟩
  obtain ⟨ms, computed, exact⟩ := airtimeMs_eq_ceil longest factor rate 255
  have value : (longest.airtimeMs 255).toOption = some 42066 := by
    decide +kernel
  rw [computed] at value
  obtain rfl : ms = 42066 := Option.some.inj value
  exact ⟨factor, rate, exact.symm⟩

end Configuration

end LoraRadio
