import LoraRadio.Proofs.ExactAirtime

/-!
# Where the airtime has no value

Settings that no setter would leave can take the computation to a limit of
machine arithmetic.  The first step that runs into one decides: the chips of a
symbol are counted before anything else, then the bits of a block are divided
by, and the length of the packet comes last.
-/

namespace LoraRadio

theorem Checked.error_bind {α β : Type} (trap : Trap) (next : α → Checked β) :
    ((.error trap : Checked α) >>= next) = .error trap := rfl

theorem Checked.mul64_of_ge {first second : ℕ}
    (large : UInt64.size ≤ first * second) :
    mul64 first second = .error .multiplyOverflow := by
  simp [mul64, large]

theorem lowDataRate_of_shift {factor : UInt8} (large : 64 ≤ factor.toNat)
    (bandwidth : Bandwidth) :
    lowDataRate factor bandwidth = .error .shiftOverflow := by
  rw [lowDataRate, Checked.pow64, if_neg (Nat.not_lt.mpr large),
    Checked.error_bind]

theorem lowDataRate_of_product {factor : UInt8} (low : 55 ≤ factor.toNat)
    (high : factor.toNat < 64) (bandwidth : Bandwidth) :
    lowDataRate factor bandwidth = .error .multiplyOverflow := by
  have chips : 2 ^ 55 ≤ 1 <<< factor.toNat := by
    rw [Nat.one_shiftLeft]
    exact Nat.pow_le_pow_right (by decide) low
  have product : UInt64.size ≤ 1000 * 1 <<< factor.toNat := by
    have size : UInt64.size = 2 ^ 64 := rfl
    omega
  rw [lowDataRate, Checked.pow64_of_lt high, Checked.ok_bind,
    Checked.mul64_of_ge product]
  rfl

theorem seven_le_of_slowSymbols {factor : UInt8} {bandwidth : Bandwidth}
    (slow : slowSymbols factor bandwidth = true) : 7 ≤ factor.toNat := by
  by_contra short
  have chips : 1 <<< factor.toNat ≤ 2 ^ 6 := by
    rw [Nat.one_shiftLeft]
    exact Nat.pow_le_pow_right (by decide) (by omega)
  have width := bandwidth.hz_ge
  simp only [slowSymbols, decide_eq_true_eq] at slow
  omega

theorem slowSymbols_of_zero {factor : UInt8} (zero : factor.toNat = 0)
    (bandwidth : Bandwidth) :
    slowSymbols factor bandwidth = false := by
  by_contra slow
  have := seven_le_of_slowSymbols (Bool.eq_true_of_not_eq_false slow)
  omega

namespace Configuration

def exactQuarters (known : Configuration) (length : UInt8) : ℤ :=
  4 * known.preambleLength.toNat + 17
    + 4 * (8 + known.exactBlocks length * known.codingRate.toNat)

def exactProduct (known : Configuration) (length : UInt8) : ℤ :=
  known.exactQuarters length * 2 ^ known.spreadingFactor.toNat * 1000000

/-- The intermediate results that are computed without a check. -/
def unchecked (known : Configuration) (length : UInt8) (optimized : Bool) :
    List ℤ :=
  [known.payloadBits length, known.blockBits optimized,
    known.payloadBits length + known.blockBits optimized - 1,
    known.exactBlocks length * known.codingRate.toNat,
    known.exactQuarters length]

variable {known : Configuration} {length : UInt8}

theorem payloadBits_pos (zero : known.spreadingFactor.toNat = 0)
    (length : UInt8) :
    0 < known.payloadBits length := by
  unfold payloadBits
  split_ifs <;> omega

theorem blockBits_pos (positive : 0 < known.spreadingFactor.toNat) :
    0 < known.blockBits
      (slowSymbols known.spreadingFactor known.bandwidth) := by
  unfold blockBits
  split
  case isTrue slow =>
    have := seven_le_of_slowSymbols slow
    omega
  case isFalse => omega

theorem natCast_quarterSymbols (known : Configuration) (length : UInt8) :
    (known.quarterSymbols (known.exactBlocks length) : ℤ) =
      known.exactQuarters length := by
  have blocks : 0 ≤ known.exactBlocks length := le_max_left _ _
  have coded : 0 ≤ 8 + known.exactBlocks length * known.codingRate.toNat := by
    positivity
  simp [quarterSymbols, exactQuarters, Int.toNat_of_nonneg coded]

theorem natCast_product (known : Configuration) (length : UInt8) :
    ((known.quarterSymbols (known.exactBlocks length) * 1
      <<< known.spreadingFactor.toNat * 1000000
      : ℕ) : ℤ) = known.exactProduct length := by
  rw [exactProduct, ← natCast_quarterSymbols, Nat.one_shiftLeft]
  push_cast
  rfl

theorem exactBlocks_le (known : Configuration) (length : UInt8) :
    0 ≤ known.exactBlocks length ∧ known.exactBlocks length ≤ 2084 := by
  refine ⟨le_max_left _ _, max_le (by decide) ?_⟩
  have most := known.payloadBits_le length
  rw [← cast_payloadBits, ← cast_blockBits]
  rcases Nat.eq_zero_or_pos known.spreadingFactor.toNat with zero | positive
  · have block :
        known.blockBits (slowSymbols known.spreadingFactor known.bandwidth) =
          0 := by
      rw [slowSymbols_of_zero zero]
      simp [blockBits, zero]
    simp [block]
  · have block := blockBits_pos positive
    rw [ceil_div_eq _ block]
    refine Int.le_of_lt_add_one (Int.ediv_lt_of_lt_mul block ?_)
    nlinarith

theorem unchecked_bounds (known : Configuration) (length : UInt8)
    (optimized : Bool) :
    ∀ value ∈ known.unchecked length optimized,
      -2 ^ 22 < value ∧ value < 2 ^ 22 := by
  obtain ⟨low, high⟩ := known.exactBlocks_le length
  have factor : known.spreadingFactor.toNat < 256 :=
    known.spreadingFactor.toNat_lt
  have rate : known.codingRate.toNat < 256 := known.codingRate.toNat_lt
  have preamble : known.preambleLength.toNat < 65536 :=
    known.preambleLength.toNat_lt
  have most := known.payloadBits_le length
  have least : -1012 ≤ known.payloadBits length := by
    unfold payloadBits
    split_ifs <;> omega
  have block : -8 ≤ known.blockBits optimized ∧
      known.blockBits optimized ≤ 1020 := by
    unfold blockBits
    split <;> omega
  have coded : 0 ≤ known.exactBlocks length * known.codingRate.toNat ∧
      known.exactBlocks length * known.codingRate.toNat ≤ 2084 * 255 := by
    constructor <;> nlinarith
  simp only [unchecked, exactQuarters, List.forall_mem_cons, List.not_mem_nil,
    false_imp_iff, implies_true, and_true]
  omega

/-! ## The steps in their order -/

theorem airtimeMs_of_shift (large : 64 ≤ known.spreadingFactor.toNat) :
    known.airtimeMs length = .error .shiftOverflow := by
  rw [airtimeMs, lowDataRate_of_shift large, Checked.error_bind]

theorem airtimeMs_of_chips (low : 55 ≤ known.spreadingFactor.toNat)
    (high : known.spreadingFactor.toNat < 64) :
    known.airtimeMs length = .error .multiplyOverflow := by
  rw [airtimeMs, lowDataRate_of_product low high, Checked.error_bind]

theorem airtimeMs_of_zero (zero : known.spreadingFactor.toNat = 0) :
    known.airtimeMs length = .error .divideByZero := by
  have block : known.blockBits false = 0 := by simp [blockBits, zero]
  -- There is something to put into blocks without bits, whatever the packet.
  rw [airtimeMs, lowDataRate_of_lt (by omega), Checked.ok_bind,
    slowSymbols_of_zero zero, payloadBlocks,
    if_pos (payloadBits_pos zero length), Checked.div, if_pos block,
    Checked.error_bind]

theorem airtimeMs_of_product (positive : 0 < known.spreadingFactor.toNat)
    (small : known.spreadingFactor.toNat < 55)
    (large : 2 ^ 64 ≤ known.exactProduct length) :
    known.airtimeMs length = .error .multiplyOverflow := by
  have product : UInt64.size ≤ known.quarterSymbols (known.exactBlocks length)
      * 1 <<< known.spreadingFactor.toNat * 1000000 := by
    rw [← natCast_product] at large
    exact_mod_cast large
  rw [airtimeMs, lowDataRate_of_lt small, Checked.ok_bind,
    payloadBlocks_exact_of_pos (blockBits_pos positive), Checked.ok_bind,
    Checked.pow64_of_lt (by omega), Checked.ok_bind]
  -- The product before the last one may be too large already.
  by_cases fits : known.quarterSymbols (known.exactBlocks length)
      * 1 <<< known.spreadingFactor.toNat < UInt64.size
  · rw [Checked.mul64_of_lt fits, Checked.ok_bind, Checked.mul64_of_ge product,
      Checked.error_bind]
  · rw [Checked.mul64_of_ge (Nat.le_of_not_lt fits), Checked.error_bind]

theorem exists_airtimeMs_of_product (positive : 0 < known.spreadingFactor.toNat)
    (small : known.spreadingFactor.toNat < 55)
    (fits : known.exactProduct length < 2 ^ 64) :
    ∃ ms, known.airtimeMs length = .ok ms ∧ (ms.toNat : ℤ) =
      ⌈(⌊(known.exactProduct length : ℚ)
        / (4 * known.bandwidth.hz.toNat : ℕ)⌋ : ℚ) / 1000⌉ % 2 ^ 32 := by
  have word : known.quarterSymbols (known.exactBlocks length)
      * 1 <<< known.spreadingFactor.toNat * 1000000 < UInt64.size := by
    rw [← natCast_product] at fits
    exact_mod_cast fits
  refine ⟨_, airtimeMs_of_fits small
    (payloadBlocks_exact_of_pos (blockBits_pos positive) length) word, ?_⟩
  have ceiling (whole : ℤ) : ⌈(whole : ℚ) / 1000⌉ =
      (whole + 1000 - 1) / 1000 := by
    exact_mod_cast ceil_div_eq whole (by decide : (0 : ℤ) < 1000)
  rw [Rat.floor_intCast_div_natCast, ceiling, ← natCast_product,
    UInt32.toNat_ofNat']
  generalize known.quarterSymbols _ * _ * 1000000 = product
  generalize 4 * known.bandwidth.hz.toNat = divisor
  push_cast
  generalize (product / divisor : ℤ) = whole
  omega

theorem airtimeMs_cases (known : Configuration) (length : UInt8) :
    let factor := known.spreadingFactor.toNat
    (factor = 0 ∧ known.airtimeMs length = .error .divideByZero) ∨
    (64 ≤ factor ∧ known.airtimeMs length = .error .shiftOverflow) ∨
    (((55 ≤ factor ∧ factor < 64) ∨
        (0 < factor ∧ factor < 55 ∧ 2 ^ 64 ≤ known.exactProduct length)) ∧
      known.airtimeMs length = .error .multiplyOverflow) ∨
    ((0 < factor ∧ factor < 55 ∧ known.exactProduct length < 2 ^ 64) ∧
      ∃ ms, known.airtimeMs length = .ok ms ∧ (ms.toNat : ℤ) =
        ⌈(⌊(known.exactProduct length : ℚ)
          / (4 * known.bandwidth.hz.toNat : ℕ)⌋ : ℚ) / 1000⌉ % 2 ^ 32) := by
  intro factor
  have ranges : factor = 0 ∨ 64 ≤ factor ∨ (55 ≤ factor ∧ factor < 64) ∨
      (0 < factor ∧ factor < 55) := by omega
  rcases ranges with zero | shift | ⟨low, high⟩ | ⟨positive, small⟩
  · exact .inl ⟨zero, airtimeMs_of_zero zero⟩
  · exact .inr (.inl ⟨shift, airtimeMs_of_shift shift⟩)
  · exact .inr (.inr (.inl ⟨.inl ⟨low, high⟩, airtimeMs_of_chips low high⟩))
  · rcases lt_or_ge (known.exactProduct length) (2 ^ 64) with fits | large
    · exact .inr (.inr (.inr ⟨⟨positive, small, fits⟩,
        exists_airtimeMs_of_product positive small fits⟩))
    · exact .inr (.inr (.inl ⟨.inr ⟨positive, small, large⟩,
        airtimeMs_of_product positive small large⟩))

/-- The airtime of every packet under all settings: which limit the computation
runs into, or the exact time rounded down to microseconds, up to milliseconds
and cut to a word. -/
theorem airtimeMs_limits (known : Configuration) (length : UInt8) :
    let factor := known.spreadingFactor.toNat
    let product : ℤ := known.exactQuarters length * 2 ^ factor * 1000000
    let overflows := (55 ≤ factor ∧ factor ≤ 63) ∨
      (1 ≤ factor ∧ factor ≤ 54 ∧ 2 ^ 64 ≤ product)
    (known.airtimeMs length = .error .divideByZero ↔ factor = 0) ∧
    (known.airtimeMs length = .error .shiftOverflow ↔ 64 ≤ factor) ∧
    (known.airtimeMs length = .error .multiplyOverflow ↔ overflows) ∧
    ((∃ ms, known.airtimeMs length = .ok ms ∧
        (ms.toNat : ℤ) =
          ⌈(⌊(product : ℚ) / (4 * known.bandwidth.hz.toNat : ℕ)⌋ : ℚ) / 1000⌉
            % 2 ^ 32) ↔
      ¬(factor = 0 ∨ 64 ≤ factor ∨ overflows)) ∧
    ∀ optimized, ∀ value ∈ known.unchecked length optimized,
      -2 ^ 22 < value ∧ value < 2 ^ 22 := by
  intro factor product overflows
  simp only [← and_assoc]
  refine ⟨?_, known.unchecked_bounds length⟩
  have same : product = known.exactProduct length := rfl
  -- Each range of factors has an outcome of its own, which excludes the others.
  rcases known.airtimeMs_cases length with
    ⟨zero, outcome⟩ | ⟨shift, outcome⟩ | ⟨large, outcome⟩ |
      ⟨fits, ms, outcome, rounded⟩
  · simp only [outcome, overflows, Except.error.injEq, reduceCtorEq, false_and,
      exists_false, true_iff, false_iff]
    omega
  · simp only [outcome, overflows, Except.error.injEq, reduceCtorEq, false_and,
      exists_false, true_iff, false_iff]
    omega
  · simp only [outcome, overflows, same, Except.error.injEq, reduceCtorEq,
      false_and, exists_false, true_iff, false_iff]
    omega
  · simp only [outcome, overflows, same, rounded, Except.ok.injEq, reduceCtorEq,
      exists_eq_left', true_iff, false_iff]
    omega

end Configuration

end LoraRadio
