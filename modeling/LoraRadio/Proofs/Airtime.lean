import LoraRadio.Proofs.Settings

/-!
# Airtime of legal settings

Legal settings keep every intermediate result of the airtime far from the limits
of machine arithmetic, so there is always a wait for a packet.
-/

namespace LoraRadio

namespace Configuration

variable {known : Configuration}

theorem payloadBits_le (known : Configuration) (length : UInt8) :
    known.payloadBits length ≤ 2084 := by
  have size : length.toNat < 256 := length.toNat_lt
  unfold payloadBits
  split <;> split <;> omega

theorem blockBits_bounds
    (factor : SpreadingFactor.span.Contains known.spreadingFactor)
    (optimized : Bool) :
    16 ≤ known.blockBits optimized ∧ known.blockBits optimized ≤ 48 := by
  have low : 6 ≤ known.spreadingFactor.toNat :=
    UInt8.le_iff_toNat_le.mp factor.1
  have high : known.spreadingFactor.toNat ≤ 12 :=
    UInt8.le_iff_toNat_le.mp factor.2
  unfold blockBits
  cases optimized <;> simp <;> omega

theorem payloadBlocks_eq {optimized : Bool}
    (block : 0 < known.blockBits optimized) (length : UInt8) :
    known.payloadBlocks optimized length =
      .ok (if 0 < known.payloadBits length then
        (known.payloadBits length + known.blockBits optimized - 1)
          / known.blockBits optimized
      else 0) := by
  unfold payloadBlocks Checked.div
  by_cases positive : 0 < known.payloadBits length
  · have dividend :
      0 ≤ known.payloadBits length + known.blockBits optimized - 1 := by omega
    simp only [if_pos positive,
      if_neg (show known.blockBits optimized ≠ 0 by omega),
      Int.tdiv_eq_ediv_of_nonneg dividend]
  · simp only [if_neg positive]

theorem exists_payloadBlocks
    (factor : SpreadingFactor.span.Contains known.spreadingFactor)
    (optimized : Bool) (length : UInt8) :
    ∃ blocks, known.payloadBlocks optimized length = .ok blocks ∧
      blocks ≤ 2131 := by
  obtain ⟨low, high⟩ := blockBits_bounds factor optimized
  have most := known.payloadBits_le length
  refine ⟨_, payloadBlocks_eq (by omega) length, ?_⟩
  split
  · have dividend :
      0 ≤ known.payloadBits length + known.blockBits optimized - 1 := by omega
    have quotient := Int.ediv_le_self (known.blockBits optimized) dividend
    omega
  · decide

theorem quarterSymbols_lt (rate : CodingRate.span.Contains known.codingRate)
    {blocks : Int} (high : blocks ≤ 2131) :
    known.quarterSymbols blocks < 524288 := by
  have rate : (known.codingRate.toNat : Int) ≤ 8 :=
    Int.ofNat_le.mpr (UInt8.le_iff_toNat_le.mp rate.2)
  have preamble : known.preambleLength.toNat < 65536 :=
    known.preambleLength.toNat_lt
  have coded : blocks * known.codingRate.toNat ≤ 2131 * 8 :=
    Int.mul_le_mul high rate (Int.natCast_nonneg _) (by decide)
  unfold quarterSymbols
  omega

theorem quarterSymbols_mul_le
    (factor : SpreadingFactor.span.Contains known.spreadingFactor)
    (rate : CodingRate.span.Contains known.codingRate) {blocks : Int}
    (high : blocks ≤ 2131) :
    known.quarterSymbols blocks * 1 <<< known.spreadingFactor.toNat ≤
      2147483648 :=
  Nat.mul_le_mul (Nat.le_of_lt (quarterSymbols_lt rate high))
    (one_shiftLeft_le_of_factor factor)

theorem airtimeMs_of_fits (small : known.spreadingFactor.toNat < 55)
    {length : UInt8} {blocks : Int}
    (counted : known.payloadBlocks
      (slowSymbols known.spreadingFactor known.bandwidth) length = .ok blocks)
    (fits : known.quarterSymbols blocks * 1 <<< known.spreadingFactor.toNat
      * 1000000 < UInt64.size) :
    known.airtimeMs length = .ok (UInt32.ofNat
      ((known.quarterSymbols blocks * 1
        <<< known.spreadingFactor.toNat * 1000000
        / (4 * known.bandwidth.hz.toNat) + 999) / 1000)) := by
  have first : known.quarterSymbols blocks * 1 <<< known.spreadingFactor.toNat
      < UInt64.size := by omega
  rw [airtimeMs, lowDataRate_of_lt small, Checked.ok_bind, counted,
    Checked.ok_bind, Checked.pow64_of_lt (by omega), Checked.ok_bind,
    Checked.mul64_of_lt first, Checked.ok_bind, Checked.mul64_of_lt fits,
    Checked.ok_bind]
  rfl

theorem airtimeMs_eq
    (factor : SpreadingFactor.span.Contains known.spreadingFactor)
    (rate : CodingRate.span.Contains known.codingRate) {length : UInt8}
    {blocks : Int}
    (counted : known.payloadBlocks
      (slowSymbols known.spreadingFactor known.bandwidth) length = .ok blocks)
    (high : blocks ≤ 2131) :
    known.airtimeMs length = .ok (UInt32.ofNat
      ((known.quarterSymbols blocks * 1
        <<< known.spreadingFactor.toNat * 1000000
        / (4 * known.bandwidth.hz.toNat) + 999) / 1000)) := by
  have small : known.spreadingFactor.toNat < 55 :=
    Nat.lt_of_le_of_lt (UInt8.le_iff_toNat_le.mp factor.2) (by decide)
  have size : UInt64.size = 18446744073709551616 := rfl
  have product := quarterSymbols_mul_le factor rate high
  exact airtimeMs_of_fits small counted (by omega)

theorem exists_airtimeMs (legal : known.Legal) (length : UInt8) :
    ∃ ms, known.airtimeMs length = .ok ms := by
  obtain ⟨blocks, counted, high⟩ := exists_payloadBlocks legal.spreadingFactor
    (slowSymbols known.spreadingFactor known.bandwidth) length
  exact ⟨_, airtimeMs_eq legal.spreadingFactor legal.codingRate counted high⟩

theorem exists_pollingFor (legal : known.Legal) (length : UInt8) :
    ∃ polling, known.pollingFor length = .ok polling := by
  unfold pollingFor
  cases known.polling with
  | some polling => exact ⟨polling, rfl⟩
  | none =>
      obtain ⟨ms, computed⟩ := known.exists_airtimeMs legal length
      rw [computed]
      exact ⟨_, rfl⟩

end Configuration

end LoraRadio
