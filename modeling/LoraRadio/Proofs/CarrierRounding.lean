import LoraRadio.Proofs.Settings

/-!
# The carrier that comes back

A carrier is rounded down to whole steps of the synthesizer, and the carrier of
a word is rounded down to whole Hz.  Each rounding loses less than one unit of
its own, so together they lose less than a step and one Hz.  The two losses add
up: a carrier that lies just below a whole number of steps comes back more than
one step too low.
-/

namespace LoraRadio.Carrier

theorem toNat_toWord (hz : UInt32) :
    (toWord hz).toNat = (hz.toNat <<< 19) / crystalHz := by
  have small := hz.toNat_lt
  apply UInt32.toNat_ofNat_of_lt'
  rw [crystalHz, Nat.shiftLeft_eq, UInt32.size]
  omega

theorem ofWord_bounds {word : UInt32}
    (fits : (word.toNat * crystalHz) >>> 19 < UInt32.size) :
    (ofWord word).toNat <<< 19 ≤ word.toNat * crystalHz ∧
      word.toNat * crystalHz < ((ofWord word).toNat + 1) <<< 19 := by
  rw [ofWord, UInt32.toNat_ofNat_of_lt' fits]
  omega

/-- What comes back of a carrier is never above it.  What is lost is the part of
the carrier beyond whole steps, rounded up to whole Hz.  It is less than a step
and one Hz, and it is less than a step unless the part rounds up to 62 Hz; it
never does for a carrier in a raster of 125 Hz. -/
theorem ofWord_toWord_loss (hz : UInt32) :
    let lost := hz.toNat - (ofWord (toWord hz)).toNat
    let beyond := (hz.toNat <<< 19) % crystalHz
    ofWord (toWord hz) ≤ hz ∧
      (beyond ≤ lost <<< 19 ∧ lost <<< 19 < beyond + (1 <<< 19)) ∧
      lost <<< 19 < crystalHz + (1 <<< 19) ∧
      (lost <<< 19 < crystalHz ↔ beyond ≤ 61 <<< 19) ∧
      (125 ∣ hz.toNat → lost <<< 19 < crystalHz) := by
  intro lost beyond
  have exact : (toWord hz).toNat * crystalHz + beyond = hz.toNat <<< 19 := by
    rw [toNat_toWord]
    exact Nat.div_add_mod' _ _
  have small := hz.toNat_lt
  have fits : ((toWord hz).toNat * crystalHz) >>> 19 < UInt32.size := by
    rw [UInt32.size]
    omega
  obtain ⟨low, high⟩ := ofWord_bounds fits
  have order : (ofWord (toWord hz)).toNat ≤ hz.toNat := by omega
  have part : beyond < crystalHz := Nat.mod_lt _ (by decide)
  have rounded : beyond ≤ lost <<< 19 ∧ lost <<< 19 < beyond + (1 <<< 19) := by
    omega
  have crystal : crystalHz = 32000000 := rfl
  refine ⟨UInt32.le_iff_toNat_le.mpr order, rounded, by omega, by omega, ?_⟩
  rintro ⟨channel, known⟩
  -- In this raster the part beyond whole steps is a multiple of 256000, which
  -- divides the crystal.
  rw [crystal] at exact
  have coarse : beyond % 256000 = 0 := by omega
  omega

/-- A carrier in the span that comes back 62 Hz lower, where a step is less than
that. -/
theorem ofWord_toWord_beyond_step :
    let hz : UInt32 := 137001770
    span.Contains hz ∧ toWord hz = 2244636 ∧ ofWord 2244636 = 137001708 ∧
      hz.toNat - (ofWord (toWord hz)).toNat = 62 ∧ crystalHz < 62 <<< 19 := by
  refine ⟨⟨by decide, by decide⟩, ?_⟩
  decide

end LoraRadio.Carrier
