import LoraRadio.Proofs.Codec
import LoraRadio.Proofs.ExactAirtime
import LoraRadio.Proofs.Safety

/-!
# The offset of the received carrier

The chip keeps the carrier offset of the last packet as a signed number of 20
bits, in units that depend on the bandwidth.  What a caller gets is the exact
offset in Hz, rounded toward zero: the products on the way to it stay within 64
bits, and the quotient within 32.  An offset of the other sign gives the other
sign, and a larger offset never gives a smaller result.
-/

namespace LoraRadio

open Operation RadioM Radio

/-! ## Rounding toward zero -/

def towardZero (value : ℚ) : ℤ :=
  if 0 ≤ value then ⌊value⌋ else ⌈value⌉

theorem towardZero_neg (value : ℚ) :
    towardZero (-value) = -towardZero value := by
  unfold towardZero
  rcases lt_trichotomy value 0 with negative | zero | positive
  · rw [if_pos (by linarith), if_neg (by linarith), Int.floor_neg]
  · simp [zero]
  · rw [if_neg (by linarith), if_pos (by linarith), Int.ceil_neg]

theorem towardZero_mono {low high : ℚ} (order : low ≤ high) :
    towardZero low ≤ towardZero high := by
  unfold towardZero
  split_ifs with lowSign highSign highSign
  · exact Int.floor_le_floor order
  · linarith
  · calc
      ⌈low⌉ ≤ 0 := Int.ceil_le.mpr (by push_cast; linarith)
      _ ≤ ⌊high⌋ := Int.floor_nonneg.mpr highSign
  · exact Int.ceil_le_ceil order

theorem tdiv_eq_towardZero (dividend : ℤ) {divisor : ℤ}
    (positive : 0 < divisor) :
    dividend.tdiv divisor = towardZero (dividend / divisor) := by
  have scale : (0 : ℚ) < divisor := by exact_mod_cast positive
  have down {dividend : ℤ} (nonneg : 0 ≤ dividend) :
      dividend.tdiv divisor = towardZero (dividend / divisor) := by
    have above : (0 : ℚ) ≤ dividend / divisor :=
      div_nonneg (by exact_mod_cast nonneg) scale.le
    rw [towardZero, if_pos above, Int.tdiv_eq_ediv_of_nonneg nonneg]
    obtain ⟨count, rfl⟩ := Int.eq_ofNat_of_zero_le positive.le
    exact (Rat.floor_intCast_div_natCast _ _).symm
  rcases le_total 0 dividend with nonneg | nonpos
  · exact down nonneg
  · have mirrored := down (neg_nonneg.mpr nonpos)
    rw [Int.neg_tdiv, Int.cast_neg, neg_div, towardZero_neg] at mirrored
    exact neg_injective mirrored

/-! ## What the chip holds -/

namespace Chip

/-- The last 20 bits of the three registers of the carrier offset, as a signed
number. -/
def offsetReading (chip : Chip) : Int :=
  ((chip.register RegisterName.freqErrorMsb.address).toBitVec.setWidth 4 ++
    (chip.register RegisterName.freqErrorMid.address).toBitVec ++
    (chip.register RegisterName.freqErrorLsb.address).toBitVec).toInt

def bandwidthCode (chip : Chip) : Nat :=
  chip.value .modemConfig1 / 16

theorem offsetReading_bounds (chip : Chip) :
    -524288 ≤ chip.offsetReading ∧ chip.offsetReading < 524288 :=
  ⟨BitVec.le_toInt _, BitVec.toInt_lt⟩

def carrierOffset (chip : Chip) : CarrierOffset :=
  .ofBytes #v[chip.register RegisterName.freqErrorMsb.address,
    chip.register RegisterName.freqErrorMid.address,
    chip.register RegisterName.freqErrorLsb.address]

theorem value_carrierOffset (chip : Chip) :
    chip.carrierOffset.value = chip.offsetReading :=
  CarrierOffset.value_ofBytes _ _ _

theorem readRegister_carrierOffset (chip : Chip) :
    chip.readRegister CarrierOffset = (.ok chip.carrierOffset, chip) := rfl

end Chip

namespace Bandwidth

theorem ofIndex?_eq_none {index : UInt8} (beyond : 10 ≤ index.toNat) :
    ofIndex? index = none :=
  List.getElem?_eq_none beyond

theorem exists_index {code : Nat} (known : code < 10) :
    ∃ bandwidth : Bandwidth, bandwidth.index.toNat = code := by
  have numbered : ∀ code, (inside : code < all.length) →
      (all.get ⟨code, inside⟩).index.toNat = code := by decide
  exact ⟨_, numbered code known⟩

end Bandwidth

/-! ## The offset in Hz -/

namespace CarrierOffset

def exactHz (reading : Int) (bandwidth : Bandwidth) : ℚ :=
  reading * 2 ^ 24 / 32000000 * bandwidth.hz.toNat / 500000

theorem exactHz_neg (reading : Int) (bandwidth : Bandwidth) :
    exactHz (-reading) bandwidth = -exactHz reading bandwidth := by
  unfold exactHz
  push_cast
  ring

theorem exactHz_mono {low high : Int} (order : low ≤ high)
    (bandwidth : Bandwidth) :
    exactHz low bandwidth ≤ exactHz high bandwidth := by
  have order : (low : ℚ) ≤ high := by exact_mod_cast order
  unfold exactHz
  gcongr

theorem tdiv_eq_exactHz (reading : Int) (bandwidth : Bandwidth) :
    (reading * (1 <<< 24 : Nat) * bandwidth.hz.toNat).tdiv
        (Carrier.crystalHz * 500000) =
      towardZero (exactHz reading bandwidth) := by
  rw [tdiv_eq_towardZero _ (by decide), exactHz, Carrier.crystalHz]
  congr 1
  push_cast
  ring

theorem exactHz_fits {reading : Int} (low : -524288 ≤ reading)
    (high : reading < 524288) (bandwidth : Bandwidth) :
    -2 ^ 31 ≤ towardZero (exactHz reading bandwidth) ∧
      towardZero (exactHz reading bandwidth) < 2 ^ 31 := by
  obtain ⟨-, least, greatest⟩ := products_fit low high bandwidth
  rw [← tdiv_eq_exactHz]
  generalize reading * (1 <<< 24 : Nat) * bandwidth.hz.toNat = product at *
  have minimum : Int64.minValue.toInt = -9223372036854775808 := by decide
  have maximum : Int64.maxValue.toInt = 9223372036854775807 := by decide
  have divisor : (Carrier.crystalHz * 500000 : Int) = 16000000000000 := by
    decide
  have sign : Int.sign 16000000000000 = 1 := by decide
  rw [divisor, Int.tdiv_eq_ediv, sign]
  split <;> omega

theorem exists_hz {offset : CarrierOffset} (low : -524288 ≤ offset.value)
    (high : offset.value < 524288) (bandwidth : Bandwidth) :
    ∃ hz, offset.hz bandwidth = .ok hz ∧
      hz.toInt = towardZero (exactHz offset.value bandwidth) := by
  obtain ⟨least, greatest⟩ := exactHz_fits low high bandwidth
  rw [← tdiv_eq_exactHz] at least greatest ⊢
  exact ⟨_, offset.hz_eq low high bandwidth,
    Int32.toInt_ofInt_of_le least greatest⟩

end CarrierOffset

/-! ## The call -/

namespace Chip

theorem toNat_bandwidth (chip : Chip) :
    (ModemConfig1.ofByte
        (chip.register RegisterName.modemConfig1.address)).bandwidth.toNat =
      chip.bandwidthCode :=
  ModemConfig1.toNat_bandwidth_ofByte _

theorem ofIndex?_bandwidth {chip : Chip} {bandwidth : Bandwidth}
    (known : bandwidth.index.toNat = chip.bandwidthCode) :
    Bandwidth.ofIndex?
        (ModemConfig1.ofByte
          (chip.register RegisterName.modemConfig1.address)).bandwidth =
      some bandwidth := by
  rw [← chip.toNat_bandwidth, UInt8.toNat_inj] at known
  rw [← known, Bandwidth.ofIndex?_index]

end Chip

namespace Radio

variable {scene : Scene}

theorem follows_readModem (scene : Scene) :
    Follows (readRegister ModemConfig1) scene
      [.read RegisterName.modemConfig1.address
        (scene.chip.register RegisterName.modemConfig1.address)]
      (.ok (.ofByte (scene.chip.register RegisterName.modemConfig1.address))
        scene) :=
  follows_readRegister rfl

theorem gives_frequencyError {result : Option Int32}
    (ready : scene.radio.ready = true)
    (rest : Follows
      (match Bandwidth.ofIndex? (ModemConfig1.ofByte (scene.chip.register
          RegisterName.modemConfig1.address)).bandwidth with
        | none => Pure.pure none
        | some bandwidth => do
            return some (← checked (scene.chip.carrierOffset.hz bandwidth)))
      scene [] (.ok result scene)) :
    Gives frequencyError scene (.ok result scene) := by
  have read := scene.chip.readRegister_carrierOffset
  have offset := follows_readRegister (congrArg Prod.fst read)
  rw [read] at offset
  exact (follows_whenReady ready none
    (.bind offset (.bind_silent (follows_readModem scene) rest))).gives

theorem gives_frequencyError_of_unknown (ready : scene.radio.ready = true)
    (unknown : 10 ≤ scene.chip.bandwidthCode) :
    Gives frequencyError scene (.ok none scene) := by
  apply gives_frequencyError ready
  rw [Bandwidth.ofIndex?_eq_none (scene.chip.toNat_bandwidth ▸ unknown)]
  exact .pure none scene

theorem exists_gives_frequencyError {bandwidth : Bandwidth}
    (ready : scene.radio.ready = true)
    (known : bandwidth.index.toNat = scene.chip.bandwidthCode) :
    ∃ hz : Int32, Gives frequencyError scene (.ok (some hz) scene) ∧
      hz.toInt = towardZero
        (CarrierOffset.exactHz scene.chip.offsetReading bandwidth) := by
  obtain ⟨low, high⟩ := scene.chip.offsetReading_bounds
  rw [← scene.chip.value_carrierOffset] at low high ⊢
  obtain ⟨hz, computed, exact⟩ := CarrierOffset.exists_hz low high bandwidth
  refine ⟨hz, gives_frequencyError ready ?_, exact⟩
  rw [Chip.ofIndex?_bandwidth known]
  exact .silent_bind (follows_checked computed scene) (.pure _ scene)

end Radio

namespace Call

variable {station : Station}

theorem perform_frequencyError_of_unknown (sound : station.bench.Sound)
    (ready : station.radio.ready = true)
    (unknown : 10 ≤ station.bench.chip.bandwidthCode) :
    (Call.frequencyError.perform station).1 = .number none := by
  obtain ⟨final, run, -⟩ :=
    (@gives_frequencyError_of_unknown station.scene ready unknown).exists_run
      sound rfl
  exact congrArg Prod.fst (answer_of_ok run)

theorem perform_frequencyError {bandwidth : Bandwidth}
    (sound : station.bench.Sound) (ready : station.radio.ready = true)
    (known : bandwidth.index.toNat = station.bench.chip.bandwidthCode) :
    (Call.frequencyError.perform station).1 = .number (some (towardZero
      (CarrierOffset.exactHz station.bench.chip.offsetReading bandwidth))) := by
  obtain ⟨hz, gives, exact⟩ :=
    @exists_gives_frequencyError station.scene bandwidth ready known
  obtain ⟨final, run, -⟩ := gives.exists_run sound rfl
  have told : (Call.frequencyError.perform station).1 =
      .number ((some hz).map Int32.toInt) :=
    congrArg Prod.fst (answer_of_ok run)
  rw [told, Option.map_some, exact]
  rfl

/-- A caller learns no offset exactly if the chip has an unknown bandwidth.
Otherwise it is the exact offset, rounded toward zero.  No product on the way
leaves 64 bits, and no result 32.  The result for the opposite reading is the
opposite, and it is not less for a larger reading. -/
theorem frequencyError_exact (sound : station.bench.Sound)
    (ready : station.radio.ready = true) :
    let chip := station.bench.chip
    let reply := (Call.frequencyError.perform station).1
    (reply = .number none ↔ 10 ≤ chip.bandwidthCode) ∧
    (chip.bandwidthCode < 10 → ∃ bandwidth : Bandwidth,
      bandwidth.index.toNat = chip.bandwidthCode ∧
      let reading := chip.offsetReading
      let result := towardZero (CarrierOffset.exactHz reading bandwidth)
      reply = .number (some result) ∧
      (-2 ^ 63 ≤ reading * 2 ^ 24 ∧ reading * 2 ^ 24 < 2 ^ 63) ∧
      (-2 ^ 63 ≤ reading * 2 ^ 24 * bandwidth.hz.toNat ∧
        reading * 2 ^ 24 * bandwidth.hz.toNat < 2 ^ 63) ∧
      (-2 ^ 31 ≤ result ∧ result < 2 ^ 31) ∧
      ∀ other : Station, other.bench.Sound → other.radio.ready = true →
        other.bench.chip.bandwidthCode = chip.bandwidthCode →
        (other.bench.chip.offsetReading = -reading →
          (Call.frequencyError.perform other).1 = .number (some (-result))) ∧
        (reading ≤ other.bench.chip.offsetReading →
          ∃ hz, (Call.frequencyError.perform other).1 = .number (some hz) ∧
            result ≤ hz)) := by
  intro chip reply
  have answered (known : chip.bandwidthCode < 10) : ∃ bandwidth : Bandwidth,
      bandwidth.index.toNat = chip.bandwidthCode ∧
        reply = .number (some (towardZero
        (CarrierOffset.exactHz chip.offsetReading bandwidth))) := by
    obtain ⟨bandwidth, code⟩ := Bandwidth.exists_index known
    exact ⟨bandwidth, code, perform_frequencyError sound ready code⟩
  refine ⟨⟨fun silent => ?_, perform_frequencyError_of_unknown sound ready⟩,
    fun known => ?_⟩
  · by_contra known
    obtain ⟨bandwidth, -, told⟩ := answered (not_le.mp known)
    rw [silent] at told
    cases told
  · obtain ⟨bandwidth, code, told⟩ := answered known
    obtain ⟨low, high⟩ := chip.offsetReading_bounds
    obtain ⟨first, second⟩ := CarrierOffset.products_fit low high bandwidth
    refine ⟨bandwidth, code, told, ?_, ?_, ?_, ?_⟩
    · exact ⟨first.1, Int.lt_of_le_sub_one first.2⟩
    · exact ⟨second.1, Int.lt_of_le_sub_one second.2⟩
    · exact CarrierOffset.exactHz_fits low high bandwidth
    · intro other otherSound otherReady same
      have otherTold :=
        perform_frequencyError otherSound otherReady (code.trans same.symm)
      refine ⟨fun opposite => ?_, fun order => ?_⟩
      · rw [otherTold, opposite, CarrierOffset.exactHz_neg, towardZero_neg]
      · exact ⟨_, otherTold,
          towardZero_mono (CarrierOffset.exactHz_mono order bandwidth)⟩

/-- The lowest reading at the widest bandwidth, with bits set that have no
meaning. -/
theorem frequencyError_exact_lowest :
    let station : Station :=
      ⟨{ Radio.attach ⟨0, true, true⟩ with lifecycle := .ready },
        { chip :=
            (Chip.fresh.setRegister
              RegisterName.freqErrorMsb.address 0xF8).setRegister
              RegisterName.modemConfig1.address 0x92 }⟩
    station.bench.Sound ∧ station.radio.ready = true ∧
      station.bench.chip.offsetReading = -524288 ∧
      station.bench.chip.bandwidthCode = 9 ∧
      (Call.frequencyError.perform station).1 = .number (some (-274877)) := by
  intro station
  have sound : station.bench.Sound := ⟨rfl, rfl⟩
  have reading : station.bench.chip.offsetReading = -524288 := by decide +kernel
  have code : station.bench.chip.bandwidthCode = 9 := by decide +kernel
  obtain ⟨-, answered⟩ := frequencyError_exact sound rfl
  obtain ⟨bandwidth, index, told, -⟩ := answered (by omega)
  rw [code] at index
  obtain rfl : bandwidth = .khz500 := by
    have found := bandwidth.ofIndex?_index
    rw [show bandwidth.index = 9 from UInt8.toNat_inj.mp index] at found
    exact (Option.some.inj found).symm
  have exact : towardZero (CarrierOffset.exactHz (-524288) .khz500) =
      -274877 := by
    have width : Bandwidth.khz500.hz.toNat = 500000 := by decide
    rw [CarrierOffset.exactHz, width, towardZero]
    norm_num
  rw [reading, exact] at told
  exact ⟨sound, rfl, reading, code, told⟩

end Call

end LoraRadio
