import LoraRadio.Proofs.CarrierOffset

/-!
# The choice of a bandwidth

A table whose keys ascend is searched from its first entry on, so the first key
that reaches a value is the least one.  The bandwidths are such a table twice
over: by their widths and by their codes.
-/

namespace LoraRadio

open Operation RadioM Radio

/-! ## Tables -/

section Table

variable {α : Type} {table rest : List (α × UInt32)} {entry : α × UInt32}
  {value : UInt32}

structure LeastReaching (table : List (α × UInt32)) (value : UInt32)
    (entry : α × UInt32) :
    Prop where
  member : entry ∈ table
  reaches : value ≤ entry.2
  least : ∀ other ∈ table, value ≤ other.2 → entry.2 ≤ other.2

theorem firstReaching_cons_of_le (reaches : value ≤ entry.2) :
    firstReaching (entry :: rest) value = some entry.1 := by
  simp [firstReaching, reaches]

theorem firstReaching_cons_of_lt (short : entry.2 < value) (more : rest ≠ []) :
    firstReaching (entry :: rest) value = firstReaching rest value := by
  have missed : ¬value ≤ entry.2 := UInt32.not_le.mpr short
  obtain ⟨next, others, rfl⟩ := List.exists_cons_of_ne_nil more
  simp [firstReaching, missed]

theorem firstReaching_eq_none_iff :
    firstReaching table value = none ↔ table = [] := by
  cases table with
  | nil => simp [firstReaching]
  | cons entry rest => simp [firstReaching]

theorem firstReaching_of_short (short : ∀ entry ∈ table, entry.2 < value) :
    firstReaching table value = table.getLast?.map Prod.fst := by
  have missed : table.find? (fun entry => value ≤ entry.2) = none := by
    simpa [List.find?_eq_none] using short
  simp [firstReaching, missed]

theorem exists_leastReaching
    (ascending : table.Pairwise fun first second => first.2 < second.2)
    (reached : ∃ entry ∈ table, value ≤ entry.2) :
    ∃ entry, LeastReaching table value entry ∧
      firstReaching table value = some entry.1 := by
  induction table with
  | nil =>
      obtain ⟨entry, member, -⟩ := reached
      cases member
  | cons first rest ih =>
      obtain ⟨before, ascending⟩ := List.pairwise_cons.mp ascending
      by_cases reaches : value ≤ first.2
      · refine ⟨first, ⟨List.mem_cons_self, reaches, ?_⟩,
          firstReaching_cons_of_le reaches⟩
        intro other member _
        rcases List.mem_cons.mp member with rfl | later
        · exact UInt32.le_refl _
        · exact UInt32.le_of_lt (before other later)
      · -- The first entry is too small to be chosen, and too small to count.
        have short : first.2 < value := UInt32.not_le.mp reaches
        have reached : ∃ entry ∈ rest, value ≤ entry.2 := by
          simpa [reaches] using reached
        obtain ⟨entry, least, found⟩ := ih ascending reached
        refine ⟨entry, ⟨List.mem_cons_of_mem _ least.member, least.reaches, ?_⟩,
          ?_⟩
        · intro other member reachesOther
          rcases List.mem_cons.mp member with rfl | later
          · exact absurd reachesOther reaches
          · exact least.least other later reachesOther
        · rw [firstReaching_cons_of_lt short (List.ne_nil_of_mem least.member),
            found]

end Table

/-! ## Bandwidths -/

namespace Bandwidth

variable {bandwidth : Bandwidth} {width : UInt32}

/-- The least width that reaches the wanted one, of which no more than 500 kHz
can be had. -/
structure Narrowest (bandwidth : Bandwidth) (width : UInt32) : Prop where
  reaches : min width.toNat 500000 ≤ bandwidth.hz.toNat
  least : ∀ other : Bandwidth, min width.toNat 500000 ≤ other.hz.toNat →
    bandwidth.hz.toNat ≤ other.hz.toNat

def widths : List (Bandwidth × UInt32) :=
  all.map fun bandwidth => (bandwidth, bandwidth.hz)

theorem ofHz_eq (width : UInt32) :
    ofHz width = (firstReaching widths width).getD .khz500 := rfl

theorem widths_ascending :
    widths.Pairwise fun first second => first.2 < second.2 := by
  decide

theorem mem_widths {entry : Bandwidth × UInt32} :
    entry ∈ widths ↔ entry.2 = entry.1.hz := by
  obtain ⟨bandwidth, hz⟩ := entry
  have listed : bandwidth ∈ all := by cases bandwidth <;> decide
  simp [widths, listed, eq_comm]

theorem hz_le (bandwidth : Bandwidth) : bandwidth.hz.toNat ≤ 500000 := by
  cases bandwidth <;> decide

theorem narrowest_of_leastReaching {entry : Bandwidth × UInt32}
    (least : LeastReaching widths width entry) : entry.1.Narrowest width := by
  obtain ⟨bandwidth, hz⟩ := entry
  obtain rfl : hz = bandwidth.hz := mem_widths.mp least.member
  have reaches : width.toNat ≤ bandwidth.hz.toNat :=
    UInt32.le_iff_toNat_le.mp least.reaches
  refine ⟨Nat.le_trans (Nat.min_le_left _ _) reaches,
    fun other reachesOther => ?_⟩
  have most := bandwidth.hz_le
  have enough : width ≤ other.hz := UInt32.le_iff_toNat_le.mpr (by omega)
  exact UInt32.le_iff_toNat_le.mp
    (least.least (other, other.hz) (mem_widths.mpr rfl) enough)

theorem narrowest_khz500 (wide : 500000 < width.toNat) :
    khz500.Narrowest width := by
  have known : khz500.hz.toNat = 500000 := rfl
  constructor
  · omega
  · intro other reaches
    omega

theorem narrowest_ofHz (width : UInt32) : (ofHz width).Narrowest width := by
  by_cases wide : 500000 < width.toNat
  · have short : ∀ entry ∈ widths, entry.2 < width := by
      intro entry member
      rw [mem_widths.mp member, UInt32.lt_iff_toNat_lt]
      exact Nat.lt_of_le_of_lt entry.1.hz_le wide
    have last : ofHz width = .khz500 := by
      rw [ofHz_eq, firstReaching_of_short short]
      rfl
    rw [last]
    exact narrowest_khz500 wide
  · have reached : width ≤ khz500.hz :=
      UInt32.le_iff_toNat_le.mpr (Nat.le_of_not_lt wide)
    obtain ⟨entry, least, found⟩ := exists_leastReaching widths_ascending
      ⟨(khz500, khz500.hz), mem_widths.mpr rfl, reached⟩
    rw [ofHz_eq, found]
    exact narrowest_of_leastReaching least

theorem hz_inj {first second : Bandwidth} :
    first.hz = second.hz ↔ first = second := by
  constructor
  · cases first <;> cases second <;> decide
  · rintro rfl
    rfl

theorem index_le_iff {first second : Bandwidth} :
    first.index ≤ second.index ↔ first.hz.toNat ≤ second.hz.toNat := by
  cases first <;> cases second <;> decide

theorem hz_ofHz_mono {narrow wide : UInt32} (order : narrow ≤ wide) :
    (ofHz narrow).hz.toNat ≤ (ofHz wide).hz.toNat := by
  have order := UInt32.le_iff_toNat_le.mp order
  have reaches := (narrowest_ofHz wide).reaches
  exact (narrowest_ofHz narrow).least _ (by omega)

theorem ofHz_hz (bandwidth : Bandwidth) : ofHz bandwidth.hz = bandwidth := by
  obtain ⟨reaches, least⟩ := narrowest_ofHz bandwidth.hz
  have most := bandwidth.hz_le
  have upper := least bandwidth (Nat.min_le_left _ _)
  exact hz_inj.mp (UInt32.toNat_inj.mp (by omega))

end Bandwidth

/-! ## The setter and the getter -/

theorem ModemConfig1.bandwidth_written (byte : UInt8) (bandwidth : Bandwidth) :
    (toByte { ofByte byte with bandwidth := bandwidth.index }).toNat / 16 =
      bandwidth.index.toNat := by
  have small : bandwidth.index.toNat < 16 := by cases bandwidth <;> decide
  have header := Bool.toNat_le (ofByte byte).implicitHeader
  rw [toNat_toByte]
  dsimp only
  omega

theorem Chip.bandwidthCode_putBandwidth (chip : Chip) (bandwidth : Bandwidth)
    (enabled : Bool) :
    ((chip.putBandwidth bandwidth).putLowDataRate enabled).bandwidthCode =
      bandwidth.index.toNat := by
  rw [← ModemConfig1.bandwidth_written
    (chip.register RegisterName.modemConfig1.address)]
  simp [bandwidthCode, putLowDataRate, putBandwidth, update]

theorem Radio.gives_bandwidth {scene : Scene} {bandwidth : Bandwidth}
    (ready : scene.radio.ready = true)
    (known : bandwidth.index.toNat = scene.chip.bandwidthCode) :
    Gives Radio.bandwidth scene (.ok (some bandwidth.hz) scene) := by
  refine (follows_whenReady ready none
    (.bind_silent (follows_readModem scene) ?_)).gives
  rw [Chip.ofIndex?_bandwidth known]
  exact .pure _ scene

namespace Call

theorem performAll_bandwidth {station : Station} (sound : station.bench.Sound)
    (ready : station.radio.ready = true)
    (factor : SpreadingFactor.span.Contains
      station.radio.configuration.spreadingFactor) (hz : UInt32) :
    ∃ final, performAll [.setBandwidth hz, .bandwidth] station =
      ([.done, .word32 (some (Bandwidth.ofHz hz).hz)], final) := by
  obtain ⟨tuned, run, sound, scene⟩ :=
    (follows_setBandwidth hz ready factor).gives.exists_run sound rfl
  have code : (Bandwidth.ofHz hz).index.toNat =
      tuned.scene.chip.bandwidthCode := by
    rw [scene]
    exact (Chip.bandwidthCode_putBandwidth _ _ _).symm
  have inService : tuned.scene.radio.ready = true := by
    rw [scene]
    exact ready
  obtain ⟨final, told, -⟩ :=
    (gives_bandwidth inService code).exists_run sound rfl
  exact ⟨final,
    performAll_cons (answer_of_ok run)
      (performAll_cons (answer_of_ok told) rfl)⟩

/-- A search in an ascending table finds the least key that reaches the value,
or else the last entry.  So a wider request never gives a narrower bandwidth,
each bandwidth is found by its width and by its code, and what is set is read
back: the least width that reaches the requested one. -/
theorem bandwidth_choice {station : Station} (sound : station.bench.Sound)
    (ready : station.radio.ready = true)
    (factor : SpreadingFactor.span.Contains
      station.radio.configuration.spreadingFactor) :
    (∀ {α : Type} (table : List (α × UInt32)) (value : UInt32),
      table.Pairwise (fun first second => first.2 < second.2) →
      (firstReaching table value = none ↔ table = []) ∧
      ((∃ entry ∈ table, value ≤ entry.2) →
        ∃ entry, LeastReaching table value entry ∧
          firstReaching table value = some entry.1) ∧
      ((∀ entry ∈ table, entry.2 < value) →
        firstReaching table value = table.getLast?.map Prod.fst)) ∧
    (∀ narrow wide : UInt32, narrow ≤ wide →
      (Bandwidth.ofHz narrow).hz ≤ (Bandwidth.ofHz wide).hz ∧
      (Bandwidth.ofHz narrow).index ≤ (Bandwidth.ofHz wide).index) ∧
    (∀ bandwidth : Bandwidth, Bandwidth.ofHz bandwidth.hz = bandwidth ∧
      Bandwidth.ofIndex? bandwidth.index = some bandwidth) ∧
    ∀ hz : UInt32, ∃ bandwidth : Bandwidth, bandwidth.Narrowest hz ∧ ∃ final,
      performAll [.setBandwidth hz, .bandwidth] station =
        ([.done, .word32 (some bandwidth.hz)], final) := by
  refine ⟨?_, ?_, ?_, ?_⟩
  · intro α table value ascending
    exact ⟨firstReaching_eq_none_iff, exists_leastReaching ascending,
      firstReaching_of_short⟩
  · intro narrow wide order
    have mono := Bandwidth.hz_ofHz_mono order
    exact ⟨UInt32.le_iff_toNat_le.mpr mono, Bandwidth.index_le_iff.mpr mono⟩
  · intro bandwidth
    exact ⟨bandwidth.ofHz_hz, bandwidth.ofIndex?_index⟩
  · intro hz
    exact ⟨_, Bandwidth.narrowest_ofHz hz,
      performAll_bandwidth sound ready factor hz⟩

/-- One Hz more than a bandwidth has, on a chip whose code stands for none. -/
theorem bandwidth_choice_next_width :
    let station : Station :=
      ⟨{ Radio.attach ⟨0, true, true⟩ with
          lifecycle := .ready, configuration := { spreadingFactor := 12 } },
        { chip :=
            Chip.fresh.setRegister RegisterName.modemConfig1.address 0xF5 }⟩
    station.radio.ready = true ∧ ∃ final,
      performAll [.setBandwidth 20801, .bandwidth] station =
        ([.done, .number (some 31250)], final) := by
  intro station
  have factor :
      SpreadingFactor.span.Contains
        station.radio.configuration.spreadingFactor :=
    ⟨by decide, by decide⟩
  obtain ⟨-, -, -, chosen⟩ := @bandwidth_choice station ⟨rfl, rfl⟩ rfl factor
  obtain ⟨bandwidth, narrowest, final, performed⟩ := chosen 20801
  have reaches : 20801 ≤ bandwidth.hz.toNat := narrowest.reaches
  have least : bandwidth.hz.toNat ≤ 31250 :=
    narrowest.least .khz31_25 (by decide)
  obtain rfl : bandwidth = .khz31_25 := by
    revert reaches least
    cases bandwidth <;> decide
  exact ⟨rfl, final, performed⟩

end Call

end LoraRadio
