import LoraRadio.Proofs.Airtime
import LoraRadio.Proofs.Codec
import LoraRadio.Proofs.Lifecycle

/-!
# The driver never traps

Machine arithmetic stops at its limits, but the driver never takes it there.
Its settings are legal, its cursor stays within a packet, and until it is in
service its settings are those of a new driver.  Every call keeps this, whatever
fails, wherever it is dropped, and whatever happens to the chip in between; and
from such a state no call traps.
-/

namespace LoraRadio

open Operation RadioM Radio

variable {α β ρ : Type}

/-! ## Sane drivers -/

structure Cursor.Bounded (cursor : Cursor) : Prop where
  position : cursor.position ≤ cursor.length
  length : cursor.length ≤ maxPayload

structure Radio.Sane (radio : Radio) : Prop where
  legal : radio.configuration.Legal
  waiting : radio.ready = false → radio.configuration.Initial
  cursor : radio.cursor.Bounded

def Station.Sane (station : Station) : Prop :=
  station.radio.Sane

theorem Radio.sane_attach (connection : Connection) :
    (Radio.attach connection).Sane where
  legal := Configuration.legal_default
  waiting _ := ⟨none, rfl⟩
  cursor := ⟨Nat.le_refl 0, Nat.zero_le _⟩

def Station.Untouched (station : Station) : Prop :=
  station.radio.configuration.Initial ∧ station.radio.cursor.Bounded

namespace Station.Untouched

theorem sane {station : Station} (untouched : station.Untouched) :
    station.Sane :=
  ⟨untouched.1.legal, fun _ => untouched.1, untouched.2⟩

theorem startable : Startable Untouched where
  line _ _ station holds := by
    rw [state_setLine]
    exact holds
  delay _ _ holds := holds
  read _ :=
    keeps_access_radio (fun radio => radio.configuration.Initial ∧
      radio.cursor.Bounded) _
  write _ _ _ :=
    keeps_access_radio (fun radio => radio.configuration.Initial ∧
      radio.cursor.Bounded) _
  version _ _ holds := holds
  power _ holds := ⟨Setting.initial_power holds.1, holds.2⟩

end Station.Untouched

namespace Station.Sane

theorem untouched {station : Station} (sane : station.Sane)
    (new : station.radio.lifecycle = .uninitialized) : station.Untouched :=
  ⟨sane.waiting (by simp [Radio.ready, new]), sane.cursor⟩

theorem keeps_ensureReady : Keeps Station.Sane ensureReady := by
  intro station sane
  by_cases new : station.radio.lifecycle = .uninitialized
  · exact (Untouched.startable.keeps_ensureReady
      (fun _ _ holds => holds) station (sane.untouched new)).sane
  · rw [run_ensureReady_of_started new]
    exact sane

theorem keeps_configure {change : Configuration → Configuration}
    (legal : ∀ known, known.Legal → (change known).Legal) :
    Keeps (Live Station.Sane) (modifyConfiguration change) := by
  rintro station ⟨sane, ready⟩
  refine ⟨⟨legal _ sane.legal, fun waiting => ?_, sane.cursor⟩, ready⟩
  exact absurd (ready.symm.trans waiting) (by decide)

theorem keeps_cursor {change : Cursor → Cursor}
    (bounded : ∀ cursor, cursor.Bounded → (change cursor).Bounded) :
    Keeps (Live Station.Sane)
      (modifyRadio fun radio => { radio with cursor := change radio.cursor }) :=
  fun _ live =>
    ⟨⟨live.1.legal, live.1.waiting, bounded _ live.1.cursor⟩, live.2⟩

theorem keeps_setPolling (wait : Polling) :
    Keeps Station.Sane (setPolling wait) := by
  intro station sane
  exact ⟨{ sane.legal with },
    fun waiting => Setting.initial_polling (sane.waiting waiting) wait,
    sane.cursor⟩

theorem aloof : Aloof Station.Sane where
  read _ := Live.keeps_access_radio _ _
  write _ _ _ := Live.keeps_access_radio _ _

theorem steady : Steady Station.Sane where
  start := keeps_ensureReady
  read _ := Live.keeps_access_radio _ _
  rest _ _ := Live.keeps_access_radio _ _

end Station.Sane

/-! ## Safe operations -/

/-- Every run from the condition ends in it, and none traps. -/
structure Safe (kept : Station → Prop) (operation : RadioM α) : Prop where
  keeps : Keeps kept operation
  spares : ∀ station, kept station → ∀ trap final,
    operation.run station ≠ .error (.trap trap) final

/-- What is broken off is broken off by the bus or by a control line. -/
theorem Follows.run_ne_trap {operation : RadioM α} {station : Station}
    {script : List Event} {value : α} {after : Scene}
    (follows : Follows operation station.scene script (.ok value after))
    (trap : Trap) (final : Station) :
    operation.run station ≠ .error (.trap trap) final := by
  intro run
  rcases follows station rfl with ⟨seen, -⟩ |
    ⟨-, failure, reached, events, broken, breaks, -⟩
  · rw [run] at seen
    cases seen
  · rw [run] at broken
    obtain ⟨rfl, -⟩ := Outcome.error.inj broken
    simpa using breaks.bus_or_line

namespace Safe

variable {kept : Station → Prop} {operation : RadioM α} {next : α → RadioM β}

theorem ofOk (keeps : Keeps kept operation)
    (ends : ∀ station, ∃ value final, operation.run station = .ok value final) :
    Safe kept operation where
  keeps := keeps
  spares station _ trap final run := by
    obtain ⟨value, reached, done⟩ := ends station
    rw [done] at run
    cases run

theorem pure (value : α) : Safe kept (Pure.pure value : RadioM α) :=
  ofOk (.pure value) fun station => ⟨value, station, rfl⟩

theorem fail {failure : Failure} (known : ∀ trap, failure ≠ .trap trap) :
    Safe kept (Operation.fail failure : RadioM α) where
  keeps := .fail failure
  spares _ _ trap _ run := known trap (Outcome.error.inj run).1

theorem bind_of {known : α → Prop} (first : Safe kept operation)
    (yields : ∀ station value reached, kept station →
      operation.run station = .ok value reached → known value)
    (rest : ∀ value, known value → Safe kept (next value)) :
    Safe kept (operation >>= next) where
  keeps := by
    intro station holds
    have middle := first.keeps station holds
    rw [run_bind]
    cases run : operation.run station with
    | error failure reached =>
        rw [run] at middle
        exact middle
    | ok value reached =>
        rw [run] at middle
        exact (rest value (yields _ _ _ holds run)).keeps reached middle
  spares := by
    intro station holds trap final
    have middle := first.keeps station holds
    rw [run_bind]
    cases run : operation.run station with
    | error failure reached =>
        intro stopped
        obtain ⟨rfl, rfl⟩ := Outcome.error.inj stopped
        exact first.spares station holds trap reached run
    | ok value reached =>
        rw [run] at middle
        exact (rest value (yields _ _ _ holds run)).spares reached middle
          trap final

theorem bind (first : Safe kept operation)
    (rest : ∀ value, Safe kept (next value)) :
    Safe kept (operation >>= next) :=
  first.bind_of (fun _ _ _ _ _ => trivial) fun value (_ : True) => rest value

theorem ite {condition : Prop} [Decidable condition] {yes no : RadioM α}
    (safeYes : Safe kept yes) (safeNo : Safe kept no) :
    Safe kept (if condition then yes else no) := by
  by_cases holds : condition
  · rwa [if_pos holds]
  · rwa [if_neg holds]

theorem checked {result : Checked α} (computed : ∃ value, result = .ok value) :
    Safe kept (RadioM.checked result) := by
  obtain ⟨value, rfl⟩ := computed
  exact pure value

theorem access (held : Radio → Prop) (operation : BusM α) :
    Safe (fun station => held station.radio) (RadioM.access operation) where
  keeps := keeps_access_radio held operation
  spares station _ trap final := by
    simp only [RadioM.access]
    cases operation.run station.bench with
    | ok value bench => simp
    | error error bench => cases error <;> simp [Failure.ofAccess]

theorem inService (operation : BusM α) :
    Safe (Live Station.Sane) (RadioM.access operation) :=
  access (fun radio => radio.Sane ∧ radio.ready = true) operation

theorem getConfiguration_bind {next : Configuration → RadioM β}
    (sane : ∀ station, kept station → station.Sane)
    (rest : ∀ known, known.Legal → Safe kept (next known)) :
    Safe kept (getConfiguration >>= next) := by
  refine bind_of
    (.ofOk keeps_getConfiguration fun station => ⟨_, station, rfl⟩) ?_ rest
  intro station known reached holds run
  obtain ⟨rfl, -⟩ := Outcome.ok.inj run
  exact (sane station holds).legal

end Safe

/-! ## Limits of the measurements -/

theorem RadioM.exists_decode_of_run [Register ρ] {register : ρ}
    {station reached : Station}
    (run : (readRegister ρ).run station = .ok register reached) :
    ∃ bytes, Register.decode bytes = .ok register := by
  simp only [readRegister, access, Bus.readRegister, run_bind] at run
  cases read :
    (Bus.readBytes ρ (Register.width ρ) Register.width_le_width).run
      station.bench with
  | error error bench => simp [read] at run
  | ok bytes bench =>
      refine ⟨bytes, ?_⟩
      cases decoded : Register.decode bytes with
      | error byte => simp [read, decoded] at run
      | ok value => simp_all

theorem Bandwidth.toNat_hz_le (bandwidth : Bandwidth) :
    bandwidth.hz.toNat ≤ 500000 := by
  cases bandwidth <;> decide

theorem CarrierOffset.bounds_of_decode
    {bytes : Vector UInt8 (Register.width CarrierOffset)}
    {offset : CarrierOffset} (decoded : Register.decode bytes = .ok offset) :
    -524288 ≤ offset.value ∧ offset.value < 524288 := by
  obtain rfl : ofBytes bytes = offset := Except.ok.inj decoded
  exact bounds_ofBytes bytes

theorem CarrierOffset.products_fit {reading : Int} (low : -524288 ≤ reading)
    (high : reading < 524288) (bandwidth : Bandwidth) :
    (Int64.minValue.toInt ≤ reading * (1 <<< 24 : Nat) ∧
      reading * (1 <<< 24 : Nat) ≤ Int64.maxValue.toInt) ∧
    Int64.minValue.toInt ≤ reading * (1 <<< 24 : Nat) * bandwidth.hz.toNat ∧
      reading * (1 <<< 24 : Nat) * bandwidth.hz.toNat ≤
        Int64.maxValue.toInt := by
  have least : Int64.minValue.toInt = -9223372036854775808 := by decide
  have greatest : Int64.maxValue.toInt = 9223372036854775807 := by decide
  have most : (bandwidth.hz.toNat : Int) ≤ 500000 :=
    Int.ofNat_le.mpr bandwidth.toNat_hz_le
  have scale : ((1 <<< 24 : Nat) : Int) = 16777216 := by decide
  rw [scale]
  have nonneg : 0 ≤ (bandwidth.hz.toNat : Int) := Int.natCast_nonneg _
  have lower : -524288 * 16777216 * (bandwidth.hz.toNat : Int) ≤
      reading * 16777216 * bandwidth.hz.toNat :=
    Int.mul_le_mul_of_nonneg_right (by omega) nonneg
  have upper : reading * 16777216 * (bandwidth.hz.toNat : Int) ≤
      524288 * 16777216 * bandwidth.hz.toNat :=
    Int.mul_le_mul_of_nonneg_right (by omega) nonneg
  omega

theorem CarrierOffset.hz_eq {offset : CarrierOffset}
    (low : -524288 ≤ offset.value) (high : offset.value < 524288)
    (bandwidth : Bandwidth) :
    offset.hz bandwidth = .ok (Int32.ofInt
      ((offset.value * (1 <<< 24 : Nat) * bandwidth.hz.toNat).tdiv
        (Carrier.crystalHz * 500000))) := by
  obtain ⟨first, second⟩ := products_fit low high bandwidth
  have divisor : (Carrier.crystalHz * 500000 : Int) ≠ 0 := by decide
  rw [hz, Checked.mulInt64, if_pos first, Checked.ok_bind, Checked.mulInt64,
    if_pos second, Checked.ok_bind, Checked.div, if_neg divisor]
  rfl

theorem Snapshot.push_of_room {snapshot : Snapshot}
    (room : snapshot.length < RegisterName.count) (name : RegisterName)
    (value : UInt8) :
    snapshot.push name value =
      .ok ⟨snapshot.slots.set snapshot.length (name, value),
        snapshot.length + 1, room⟩ :=
  dif_pos room

/-! ## Operations of a driver in service -/

namespace Radio

theorem safe_updateRegister [WritableRegister ρ] (change : ρ → ρ) :
    Safe (Live Station.Sane) (updateRegister change) :=
  .bind (.inService _) fun _ => .inService _

theorem safe_setHeaderMode (mode : HeaderMode) :
    Safe (Live Station.Sane) (setHeaderMode mode) := by
  refine .bind (safe_updateRegister _) fun _ => .ofOk ?_ fun _ => ⟨(), _, rfl⟩
  exact Station.Sane.keeps_configure fun _ legal => { legal with }

theorem safe_set (setting : Setting) :
    Safe (Live Station.Sane) setting.set where
  keeps := Station.Sane.aloof.keeps_set
    (Station.Sane.keeps_configure fun _ legal => setting.legal_configure legal)
  spares station live :=
    (@Setting.follows_set setting station.scene live.2 live.1.legal).run_ne_trap

/-! ### Sending -/

theorem safe_fillFifo (bytes : List UInt8) :
    Safe (Live Station.Sane) (fillFifo bytes) := by
  induction bytes with
  | nil => exact .pure ()
  | cons byte rest ih => exact .bind (.inService _) fun _ => ih

theorem safe_awaitTransmitDone (intervalMs : UInt32) (attempts : Nat) :
    Safe (Live Station.Sane) (awaitTransmitDone intervalMs attempts) := by
  induction attempts with
  | zero => exact .bind (.inService _) fun flags => .pure _
  | succ attempts ih =>
      refine .bind (.inService _) fun flags =>
        .ite (.pure true) (.bind (.ofOk ?_ ?_) fun _ => ih)
      · exact fun _ live => live
      · exact fun _ => ⟨(), _, rfl⟩

theorem safe_awaitEnd (polling : Polling) :
    Safe (Live Station.Sane) (awaitEnd polling) := by
  refine .bind (safe_awaitTransmitDone _ _) fun done => .ite (.inService _) ?_
  exact .bind (.inService _) fun _ => .bind (.inService _) fun _ =>
    .fail (by simp)

theorem safe_whenReady {neutral : α} {operation : RadioM α}
    (safe : Safe (Live Station.Sane) operation) :
    Safe (Live Station.Sane) (whenReady neutral operation) where
  keeps := Live.keeps_whenReady neutral safe.keeps
  spares station live := by
    rw [run_whenReady_of_ready live.2]
    exact safe.spares station live

theorem safe_beginPacket : Safe (Live Station.Sane) beginPacket := by
  refine safe_whenReady (.bind (.inService _) fun _ => ?_)
  refine .getConfiguration_bind Live.left fun known _ => ?_
  refine .bind (safe_setHeaderMode _) fun _ => .bind (.inService _) fun _ =>
    .inService _

theorem safe_append (bytes : List UInt8) :
    Safe (Live Station.Sane) (append bytes) := by
  refine safe_whenReady (.bind (.inService _) fun current => ?_)
  have room : current.value.toNat ≤ maxPayload :=
    Nat.le_of_lt_succ current.value.toNat_lt
  refine .bind (.checked ⟨_, Checked.sub_of_le room⟩) fun room => ?_
  exact .bind (safe_fillFifo _) fun _ => .bind (.inService _) fun _ => .pure _

theorem safe_endPacket : Safe (Live Station.Sane) endPacket := by
  refine safe_whenReady (.bind (.inService _) fun length => ?_)
  refine .getConfiguration_bind Live.left fun known legal => ?_
  refine .bind (.checked (known.exists_pollingFor legal _)) fun polling => ?_
  exact .bind (.inService _) fun _ => .bind (.inService _) fun _ =>
    safe_awaitEnd polling

theorem safe_transmitAtOnce (bytes : List UInt8) :
    Safe (Live Station.Sane) (transmitAtOnce bytes) := by
  refine .bind (.inService _) fun _ =>
    .getConfiguration_bind Live.left fun known _ => ?_
  refine .bind (safe_setHeaderMode _) fun _ => .bind (.inService _) fun _ => ?_
  refine .bind (safe_fillFifo _) fun _ => .bind (.inService _) fun _ => ?_
  refine .bind (.inService _) fun _ => .bind (.inService _) fun _ => ?_
  refine .getConfiguration_bind Live.left fun known legal => ?_
  exact .checked (known.exists_pollingFor legal _)

/-! ### Receiving -/

theorem safe_expectPacket (size : UInt8) :
    Safe (Live Station.Sane) (expectPacket size) := by
  refine .ite (.bind (safe_setHeaderMode _) fun _ => ?_) (safe_setHeaderMode _)
  exact .inService _

theorem safe_packetLength (mode : HeaderMode) :
    Safe (Live Station.Sane) (packetLength mode) := by
  cases mode with
  | implicit => exact .bind (.inService _) fun length => .pure _
  | explicit => exact .bind (.inService _) fun length => .pure _

theorem packetLength_le {mode : HeaderMode} {station reached : Station}
    {length : Nat}
    (run : (packetLength mode).run station = .ok length reached) :
    length ≤ maxPayload := by
  cases mode with
  | implicit =>
      obtain ⟨told, _, _, given⟩ := exists_of_run_bind run
      obtain ⟨rfl, -⟩ := Outcome.ok.inj given
      exact Nat.le_of_lt_succ told.value.toNat_lt
  | explicit =>
      obtain ⟨told, _, _, given⟩ := exists_of_run_bind run
      obtain ⟨rfl, -⟩ := Outcome.ok.inj given
      exact Nat.le_of_lt_succ told.value.toNat_lt

theorem safe_cursor {cursor : Cursor} (bounded : cursor.Bounded) :
    Safe (Live Station.Sane) (modifyRadio fun radio => { radio with cursor }) :=
  .ofOk (Station.Sane.keeps_cursor fun _ _ => bounded) fun _ => ⟨(), _, rfl⟩

theorem safe_acceptPacket : Safe (Live Station.Sane) acceptPacket := by
  refine .getConfiguration_bind Live.left fun known _ => ?_
  refine .bind_of (safe_packetLength _) (fun _ _ _ _ => packetLength_le)
    fun length short => ?_
  refine .bind (safe_cursor ⟨Nat.zero_le length, short⟩) fun _ => ?_
  refine .bind (.inService _) fun start => ?_
  exact .bind (.inService _) fun _ => .bind (.inService _) fun _ => .pure length

theorem safe_listen : Safe (Live Station.Sane) listen := by
  refine .bind (.inService _) fun current => .ite (.pure ()) ?_
  refine .bind (safe_cursor ⟨Nat.le_refl 0, Nat.zero_le _⟩) fun _ => ?_
  exact .bind (.inService _) fun _ => .inService _

theorem safe_receive (size : UInt8) :
    Safe (Live Station.Sane) (receive size) := by
  refine safe_whenReady (.bind (.inService _) fun flags => ?_)
  refine .bind (safe_expectPacket size) fun _ => ?_
  exact .bind (.inService _) fun _ =>
    .ite safe_acceptPacket (.bind safe_listen fun _ => .pure 0)

/-! ### Inspection -/

theorem safe_frequencyError : Safe (Live Station.Sane) frequencyError := by
  refine safe_whenReady
    (.bind_of (.inService _) (fun _ _ _ _ => exists_decode_of_run) ?_)
  rintro offset ⟨bytes, decoded⟩
  obtain ⟨low, high⟩ := CarrierOffset.bounds_of_decode decoded
  refine .bind (.inService _) fun modem => ?_
  cases Bandwidth.ofIndex? modem.bandwidth with
  | none => exact .pure none
  | some bandwidth =>
      exact .bind (.checked ⟨_, offset.hz_eq low high bandwidth⟩) fun _ =>
        .pure _

theorem safe_capture {names : List RegisterName} {snapshot : Snapshot}
    (room : snapshot.length + names.length ≤ RegisterName.count) :
    Safe (Live Station.Sane) (capture names snapshot) := by
  induction names generalizing snapshot with
  | nil => exact .pure snapshot
  | cons name rest ih =>
      rw [List.length_cons] at room
      refine .bind (.inService _) fun value => ?_
      rw [snapshot.push_of_room (by omega) name value]
      exact ih (by dsimp only; omega)

theorem safe_snapshot : Safe (Live Station.Sane) snapshot := by
  refine safe_whenReady (safe_capture ?_)
  rw [Nat.zero_add, ← RegisterName.length_all]
  exact List.length_filter_le _ _

end Radio

/-! ## Startup -/

namespace Station.Sane

theorem safe_ensureReady : Safe Station.Sane ensureReady where
  keeps := keeps_ensureReady
  spares station sane := by
    by_cases new : station.radio.lifecycle = .uninitialized
    · exact (@follows_ensureReady station.scene new sane.legal).run_ne_trap
    · rw [run_ensureReady_of_started new]
      simp

theorem safe_ofLive {neutral : α} {operation : RadioM α}
    (live : Safe (Live Station.Sane) (whenReady neutral operation)) :
    Safe Station.Sane (whenReady neutral operation) where
  keeps := steady.keeps_of_live live.keeps
  spares := by
    intro station sane trap final stopped
    have started := keeps_ensureReady station sane
    rw [whenReady, run_bind] at stopped
    cases run : ensureReady.run station with
    | error failure reached =>
        rw [run] at stopped
        obtain ⟨rfl, rfl⟩ := Outcome.error.inj stopped
        exact safe_ensureReady.spares station sane trap reached run
    | ok ready reached =>
        rw [run] at stopped started
        have inService := ready_of_run_ensureReady run
        cases ready with
        | false => cases stopped
        | true =>
            refine live.spares reached ⟨started, inService⟩ trap final ?_
            rw [run_whenReady_of_ready inService]
            exact stopped

theorem safe_setting (setting : Setting) : Safe Station.Sane setting.set := by
  cases setting with
  | polling wait => exact .ofOk (keeps_setPolling wait) fun _ => ⟨(), _, rfl⟩
  | frequency hz => exact safe_ofLive (safe_set (.frequency hz))
  | power dbm amplifier => exact safe_ofLive (safe_set (.power dbm amplifier))
  | spreadingFactor factor =>
      exact safe_ofLive (safe_set (.spreadingFactor factor))
  | bandwidth hz => exact safe_ofLive (safe_set (.bandwidth hz))
  | codingRate denominator =>
      exact safe_ofLive (safe_set (.codingRate denominator))
  | preambleLength symbols =>
      exact safe_ofLive (safe_set (.preambleLength symbols))
  | syncWord word => exact safe_ofLive (safe_set (.syncWord word))
  | checksum enabled => exact safe_ofLive (safe_set (.checksum enabled))

theorem upkeep : Upkeep Station.Sane where
  toAloof := aloof
  rest _ _ := Live.keeps_access_radio _ _
  packet _ _ _ := Live.keeps_access_radio _ _
  delay _ _ live := live
  launch :=
    .bind (Live.keeps_access_radio _ _) fun _ => Live.keeps_access_radio _ _
  advance station sane left := by
    refine ⟨sane.legal, sane.waiting, ?_, sane.cursor.length⟩
    have remaining : station.radio.cursor.remaining ≠ 0 := by
      simpa [Radio.available, ready_of_available left] using left
    simp only [Cursor.remaining, Cursor.advance] at remaining ⊢
    omega
  configure setting :=
    keeps_configure fun _ legal => setting.legal_configure legal
  header _ := keeps_configure fun _ legal => { legal with }
  polling := keeps_setPolling

theorem halts_ensureReady :
    RadioTask.Halts Station.Sane RadioTask.ensureReady Station.Sane := by
  have halts :
      RadioTask.Halts Station.Sane RadioTask.ensureReady Untouched := by
    refine Untouched.startable.halts_ensureReady fun station sane new => ?_
    exact ⟨(sane.untouched new).1, sane.cursor⟩
  exact fun station sane stop member => (halts station sane stop member).sane

theorem robust : Robust Station.Sane where
  toDroppable := upkeep.droppable keeps_ensureReady halts_ensureReady
  accept := safe_acceptPacket.keeps
  listen := safe_listen.keeps

theorem safe_send (bytes : List UInt8) : Safe Station.Sane (send bytes) := by
  refine .ite (.pure ())
    (safe_ofLive (Radio.safe_whenReady (.bind safe_beginPacket fun _ => ?_)))
  exact .bind (safe_append bytes) fun _ => safe_endPacket

theorem safe_sendAtOnce (bytes : List UInt8) :
    Safe Station.Sane (sendAtOnce bytes) := by
  refine .ite (.pure ()) (safe_ofLive (Radio.safe_whenReady ?_))
  exact .bind (safe_transmitAtOnce bytes) safe_awaitEnd

theorem safe_readByte : Safe Station.Sane readByte where
  keeps := robust.keeps_readByte
  spares station _ := by
    by_cases empty : station.radio.available = 0
    · simp [run_readByte_of_empty empty]
    · rw [run_readByte_of_left empty]
      have safe : Safe (fun _ => True) (do
          let byte ← readRegister Fifo
          modifyRadio fun radio => { radio with cursor := radio.cursor.advance }
          return some byte.value : RadioM (Option UInt8)) := by
        refine .bind (.access (fun _ => True) _) fun byte =>
          .bind (.ofOk ?_ ?_) fun _ => .pure _
        · exact fun _ _ => trivial
        · exact fun _ => ⟨(), _, rfl⟩
      exact safe.spares station trivial

theorem safe_peekByte : Safe Station.Sane peekByte := by
  refine .bind (.ofOk keeps_getRadio fun station => ⟨_, station, rfl⟩)
    fun radio => ?_
  refine .ite (.pure none) (.bind (.access Radio.Sane _) fun pointer => ?_)
  exact .bind (.access Radio.Sane _) fun byte =>
    .bind (.access Radio.Sane _) fun _ => .pure _

theorem safe_firmware : Safe Station.Sane firmware := by
  refine .bind safe_ensureReady fun _ => .bind ?_ fun _ => .pure _
  exact .ofOk keeps_getRadio fun station => ⟨_, station, rfl⟩

theorem safe_reading [Register ρ] {neutral : α} {next : ρ → RadioM α}
    (rest : ∀ register, Safe (Live Station.Sane) (next register)) :
    Safe Station.Sane (whenReady neutral (readRegister ρ >>= next)) :=
  safe_ofLive (Radio.safe_whenReady (.bind (.inService _) rest))

end Station.Sane

end LoraRadio
