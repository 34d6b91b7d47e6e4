import LoraRadio.Proofs.ExactAirtime
import LoraRadio.Proofs.Lifecycle
import LoraRadio.Proofs.OutOfService
import LoraRadio.Proofs.SafeSession
import LoraRadio.Proofs.TransmitWait

/-!
# The wait that is derived from the airtime

A driver that was given no wait of its own waits twice the airtime of a packet
and a second more, with a look every ten milliseconds.  No setting brings this
near the end of a 32-bit word, so the wait is never cut short.  It covers every
transmission that ends within its airtime and a second.
-/

namespace LoraRadio

open Operation RadioM Radio

/-! ## The wait -/

namespace Polling

variable {airtimeMs : UInt32}

theorem timeoutMs_forAirtime (fits : 2 * airtimeMs.toNat + 1000 < UInt32.size) :
    (forAirtime airtimeMs).timeoutMs.toNat = 2 * airtimeMs.toNat + 1000 := by
  have whole : min (min (2 * airtimeMs.toNat) (UInt32.size - 1) + 1000)
        (UInt32.size - 1) =
      2 * airtimeMs.toNat + 1000 := by omega
  rw [forAirtime, whole, UInt32.toNat_ofNat_of_lt' fits]

theorem attempts_forAirtime (fits : 2 * airtimeMs.toNat + 1000 < UInt32.size) :
    2 * airtimeMs.toNat + 1000 ≤ (forAirtime airtimeMs).attempts * 10 ∧
      (forAirtime airtimeMs).attempts * 10 < 2 * airtimeMs.toNat + 1010 := by
  have rounded : (forAirtime airtimeMs).attempts =
      (2 * airtimeMs.toNat + 1000 + 10 - 1) / 10 := by
    rw [attempts, timeoutMs_forAirtime fits]
    rfl
  omega

end Polling

namespace Configuration

variable {known : Configuration}

theorem symbolMs_nonneg (known : Configuration) : 0 ≤ known.symbolMs := by
  unfold symbolMs
  positivity

theorem preamble_le_exactMs (known : Configuration) (length : UInt8) :
    known.preambleLength.toNat * known.symbolMs ≤ known.exactMs length := by
  have blocks : (0 : ℚ) ≤ known.exactBlocks length := by
    exact_mod_cast le_max_left _ _
  have coded : 0 ≤ known.exactBlocks length * (known.codingRate.toNat : ℚ) :=
    mul_nonneg blocks (Nat.cast_nonneg _)
  exact mul_le_mul_of_nonneg_right (by linarith) known.symbolMs_nonneg

theorem exactMs_nonneg (known : Configuration) (length : UInt8) :
    0 ≤ known.exactMs length :=
  (mul_nonneg (Nat.cast_nonneg _) known.symbolMs_nonneg).trans
    (known.preamble_le_exactMs length)

theorem exists_airtimeMs_ge (legal : known.Legal) (length : UInt8) :
    ∃ ms, known.airtimeMs length = .ok ms ∧ known.exactMs length ≤ ms.toNat ∧
      ms.toNat ≤ 24 * 60 * 60 * 1000 := by
  obtain ⟨ms, computed, exact, bound⟩ :=
    known.exists_airtimeMs_ceil legal.spreadingFactor legal.codingRate length
  have above := Int.le_ceil (known.exactMs length)
  rw [← exact, Int.cast_natCast] at above
  exact ⟨ms, computed, above, bound⟩

theorem exists_derived (legal : known.Legal) (derived : known.polling = none)
    (length : UInt8) :
    ∃ airtime polling, known.airtimeMs length = .ok airtime ∧
      known.pollingFor length = .ok polling ∧ polling.intervalMs = 10 ∧
      polling.timeoutMs.toNat = 2 * airtime.toNat + 1000 ∧
      2 * known.exactMs length + 1000 ≤ (polling.attempts * 10 : ℕ) ∧
      polling.attempts * 10 < 2 * airtime.toNat + 1010 := by
  obtain ⟨airtime, computed, above, bound⟩ := exists_airtimeMs_ge legal length
  have fits : 2 * airtime.toNat + 1000 < UInt32.size := by
    have size : UInt32.size = 4294967296 := rfl
    omega
  have chosen : known.pollingFor length = .ok (Polling.forAirtime airtime) := by
    rw [pollingFor, derived, computed]
    rfl
  obtain ⟨low, high⟩ := Polling.attempts_forAirtime fits
  refine ⟨airtime, _, computed, chosen, rfl,
    Polling.timeoutMs_forAirtime fits, ?_, high⟩
  have low : (2 * airtime.toNat + 1000 : ℚ) ≤
      ((Polling.forAirtime airtime).attempts * 10 : ℕ) := by
    exact_mod_cast low
  linarith

end Configuration

/-! ## A bus without faults -/

def Event.isFailedAccess : Event → Bool
  | .readFailed _ | .writeFailed _ _ => true
  | _ => false

structure Bench.Undisturbed (bench : Bench) : Prop where
  faults : bench.busFaults.count = 0
  passed : ∀ event ∈ bench.events, event.isFailedAccess = false

theorem Bench.undisturbed_clearTrace {bench : Bench}
    (closed : bench.busFaults.count = 0) :
    bench.clearTrace.Undisturbed :=
  ⟨closed, List.forall_mem_nil _⟩

namespace Bench.Undisturbed

variable {bench : Bench} (undisturbed : bench.Undisturbed)

include undisturbed

theorem access {event : Event} (passes : event.isFailedAccess = false)
    (chip : Chip) :
    ({ bench.countAccess with chip }.record event).Undisturbed where
  faults := FaultWindow.count_next undisturbed.faults
  passed := by
    rw [events_record, List.forall_mem_append, List.forall_mem_singleton]
    exact ⟨undisturbed.passed, passes⟩

theorem read (address : Address) : (bench.read address).2.Undisturbed := by
  rw [Bench.read, if_pos (FaultWindow.passes_of_count undisturbed.faults)]
  exact undisturbed.access rfl _

theorem write (address : Address) (value : UInt8) :
    (bench.write address value).2.Undisturbed := by
  rw [Bench.write, if_pos (FaultWindow.passes_of_count undisturbed.faults)]
  exact undisturbed.access rfl _

theorem delay (ms : UInt32) : (bench.delay ms).Undisturbed where
  faults := undisturbed.faults
  passed := by
    rw [Bench.delay, events_record, List.forall_mem_append,
      List.forall_mem_singleton]
    exact ⟨undisturbed.passed, rfl⟩

end Bench.Undisturbed

theorem awaiting_undisturbed :
    Awaiting fun station => station.radio.ready = true ∧
      station.bench.Undisturbed := by
  have read (address : Address) :
      Keeps (Live fun station => station.radio.ready = true ∧
        station.bench.Undisturbed) (access (Bus.read address)) := by
    rintro station ⟨⟨ready, undisturbed⟩, -⟩
    rw [state_read]
    exact ⟨⟨ready, undisturbed.read address⟩, ready⟩
  have write (address : Address) (value : UInt8) :
      Keeps (Live fun station => station.radio.ready = true ∧
        station.bench.Undisturbed) (access (Bus.write address value)) := by
    rintro station ⟨⟨ready, undisturbed⟩, -⟩
    rw [state_write]
    exact ⟨⟨ready, undisturbed.write address value⟩, ready⟩
  exact {
    -- Startup would set lines as well, but in service there is none.
    start := keeps_ensureReady_of_ready And.left
    read _ := read _
    rest _ _ := write _ _
    flags _ := write _ _
    delay ms := by
      rintro station ⟨⟨ready, undisturbed⟩, -⟩
      exact ⟨⟨ready, undisturbed.delay ms⟩, ready⟩
    launch := .bind (write _ _) fun _ => write _ _ }

theorem Follows.exists_of_undisturbed {α : Type} {operation : RadioM α}
    {script : List Event} {value : α} {after : Scene} {station : Station}
    (follows : Follows operation station.scene script (.ok value after))
    (bus : ∀ event ∈ script, event.isLine = false)
    (passed : ∀ event ∈ (operation.run station).state.bench.events,
      event.isFailedAccess = false) :
    ∃ final, operation.run station = .ok value final ∧ final.scene = after := by
  rcases follows station rfl with ⟨seen, -⟩ |
    ⟨-, failure, final, events, run, breaks, records⟩
  · exact Outcome.exists_of_view_ok seen
  · obtain ⟨early, event, rest, failed, rfl, rfl, fails⟩ := breaks.exists_split
    have onLine := bus event (List.mem_append_right _ List.mem_cons_self)
    have quiet : failed.isFailedAccess = false := by
      refine passed failed ?_
      rw [run, Outcome.state, records.recorded]
      exact List.mem_append_right _ (List.mem_append_right _ List.mem_cons_self)
    rcases Event.cases_of_broken fails with
      ⟨_, _, -, rfl, -⟩ | ⟨_, _, -, rfl, -⟩ | ⟨_, _, rfl, -, -⟩
    · cases quiet
    · cases quiet
    · cases onLine

/-! ## The end of a packet -/

theorem Chip.isLine_lookScript (chip : Chip) (intervalMs : UInt32)
    (pauses : Nat) :
    ∀ event ∈ chip.lookScript intervalMs pauses, event.isLine = false := by
  induction pauses generalizing chip with
  | zero => simp [lookScript, Event.isLine]
  | succ pauses ih =>
      rw [lookScript, List.forall_mem_cons, List.forall_mem_cons]
      exact ⟨rfl, rfl, ih chip.countFlagRead⟩

theorem Chip.doneAtLook_putDefaults (chip : Chip) (known : Configuration)
    {look : Nat} :
    (chip.putDefaults known).sending.DoneAtLook look ↔
      chip.sending.DoneAtLook look := by
  rw [doneAtLook_sending, doneAtLook_sending]
  rfl

theorem Radio.startup_of_ready {before : Scene}
    (ready : (startup before).radio.ready = true) :
    (startup before).radio.configuration =
        (Setting.power 17 .paBoost).configure before.radio.configuration ∧
      (startup before).chip =
        before.chip.putDefaults before.radio.configuration := by
  obtain ⟨complete, required⟩ := usable_of_startup_ready ready
  rw [startup, if_pos complete]
  dsimp only
  rw [if_pos required]
  exact ⟨rfl, rfl⟩

namespace Call

variable {station : Station} {polling : Polling} {pauses : Nat}

theorem perform_endPacket_undisturbed (undisturbed : station.bench.Undisturbed)
    (ready : station.radio.ready = true)
    (chosen : station.radio.configuration.pollingFor
      (station.bench.chip.register RegisterName.payloadLength.address) =
      .ok polling) (done : station.bench.chip.sending.DoneAtLook (pauses + 1))
    (inTime : pauses ≤ polling.attempts) :
    ∃ final, Call.endPacket.perform station = (.done, final) ∧
      final.bench.elapsedMs =
        station.bench.elapsedMs + pauses * polling.intervalMs.toNat := by
  have follows :=
    @follows_endPacket_found station.scene pauses polling ready chosen
      done inTime
  have bus : ∀ event ∈ endScript station.scene.chip polling.intervalMs pauses
      [.write RegisterName.irqFlags.address 0x08], event.isLine = false := by
    rw [endScript, List.forall_mem_cons, List.forall_mem_cons,
      List.forall_mem_cons, List.forall_mem_append, List.forall_mem_singleton]
    exact ⟨rfl, rfl, rfl, Chip.isLine_lookScript _ _ _, rfl⟩
  have kept :=
    awaiting_undisturbed.keeps_endPacket station ⟨⟨ready, undisturbed⟩, ready⟩
  obtain ⟨final, run, scene⟩ :=
    follows.exists_of_undisturbed bus kept.1.2.passed
  exact ⟨final, answer_of_ok run, congrArg Scene.elapsedMs scene⟩

theorem perform_endPacket_out
    (started : station.radio.lifecycle ≠ .uninitialized)
    (out : station.radio.ready = false) :
    Call.endPacket.perform station = (.done, station) := by
  have skipped : Radio.endPacket.run station = .ok () station := by
    rw [endPacket_eq]
    exact run_whenReady_of_out started out () _
  exact answer_of_ok skipped

theorem perform_endPacket_new (sound : station.bench.Sound)
    (legal : station.radio.configuration.Legal)
    (new : station.radio.lifecycle = .uninitialized)
    (chosen : station.radio.configuration.pollingFor
      (station.bench.chip.register RegisterName.payloadLength.address) =
      .ok polling) (done : station.bench.chip.sending.DoneAtLook (pauses + 1))
    (inTime : pauses ≤ polling.attempts) :
    ∃ final, Call.endPacket.perform station = (.done, final) := by
  obtain ⟨reached, run, stillSound, scene⟩ :=
    (@follows_ensureReady station.scene new legal).gives.exists_run sound rfl
  have radio : reached.radio = (startup station.scene).radio :=
    congrArg Scene.radio scene
  have chip : reached.bench.chip = (startup station.scene).chip :=
    congrArg Scene.chip scene
  have started : reached.radio.lifecycle ≠ .uninitialized := by
    rw [radio]
    exact startup_started station.scene
  rw [← radio] at run
  have same : Call.endPacket.perform station =
      Call.endPacket.perform reached := by
    refine answer_congr ?_
    rw [endPacket_eq]
    exact run_whenReady_of_run () _ run started
  rw [same]
  cases inService : reached.radio.ready with
  | false => exact ⟨reached, perform_endPacket_out started inService⟩
  | true =>
      obtain ⟨configured, programmed⟩ := startup_of_ready (radio ▸ inService)
      rw [← radio] at configured
      rw [← chip] at programmed
      have length :
          reached.bench.chip.register RegisterName.payloadLength.address =
            station.bench.chip.register RegisterName.payloadLength.address := by
        rw [programmed]
        exact UInt8.toNat_inj.mp (Chip.value_putDefaults _ _ (by decide))
      have again : reached.radio.configuration.pollingFor
          (reached.bench.chip.register RegisterName.payloadLength.address) =
            .ok polling := by
        rw [length, configured]
        exact chosen
      have later : reached.bench.chip.sending.DoneAtLook (pauses + 1) := by
        rw [programmed]
        exact (Chip.doneAtLook_putDefaults _ _).mpr done
      obtain ⟨final, performed, -⟩ :=
        perform_endPacket_found stillSound inService again later inTime
      exact ⟨final, performed⟩

end Call

/-! ## Sessions -/

/-- No access fails, and no line if startup is still to come. -/
structure Station.Unhindered (station : Station) : Prop where
  bus : station.bench.busFaults.count = 0
  lines : station.radio.lifecycle = .uninitialized →
    station.bench.lineFaults.count = 0

namespace Session

/-- Every driver that a session reaches and that was given no wait of its own
looks every ten milliseconds and gives up after twice the airtime and a second,
not cut short by the size of a word.  So it finds the end of every transmission
that is over within the exact airtime and a second, if nothing fails. -/
theorem derived_wait_covers {session : Session} (reached : session.Reachable)
    (derived : session.station.radio.configuration.polling = none) :
    let known := session.station.radio.configuration
    let chip := session.station.bench.chip
    (∀ length, ∃ airtime polling, known.airtimeMs length = .ok airtime ∧
      known.pollingFor length = .ok polling ∧ polling.intervalMs = 10 ∧
      polling.timeoutMs.toNat = 2 * airtime.toNat + 1000 ∧
      2 * known.exactMs length + 1000 ≤ (polling.attempts * 10 : ℕ) ∧
      polling.attempts * 10 < 2 * airtime.toNat + 1010) ∧
    ∀ pauses : ℕ, session.station.Unhindered →
      chip.sending.DoneAtLook (pauses + 1) →
      (pauses * 10 : ℕ) ≤
        known.exactMs (chip.register RegisterName.payloadLength.address)
          + 1000 →
      ∃ next, session.step (.call .endPacket) = (.done, next) ∧
        (session.station.radio.ready = true →
          next.station.bench.elapsedMs =
            session.station.bench.elapsedMs + pauses * 10) := by
  intro known chip
  have legal : known.Legal := reached.sane.legal
  refine ⟨Configuration.exists_derived legal derived,
    fun pauses unhindered done early => ?_⟩
  obtain ⟨-, polling, -, chosen, interval, -, covers, -⟩ :=
    Configuration.exists_derived legal derived
      (chip.register RegisterName.payloadLength.address)
  have inTime : pauses ≤ polling.attempts := by
    have nonneg :=
      known.exactMs_nonneg (chip.register RegisterName.payloadLength.address)
    have within : ((pauses * 10 : ℕ) : ℚ) ≤ (polling.attempts * 10 : ℕ) := by
      linarith
    have within : pauses * 10 ≤ polling.attempts * 10 := by
      exact_mod_cast within
    omega
  have performs : ∃ final,
      Call.endPacket.perform session.station.cleared = (.done, final) ∧
      (session.station.radio.ready = true →
        final.bench.elapsedMs =
          session.station.bench.elapsedMs + pauses * 10) := by
    -- The call may have to start the driver first, or find it out of service
    -- and do nothing.
    by_cases new : session.station.radio.lifecycle = .uninitialized
    · obtain ⟨final, performed⟩ :=
        @Call.perform_endPacket_new session.station.cleared polling
          pauses ⟨unhindered.bus, unhindered.lines new⟩ legal new chosen
          done inTime
      refine ⟨final, performed, fun ready => ?_⟩
      simp [Radio.ready, new] at ready
    · cases ready : session.station.radio.ready with
      | false =>
          exact ⟨_, @Call.perform_endPacket_out session.station.cleared new
            ready, Bool.noConfusion⟩
      | true =>
          obtain ⟨final, performed, elapsed⟩ :=
            @Call.perform_endPacket_undisturbed
              session.station.cleared polling pauses
              (Bench.undisturbed_clearTrace unhindered.bus) ready chosen
              done inTime
          rw [interval] at elapsed
          exact ⟨final, performed, fun _ => elapsed⟩
  obtain ⟨final, performed, elapsed⟩ := performs
  exact ⟨⟨final, session.chips⟩, by rw [step_call, performed], elapsed⟩

/-- A packet behind the longest preamble at the slowest settings, which is over
after 10000 s. -/
theorem derived_wait_covers_hours :
    let session := (Session.start true true Chip.fresh).after
      [.call .isReady, .call (.setSpreadingFactor 12),
        .call (.setBandwidth 7800), .call (.setPreambleLength 65535),
        .stimulus (.transmitter false (some 1000001)), .call .beginPacket,
        .call (.append [1, 2, 3])]
    ∃ next, session.step (.call .endPacket) = (.done, next) ∧
      next.station.bench.elapsedMs =
        session.station.bench.elapsedMs + 10000000 := by
  intro session
  have reached : session.Reachable :=
    (Reachable.start true true Chip.fresh).after _
  have derived : session.station.radio.configuration.polling = none := by
    subst session
    rfl
  have ready : session.station.radio.ready = true := by
    subst session
    rfl
  have unhindered : session.station.Unhindered := by
    subst session
    exact ⟨rfl, fun _ => rfl⟩
  have done : session.station.bench.chip.sending.DoneAtLook (1000000 + 1) := by
    have told : session.station.bench.chip.transmitCompletes = false ∧
        session.station.bench.chip.transmitDoneAt = some 1000001 := by
      subst session
      exact ⟨rfl, rfl⟩
    rw [Chip.doneAtLook_sending, told.1, told.2]
    simp
  have early : ((1000000 * 10 : ℕ) : ℚ) ≤
      session.station.radio.configuration.exactMs
      (session.station.bench.chip.register RegisterName.payloadLength.address)
        + 1000 := by
    have settings : session.station.radio.configuration.preambleLength.toNat =
          65535 ∧
        session.station.radio.configuration.spreadingFactor.toNat = 12 ∧
        session.station.radio.configuration.bandwidth.hz.toNat = 7800 := by
      subst session
      exact ⟨rfl, rfl, rfl⟩
    have preamble := session.station.radio.configuration.preamble_le_exactMs
      (session.station.bench.chip.register RegisterName.payloadLength.address)
    rw [Configuration.symbolMs, settings.1, settings.2.1, settings.2.2]
      at preamble
    norm_num at preamble ⊢
    linarith
  obtain ⟨next, step, elapsed⟩ :=
    (derived_wait_covers reached derived).2 1000000 unhindered done early
  exact ⟨next, step, elapsed ready⟩

end Session

end LoraRadio
