import LoraRadio.Proofs.SendAgreement

/-!
# Giving up on a transmission

The driver gives up after a number of pauses, and looks at the interrupt flags
once more after the last of them.  Together the pauses last as long as the
timeout, unless the interval is zero: when they are counted it passes for one,
but a pause of that interval takes no time.
-/

namespace LoraRadio

open Operation RadioM Radio

/-! ## Pauses -/

def totalMs : List UInt32 → Nat
  | [] => 0
  | ms :: rest => ms.toNat + totalMs rest

theorem totalMs_replicate (count : Nat) (ms : UInt32) :
    totalMs (List.replicate count ms) = count * ms.toNat := by
  induction count with
  | zero => simp [totalMs]
  | succ count ih =>
      simp only [List.replicate_succ, totalMs, ih, Nat.succ_mul]
      omega

namespace Polling

def pauses (polling : Polling) : List UInt32 :=
  List.replicate polling.attempts polling.intervalMs

/-- The pauses of a wait cover its timeout, unless they take no time and some is
asked for. -/
theorem timeout_le_iff (polling : Polling) :
    polling.timeoutMs.toNat ≤ totalMs polling.pauses ↔
      polling.intervalMs ≠ 0 ∨ polling.timeoutMs = 0 := by
  rw [pauses, totalMs_replicate]
  by_cases still : polling.intervalMs = 0
  · simp [still, ← UInt32.toNat_inj]
  · have positive : 0 < polling.intervalMs.toNat := by
      simpa [Nat.pos_iff_ne_zero, ← UInt32.toNat_inj] using still
    have whole : max polling.intervalMs.toNat 1 = polling.intervalMs.toNat := by
      omega
    have covers : polling.timeoutMs.toNat ≤
        polling.attempts * polling.intervalMs.toNat := by
      have split :=
        Nat.div_add_mod (polling.timeoutMs.toNat + polling.intervalMs.toNat - 1)
          polling.intervalMs.toNat
      have rest :=
        Nat.mod_lt (polling.timeoutMs.toNat + polling.intervalMs.toNat - 1)
          positive
      simp only [attempts, whole, Nat.mul_comm _ polling.intervalMs.toNat]
      omega
    simp [still, covers]

end Polling

namespace Chip

theorem exists_last_look (chip : Chip) (intervalMs : UInt32) (pauses : Nat) :
    ∃ wait value, chip.lookScript intervalMs pauses =
      wait ++ [.read RegisterName.irqFlags.address value] := by
  induction pauses generalizing chip with
  | zero => exact ⟨[], _, rfl⟩
  | succ pauses ih =>
      obtain ⟨wait, value, split⟩ := ih chip.countFlagRead
      let look : Event := .read RegisterName.irqFlags.address
        (chip.countFlagRead.register RegisterName.irqFlags.address)
      refine ⟨look :: .delay intervalMs :: wait, value, ?_⟩
      rw [lookScript, split]
      rfl

theorem exists_lookScript_eq (chip : Chip) (intervalMs : UInt32)
    (pauses : Nat) :
    ∃ wait value, chip.lookScript intervalMs pauses =
        wait ++ [.read RegisterName.irqFlags.address value] ∧
      wait.countP Event.isFlagRead = pauses ∧
      wait.filterMap Event.pause = List.replicate pauses intervalMs := by
  obtain ⟨wait, value, split⟩ := chip.exists_last_look intervalMs pauses
  have looks := chip.countP_lookScript intervalMs pauses
  have paused := chip.filterMap_lookScript intervalMs pauses
  rw [split] at looks paused
  refine ⟨wait, value, split, ?_, ?_⟩
  · simpa [Event.isFlagRead] using looks
  · simpa [List.filterMap_cons, Event.pause] using paused

end Chip

/-! ## A wait that is given up -/

/-- The transmitter was started, and after some pauses and a last look it was
stopped.  No time went by but that of the pauses. -/
def Bench.GivesUp (before after : Bench) (pauses : List UInt32) : Prop :=
  ∃ lead wait value,
    after.events = before.events ++ lead ++
      .write RegisterName.opMode.address 0x83 :: (wait ++
      [.read RegisterName.irqFlags.address value,
          .write RegisterName.opMode.address 0x81,
        .write RegisterName.irqFlags.address 0x08]) ∧
    wait.countP Event.isFlagRead = pauses.length ∧
    wait.filterMap Event.pause = pauses ∧
    after.elapsedMs = before.elapsedMs + totalMs pauses

theorem Follows.of_timeout {α : Type} {operation : RadioM α}
    {script : List Event} {after : Outcome Failure Scene α}
    {station final : Station}
    (follows : Follows operation station.scene script after)
    (run : operation.run station = .error .transmitTimeout final) :
    after = .error .transmitTimeout final.scene ∧
      final.bench.events = station.bench.events ++ script := by
  rcases follows station rfl with
    ⟨seen, records⟩ | ⟨-, failure, reached, events, broken, breaks, -⟩
  · rw [run] at seen records
    exact ⟨seen.symm, records.recorded⟩
  · -- What breaks off a script is a failure of the bus or of a line.
    rw [run] at broken
    obtain ⟨rfl, -⟩ := Outcome.error.inj broken
    simpa using breaks.bus_or_line

namespace Radio

def launchStaged : RadioM Polling := do
  let polling ← prepareTransmit
  writeMode .transmit
  return polling

theorem endPacket_eq_launch :
    endPacket = whenReady () (launchStaged >>= awaitEnd) := by
  simp only [endPacket_eq, launchStaged, Operation.bind_assoc]
  rfl

def Launches (start : RadioM Polling) (before : Scene) (polling : Polling)
    (chip : Chip) : Prop :=
  ∃ lead, Follows start before
    (lead ++ [.write RegisterName.opMode.address 0x83])
    (.ok polling (before.withChip chip.sending))

variable {before : Scene} {polling : Polling} {start : RadioM Polling}
  {chip : Chip}

theorem launches_staged
    (chosen : before.radio.configuration.pollingFor
      (before.chip.register RegisterName.payloadLength.address) = .ok polling) :
    Launches launchStaged before polling before.chip :=
  ⟨_, .bind (follows_prepareTransmit chosen)
    (.bind_silent (follows_writeRegister _ _) (.pure polling _))⟩

theorem launches_atOnce {bytes : List UInt8}
    (chosen : before.radio.configuration.pollingFor
      (UInt8.ofNat (min bytes.length maxPayload)) = .ok polling) :
    Launches (transmitAtOnce bytes) before polling
      ((before.chip.opened before.radio.configuration.headerMode).staged
        bytes) := by
  have last :
      (before.chip.launchScript before.radio.configuration.headerMode
          bytes).getLast? =
        some (.write RegisterName.opMode.address 0x83) := by
    simp [Chip.launchScript, List.getLast?_cons, List.getLast?_append]
  obtain ⟨lead, split⟩ := List.getLast?_eq_some_iff.mp last
  have follows := follows_transmitAtOnce chosen
  rw [split] at follows
  exact ⟨lead, follows⟩

theorem givesUp_of_run {station final : Station}
    (launches : Launches start station.scene polling chip)
    (run : (start >>= awaitEnd).run station = .error .transmitTimeout final) :
    station.bench.GivesUp final.bench polling.pauses := by
  obtain ⟨lead, launched⟩ := launches
  rcases chip.sending.doneInTime_or_late polling.attempts with
    ⟨pauses, done, inTime⟩ | late
  · have follows : Follows (start >>= awaitEnd) station.scene _ _ :=
      .bind launched (follows_awaitEnd_found done inTime)
    obtain ⟨ended, -⟩ := follows.of_timeout run
    cases ended
  · have follows : Follows (start >>= awaitEnd) station.scene _ _ :=
      .bind launched (follows_awaitEnd_missed late)
    obtain ⟨ended, recorded⟩ := follows.of_timeout run
    obtain ⟨wait, value, split, looks, paused⟩ :=
      chip.sending.exists_lookScript_eq polling.intervalMs polling.attempts
    refine ⟨lead, wait, value, ?_, ?_, paused, ?_⟩
    · rw [recorded]
      simp [split, Scene.withChip]
    · simp [looks, Polling.pauses]
    · rw [Polling.pauses, totalMs_replicate]
      exact (congrArg Scene.elapsedMs (Outcome.error.inj ended).2).symm

theorem exists_run_of_never {station : Station}
    (launches : Launches start station.scene polling chip)
    (sound : station.bench.Sound)
    (never : ∀ look, ¬chip.sending.DoneAtLook look) :
    ∃ final, (start >>= awaitEnd).run station =
      .error .transmitTimeout final := by
  obtain ⟨lead, launched⟩ := launches
  have missed : ∀ look, chip.sending.DoneAtLook look →
      polling.attempts + 1 < look :=
    fun look done => absurd done (never look)
  have follows : Follows (start >>= awaitEnd) station.scene _ _ :=
    .bind launched (follows_awaitEnd_missed missed)
  obtain ⟨final, run, -⟩ := follows.exists_error sound rfl
  exact ⟨final, run⟩

end Radio

/-! ## Transmitters that never finish -/

/-- The chip raises the flag neither when the transmitter starts nor at any
later look. -/
structure Chip.NeverDone (chip : Chip) : Prop where
  atOnce : chip.transmitCompletes = false
  later : ∀ look, 0 < look → chip.transmitDoneAt ≠ some look

namespace Chip.NeverDone

variable {chip : Chip}

theorem not_doneAtLook (never : chip.NeverDone) (look : Nat) :
    ¬chip.sending.DoneAtLook look := by
  rw [doneAtLook_sending]
  simp only [never.atOnce, Bool.false_eq_true, if_false]
  rintro ⟨positive, due⟩
  exact never.later look positive due

theorem load (never : chip.NeverDone) (position : UInt8) (bytes : List UInt8) :
    (chip.load position bytes).NeverDone := by
  induction bytes generalizing chip position with
  | nil => exact never
  | cons byte rest ih =>
      exact @ih (chip.setCell position byte) ⟨never.atOnce, never.later⟩ _

theorem staged (never : chip.NeverDone) (mode : HeaderMode)
    (bytes : List UInt8) :
    ((chip.opened mode).staged bytes).NeverDone := by
  have opened : (chip.opened mode).NeverDone := ⟨never.atOnce, never.later⟩
  have loaded := opened.load 0 (bytes.take maxPayload)
  exact ⟨loaded.atOnce, loaded.later⟩

end Chip.NeverDone

/-! ## Main result -/

def Station.withPolling (station : Station) (polling : Polling) : Station :=
  { station with radio.configuration.polling := some polling }

namespace Call

def Sends (bytes : List UInt8) (call : Call) : Prop :=
  call = endPacket ∨ bytes ≠ [] ∧ call = deferred (.send bytes) none

variable {station : Station} {polling : Polling} {bytes : List UInt8}
  {call : Call}

theorem performAll_setPolling (polling : Polling) (call : Call)
    (station : Station) :
    performAll [.setPolling polling, call] station =
      ([.done, (call.perform (station.withPolling polling)).1],
        (call.perform (station.withPolling polling)).2) := rfl

theorem exists_launches (ready : station.radio.ready = true)
    (set : station.radio.configuration.polling = some polling)
    (sends : call.Sends bytes) :
    ∃ start chip,
      call.perform station = answer acknowledge (start >>= awaitEnd) station ∧
      Launches start station.scene polling chip ∧
      (station.bench.chip.NeverDone → chip.NeverDone) := by
  -- The length of the packet has no part in a wait that was set.
  have chosen (length : UInt8) :
      station.radio.configuration.pollingFor length = .ok polling := by
    rw [Configuration.pollingFor, set]
  rcases sends with rfl | ⟨some, rfl⟩
  · refine ⟨launchStaged, station.bench.chip, ?_,
      launches_staged (chosen _), id⟩
    refine answer_congr ?_
    rw [endPacket_eq_launch, run_whenReady_of_ready ready]
  · refine ⟨transmitAtOnce bytes, _, ?_, launches_atOnce (chosen _),
      fun never => ?_⟩
    · refine (DeferredCall.perform_whole (.send bytes) station).trans
        (answer_congr ?_)
      rw [sendAtOnce, if_neg (by simpa using some),
        run_whenReady_of_ready ready]
    · exact never.staged _ bytes

theorem perform_of_sends (ready : station.radio.ready = true)
    (set : station.radio.configuration.polling = some polling)
    (sends : call.Sends bytes) :
    ((call.perform station).1 = .failed .transmitTimeout →
      station.bench.GivesUp (call.perform station).2.bench polling.pauses) ∧
    (station.bench.Sound → station.bench.chip.NeverDone →
      (call.perform station).1 = .failed .transmitTimeout) := by
  obtain ⟨start, chip, performed, launches, kept⟩ :=
    exists_launches ready set sends
  rw [performed]
  constructor
  · intro told
    refine givesUp_of_run launches (run_of_answer_failed (Prod.ext told rfl) ?_)
    simp [acknowledge]
  · intro sound never
    obtain ⟨final, run⟩ :=
      exists_run_of_never launches sound (kept never).not_doneAtLook
    rw [answer_of_error run]

/-- When a wait is given up its pauses have covered the timeout, unless the
interval is zero and the timeout is not.  A transmitter that never finishes is
given up. -/
theorem timeout_after_pauses {station : Station}
    (ready : station.radio.ready = true) (polling : Polling)
    (bytes : List UInt8) :
    ∀ call ∈ [endPacket, deferred (.send bytes) none],
      let result := performAll [.setPolling polling, call] station
      (result.1 = [.done, .failed .transmitTimeout] →
        station.bench.GivesUp result.2.bench polling.pauses ∧
          (polling.timeoutMs.toNat ≤ totalMs polling.pauses ↔
            polling.intervalMs ≠ 0 ∨ polling.timeoutMs = 0)) ∧
      (station.bench.Sound → station.bench.chip.NeverDone →
        call = endPacket ∨ bytes ≠ [] →
        result.1 = [.done, .failed .transmitTimeout]) := by
  intro call listed result
  have known : result = _ := performAll_setPolling polling call station
  rw [known]
  by_cases sends : call.Sends bytes
  · obtain ⟨givesUp, timeout⟩ :=
      @perform_of_sends (station.withPolling polling) _ _ _ ready rfl sends
    constructor
    · intro told
      exact ⟨givesUp (by simpa using told), polling.timeout_le_iff⟩
    · intro sound never _
      rw [timeout sound never]
  · -- What is left is a packet without bytes, which is not sent.
    simp only [List.mem_cons, List.not_mem_nil, or_false] at listed
    rcases listed with rfl | rfl
    · exact absurd (.inl rfl) sends
    · obtain rfl : bytes = [] := by simpa [Sends] using sends
      refine ⟨fun told => ?_, fun _ _ some => ?_⟩
      · change [Reply.done, Reply.done] = _ at told
        simp at told
      · simp at some

/-- Three pauses of seven milliseconds for a timeout of twenty. -/
theorem timeout_after_pauses_of_three :
    let station : Station :=
      ⟨{ Radio.attach ⟨0, true, true⟩ with lifecycle := .ready },
        { chip := { Chip.fresh with transmitCompletes := false } }⟩
    let result := performAll [.setPolling ⟨7, 20⟩, .endPacket] station
    station.radio.ready = true ∧ result.1 = [.done, .failed .transmitTimeout] ∧
      station.bench.GivesUp result.2.bench [7, 7, 7] ∧
        20 ≤ totalMs [7, 7, 7] := by
  intro station result
  have never : station.bench.chip.NeverDone :=
    ⟨rfl, fun look _ => (Option.some_ne_none look).symm⟩
  obtain ⟨covers, givesUp⟩ :=
    @timeout_after_pauses station rfl ⟨7, 20⟩ [] .endPacket (by simp)
  have told := givesUp ⟨rfl, rfl⟩ never (.inl rfl)
  obtain ⟨recorded, early⟩ := covers told
  exact ⟨rfl, told, recorded, early.mpr (.inl (by decide))⟩

/-- With an interval of zero the driver gives up before any time has passed. -/
theorem timeout_without_pause :
    let station : Station :=
      ⟨{ Radio.attach ⟨0, true, true⟩ with lifecycle := .ready },
        { chip := { Chip.fresh with transmitCompletes := false } }⟩
    station.radio.ready = true ∧ station.bench.chip.NeverDone ∧
      ∀ call ∈ [endPacket, deferred (.send [0x0A]) none],
        let result := performAll [.setPolling ⟨0, 1⟩, call] station
        result.1 = [.done, .failed .transmitTimeout] ∧
          result.2.bench.elapsedMs = station.bench.elapsedMs := by
  intro station
  have never : station.bench.chip.NeverDone :=
    ⟨rfl, fun look _ => (Option.some_ne_none look).symm⟩
  refine ⟨rfl, never, ?_⟩
  intro call listed
  have sends : call.Sends [0x0A] := by simpa [Sends] using listed
  obtain ⟨givesUp, timeout⟩ :=
    @perform_of_sends (station.withPolling ⟨0, 1⟩) _ _ _ rfl rfl sends
  have told := timeout ⟨rfl, rfl⟩ never
  obtain ⟨_, _, _, -, -, -, elapsed⟩ := givesUp told
  rw [performAll_setPolling, told]
  exact ⟨rfl, elapsed⟩

end Call

end LoraRadio
