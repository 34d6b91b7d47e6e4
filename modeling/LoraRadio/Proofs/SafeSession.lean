import LoraRadio.Proofs.Safety

/-!
# Sessions without a trap

A session reaches sane drivers only, whatever is asked of them, whatever fails,
and whatever the chip holds at any time.  None of its steps traps.
-/

namespace LoraRadio

open Operation RadioM Radio

variable {α : Type}

/-! ## Buffers -/

namespace Radio

variable {station : Station}

theorem fill_ne_trap (buffer : List UInt8) (sane : station.Sane) (trap : Trap) :
    (fill buffer station).1.result ≠ .error (.trap trap) := by
  induction buffer generalizing station with
  | nil => simp [fill]
  | cons slot rest ih =>
      have after := Station.Sane.safe_readByte.keeps station sane
      unfold fill
      cases run : readByte.run station with
      | error failure reached =>
          rintro ⟨rfl⟩
          exact Station.Sane.safe_readByte.spares station sane trap reached run
      | ok byte reached =>
          rw [run] at after
          cases byte with
          | none => simp
          | some byte =>
              have later := ih after
              cases result : (fill rest reached).1.result with
              | error failure => simpa [result, Except.map] using later
              | ok count => simp [result, Except.map]

theorem fill_count_le {buffer : List UInt8} {count : Nat}
    (filled : (fill buffer station).1.result = .ok count) :
    count ≤ buffer.length := by
  induction buffer generalizing station count with
  | nil => simp_all [fill]
  | cons slot rest ih =>
      unfold fill at filled
      cases run : readByte.run station with
      | error failure reached => simp [run] at filled
      | ok byte reached =>
          cases byte with
          | none =>
              simp only [run, Except.ok.injEq] at filled
              omega
          | some byte =>
              cases result : (fill rest reached).1.result with
              | error failure => simp [run, result, Except.map] at filled
              | ok fewer =>
                  have shorter := ih result
                  simp only [run, result, Except.map, Except.ok.injEq] at filled
                  simp only [List.length_cons]
                  omega

theorem readBuffer_ne_trap (buffer : List UInt8) (sane : station.Sane)
    (trap : Trap) :
    (readBuffer buffer station).1.result ≠ .error (.trap trap) := by
  have safe : Safe Station.Sane (receive 0) :=
    Station.Sane.safe_ofLive (safe_receive 0)
  have after := safe.keeps station sane
  unfold readBuffer
  cases run : (receive 0).run station with
  | error failure reached =>
      rintro ⟨rfl⟩
      exact safe.spares station sane trap reached run
  | ok length reached =>
      rw [run] at after
      cases length with
      | zero => simp
      | succ length => exact fill_ne_trap buffer after trap

theorem readText_ne_trap (buffer : List UInt8) (sane : station.Sane)
    (trap : Trap) :
    (readText buffer station).1.result ≠ .error (.trap trap) := by
  have untrapped := readBuffer_ne_trap buffer sane trap
  cases result : (readBuffer buffer station).1.result with
  | error failure => simpa [readText, result, Except.map] using untrapped
  | ok count => simp [readText, result, Except.map]

theorem readBuffer_count_le {buffer : List UInt8} {count : Nat}
    (filled : (readBuffer buffer station).1.result = .ok count) :
    count ≤ buffer.length := by
  unfold readBuffer at filled
  cases run : (receive 0).run station with
  | error failure reached => simp [run] at filled
  | ok length reached =>
      cases length with
      | zero =>
          simp only [run, Except.ok.injEq] at filled
          omega
      | succ length =>
          simp only [run] at filled
          exact fill_count_le filled

end Radio

/-! ## Calls -/

theorem Reply.failure?_buffer (filled : Filled Nat) (failure : Failure) :
    (Reply.buffer filled).failure? = some failure ↔
      filled.result = .error failure := by
  obtain ⟨_ | _, _⟩ := filled <;> simp [failure?]

theorem Reply.failure?_text (filled : Filled (Option String))
    (failure : Failure) :
    (Reply.text filled).failure? = some failure ↔
      filled.result = .error failure := by
  obtain ⟨_ | _, _⟩ := filled <;> simp [failure?]

namespace Call

variable {station : Station}

theorem answer_ne_trap {success : α → Reply} {operation : RadioM α}
    (safe : Safe Station.Sane operation)
    (succeeds : ∀ value, (success value).failure? = none) (sane : station.Sane)
    (trap : Trap) :
    (answer success operation station).1.failure? ≠ some (.trap trap) := by
  cases run : operation.run station with
  | ok value final => simp [answer_of_ok run, succeeds]
  | error failure final =>
      rw [answer_of_error run]
      intro told
      obtain rfl := Option.some.inj told
      exact safe.spares station sane trap final run

theorem deferred_ne_trap (call : DeferredCall) (sane : station.Sane)
    (trap : Trap) :
    (call.perform none station).1.failure? ≠ some (.trap trap) := by
  have acknowledged {operation : RadioM Unit}
      (safe : Safe Station.Sane operation) :
      (answer acknowledge operation station).1.failure? ≠ some (.trap trap) :=
    answer_ne_trap safe (fun _ => rfl) sane trap
  rw [call.perform_whole]
  cases call with
  | isReady =>
      exact answer_ne_trap Station.Sane.safe_ensureReady
        (fun _ => rfl) sane trap
  | firmware =>
      exact answer_ne_trap Station.Sane.safe_firmware (fun _ => rfl) sane trap
  | idle => exact acknowledged (Station.Sane.safe_ofLive
      (safe_whenReady (.inService _)))
  | send bytes => exact acknowledged (Station.Sane.safe_sendAtOnce bytes)
  | sendText text => exact acknowledged (Station.Sane.safe_sendAtOnce _)

theorem perform_setting_ne_trap (setting : Setting) (sane : station.Sane)
    (trap : Trap) :
    (setting.call.perform station).1.failure? ≠ some (.trap trap) := by
  rw [setting.perform_call]
  exact answer_ne_trap (Station.Sane.safe_setting setting)
    (fun _ => rfl) sane trap

open Station.Sane in
theorem perform_ne_trap (call : Call) (sane : station.Sane) (trap : Trap) :
    (call.perform station).1.failure? ≠ some (.trap trap) := by
  have succeeds {α : Type} {success : α → Reply} {operation : RadioM α}
      (safe : Safe Station.Sane operation) (told : ∀ value,
        (success value).failure? = none) :
      (answer success operation station).1.failure? ≠ some (.trap trap) :=
    answer_ne_trap safe told sane trap
  cases call with
  | isReady => exact succeeds safe_ensureReady fun _ => rfl
  | firmware => exact succeeds safe_firmware fun _ => rfl
  | idle => exact succeeds (safe_ofLive
      (safe_whenReady (.inService _))) fun _ => rfl
  | sleep => exact succeeds (safe_ofLive
      (safe_whenReady (.inService _))) fun _ => rfl
  | setFrequency hz => exact perform_setting_ne_trap (.frequency hz) sane trap
  | setPower dbm amplifier =>
      exact perform_setting_ne_trap (.power dbm amplifier) sane trap
  | setSpreadingFactor factor =>
      exact perform_setting_ne_trap (.spreadingFactor factor) sane trap
  | spreadingFactor =>
      exact succeeds (safe_reading fun _ => .pure _) fun _ => rfl
  | setBandwidth hz => exact perform_setting_ne_trap (.bandwidth hz) sane trap
  | bandwidth => exact succeeds (safe_reading fun _ => .pure _) fun _ => rfl
  | setCodingRate denominator =>
      exact perform_setting_ne_trap (.codingRate denominator) sane trap
  | setPreambleLength symbols =>
      exact perform_setting_ne_trap (.preambleLength symbols) sane trap
  | setSyncWord word => exact perform_setting_ne_trap (.syncWord word) sane trap
  | setChecksum enabled =>
      exact perform_setting_ne_trap (.checksum enabled) sane trap
  | setPolling wait => exact perform_setting_ne_trap (.polling wait) sane trap
  | airtime length =>
      exact succeeds (.getConfiguration_bind (fun _ => id) fun known legal =>
        .checked (known.exists_airtimeMs legal length)) fun _ => rfl
  | polling length =>
      exact succeeds (.getConfiguration_bind (fun _ => id) fun known legal =>
        .checked (known.exists_pollingFor legal length)) fun _ => rfl
  | beginPacket => exact succeeds (safe_ofLive safe_beginPacket) fun _ => rfl
  | append bytes =>
      exact succeeds (safe_ofLive (safe_append bytes)) fun _ => rfl
  | endPacket => exact succeeds (safe_ofLive safe_endPacket) fun _ => rfl
  | send bytes => exact succeeds (safe_send bytes) fun _ => rfl
  | sendText text => exact succeeds (safe_send _) fun _ => rfl
  | receive size =>
      exact succeeds (safe_ofLive (safe_receive size)) fun _ => rfl
  | readByte => exact succeeds safe_readByte fun _ => rfl
  | peekByte => exact succeeds safe_peekByte fun _ => rfl
  | readBuffer buffer =>
      rw [ne_eq, show (Call.readBuffer buffer).perform station =
        (.buffer (Radio.readBuffer buffer station).1, _) from rfl,
        Reply.failure?_buffer]
      exact readBuffer_ne_trap buffer sane trap
  | readText buffer =>
      rw [ne_eq, show (Call.readText buffer).perform station =
        (.text (Radio.readText buffer station).1, _) from rfl,
        Reply.failure?_text]
      exact readText_ne_trap buffer sane trap
  | signalStrength =>
      exact succeeds
        (safe_reading fun _ => .getConfiguration_bind Live.left
          fun _ _ => .pure _)
        fun _ => rfl
  | signalToNoise => exact succeeds (safe_reading fun _ => .pure _) fun _ => rfl
  | frequencyError =>
      exact succeeds (safe_ofLive safe_frequencyError) fun _ => rfl
  | headerCount => exact succeeds (safe_reading fun _ => .pure _) fun _ => rfl
  | packetCount => exact succeeds (safe_reading fun _ => .pure _) fun _ => rfl
  | snapshot => exact succeeds (safe_ofLive safe_snapshot) fun _ => rfl
  | deferred call drop =>
      cases drop with
      | none => exact deferred_ne_trap call sane trap
      | some drop =>
          change (call.perform (some drop) station).1.failure? ≠ _
          rcases call.perform_drop drop station with dropped | late
          · simp [dropped, Reply.failure?]
          · rw [late]
            exact deferred_ne_trap call sane trap

end Call

/-! ## Sessions -/

namespace Session

def tampered (session : Session) (chip : Chip) : Session :=
  { session with station := ⟨session.station.radio,
    { session.station.bench with chip }⟩ }

inductive Reachable : Session → Prop where
  | start (boot reset : Bool) (chip : Chip) : Reachable (.start boot reset chip)
  | step {session : Session} (reached : Reachable session) (step : Step) :
      Reachable (session.step step).2
  | tampered {session : Session} (reached : Reachable session) (chip : Chip) :
      Reachable (session.tampered chip)

theorem Reachable.after {session : Session} (reached : session.Reachable)
    (steps : List Step) :
    (session.after steps).Reachable := by
  induction steps generalizing session with
  | nil => exact reached
  | cons step rest ih => exact ih (reached.step step)

theorem sane_step {session : Session} (sane : session.station.Sane)
    (step : Step) :
    (session.step step).2.station.Sane := by
  cases step with
  | stimulus stimulus => exact sane
  | release => exact Radio.sane_attach _
  | reconnect boot reset chip =>
      cases chip with
      | none => exact Radio.sane_attach _
      | some chip => exact Radio.sane_attach _
  | call call => exact Station.Sane.robust.perform_any call sane

theorem Reachable.sane {session : Session} (reached : session.Reachable) :
    session.station.Sane := by
  induction reached with
  | start boot reset chip => exact Radio.sane_attach _
  | step _ step ih => exact sane_step ih step
  | tampered _ chip ih => exact ih

theorem step_ne_trap {session : Session} (sane : session.station.Sane)
    (step : Step) (trap : Trap) :
    (session.step step).1.failure? ≠ some (.trap trap) := by
  cases step with
  | stimulus stimulus => simp [Session.step, Reply.failure?]
  | release => simp [Session.step, Reply.failure?]
  | reconnect boot reset chip =>
      cases chip <;> simp [Session.step, Session.reconnect, Reply.failure?]
  | call call =>
      exact @Call.perform_ne_trap
        ⟨session.station.radio, session.station.bench.clearTrace⟩ call sane trap

/-- In every session, with any faults, drops and connections and with any chip
at any time, the known settings stay in their ranges, the cursor stays in a
packet of at most 255 bytes, the settings are those of a new driver until it is
in service, and no step traps. -/
theorem never_traps {session : Session} (reached : session.Reachable) :
    let radio := session.station.radio
    let known := radio.configuration
    (137000000 ≤ known.frequency ∧ known.frequency ≤ 1020000000) ∧
      (6 ≤ known.spreadingFactor ∧ known.spreadingFactor ≤ 12) ∧
      (5 ≤ known.codingRate ∧ known.codingRate ≤ 8) ∧
      (match known.amplifier with
        | .paBoost => 2 ≤ known.power ∧ known.power ≤ 17
        | .rfo => 0 ≤ known.power ∧ known.power ≤ 14) ∧
      (radio.cursor.position ≤ radio.cursor.length ∧
        radio.cursor.length ≤ 255) ∧
      (radio.lifecycle ≠ .ready → ∃ polling, known = { polling }) ∧
      (∀ step trap, (session.step step).1.failure? ≠ some (.trap trap)) ∧
      ∀ buffer count,
        (Radio.readBuffer buffer session.station).1.result = .ok count →
        count ≤ buffer.length := by
  intro radio known
  have sane := reached.sane
  refine ⟨sane.legal.frequency, sane.legal.spreadingFactor,
    sane.legal.codingRate, ?_, ⟨sane.cursor.position, sane.cursor.length⟩, ?_,
    step_ne_trap sane, fun _ _ => Radio.readBuffer_count_le⟩
  · have power := sane.legal.power
    change known.amplifier.powerSpan.Contains known.power at power
    cases amplifier : known.amplifier with
    | paBoost =>
        rw [amplifier] at power
        exact power
    | rfo =>
        rw [amplifier] at power
        exact power
  · intro waiting
    exact sane.waiting (by simpa [Radio.ready] using waiting)

/-- After a fault and a dropped call, and with nearly every bit of the chip set
behind its back, a driver in service still measures an offset and appends to a
packet. -/
theorem never_traps_on_full_chip :
    let steps : List Step :=
      [.call (.setPower 127 .rfo), .stimulus (.busFaults ⟨1, 1⟩),
        .call (.setSpreadingFactor 255),
        .call (.deferred (.send [1, 2, 3]) (some (.access 9)))]
    let chip :=
      { Chip.fresh with
        registers := Vector.replicate 128 0xFF }.setRegister
          RegisterName.modemConfig1.address 0x9F
    let session :=
      ((Session.start true true Chip.fresh).after steps).tampered chip
    session.Reachable ∧ session.station.radio.ready = true ∧
      session.station.radio.configuration.power = 14 ∧
      (∀ trap, (session.step (.call .frequencyError)).1.failure? ≠
        some (.trap trap)) ∧
      ∀ trap, (session.step (.call (.append [4]))).1.failure? ≠
        some (.trap trap) := by
  intro steps chip session
  have reached : session.Reachable :=
    ((Reachable.start true true Chip.fresh).after steps).tampered chip
  obtain ⟨-, -, -, -, -, -, untrapped, -⟩ := never_traps reached
  exact ⟨reached,
    by decide +kernel, by decide +kernel, untrapped _, untrapped _⟩

end Session

end LoraRadio
