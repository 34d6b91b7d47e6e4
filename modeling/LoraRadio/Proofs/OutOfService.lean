import LoraRadio.Proofs.Lifecycle

/-!
# Calls out of service

A driver whose startup was refused, ended at another firmware or was left midway
answers every call at once, without an access, a line change or a delay.  The
caller is told the neutral value of the call.  A new driver does the same with
the calls that need no chip.  The one thing that such calls leave behind is the
wait that a caller has chosen.
-/

namespace LoraRadio

open Operation RadioM Radio

namespace Radio

def Declines (radio : Radio) (call : Call) : Prop :=
  match radio.lifecycle with
  | .firmwareMismatch | .invalidConfiguration | .initializing => True
  | .uninitialized => call.needsChip = false
  | .ready => False

def awaiting (radio : Radio) (wait : Option Polling) : Radio :=
  { radio with
    configuration :=
      { radio.configuration with
        polling := wait.or radio.configuration.polling } }

theorem awaiting_none (radio : Radio) : radio.awaiting none = radio := rfl

theorem awaiting_awaiting (radio : Radio) (first second : Option Polling) :
    (radio.awaiting first).awaiting second =
      radio.awaiting (second.or first) := by
  cases second <;> rfl

theorem Declines.ready {radio : Radio} {call : Call}
    (declines : radio.Declines call) :
    radio.ready = false := by
  unfold Declines at declines
  split at declines <;> simp_all [Radio.ready]

theorem Declines.started {radio : Radio} {call : Call}
    (declines : radio.Declines call) (needs : call.needsChip = true) :
    radio.lifecycle ≠ .uninitialized := by
  intro new
  simp [Declines, new, needs] at declines

theorem available_of_ready {radio : Radio} (out : radio.ready = false) :
    radio.available = 0 := by
  simp [available, out]

theorem run_whenReady_of_out {α : Type} {station : Station}
    (started : station.radio.lifecycle ≠ .uninitialized)
    (out : station.radio.ready = false) (neutral : α) (operation : RadioM α) :
    (whenReady neutral operation).run station = .ok neutral station := by
  simp [whenReady, run_ensureReady_of_started started, out]

end Radio

namespace RadioTask

variable {α : Type} {radio : Radio}

theorem start_ensureReady_of_started
    (started : radio.lifecycle ≠ .uninitialized) :
    ensureReady.start radio = .finished radio (.ok radio.ready) := by
  simp [ensureReady, getRadio, started, Coroutine.bind]

theorem start_whenReady_of_out (started : radio.lifecycle ≠ .uninitialized)
    (out : radio.ready = false) (neutral : α) (task : RadioTask α) :
    (whenReady neutral task).start radio = .finished radio (.ok neutral) := by
  simp [whenReady, start_ensureReady_of_started started, out, Coroutine.bind]

end RadioTask

namespace Call

variable {α : Type} {station : Station}

/-- What a driver tells out of service.  It still tells what it knows: the
firmware version, and what follows from the settings. -/
def neutral (radio : Radio) : Call → Reply
  | .isReady | .deferred .isReady _ => .truth false
  | .firmware | .deferred .firmware _ => .byte radio.version
  | .idle | .sleep | .deferred .idle _ => .done
  | .setFrequency _ | .setPower _ _ | .setSpreadingFactor _
  | .setBandwidth _ => .done
  | .setCodingRate _ | .setPreambleLength _ | .setSyncWord _
  | .setChecksum _ => .done
  | .setPolling _ => .done
  | .spreadingFactor | .bandwidth => .number none
  | .airtime length =>
      .ofResult (fun ms => .count ms.toNat)
        ((radio.configuration.airtimeMs length).mapError .trap)
  | .polling length =>
      .ofResult .polling
        ((radio.configuration.pollingFor length).mapError .trap)
  | .beginPacket | .endPacket | .send _ | .sendText _ => .done
  | .deferred (.send _) _ | .deferred (.sendText _) _ => .done
  | .append _ | .receive _ => .count 0
  | .readByte | .peekByte => .number none
  | .readBuffer buffer => .buffer ⟨.ok 0, buffer⟩
  | .readText buffer => .text ⟨.ok none, buffer⟩
  | .signalStrength | .frequencyError | .headerCount | .packetCount =>
      .number none
  | .signalToNoise => .noise none
  | .snapshot => .snapshot {}

def wait? : Call → Option Polling
  | .setPolling wait => some wait
  | _ => none

def lastWait : List Call → Option Polling
  | [] => none
  | call :: rest => (lastWait rest).or call.wait?

/-! ## One call -/

theorem answer_known (success : α → Reply) (ask : Configuration → Checked α)
    (station : Station) :
    answer success
        (getConfiguration >>= fun known => checked (ask known)) station =
      (.ofResult success ((ask station.radio.configuration).mapError .trap),
        station) := by
  simp only [answer, run_bind, getConfiguration, Outcome.andThen_ok]
  cases ask station.radio.configuration <;> rfl

theorem answerDeferred_finished {task : RadioTask α} {value : α}
    (success : α → Reply)
    (finished : task.start station.radio = .finished station.radio (.ok value))
    (drop : Option DropPoint) :
    answerDeferred success task drop station = (success value, station) := by
  cases drop <;>
    simp [answerDeferred, Coroutine.execute, finished, Coroutine.run,
      Coroutine.runUntil, Reply.ofResult]

theorem perform_needless_of_out {call : Call}
    (needless : call.needsChip = false) (out : station.radio.ready = false) :
    call.perform station =
      (call.neutral station.radio,
        ⟨station.radio.awaiting call.wait?, station.bench⟩) := by
  have empty := available_of_ready out
  have nothing {bytes : List UInt8} (none : (!bytes.isEmpty) = false) :
      bytes.isEmpty = true := by
    simpa using none
  cases call with
  | setPolling wait => rfl
  | airtime length =>
      exact answer_known _ (fun known => known.airtimeMs length) station
  | polling length =>
      exact answer_known _ (fun known => known.pollingFor length) station
  | readByte => exact answer_of_ok (run_readByte_of_empty empty)
  | peekByte => exact answer_of_ok (run_peekByte_of_empty empty)
  | send bytes =>
      change answer acknowledge (Radio.send bytes) station = _
      rw [Radio.send, if_pos (nothing needless)]
      rfl
  | sendText text =>
      change answer acknowledge (Radio.send text.toUTF8.toList) station = _
      rw [Radio.send, if_pos (nothing needless)]
      rfl
  | deferred call drop =>
      cases call with
      | send bytes =>
          change answerDeferred acknowledge
            (RadioTask.send bytes) drop station = _
          rw [RadioTask.send, if_pos (nothing needless)]
          exact answerDeferred_finished acknowledge rfl drop
      | sendText text =>
          change answerDeferred acknowledge
            (RadioTask.send text.toUTF8.toList) drop station = _
          rw [RadioTask.send, if_pos (nothing needless)]
          exact answerDeferred_finished acknowledge rfl drop
      | _ => cases needless
  | _ => cases needless

theorem perform_needful_of_out {call : Call} (needs : call.needsChip = true)
    (started : station.radio.lifecycle ≠ .uninitialized)
    (out : station.radio.ready = false) :
    call.perform station = (call.neutral station.radio, station) := by
  have asked : ensureReady.run station = .ok false station := by
    rw [run_ensureReady_of_started started, out]
  have nothingReceived : (Radio.receive 0).run station = .ok 0 station :=
    run_whenReady_of_out started out _ _
  have skips {α : Type} (success : α → Reply) (value : α)
      (operation : RadioM α) :
      answer success (whenReady value operation) station =
        (success value, station) :=
    answer_of_ok (run_whenReady_of_out started out value operation)
  have skipsTask {α : Type} (success : α → Reply) (value : α)
      (task : RadioTask α) (drop : Option DropPoint) :
      answerDeferred success (RadioTask.whenReady value task) drop station =
        (success value, station) :=
    answerDeferred_finished success
      (RadioTask.start_whenReady_of_out started out value task) drop
  have filled {bytes : List UInt8} (some : (!bytes.isEmpty) = true) :
      ¬bytes.isEmpty = true := by
    simpa using some
  cases call with
  | setPolling | airtime | polling | readByte | peekByte => cases needs
  | isReady => exact answer_of_ok asked
  | firmware =>
      have run : Radio.firmware.run station =
          .ok station.radio.version station := by
        simp [Radio.firmware, asked, getRadio]
      exact answer_of_ok run
  | send bytes =>
      change answer acknowledge (Radio.send bytes) station = _
      rw [Radio.send, if_neg (filled needs)]
      exact skips _ _ _
  | sendText text =>
      change answer acknowledge (Radio.send text.toUTF8.toList) station = _
      rw [Radio.send, if_neg (filled needs)]
      exact skips _ _ _
  | readBuffer buffer =>
      simp [perform, neutral, Radio.readBuffer, nothingReceived]
  | readText buffer =>
      simp [perform, neutral, Radio.readText, Radio.readBuffer, nothingReceived,
        textOfBytes, Except.map]
  | deferred call drop =>
      cases call with
      | isReady =>
          have finished := RadioTask.start_ensureReady_of_started started
          rw [out] at finished
          exact answerDeferred_finished .truth finished drop
      | firmware =>
          refine answerDeferred_finished .byte ?_ drop
          simp [RadioTask.firmware,
            RadioTask.start_ensureReady_of_started started, RadioTask.getRadio,
            Coroutine.bind]
      | idle => exact skipsTask _ _ _ drop
      | send bytes =>
          change answerDeferred acknowledge
            (RadioTask.send bytes) drop station = _
          rw [RadioTask.send, if_neg (filled needs)]
          exact skipsTask _ _ _ drop
      | sendText text =>
          change answerDeferred acknowledge
            (RadioTask.send text.toUTF8.toList) drop station = _
          rw [RadioTask.send, if_neg (filled needs)]
          exact skipsTask _ _ _ drop
  | _ => exact skips _ _ _

theorem wait?_of_needsChip {call : Call} (needs : call.needsChip = true) :
    call.wait? = none := by
  cases call with
  | setPolling wait => cases needs
  | _ => rfl

theorem perform_of_declines {call : Call}
    (declines : station.radio.Declines call) :
    call.perform station =
      (call.neutral station.radio,
        ⟨station.radio.awaiting call.wait?, station.bench⟩) := by
  cases needs : call.needsChip with
  | false => exact perform_needless_of_out needs declines.ready
  | true =>
      rw [perform_needful_of_out needs (declines.started needs) declines.ready,
        wait?_of_needsChip needs, awaiting_none]

/-! ## Sequences of calls -/

theorem performAll_of_declines {calls : List Call}
    (declined : ∀ call ∈ calls, station.radio.Declines call) :
    (performAll calls station).2 =
      ⟨station.radio.awaiting (lastWait calls), station.bench⟩ := by
  induction calls generalizing station with
  | nil => rfl
  | cons call rest ih =>
      rw [List.forall_mem_cons] at declined
      obtain ⟨first, others⟩ := declined
      have next := @ih ⟨station.radio.awaiting call.wait?, station.bench⟩ others
      rw [performAll_snd_cons, perform_of_declines first, next,
        awaiting_awaiting]
      rfl

/-- After any calls that a driver out of service declined, its chip, its clock,
the faults and the record are as they were, and the next call is declined in the
same way, wherever it is dropped. -/
theorem perform_out_of_service {earlier : List Call} {call : Call}
    (declined : ∀ made ∈ call :: earlier, station.radio.Declines made) :
    let reached := (performAll earlier station).2
    reached = ⟨station.radio.awaiting (lastWait earlier), station.bench⟩ ∧
      reached.radio.available = 0 ∧
      call.perform reached =
        (call.neutral reached.radio,
          ⟨reached.radio.awaiting call.wait?, station.bench⟩) := by
  intro reached
  rw [List.forall_mem_cons] at declined
  obtain ⟨last, others⟩ := declined
  have left : reached =
      ⟨station.radio.awaiting (lastWait earlier), station.bench⟩ :=
    performAll_of_declines others
  have declines : reached.radio.Declines call := by
    rw [left]
    exact last
  refine ⟨left, available_of_ready declines.ready, ?_⟩
  have told := perform_of_declines declines
  rwa [show reached.bench = station.bench by rw [left]] at told

/-- A startup that was dropped midway, on a bus that fails. -/
theorem perform_out_of_service_midway :
    let station : Station :=
      ⟨{ connection := ⟨0, true, true⟩, lifecycle := .initializing, cursor :=
        ⟨1, 4⟩ }, { busFaults := ⟨0, 3⟩ }⟩
    let earlier : List Call :=
      [.setPolling ⟨10, 20⟩, .send [1, 2, 3], .readText [0xEE, 0xEE]]
    let call : Call := .deferred (.send [7]) (some (.access 0))
    let reached := (performAll earlier station).2
    (∀ made ∈ call :: earlier, station.radio.Declines made) ∧
      reached = ⟨station.radio.awaiting (some ⟨10, 20⟩), station.bench⟩ ∧
      reached.radio.available = 0 ∧
      call.perform reached =
        (.done, ⟨reached.radio.awaiting none, station.bench⟩) := by
  intro station earlier call reached
  have declined : ∀ made ∈ call :: earlier, station.radio.Declines made :=
    fun _ _ => trivial
  exact ⟨declined, perform_out_of_service declined⟩

end Call

end LoraRadio
