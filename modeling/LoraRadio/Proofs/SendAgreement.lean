import LoraRadio.Proofs.Startup
import LoraRadio.Proofs.TransmitWait

/-!
# The two ways to send agree

The operation that can be dropped leaves out the zero in the length register and
both looks at that register, and takes the wait from the length that it knows.
Without faults the register holds that same length, so both ways start the
transmitter on the same chip and wait in the same way.
-/

namespace LoraRadio

open Operation RadioM Radio

/-! ## The wait -/

namespace Radio

theorem exists_gives_awaitEnd (polling : Polling) (before : Scene) :
    ∃ outcome, Gives (awaitEnd polling) before outcome := by
  rcases before.chip.doneInTime_or_late polling.attempts with
    ⟨pauses, done, inTime⟩ | late
  · exact ⟨_, (follows_awaitEnd_found done inTime).gives⟩
  · exact ⟨_, (follows_awaitEnd_missed late).gives⟩

end Radio

/-! ## The same chip when the transmitter starts -/

theorem Chip.staged_at_once (chip : Chip) (bytes : List UInt8) :
    ((chip.setRegister RegisterName.fifoAddrPtr.address 0).fill
      (bytes.take (min bytes.length maxPayload))).setRegister
        RegisterName.payloadLength.address
        (UInt8.ofNat (min bytes.length maxPayload)) = chip.staged bytes := by
  have pointer : (chip.setRegister RegisterName.fifoAddrPtr.address 0).pointer =
      0 := by
    simp [Chip.pointer]
  have cut : bytes.take (min bytes.length maxPayload) =
      bytes.take maxPayload := by
    rw [Nat.min_comm, ← List.take_eq_take_min]
  rw [fill, pointer, cut, load_setRegister, setRegister_setRegister,
    UInt8.zero_add, List.length_take, Nat.min_comm maxPayload, staged]

def Chip.launchScript (chip : Chip) (mode : HeaderMode) (bytes : List UInt8) :
    List Event :=
  .write RegisterName.opMode.address 0x81 ::
    ((chip.setRegister RegisterName.opMode.address 0x81).headerScript mode ++
      .write RegisterName.fifoAddrPtr.address 0 ::
        ((bytes.take (min bytes.length maxPayload)).map
            (.write RegisterName.fifo.address) ++
          [.write RegisterName.payloadLength.address
              (UInt8.ofNat (min bytes.length maxPayload)),
            .write RegisterName.irqFlags.address 0x08,
              .write RegisterName.opMode.address 0x83]))

namespace Radio

theorem follows_transmitAtOnce {before : Scene} {bytes : List UInt8}
    {polling : Polling}
    (chosen : before.radio.configuration.pollingFor
      (UInt8.ofNat (min bytes.length maxPayload)) = .ok polling) :
    Follows (transmitAtOnce bytes) before
      (before.chip.launchScript before.radio.configuration.headerMode bytes)
      (.ok polling (before.withChip
        ((before.chip.opened before.radio.configuration.headerMode).staged
          bytes).sending)) := by
  rw [← Chip.staged_at_once]
  refine .bind (follows_standby before)
    (.silent_bind (follows_getConfiguration _) ?_)
  refine .bind (follows_setHeaderMode _ _)
    (.bind (follows_writeRegister (⟨0⟩ : FifoPointer) _) ?_)
  refine .bind (follows_fillFifo _ _)
    (.bind (follows_writeRegister (⟨_⟩ : PayloadLength) _) ?_)
  refine .bind (follows_writeRegister _ _)
    (.bind (follows_writeRegister _ _) ?_)
  exact .silent_bind (follows_getConfiguration _) (follows_checked chosen _)

theorem send_agrees_inService {station : Station} (bytes : List UInt8)
    (sound : station.bench.Sound) (ready : station.radio.ready = true)
    (legal : station.radio.configuration.Legal) :
    ((sendAtOnce bytes).run station).view Station.scene =
      ((send bytes).run station).view Station.scene := by
  by_cases empty : bytes = []
  · rw [empty]
    rfl
  · obtain ⟨loaded, polling, run, loadedSound, chosen, scene⟩ :=
      exists_loaded empty sound ready legal
    obtain ⟨sending, started, sendingSound, sendingScene⟩ :=
      (gives_writeRegister (OperatingMode.lora .transmit)
        loaded.scene).exists_run loadedSound rfl
    obtain ⟨other, atOnce, otherSound, otherScene⟩ :=
      (follows_transmitAtOnce chosen).gives.exists_run sound rfl
    rw [scene] at sendingScene
    -- The two stations differ in their traces, but not in their scenes.
    obtain ⟨outcome, gives⟩ := exists_gives_awaitEnd polling other.scene
    have blocking : (send bytes).run station =
        (awaitEnd polling).run sending := by
      rw [run]
      change (Radio.writeMode .transmit >>= fun _ => awaitEnd polling).run
        loaded = _
      rw [run_bind, writeMode, started]
      rfl
    have deferred : (sendAtOnce bytes).run station =
        (awaitEnd polling).run other := by
      rw [sendAtOnce, if_neg (by simpa using empty),
        run_whenReady_of_ready ready, run_bind, atOnce]
      rfl
    rw [blocking, deferred, (gives other otherSound rfl).1,
      (gives sending sendingSound (sendingScene.trans otherScene.symm)).1]

theorem send_agrees {station : Station} (bytes : List UInt8)
    (sound : station.bench.Sound) (legal : station.radio.configuration.Legal) :
    ((sendAtOnce bytes).run station).view Station.scene =
      ((send bytes).run station).view Station.scene := by
  obtain ⟨reached, run, started, sound, legal⟩ := exists_started sound legal
  by_cases empty : bytes.isEmpty = true
  · rw [sendAtOnce, send, if_pos empty, if_pos empty]
  · rw [sendAtOnce, send, if_neg empty, if_neg empty,
      run_whenReady_of_run _ _ run started,
      run_whenReady_of_run _ _ run started]
    cases ready : reached.radio.ready with
    | true =>
        have agrees := send_agrees_inService bytes sound ready legal
        rwa [sendAtOnce, send, if_neg empty, if_neg empty] at agrees
    | false =>
        have refused := run_ensureReady_of_started started
        rw [ready] at refused
        rw [whenReady, whenReady, run_bind, run_bind, refused]
        rfl

end Radio

namespace Call

/-- Without faults and drops, sending in one go tells the caller the same as
sending in steps, and leaves the same driver, the same chip and the same time on
the clock. -/
theorem perform_deferred_send {station : Station} (bytes : List UInt8)
    (sound : station.bench.Sound) (legal : station.radio.configuration.Legal) :
    let blocking := (Call.send bytes).perform station
    let deferred := (Call.deferred (.send bytes) none).perform station
    deferred.1 = blocking.1 ∧ deferred.2.radio = blocking.2.radio ∧
      deferred.2.bench.chip = blocking.2.bench.chip ∧
      deferred.2.bench.elapsedMs = blocking.2.bench.elapsedMs := by
  intro blocking deferred
  have whole : deferred = answer acknowledge (sendAtOnce bytes) station := by
    change answerDeferred acknowledge (RadioTask.send bytes) none station = _
    rw [answerDeferred_none, RadioTask.complete_send]
  obtain ⟨replies, scenes⟩ :=
    answer_view acknowledge (send_agrees bytes sound legal)
  rw [whole]
  exact ⟨replies, congrArg Scene.radio scenes, congrArg Scene.chip scenes,
    congrArg Scene.elapsedMs scenes⟩

theorem perform_deferred_send_timeout :
    let station : Station :=
      ⟨{ Radio.attach ⟨0, true, true⟩ with
        configuration := { polling := some ⟨1, 3⟩ } }, { chip :=
        { Chip.fresh with transmitCompletes := false } }⟩
    ((Call.send [1, 2, 3]).perform station).2.bench.elapsedMs = 453 ∧
      let blocking := (Call.send [1, 2, 3]).perform station
      let deferred := (Call.deferred (.send [1, 2, 3]) none).perform station
      deferred.1 = blocking.1 ∧ deferred.2.radio = blocking.2.radio ∧
        deferred.2.bench.chip = blocking.2.bench.chip ∧
        deferred.2.bench.elapsedMs = blocking.2.bench.elapsedMs := by
  intro station
  have legal : station.radio.configuration.Legal :=
    Configuration.legal_polling _
  exact ⟨by decide +kernel, perform_deferred_send [1, 2, 3] ⟨rfl, rfl⟩ legal⟩

end Call

end LoraRadio
