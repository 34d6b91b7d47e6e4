import LoraRadio.Proofs.Settings
import LoraRadio.Proofs.Transmission
import LoraRadio.Session

/-!
# Calls and what they are made of

What a caller is told and what is left behind, in terms of the operation behind
a call.
-/

namespace LoraRadio

open Operation

namespace Call

variable {α : Type}

theorem answer_congr {success : α → Reply} {first second : RadioM α}
    {station other : Station} (same : first.run station = second.run other) :
    answer success first station = answer success second other := by
  rw [answer, answer, same]

theorem answer_of_ok {success : α → Reply} {operation : RadioM α}
    {station final : Station} {value : α}
    (run : operation.run station = .ok value final) :
    answer success operation station = (success value, final) := by
  rw [answer, run]

theorem answer_of_error {success : α → Reply} {operation : RadioM α}
    {station final : Station} {failure : Failure}
    (run : operation.run station = .error failure final) :
    answer success operation station = (.failed failure, final) := by
  rw [answer, run]

theorem run_of_answer_failed {success : α → Reply} {operation : RadioM α}
    {station final : Station} {failure : Failure}
    (failed : answer success operation station = (.failed failure, final))
    (other : ∀ value, success value ≠ .failed failure) :
    operation.run station = .error failure final := by
  unfold answer at failed
  cases run : operation.run station with
  | ok value reached =>
      rw [run] at failed
      exact absurd (congrArg Prod.fst failed) (other value)
  | error reported reached =>
      rw [run] at failed
      cases failed
      rfl

theorem exists_run_of_answer {success : α → Reply} {operation : RadioM α}
    {station final : Station} {reply : Reply}
    (told : answer success operation station = (reply, final))
    (well : ∀ failure, reply ≠ .failed failure) :
    ∃ value, success value = reply ∧
      operation.run station = .ok value final := by
  unfold answer at told
  cases run : operation.run station with
  | ok value reached =>
      rw [run] at told
      cases told
      exact ⟨value, rfl, rfl⟩
  | error failure reached =>
      rw [run] at told
      exact absurd (congrArg Prod.fst told).symm (well failure)

theorem answer_snd (success : α → Reply) (operation : RadioM α)
    (station : Station) :
    (answer success operation station).2 = (operation.run station).state := by
  unfold answer
  cases operation.run station <;> rfl

/-- What the caller is told and the scene that is left depend on nothing but the
scene. -/
theorem answer_view (success : α → Reply) {first second : RadioM α}
    {station : Station}
    (same : (first.run station).view Station.scene =
      (second.run station).view Station.scene) :
    (answer success first station).1 = (answer success second station).1 ∧
      (answer success first station).2.scene =
        (answer success second station).2.scene := by
  unfold answer
  cases left : first.run station <;> cases right : second.run station <;>
    simp_all [Outcome.view]

theorem answer_keeps {invariant : Station → Prop} {success : α → Reply}
    {operation : RadioM α} (kept : Keeps invariant operation)
    {station : Station} (holds : invariant station) :
    invariant (answer success operation station).2 := by
  rw [answer_snd]
  exact kept station holds

theorem answerDeferred_none (success : α → Reply) (operation : RadioTask α)
    (station : Station) :
    answerDeferred success operation none station =
      answer success operation.complete station := by
  simp only [answerDeferred, answer, Coroutine.execute, RadioTask.complete]
  obtain ⟨result, radio, bench⟩ :=
    (operation.start station.radio).run station.bench
  cases result <;> rfl

end Call

namespace DeferredCall

open Call

def performWhole : DeferredCall → Station → Reply × Station
  | .isReady => answer .truth Radio.isReady
  | .firmware => answer .byte Radio.firmware
  | .idle => answer acknowledge Radio.idle
  | .send bytes => answer acknowledge (Radio.sendAtOnce bytes)
  | .sendText text => answer acknowledge (Radio.sendAtOnce text.toUTF8.toList)

theorem perform_whole (call : DeferredCall) (station : Station) :
    call.perform none station = call.performWhole station := by
  cases call with
  | isReady =>
      rw [perform, answerDeferred_none, RadioTask.complete_isReady,
        performWhole]
  | firmware =>
      rw [perform, answerDeferred_none, RadioTask.complete_firmware,
        performWhole]
  | idle => rw [perform, answerDeferred_none, RadioTask.complete_idle,
      performWhole]
  | send bytes =>
      rw [perform, answerDeferred_none, RadioTask.complete_send, performWhole]
  | sendText text =>
      rw [perform, RadioTask.sendText, answerDeferred_none,
        RadioTask.complete_send, performWhole]

end DeferredCall

namespace Call

def performAll : List Call → Station → List Reply × Station
  | [], station => ([], station)
  | call :: rest, station =>
      let (reply, reached) := call.perform station
      let (replies, final) := performAll rest reached
      (reply :: replies, final)

theorem performAll_cons {call : Call} {rest : List Call}
    {station reached final : Station} {reply : Reply} {replies : List Reply}
    (first : call.perform station = (reply, reached))
    (others : performAll rest reached = (replies, final)) :
    performAll (call :: rest) station = (reply :: replies, final) := by
  simp only [performAll, first, others]

theorem performAll_snd_cons (call : Call) (rest : List Call)
    (station : Station) :
    (performAll (call :: rest) station).2 =
      (performAll rest (call.perform station).2).2 := rfl

end Call

namespace Setting

def call : Setting → Call
  | .frequency hz => .setFrequency hz
  | .power dbm amplifier => .setPower dbm amplifier
  | .spreadingFactor factor => .setSpreadingFactor factor
  | .bandwidth hz => .setBandwidth hz
  | .codingRate denominator => .setCodingRate denominator
  | .preambleLength symbols => .setPreambleLength symbols
  | .syncWord word => .setSyncWord word
  | .checksum enabled => .setChecksum enabled
  | .polling wait => .setPolling wait

theorem perform_call (setting : Setting) (station : Station) :
    setting.call.perform station =
      Call.answer Call.acknowledge setting.set station := by
  cases setting <;> rfl

theorem exists_perform_call (setting : Setting) {station : Station}
    (sound : station.bench.Sound) (ready : station.radio.ready = true)
    (legal : station.radio.configuration.Legal) :
    ∃ final, setting.call.perform station = (.done, final) ∧ final.bench.Sound ∧
      final.scene = setting.applyTo station.scene := by
  obtain ⟨final, run, stillSound, scene⟩ :=
    (setting.gives_set ready legal).exists_run sound rfl
  refine ⟨final, ?_, stillSound, scene⟩
  rw [setting.perform_call]
  exact Call.answer_of_ok run

end Setting

end LoraRadio
