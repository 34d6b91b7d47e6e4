import LoraRadio.Proofs.Persistence

/-!
# Persistence along sessions

A session may have faults of any kind in any of its steps and drop any of its
calls.  The record is that of one step, so the carrier in effect is carried
along from step to step.
-/

namespace LoraRadio

def Stimulus.Apart : Stimulus → Prop
  | .poke address _ => ∀ name ∈ keptRegisters, name.address ≠ address
  | .load _ _ | .deliver _ _ _ | .transmitter _ _ | .busFaults _
  | .lineFaults _ => True

/-- A step that may be taken with the chip: a driver is only given a chip after
its reset. -/
def Step.Tolerated (chip : Chip) : Step → Prop
  | .stimulus event => event.Apart
  | .reconnect _ _ new => (new.getD chip).Unwritten
  | .release => chip.Unwritten
  | .call _ => True

def Step.retune (heard : Synthesizer) (final : Station) : Step → Synthesizer
  | .reconnect _ _ (some new) => .ofChip new
  | .reconnect _ _ none | .stimulus _ | .release | .call _ => final.tuned heard

namespace Session

def Tolerates : Session → List Step → Prop
  | _, [] => True
  | session, step :: rest =>
      step.Tolerated session.station.bench.chip ∧
        (session.step step).2.Tolerates rest

def synthesizer : Session → Synthesizer → List Step → Synthesizer
  | _, heard, [] => heard
  | session, heard, step :: rest =>
      (session.step step).2.synthesizer
        (step.retune heard (session.step step).2.station) rest

end Session

namespace Persistent

variable {heard : Synthesizer}

theorem carry {station : Station} (holds : Persistent heard station) :
    Persistent (station.tuned heard)
      ⟨station.radio, station.bench.clearTrace⟩ :=
  ⟨holds.legal, holds.faithful, holds.waiting, holds.agrees⟩

theorem attach {station : Station} (faithful : Faithful heard station)
    (unwritten : station.bench.chip.Unwritten) (connection : Connection) :
    Persistent heard ⟨Radio.attach connection, station.bench⟩ where
  legal := Configuration.legal_default
  faithful := faithful
  waiting _ := ⟨⟨none, rfl⟩, unwritten⟩
  agrees ready := by cases ready

theorem stimulus {event : Stimulus} (apart : event.Apart) {station : Station}
    (holds : Persistent heard station) :
    Persistent heard ⟨station.radio, event.apply station.bench⟩ := by
  refine closed station _ ⟨rfl, rfl, ?_, ?_⟩ holds
  · intro name member
    cases event with
    | poke address value =>
        change (station.bench.chip.setRegister address value).register
          name.address = _
        rw [Chip.register_setRegister, if_neg (apart name member).symm]
    | load position bytes => exact Chip.register_load _ _ _ _
    | deliver start packet flags =>
        apply Chip.register_deliver
        revert name
        decide
    | transmitter completes doneAt => rfl
    | busFaults window => rfl
    | lineFaults window => rfl
  · cases event <;> rfl

theorem step {session : Session} {step : Step}
    (tolerated : step.Tolerated session.station.bench.chip)
    (holds : Persistent heard ⟨session.station.radio,
      session.station.bench.clearTrace⟩) :
    Persistent (step.retune heard (session.step step).2.station)
      ⟨(session.step step).2.station.radio,
        (session.step step).2.station.bench.clearTrace⟩ := by
  cases step with
  | stimulus event => exact (holds.stimulus tolerated).carry
  | call call => exact (robust.perform_any call holds).carry
  | release => exact (attach holds.faithful tolerated _).carry
  | reconnect boot reset new =>
      cases new with
      | none => exact (attach holds.faithful tolerated _).carry
      | some new =>
          have faithful : Faithful (.ofChip new)
              ⟨session.station.radio,
                { session.station.bench.clearTrace with chip := new }⟩ :=
            ⟨rfl, rfl⟩
          exact attach faithful tolerated _

theorem after {session : Session} {steps : List Step}
    (tolerated : session.Tolerates steps)
    (holds : Persistent heard ⟨session.station.radio,
      session.station.bench.clearTrace⟩) :
    Persistent (session.synthesizer heard steps)
      ⟨(session.after steps).station.radio,
        (session.after steps).station.bench.clearTrace⟩ := by
  induction steps generalizing session heard with
  | nil => exact holds
  | cons step rest ih => exact ih tolerated.2 (holds.step tolerated.1)

end Persistent

namespace Session

/-- After every session that begins with a new driver on a chip after its reset,
whatever fails in it and whichever of its calls are dropped: in service the
settings that lie in one byte are those that the driver knows, and so is the
carrier in effect. -/
theorem persistent_after {session : Session} {connection : Connection}
    {steps : List Step}
    (attached : session.station.radio = Radio.attach connection)
    (unwritten : session.station.bench.chip.Unwritten)
    (tolerated : session.Tolerates steps)
    (ready : (session.after steps).station.radio.ready = true) :
    let known := (session.after steps).station.radio.configuration
    let chip := (session.after steps).station.bench.chip
    let tuned := session.synthesizer (.ofChip session.station.bench.chip) steps
    Agrees known chip ∧ tuned.word = (Carrier.toWord known.frequency).toNat ∧
      tuned.msb = chip.register RegisterName.frfMsb.address ∧
      tuned.mid = chip.register RegisterName.frfMid.address := by
  have faithful : Faithful (.ofChip session.station.bench.chip)
      ⟨session.station.radio, session.station.bench.clearTrace⟩ := ⟨rfl, rfl⟩
  have start := Persistent.attach faithful unwritten connection
  rw [← attached] at start
  have final := start.after tolerated
  exact ⟨(final.agrees ready).1, (final.agrees ready).2, final.faithful⟩

/-- A fault at the last byte of a carrier: the chip holds parts of two of them,
and works with the one that is known. -/
theorem persistent_after_torn_carrier :
    let session := Session.start true true Chip.fresh
    let steps : List Step :=
      [.call (.setSpreadingFactor 9), .stimulus (.busFaults ⟨2, 1⟩),
        .call (.setFrequency 868000000),
        .call (.deferred (.send [1, 2, 3]) (some (.access 2)))]
    let known := (session.after steps).station.radio.configuration
    let chip := (session.after steps).station.bench.chip
    (session.after steps).station.radio.ready = true ∧
      (Synthesizer.ofChip chip).word ≠ (Carrier.toWord known.frequency).toNat ∧
      Agrees known chip ∧
      (session.synthesizer (.ofChip session.station.bench.chip) steps).word =
        (Carrier.toWord known.frequency).toNat ∧
      (session.synthesizer (.ofChip session.station.bench.chip) steps).msb =
        chip.register RegisterName.frfMsb.address ∧
      (session.synthesizer (.ofChip session.station.bench.chip) steps).mid =
        chip.register RegisterName.frfMid.address := by
  intro session steps known chip
  have ready : (session.after steps).station.radio.ready = true := by
    decide +kernel
  have tolerated : session.Tolerates steps := by
    simp [steps, Tolerates, Step.Tolerated, Stimulus.Apart]
  refine ⟨ready, by decide +kernel, ?_⟩
  exact @persistent_after session ⟨0, true, true⟩ steps rfl
    (fun _ _ => rfl) tolerated ready

end Session

end LoraRadio
