import LoraRadio.Proofs.BusDiscipline

/-!
# Disciplined sessions

Every session leaves a disciplined record, with any faults, drops, connections
and chips.  The first mode after each connection is sleep, and as long as nobody
else writes the mode, the chip of a driver in service is in long range.
-/

namespace LoraRadio

namespace Proper

variable {heard : List Event} {alone : Prop}

theorem carry {station : Station} (proper : Proper heard alone station) :
    Proper (heard ++ station.bench.events) alone station.cleared := by
  have nothing : station.cleared.bench.events = [] := rfl
  obtain ⟨sane, conduct⟩ := proper
  refine ⟨sane, trivial, ?_, ?_, conduct.longRange⟩
  · rw [nothing, List.append_nil]
    exact conduct.fromSleep
  · rw [nothing, List.append_nil]
    exact conduct.chosen

theorem attach (alone : Prop) (connection : Connection) {bench : Bench}
    (nothing : bench.events = []) :
    Proper [] alone ⟨Radio.attach connection, bench⟩ := by
  refine ⟨Radio.sane_attach connection, ?_, ?_, ?_, ?_⟩
  · simp [nothing, Disciplined]
  · simp [nothing, FromSleep, firstMode]
  · intro ready
    cases ready
  · intro _ ready
    cases ready

theorem stimulus {event : Stimulus}
    (spared : alone → (Step.stimulus event).SparesMode) {station : Station}
    (proper : Proper heard alone station) :
    Proper heard alone ⟨station.radio, event.apply station.bench⟩ := by
  obtain ⟨sane, conduct⟩ := proper
  refine ⟨sane, ?_, ?_, ?_, fun here ready => ?_⟩
  · rw [Stimulus.events_apply]
    exact conduct.disciplined
  · rw [Stimulus.events_apply]
    exact conduct.fromSleep
  · rw [Stimulus.events_apply]
    exact conduct.chosen
  · rw [Stimulus.mode_apply (spared here)]
    exact conduct.longRange here ready

end Proper

namespace Session

variable {session : Session} {heard : List Event} {alone : Prop}
  {steps : List Step}

theorem proper_step {step : Step} (spared : alone → step.SparesMode)
    (proper : Proper heard alone session.station.cleared) :
    ∃ before, Proper before alone (session.step step).2.station ∧
      (step.KeepsConnection → before = heard) := by
  cases step with
  | stimulus event => exact ⟨heard, proper.stimulus spared, fun _ => rfl⟩
  | call call =>
      exact ⟨heard, Proper.robust.perform_any call proper, fun _ => rfl⟩
  | release => exact ⟨[], Proper.attach alone _ rfl, False.elim⟩
  | reconnect boot reset chip =>
      cases chip with
      | none => exact ⟨[], Proper.attach alone _ rfl, False.elim⟩
      | some chip => exact ⟨[], Proper.attach alone _ rfl, False.elim⟩

theorem proper_after (spared : ∀ step ∈ steps, alone → step.SparesMode)
    (proper : Proper heard alone session.station.cleared) :
    ∃ before, Proper before alone (session.after steps).station.cleared := by
  induction steps generalizing session heard with
  | nil => exact ⟨heard, proper⟩
  | cons step rest ih =>
      rw [List.forall_mem_cons] at spared
      obtain ⟨before, next, -⟩ := proper_step spared.1 proper
      exact ih spared.2 next.carry

theorem disciplined_history
    (proper : Proper heard False session.station.cleared) :
    Disciplined none (session.history steps) := by
  induction steps generalizing session heard with
  | nil => trivial
  | cons step rest ih =>
      obtain ⟨before, next, -⟩ := proper_step False.elim proper
      rw [history_cons]
      exact next.2.disciplined.append (ih next.carry)

theorem fromSleep_history (connected : ∀ step ∈ steps, step.KeepsConnection)
    (proper : Proper heard False session.station.cleared) :
    FromSleep (heard ++ session.history steps) := by
  induction steps generalizing session heard with
  | nil => exact proper.2.fromSleep
  | cons step rest ih =>
      rw [List.forall_mem_cons] at connected
      obtain ⟨before, next, same⟩ := proper_step False.elim proper
      obtain rfl := same connected.1
      rw [history_cons, ← List.append_assoc]
      exact ih connected.2 next.carry

/-- On the bus the driver keeps to its registers and modes, in every session.
Each connection begins with sleep in long range, which a driver in service never
leaves. -/
theorem bus_discipline (boot reset : Bool) (chip : Chip) :
    (∀ steps, Disciplined none
        ((Session.start boot reset chip).history steps)) ∧
      (∀ earlier later connection,
        ((Session.start boot reset chip).after earlier).station.radio =
          Radio.attach connection →
        (∀ step ∈ later, step.KeepsConnection) →
        FromSleep (((Session.start boot reset chip).after earlier).history
          later)) ∧
      ∀ steps, (∀ step ∈ steps, step.SparesMode) →
        ((Session.start boot reset chip).after
          steps).station.radio.ready = true →
        ((Session.start boot reset chip).after
          steps).station.bench.chip.register RegisterName.opMode.address
            &&& 0x80 = 0x80 := by
  have new (alone : Prop) :
      Proper [] alone (Session.start boot reset chip).station.cleared :=
    Proper.attach alone _ rfl
  refine ⟨fun steps => disciplined_history (new False), ?_, ?_⟩
  · intro earlier later connection attached connected
    have again :
        Proper [] False
          ((Session.start boot reset chip).after earlier).station.cleared := by
      rw [Station.cleared, attached]
      exact Proper.attach False connection rfl
    exact fromSleep_history connected again
  · intro steps spared ready
    obtain ⟨before, -, conduct⟩ :=
      proper_after (fun step member _ => spared step member) (new True)
    exact conduct.longRange trivial ready

/-- A startup that fails on the bus, a new connection, a dropped transmission
and a whole one. -/
theorem bus_discipline_of_second_start :
    let earlier : List Step :=
      [.stimulus (.busFaults ⟨3, 1⟩), .call .isReady, .reconnect true true none]
    let later : List Step :=
      [.call (.deferred (.send [1, 2]) (some (.access 21))), .call (.send [3])]
    ((Session.start true true Chip.fresh).after earlier).station.radio =
        Radio.attach ⟨0, true, true⟩ ∧
      firstMode (((Session.start true true Chip.fresh).after earlier).history
        later) ≠ none ∧
      FromSleep (((Session.start true true Chip.fresh).after earlier).history
        later) ∧
      ((Session.start true true Chip.fresh).after
        (earlier ++ later)).station.radio.ready = true ∧
      ((Session.start true true Chip.fresh).after
        (earlier ++ later)).station.bench.chip.register
        RegisterName.opMode.address &&& 0x80 = 0x80 := by
  intro earlier later
  have attached :
      ((Session.start true true Chip.fresh).after earlier).station.radio =
        Radio.attach ⟨0, true, true⟩ := by decide +kernel
  have ready :
        ((Session.start true true Chip.fresh).after
          (earlier ++ later)).station.radio.ready =
      true := by decide +kernel
  have chosen :
        firstMode (((Session.start true true Chip.fresh).after earlier).history
          later) ≠
      none := by decide +kernel
  have connected : ∀ step ∈ later, step.KeepsConnection := by
    simp [later, Step.KeepsConnection]
  have spared : ∀ step ∈ earlier ++ later, step.SparesMode := by
    simp [earlier, later, Step.SparesMode]
  obtain ⟨-, fromSleep, longRange⟩ := bus_discipline true true Chip.fresh
  exact ⟨attached, chosen, fromSleep earlier later _ attached connected, ready,
    longRange (earlier ++ later) spared ready⟩

end Session

end LoraRadio
