import LoraRadio.Proofs.Lifecycle

/-!
# Calls that are dropped during startup

A failure during startup lets the next call start over.  A drop does not: the
driver that is left behind believes that its startup is still going on, and
stays out of service until it gets a new connection.  Startup passes three
delays and then twelve accesses, and it is over when these are passed; a drop
after that leaves a driver in service.
-/

namespace LoraRadio

open Operation RadioM Radio

variable {α : Type}

def startupStops : StopKind → Nat
  | .access => 12
  | .delay => 3

namespace DropPoint

def after (count : Nat) : DropPoint → DropPoint
  | .access passed => .access (passed - count)
  | .delay passed => .delay (passed - count)

@[simp] theorem kind_after (count : Nat) (drop : DropPoint) :
    (drop.after count).kind = drop.kind := by
  cases drop <;> rfl

@[simp] theorem passed_after (count : Nat) (drop : DropPoint) :
    (drop.after count).passed = drop.passed - count := by
  cases drop <;> rfl

end DropPoint

/-! ## Stops of startup and stops after it -/

namespace RadioTask

theorem kinds_of_stops (task : RadioTask α) (station : Station) :
    ∃ events, (task.complete.run station).state.bench.events =
        station.bench.events ++ events ∧
      (task.stops station).map Stop.kind = events.filterMap Event.stop := by
  obtain ⟨events, recorded, kinds⟩ :=
    (task.start station.radio).kinds_of_stops station.bench
  refine ⟨events, ?_, kinds⟩
  rw [← recorded]
  simp only [complete]
  obtain ⟨result, radio, bench⟩ := (task.start station.radio).run station.bench
  cases result <;> rfl

structure Enters (task : RadioTask α) : Prop where
  gated : Gated task.complete
  stops : ∀ {station reached : Station},
    Radio.ensureReady.run station = .ok reached.radio.ready reached →
    reached.radio.lifecycle ≠ .uninitialized →
      task.stops station = ensureReady.stops station ++ task.stops reached

namespace Enters

theorem bind (next : Bool → RadioTask α) :
    Enters (RadioTask.ensureReady >>= next) where
  gated := by
    rw [complete_bind, complete_ensureReady]
    exact .bind _
  stops run started := by
    rw [stops_bind, stops_bind, complete_ensureReady, run,
      run_ensureReady_of_started started, stops_ensureReady_of_started started,
      List.nil_append]

theorem ensureReady : Enters RadioTask.ensureReady where
  gated := by
    rw [complete_ensureReady]
    exact .ensureReady
  stops _ started := by
    rw [stops_ensureReady_of_started started, List.append_nil]

theorem send {bytes : List UInt8} (some : (!bytes.isEmpty) = true) :
    Enters (send bytes) := by
  have filled : ¬bytes.isEmpty = true := by simpa using some
  rw [RadioTask.send, if_neg filled]
  exact .bind _

end Enters

end RadioTask

namespace Call

variable {station reached : Station}

theorem answerDeferred_of_enters {task : RadioTask α} (enters : task.Enters)
    (success : α → Reply)
    (run : ensureReady.run station = .ok reached.radio.ready reached)
    (started : reached.radio.lifecycle ≠ .uninitialized) (drop : DropPoint) :
    answerDeferred success task (some drop) station =
      match (RadioTask.ensureReady.stopsOf drop.kind station)[drop.passed]? with
      | some stop => (.dropped, stop.station)
      | none =>
          let startup :=
            (RadioTask.ensureReady.stopsOf drop.kind station).length
          answerDeferred success task (some (drop.after startup)) reached := by
  have whole : answerDeferred success task none station =
      answerDeferred success task none reached := by
    rw [answerDeferred_none, answerDeferred_none]
    exact answer_congr (enters.gated.done run started)
  have stops : task.stopsOf drop.kind station =
      RadioTask.ensureReady.stopsOf drop.kind station ++
        task.stopsOf drop.kind reached := by
    rw [RadioTask.stopsOf, enters.stops run started, List.filter_append]
    rfl
  rw [answerDeferred_some, answerDeferred_some, stops, whole,
    DropPoint.kind_after, DropPoint.passed_after]
  by_cases within : drop.passed <
    (RadioTask.ensureReady.stopsOf drop.kind station).length
  · rw [List.getElem?_append_left within, List.getElem?_eq_getElem within]
  · have past := Nat.le_of_not_lt within
    rw [List.getElem?_append_right past, List.getElem?_eq_none past]

end Call

theorem DeferredCall.perform_of_needsChip {call : DeferredCall}
    {drop : DropPoint} {station reached : Station}
    (needs : (Call.deferred call (some drop)).needsChip = true)
    (run : ensureReady.run station = .ok reached.radio.ready reached)
    (started : reached.radio.lifecycle ≠ .uninitialized) :
    call.perform (some drop) station =
      match (RadioTask.ensureReady.stopsOf drop.kind station)[drop.passed]? with
      | some stop => (.dropped, stop.station)
      | none =>
          let startup :=
            (RadioTask.ensureReady.stopsOf drop.kind station).length
          call.perform (some (drop.after startup)) reached := by
  cases call with
  | isReady =>
      exact Call.answerDeferred_of_enters .ensureReady _ run started drop
  | firmware => exact Call.answerDeferred_of_enters (.bind _) _ run started drop
  | idle => exact Call.answerDeferred_of_enters (.bind _) _ run started drop
  | send bytes =>
      exact Call.answerDeferred_of_enters (.send needs) _ run started drop
  | sendText text =>
      exact Call.answerDeferred_of_enters (.send needs) _ run started drop

/-! ## A new driver on a working chip -/

/-- Nothing stands in the way of startup.  The settings of a driver that was
never started are legal (`Configuration.Initial.legal`). -/
structure Promising (station : Station) : Prop where
  sound : station.bench.Sound
  new : station.radio.lifecycle = .uninitialized
  legal : station.radio.configuration.Legal
  complete : station.radio.connection.complete = true
  working : station.bench.chip.register RegisterName.version.address =
    requiredVersion

theorem Settled.robust {stage : Lifecycle} {connection : Connection}
    {record : List Event} (started : stage ≠ .uninitialized) :
    Robust (Settled stage connection record) := by
  refine (plain started).robust fun station holds stop member => ?_
  rw [RadioTask.stops_ensureReady_of_started (holds.lifecycle ▸ started)]
    at member
  cases member

namespace Promising

variable {station : Station} (promising : Promising station)

include promising

theorem exists_run :
    ∃ reached, ensureReady.run station = .ok reached.radio.ready reached ∧
    reached.radio.lifecycle = .ready ∧
    reached.bench.events =
      station.bench.events ++ startupScript station.scene := by
  obtain ⟨reached, run, scene, recorded⟩ :=
    (@follows_ensureReady station.scene promising.new promising.legal).exists_ok
      promising.sound rfl
  have radio : reached.radio = (startup station.scene).radio :=
    congrArg Scene.radio scene
  have inService : (startup station.scene).radio.lifecycle = .ready := by
    have complete := promising.complete
    have working := promising.working
    simp [startup, Station.scene, complete, working]
  exact ⟨reached, by rw [run, radio], by rw [radio, inService], recorded⟩

theorem length_stops (kind : StopKind) :
    (RadioTask.ensureReady.stopsOf kind station).length =
      startupStops kind := by
  obtain ⟨reached, run, -, recorded⟩ := promising.exists_run
  obtain ⟨events, more, kinds⟩ := RadioTask.ensureReady.kinds_of_stops station
  rw [RadioTask.complete_ensureReady, run] at more
  have script : events = startupScript station.scene :=
    List.append_cancel_left (more.symm.trans recorded)
  have full : startupScript station.scene =
      pulseScript ++ .read RegisterName.version.address requiredVersion ::
        defaultsScript station.bench.chip station.radio.configuration := by
    have complete := promising.complete
    have working := promising.working
    simp [startupScript, Station.scene, complete, working]
  -- The record of startup shows how many stops were passed.
  calc
    _ = ((RadioTask.ensureReady.stops station).map Stop.kind).count kind := by
      rw [List.count_eq_countP, List.countP_map, List.countP_eq_length_filter,
        RadioTask.stopsOf]
      congr 2
    _ = startupStops kind := by
      rw [kinds, script, full]
      cases kind <;> rfl

end Promising

theorem initializing_of_stop {station : Station} {stop : Stop Radio}
    (member : stop ∈ RadioTask.ensureReady.stops station) :
    stop.station.radio.lifecycle = .initializing := by
  have halts : RadioTask.Halts (fun _ => True) RadioTask.ensureReady
      fun station => station.radio.lifecycle = .initializing :=
    startable_initializing.halts_ensureReady fun _ _ _ => rfl
  exact halts station trivial stop member

namespace Call

variable {station : Station} {call : DeferredCall} {drop : DropPoint}
  {ask : Call}

theorem perform_ask (asks : ask = .isReady ∨ ask = .deferred .isReady none)
    (station : Station) :
    ask.perform station = answer .truth ensureReady station := by
  rcases asks with rfl | rfl
  · rfl
  · change answerDeferred _ _ none station = _
    rw [answerDeferred_none, RadioTask.complete_isReady]
    rfl

theorem perform_ask_of_ready
    (asks : ask = .isReady ∨ ask = .deferred .isReady none)
    (known : station.radio.lifecycle = .ready) :
    ∃ final, ask.perform station = (.truth true, final) ∧
      final.radio.ready = true := by
  have ready : station.radio.ready = true := by simp [Radio.ready, known]
  refine ⟨station, ?_, ready⟩
  rw [perform_ask asks]
  exact answer_of_ok (run_ensureReady_of_ready ready)

theorem perform_nothing
    (needless : (Call.deferred call (some drop)).needsChip = false) :
    ((Call.deferred call (some drop)).perform station).2 = station := by
  have nothing {bytes : List UInt8} (none : (!bytes.isEmpty) = false) :
      RadioTask.send bytes = pure () := by
    have empty : bytes.isEmpty = true := by simpa using none
    rw [RadioTask.send, if_pos empty]
  cases call with
  | send bytes =>
      change (answerDeferred _ (RadioTask.send bytes) _ station).2 = station
      rw [nothing needless]
      rfl
  | sendText text =>
      change (answerDeferred _ (RadioTask.send _) _ station).2 = station
      rw [nothing needless]
      rfl
  | _ => cases needless

theorem perform_dropped_early (promising : Promising station)
    (needs : (Call.deferred call (some drop)).needsChip = true)
    (within : drop.passed < startupStops drop.kind) :
    ((Call.deferred call (some drop)).perform station).1 = .dropped ∧
      ((Call.deferred call (some drop)).perform station).2.radio.lifecycle =
        .initializing := by
  obtain ⟨reached, run, inService, -⟩ := promising.exists_run
  have performed :=
    DeferredCall.perform_of_needsChip needs run (by simp [inService])
  rw [← promising.length_stops] at within
  rw [List.getElem?_eq_getElem within] at performed
  change (call.perform (some drop) station).1 = _ ∧
    (call.perform (some drop) station).2.radio.lifecycle = _
  rw [performed]
  exact ⟨rfl, initializing_of_stop
    (RadioTask.mem_stops_of_stopsOf (List.getElem_mem within))⟩

theorem perform_dropped_late (promising : Promising station)
    (needs : (Call.deferred call (some drop)).needsChip = true)
    (past : startupStops drop.kind ≤ drop.passed) :
    ((Call.deferred call (some drop)).perform station).2.radio.lifecycle =
      .ready := by
  obtain ⟨reached, run, inService, -⟩ := promising.exists_run
  have started : reached.radio.lifecycle ≠ .uninitialized := by simp [inService]
  have performed := DeferredCall.perform_of_needsChip needs run started
  rw [← promising.length_stops] at past
  rw [List.getElem?_eq_none past] at performed
  have settled := (Settled.robust started).perform_dropped call
    (drop.after (RadioTask.ensureReady.stopsOf drop.kind station).length)
      (Settled.refl reached)
  change (call.perform (some drop) station).2.radio.lifecycle = .ready
  rw [performed, ← inService]
  exact settled.lifecycle

/-- Whoever drops a call during startup finds the driver out of service from
then on.  Dropped at any other point, the driver is in service when asked. -/
theorem isReady_after_drop (promising : Promising station)
    (asks : ask = .isReady ∨ ask = .deferred .isReady none) :
    let made := Call.deferred call (some drop)
    let left := (made.perform station).2
    if made.needsChip = true ∧ drop.passed < startupStops drop.kind then
      (made.perform station).1 = .dropped ∧
        ask.perform left = (.truth false, left) ∧
        ∀ (chips : Nat) (steps : List Step),
          (∀ step ∈ steps, step.Whole ∧ step.KeepsConnection) →
          ((⟨left, chips⟩ : Session).after steps).station.radio.lifecycle =
            .initializing
    else ∃ final, ask.perform left = (.truth true, final) ∧
      final.radio.ready = true := by
  intro made left
  cases needs : made.needsChip with
  | false =>
      obtain ⟨reached, run, inService, -⟩ := promising.exists_run
      have same : left = station := perform_nothing needs
      have ready : reached.radio.ready = true := by
        simp [Radio.ready, inService]
      rw [if_neg (by simp), same, perform_ask asks, answer_of_ok run, ready]
      exact ⟨reached, rfl, ready⟩
  | true =>
      by_cases within : drop.passed < startupStops drop.kind
      · -- The driver is left in the middle of startup, which nobody goes on
        -- with.
        obtain ⟨told, known⟩ := perform_dropped_early promising needs within
        have started : left.radio.lifecycle ≠ .uninitialized := by
          rw [known]
          decide
        have refused : left.radio.ready = false := by
          simp [Radio.ready, left, made, known]
        rw [if_pos ⟨rfl, within⟩]
        refine ⟨told, ?_, ?_⟩
        · rw [perform_ask asks,
            answer_of_ok (run_ensureReady_of_started started), refused]
        · intro chips steps allowed
          exact (@Session.settled_after ⟨left, chips⟩ steps allowed
            started).1.trans known
      · rw [if_neg (fun both => within both.2)]
        exact perform_ask_of_ready asks
          (perform_dropped_late promising needs (Nat.le_of_not_lt within))

/-- Dropped at the last delay of startup, and at the first access after it. -/
theorem isReady_after_drop_of_send :
    let station := (Session.start true true Chip.fresh).station
    let left (drop : DropPoint) :=
      ((Call.deferred (.send [1, 2, 3]) (some drop)).perform station).2
    Promising station ∧
      ((Call.deferred .isReady none).perform (left (.delay 2))).1 =
        .truth false ∧
      (Call.isReady.perform (left (.access 12))).1 = .truth true := by
  intro station left
  have promising : Promising station :=
    ⟨⟨rfl, rfl⟩, rfl, Configuration.legal_default, rfl, by decide +kernel⟩
  have early :=
    @isReady_after_drop station (.send [1, 2, 3]) (.delay 2)
      (.deferred .isReady none)
    promising (.inr rfl)
  have late :=
    @isReady_after_drop station (.send [1, 2, 3]) (.access 12) .isReady
      promising (.inl rfl)
  rw [if_pos (by decide)] at early
  rw [if_neg (by decide)] at late
  obtain ⟨final, asked, -⟩ := late
  exact ⟨promising, congrArg Prod.fst early.2.1, congrArg Prod.fst asked⟩

/-- A startup that is dropped at its first delay is not made up for. -/
theorem isReady_refused_after_drop :
    let station := (Session.start true true Chip.fresh).station
    (Call.isReady.perform
      ((Call.deferred .isReady (some (.delay 0))).perform station).2).1 =
        .truth false := by
  rfl

end Call

end LoraRadio
