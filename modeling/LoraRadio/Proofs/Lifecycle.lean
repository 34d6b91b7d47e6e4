import LoraRadio.Proofs.Lasting

/-!
# The lifecycle of a driver

The first call that needs the chip makes an attempt at startup.  The attempt is
refused without the control lines, ends at a chip with another firmware, brings
the chip into service, or breaks off at the first failure, and then the next
such call makes another attempt.  A driver that was not left uninitialized stays
as it is until it gets a new connection, and never touches the control lines
again.
-/

namespace LoraRadio

open Operation RadioM Radio

/-! ## Drivers whose startup is over -/

namespace Event

def isLine : Event → Bool
  | .line _ _ | .lineFailed _ _ => true
  | .read _ _ | .readFailed _ | .write _ _ | .writeFailed _ _
  | .delay _ => false

theorem isLine_of_stop {event : Event} {kind : StopKind}
    (counted : event.stop = some kind) :
    event.isLine = false := by
  cases event <;> simp [stop, isLine] at counted ⊢

end Event

/-- The driver is at a stage of its lifecycle, and since the record was taken
nothing happened on the control lines, and nothing at all out of service. -/
structure Settled (stage : Lifecycle) (connection : Connection)
    (record : List Event) (station : Station) : Prop where
  lifecycle : station.radio.lifecycle = stage
  connection : station.radio.connection = connection
  quiet : ∃ more, station.bench.events = record ++ more ∧
    (∀ event ∈ more, event.isLine = false) ∧
    (stage ≠ .ready → more = [])

namespace Settled

variable {stage : Lifecycle} {connection : Connection} {record : List Event}
  {station : Station}

theorem refl (station : Station) :
    Settled station.radio.lifecycle station.radio.connection
      station.bench.events station :=
  ⟨rfl, rfl, [], by simp⟩

theorem add {bench : Bench} {event : Event}
    (live : Live (Settled stage connection record) station)
    (recorded : bench.events = station.bench.events ++ [event])
    (other : event.isLine = false) :
    Live (Settled stage connection record) ⟨station.radio, bench⟩ := by
  obtain ⟨⟨lifecycle, connected, more, earlier, quiet, -⟩, ready⟩ := live
  have inService : stage = .ready := by
    rw [← lifecycle]
    simpa [Radio.ready] using ready
  refine ⟨⟨lifecycle, connected, more ++ [event], ?_, ?_, ?_⟩, ready⟩
  · rw [recorded, earlier, List.append_assoc]
  · simpa [other, or_imp, forall_and] using quiet
  · exact fun apart => absurd inService apart

theorem plain (started : stage ≠ .uninitialized) :
    Plain (Settled stage connection record) where
  start station holds := by
    rw [run_ensureReady_of_started (holds.lifecycle ▸ started)]
    exact holds
  read address station live := by
    obtain ⟨event, recorded, counted⟩ := station.bench.events_read address
    rw [state_read]
    exact add live recorded (Event.isLine_of_stop counted)
  write address value station live := by
    obtain ⟨event, recorded, counted⟩ :=
      station.bench.events_write address value
    rw [state_write]
    exact add live recorded (Event.isLine_of_stop counted)
  delay ms station live := add live (Bench.events_record _ _) rfl
  cursor change station live :=
    ⟨⟨live.1.lifecycle, live.1.connection, live.1.quiet⟩, live.2⟩
  configure change station holds :=
    ⟨holds.lifecycle, holds.connection, holds.quiet⟩

end Settled

/-! ## Attempts at startup -/

/-- An attempt at startup: the stage it ends at, the failure it reports, and its
record. -/
inductive Attempt (before : Scene) :
    Lifecycle → Option Failure → List Event → Prop where
  | refused (bare : before.radio.connection.complete = false) :
      Attempt before .invalidConfiguration none []
  | mismatched {version : UInt8}
      (complete : before.radio.connection.complete = true)
      (found : before.chip.register RegisterName.version.address = version)
      (other : version ≠ requiredVersion) :
      Attempt before .firmwareMismatch none
        (pulseScript ++ [.read RegisterName.version.address version])
  | completed (complete : before.radio.connection.complete = true)
      (found : before.chip.register RegisterName.version.address =
        requiredVersion) :
      Attempt before .ready none
        (pulseScript ++ .read RegisterName.version.address requiredVersion ::
          defaultsScript before.chip before.radio.configuration)
  | broken {failure : Failure} {events : List Event}
      (complete : before.radio.connection.complete = true)
      (breaks : Breaks failure (startupScript before) events) :
      Attempt before .uninitialized (some failure) events

namespace Attempt

theorem ofStartup (before : Scene) :
    Attempt before (startup before).radio.lifecycle none
      (startupScript before) := by
  unfold startup startupScript
  by_cases complete : before.radio.connection.complete = true
  · by_cases required : before.chip.register RegisterName.version.address =
      requiredVersion
    · simp only [if_pos complete, if_pos required]
      rw [required]
      exact .completed complete required
    · simp only [if_pos complete, if_neg required]
      exact .mismatched complete rfl required
  · simp only [if_neg complete]
    exact .refused (Bool.eq_false_iff.mpr complete)

theorem ofBreaks {before : Scene} {failure : Failure} {events : List Event}
    (breaks : Breaks failure (startupScript before) events) :
    Attempt before .uninitialized (some failure) events := by
  by_cases complete : before.radio.connection.complete = true
  · exact .broken complete breaks
  · -- Without the control lines there is nothing that could fail.
    rw [startupScript, if_neg complete] at breaks
    cases breaks

theorem ne_initializing {before : Scene} {stage : Lifecycle}
    {failure : Option Failure} {events : List Event}
    (attempt : Attempt before stage failure events) :
    stage ≠ .initializing := by
  cases attempt <;> simp

theorem of_bare {before : Scene} {stage : Lifecycle} {failure : Option Failure}
    {events : List Event} (attempt : Attempt before stage failure events)
    (bare : before.radio.connection.complete = false) :
    stage = .invalidConfiguration ∧ events = [] := by
  cases attempt with
  | refused => exact ⟨rfl, rfl⟩
  | mismatched complete => simp [bare] at complete
  | completed complete => simp [bare] at complete
  | broken complete => simp [bare] at complete

end Attempt

structure Unset (connection : Connection) (station : Station) : Prop where
  connection : station.radio.connection = connection
  settings : station.radio.configuration.Initial

namespace Unset

variable {connection : Connection} {station : Station}

theorem startable : Startable (Unset connection) where
  line line level station unset := by
    rw [state_setLine]
    exact ⟨unset.connection, unset.settings⟩
  delay ms station unset := ⟨unset.connection, unset.settings⟩
  read address station unset := by
    rw [state_read]
    exact ⟨unset.connection, unset.settings⟩
  write name _ value station unset := by
    rw [state_write]
    exact ⟨unset.connection, unset.settings⟩
  version version station unset := ⟨unset.connection, unset.settings⟩
  power station unset :=
    ⟨unset.connection, Setting.initial_power unset.settings⟩

theorem keeps_ensureReady : Keeps (Unset connection) ensureReady :=
  startable.keeps_ensureReady fun _ _ unset =>
    ⟨unset.connection, unset.settings⟩

end Unset

namespace Radio

theorem attempt_of_new {station : Station}
    (new : station.radio.lifecycle = .uninitialized)
    (unset : Unset station.radio.connection station) :
    (∃ reached attempt,
      ensureReady.run station = .ok reached.radio.ready reached ∧
      reached.radio.lifecycle ≠ .uninitialized ∧
      reached.bench.events = station.bench.events ++ attempt ∧
      Attempt station.scene reached.radio.lifecycle none attempt) ∨
    ∃ failure reached attempt,
      ensureReady.run station = .error failure reached ∧
      reached.bench.events = station.bench.events ++ attempt ∧
      Attempt station.scene reached.radio.lifecycle (some failure) attempt := by
  have started := @follows_ensureReady station.scene new unset.settings.legal
  rcases started station rfl with
    ⟨seen, records⟩ | ⟨-, failure, reached, attempt, run, breaks, records⟩
  · obtain ⟨reached, run, scene⟩ := Outcome.exists_of_view_ok seen
    have radio : reached.radio = (startup station.scene).radio :=
      congrArg Scene.radio scene
    rw [run] at records
    refine .inl ⟨reached, startupScript station.scene, ?_, ?_,
      records.recorded, ?_⟩
    · rw [run, radio]
    · rw [radio]
      exact startup_started station.scene
    · rw [radio]
      exact .ofStartup station.scene
  · refine .inr ⟨failure, reached, attempt, run, records.recorded, ?_⟩
    rw [lifecycle_of_run_error run]
    exact .ofBreaks breaks

end Radio

/-! ## Calls -/

def Reply.failure? : Reply → Option Failure
  | .failed failure => some failure
  | .buffer ⟨.error failure, _⟩ => some failure
  | .text ⟨.error failure, _⟩ => some failure
  | _ => none

/-- Whether a call has something to do on the chip, and so has to start a new
driver. -/
def Call.needsChip : Call → Bool
  | .setPolling _ | .airtime _ | .polling _ | .readByte | .peekByte => false
  | .send bytes | .deferred (.send bytes) _ => !bytes.isEmpty
  | .sendText text | .deferred (.sendText text) _ => !text.toUTF8.toList.isEmpty
  | _ => true

structure Gated {α : Type} (operation : RadioM α) : Prop where
  done : ∀ {station reached : Station},
    ensureReady.run station = .ok reached.radio.ready reached →
    reached.radio.lifecycle ≠ .uninitialized →
      operation.run station = operation.run reached
  failed : ∀ {station reached : Station} {failure : Failure},
    ensureReady.run station = .error failure reached →
      operation.run station = .error failure reached

namespace Gated

variable {α : Type}

theorem bind (next : Bool → RadioM α) : Gated (ensureReady >>= next) where
  done run started := by
    rw [run_bind, run_bind, run, run_ensureReady_of_started started]
  failed run := by rw [run_bind, run, Outcome.andThen_error]

theorem ensureReady : Gated Radio.ensureReady where
  done run started := by rw [run, run_ensureReady_of_started started]
  failed run := run

theorem receive (size : UInt8) : Gated (Radio.receive size) :=
  .bind _

end Gated

namespace Call

structure StartsUp (call : Call) : Prop where
  done : ∀ {station reached : Station},
    ensureReady.run station = .ok reached.radio.ready reached →
    reached.radio.lifecycle ≠ .uninitialized →
      call.perform station = call.perform reached
  failed : ∀ {station reached : Station} {failure : Failure},
    ensureReady.run station = .error failure reached →
      (call.perform station).1.failure? = some failure ∧
        (call.perform station).2 = reached

namespace StartsUp

variable {α : Type} {call : Call}

theorem ofAnswer {success : α → Reply} {operation : RadioM α}
    (gated : Gated operation)
    (same : ∀ station,
      call.perform station = answer success operation station) :
    call.StartsUp where
  done run started := by
    rw [same, same]
    exact answer_congr (gated.done run started)
  failed run := by
    rw [same, answer_of_error (gated.failed run)]
    exact ⟨rfl, rfl⟩

theorem readBuffer (buffer : List UInt8) :
    (Call.readBuffer buffer).StartsUp where
  done run started := by
    have same := (Gated.receive 0).done run started
    simp only [perform, Radio.readBuffer, same]
  failed run := by
    have stops := (Gated.receive 0).failed run
    simp only [perform, Radio.readBuffer, stops, Reply.failure?, and_self]

theorem readText (buffer : List UInt8) : (Call.readText buffer).StartsUp where
  done run started := by
    have same := (Gated.receive 0).done run started
    simp only [perform, Radio.readText, Radio.readBuffer, same]
  failed run := by
    have stops := (Gated.receive 0).failed run
    simp only [perform, Radio.readText, Radio.readBuffer, stops, and_true]
    rfl

theorem deferred {task : RadioTask α} {success : α → Reply}
    {operation : RadioM α} {call : DeferredCall} (gated : Gated operation)
    (completed : task.complete = operation)
    (same : ∀ station,
      call.perform none station = answerDeferred success task none station) :
    (Call.deferred call none).StartsUp := by
  refine @ofAnswer α (.deferred call none) success operation gated
    fun station => ?_
  rw [← completed, ← answerDeferred_none]
  exact same station

theorem gated_send {bytes : List UInt8} (some : (!bytes.isEmpty) = true) :
    Gated (Radio.send bytes) ∧ Gated (sendAtOnce bytes) := by
  have filled : ¬bytes.isEmpty = true := by simpa using some
  rw [Radio.send, sendAtOnce, if_neg filled, if_neg filled]
  exact ⟨.bind _, .bind _⟩

end StartsUp

theorem startsUp_of_needsChip {call : Call} (whole : call.Whole)
    (needs : call.needsChip = true) :
    call.StartsUp := by
  cases call with
  | setPolling | airtime | polling | readByte | peekByte => cases needs
  | isReady => exact .ofAnswer .ensureReady fun _ => rfl
  | send bytes => exact .ofAnswer (StartsUp.gated_send needs).1 fun _ => rfl
  | sendText text => exact .ofAnswer (StartsUp.gated_send needs).1 fun _ => rfl
  | readBuffer buffer => exact .readBuffer buffer
  | readText buffer => exact .readText buffer
  | deferred call drop =>
      obtain rfl : drop = none := whole
      cases call with
      | isReady =>
          exact .deferred .ensureReady RadioTask.complete_isReady fun _ => rfl
      | firmware =>
          exact .deferred (.bind _) RadioTask.complete_firmware fun _ => rfl
      | idle => exact .deferred (.bind _) RadioTask.complete_idle fun _ => rfl
      | send bytes =>
          exact .deferred (StartsUp.gated_send needs).2
            (RadioTask.complete_send bytes) fun _ => rfl
      | sendText text =>
          exact .deferred (StartsUp.gated_send needs).2
            (RadioTask.complete_send _) fun _ => rfl
  | _ => exact .ofAnswer (.bind _) fun _ => rfl

structure Idle (connection : Connection) (bench : Bench)
    (station : Station) : Prop
    extends Unset connection station where
  new : station.radio.lifecycle = .uninitialized
  untouched : station.bench = bench

theorem Idle.keeps_live {α : Type} {connection : Connection} {bench : Bench}
    (operation : RadioM α) :
    Keeps (Live (Idle connection bench)) operation := by
  rintro station ⟨idle, ready⟩
  simp [Radio.ready, idle.new] at ready

theorem perform_needless {call : Call} (whole : call.Whole)
    (needless : call.needsChip = false) {connection : Connection}
    {bench : Bench} {station : Station}
    (holds : Idle connection bench station) :
    Idle connection bench (call.perform station).2 := by
  have nothing {bytes : List UInt8} (none : (!bytes.isEmpty) = false) :
      Keeps (Idle connection bench) (Radio.send bytes) ∧
        Keeps (Idle connection bench) (sendAtOnce bytes) := by
    have empty : bytes.isEmpty = true := by simpa using none
    rw [Radio.send, sendAtOnce, if_pos empty, if_pos empty]
    exact ⟨.pure (), .pure ()⟩
  cases call with
  | setPolling wait =>
      obtain ⟨⟨connected, polling, known⟩, new, untouched⟩ := holds
      refine ⟨⟨connected, some wait, ?_⟩, new, untouched⟩
      change { station.radio.configuration with polling := some wait } = _
      rw [known]
  | airtime length =>
      exact answer_keeps
        (.bind keeps_getConfiguration fun _ => keeps_checked _) holds
  | polling length =>
      exact answer_keeps
        (.bind keeps_getConfiguration fun _ => keeps_checked _) holds
  | readByte =>
      exact answer_keeps (Live.keeps_ofAvailable none (Idle.keeps_live _)) holds
  | peekByte =>
      exact answer_keeps (Live.keeps_ofAvailable none (Idle.keeps_live _)) holds
  | send bytes => exact answer_keeps (nothing needless).1 holds
  | sendText text => exact answer_keeps (nothing needless).1 holds
  | deferred call drop =>
      obtain rfl : drop = none := whole
      change Idle connection bench (call.perform none station).2
      rw [call.perform_whole]
      cases call with
      | send bytes => exact answer_keeps (nothing needless).2 holds
      | sendText text => exact answer_keeps (nothing needless).2 holds
      | _ => cases needless
  | _ => cases needless

/-- What a call does to the lifecycle and leaves on the record.  It makes at
most one attempt at startup, a failure of which is reported, and touches the
control lines in no other way. -/
inductive Passage (call : Call) (before : Scene) (reply : Reply)
    (after : Station) : Prop where
  | aside (new : before.radio.lifecycle = .uninitialized)
      (needless : call.needsChip = false)
      (stays : after.radio.lifecycle = .uninitialized)
        (silent : after.bench.events = [])
  | attempt {failure : Option Failure} {attempt rest : List Event}
      (new : before.radio.lifecycle = .uninitialized)
        (needs : call.needsChip = true)
      (tried : Attempt before after.radio.lifecycle failure attempt)
      (told : failure.isSome → reply.failure? = failure)
      (recorded : after.bench.events = attempt ++ rest)
      (quiet : ∀ event ∈ rest, event.isLine = false)
      (idle : after.radio.lifecycle ≠ .ready → rest = [])
  | settled (started : before.radio.lifecycle ≠ .uninitialized)
      (stays : after.radio.lifecycle = before.radio.lifecycle)
      (quiet : ∀ event ∈ after.bench.events, event.isLine = false)
      (idle : after.radio.lifecycle ≠ .ready → after.bench.events = [])

end Call

structure Orderly (station : Station) : Prop where
  settled : station.radio.lifecycle ≠ .initializing
  unset : station.radio.lifecycle = .uninitialized →
    Unset station.radio.connection station
  bare : station.radio.connection.complete = false →
    (station.radio.lifecycle = .uninitialized ∨
        station.radio.lifecycle = .invalidConfiguration) ∧
      station.bench.events = []

namespace Call

variable {call : Call} {station : Station}

theorem passage_of_started (whole : call.Whole)
    (fresh : station.bench.events = []) (orderly : Orderly station)
    (started : station.radio.lifecycle ≠ .uninitialized) :
    call.Passage station.scene (call.perform station).1
        (call.perform station).2 ∧
      Orderly (call.perform station).2 := by
  obtain ⟨stays, connected, more, recorded, quiet, idle⟩ :=
    (Settled.plain started).lasting.perform whole (Settled.refl station)
  rw [fresh, List.nil_append] at recorded
  rw [← recorded] at quiet idle
  refine ⟨.settled started stays quiet (fun apart => idle (stays ▸ apart)),
    ?_, ?_, ?_⟩
  · rw [stays]
    exact orderly.settled
  · intro new
    exact absurd (stays.symm.trans new) started
  · intro bare
    rw [connected] at bare
    obtain ⟨known, -⟩ := orderly.bare bare
    rw [stays]
    refine ⟨known, idle ?_⟩
    rcases known with known | known <;> simp [known]

theorem passage_of_new (whole : call.Whole) (fresh : station.bench.events = [])
    (orderly : Orderly station)
    (new : station.radio.lifecycle = .uninitialized) :
    call.Passage station.scene (call.perform station).1
        (call.perform station).2 ∧
      Orderly (call.perform station).2 := by
  have unset := orderly.unset new
  cases needs : call.needsChip with
  | false =>
      obtain ⟨⟨connected, settings⟩, stays, untouched⟩ :=
        perform_needless whole needs
          (⟨unset, new, rfl⟩ : Idle _ station.bench station)
      have silent : (call.perform station).2.bench.events = [] := by
        rw [untouched, fresh]
      refine ⟨.aside new needs stays silent, ?_, ?_, ?_⟩
      · simp [stays]
      · exact fun _ => ⟨rfl, settings⟩
      · exact fun _ => ⟨.inl stays, silent⟩
  | true =>
      have startsUp := startsUp_of_needsChip whole needs
      have kept := Unset.keeps_ensureReady station unset
      rcases attempt_of_new new unset with
        ⟨reached, attempt, run, started, recorded, tried⟩ |
          ⟨failure, reached, attempt, run, recorded, tried⟩
      · rw [run] at kept
        have linked : reached.radio.connection = station.radio.connection :=
          kept.connection
        rw [fresh, List.nil_append] at recorded
        -- What comes after the attempt is the call on a driver whose startup is
        -- over.
        rw [startsUp.done run started]
        obtain ⟨stays, connected, rest, further, quiet, idle⟩ :=
          (Settled.plain started).lasting.perform whole (Settled.refl reached)
        rw [recorded] at further
        rw [← stays] at tried idle started
        refine ⟨.attempt new needs tried (by simp) further quiet idle,
          ?_, ?_, ?_⟩
        · exact tried.ne_initializing
        · exact fun again => absurd again started
        · intro bare
          rw [connected, linked] at bare
          obtain ⟨refused, nothing⟩ := tried.of_bare bare
          refine ⟨.inr refused, ?_⟩
          rw [further, nothing, idle (by simp [refused])]
          rfl
      · rw [run] at kept
        rw [fresh, List.nil_append] at recorded
        obtain ⟨told, final⟩ := startsUp.failed run
        rw [final]
        have whole : reached.bench.events = attempt ++ [] := by
          rw [recorded, List.append_nil]
        refine ⟨.attempt new needs tried (fun _ => told) whole (by simp)
          (fun _ => rfl), tried.ne_initializing,
          fun _ => ⟨rfl, kept.settings⟩, ?_⟩
        intro bare
        have linked : reached.radio.connection = station.radio.connection :=
          kept.connection
        rw [linked] at bare
        obtain ⟨refused, nothing⟩ := tried.of_bare bare
        exact ⟨.inr refused, recorded.trans nothing⟩

theorem passage (whole : call.Whole) (fresh : station.bench.events = [])
    (orderly : Orderly station) :
    call.Passage station.scene (call.perform station).1
        (call.perform station).2 ∧
      Orderly (call.perform station).2 := by
  by_cases new : station.radio.lifecycle = .uninitialized
  · exact passage_of_new whole fresh orderly new
  · exact passage_of_started whole fresh orderly new

end Call

/-! ## Sessions -/

namespace Step

def Whole : Step → Prop
  | .call made => made.Whole
  | .stimulus _ | .reconnect _ _ _ | .release => True

def KeepsConnection : Step → Prop
  | .reconnect _ _ _ | .release => False
  | .stimulus _ | .call _ => True

def SparesMode : Step → Prop
  | .stimulus (.poke address _) => address ≠ RegisterName.opMode.address
  | _ => True

end Step

theorem Stimulus.events_apply (bench : Bench) (stimulus : Stimulus) :
    (stimulus.apply bench).events = bench.events := by
  cases stimulus <;> rfl

theorem Stimulus.mode_apply {event : Stimulus}
    (spared : (Step.stimulus event).SparesMode) (bench : Bench) :
    (event.apply bench).chip.register RegisterName.opMode.address =
      bench.chip.register RegisterName.opMode.address := by
  cases event with
  | poke address value => simp [Stimulus.apply, show address ≠ _ from spared]
  | load position bytes => exact Chip.register_load _ _ _ _
  | deliver start packet flags =>
      exact Chip.register_deliver _ _ _ _ (by decide)
  | transmitter completes doneAt => rfl
  | busFaults window => rfl
  | lineFaults window => rfl

namespace Orderly

variable {station : Station}

theorem attach (connection : Connection) {bench : Bench}
    (silent : bench.events = []) :
    Orderly ⟨Radio.attach connection, bench⟩ where
  settled := by simp [Radio.attach]
  unset _ := ⟨rfl, none, rfl⟩
  bare _ := ⟨.inl rfl, silent⟩

theorem withBench (orderly : Orderly station) {bench : Bench}
    (silent : bench.events = []) :
    Orderly ⟨station.radio, bench⟩ where
  settled := orderly.settled
  unset new := ⟨rfl, (orderly.unset new).settings⟩
  bare missing := ⟨(orderly.bare missing).1, silent⟩

theorem step {session : Session} {step : Step} (whole : step.Whole)
    (orderly : Orderly session.station) :
    Orderly (session.step step).2.station := by
  cases step with
  | call call => exact (Call.passage whole rfl (orderly.withBench rfl)).2
  | stimulus event => exact orderly.withBench (event.events_apply _)
  | release => exact attach _ rfl
  | reconnect boot reset chip =>
      cases chip with
      | none => exact attach _ rfl
      | some chip => exact attach _ rfl

end Orderly

namespace Session

theorem orderly_after {session : Session} {steps : List Step}
    (whole : ∀ step ∈ steps, step.Whole) (begins : Orderly session.station) :
    Orderly (session.after steps).station :=
  after_induction (fun session => Orderly session.station)
    (fun _ _ => Orderly.step) whole begins

theorem settled_step {session : Session} {step : Step} {stage : Lifecycle}
    {connection : Connection} (whole : step.Whole)
    (keeps : step.KeepsConnection) (started : stage ≠ .uninitialized)
    (known : session.station.radio.lifecycle = stage)
    (connected : session.station.radio.connection = connection) :
    Settled stage connection [] (session.step step).2.station := by
  have begins : Settled stage connection []
      ⟨session.station.radio, session.station.bench.clearTrace⟩ :=
    ⟨known, connected, [], rfl, by simp, fun _ => rfl⟩
  cases step with
  | call call => exact (Settled.plain started).lasting.perform whole begins
  | stimulus event =>
      exact ⟨known, connected, [], event.events_apply _, by simp, fun _ => rfl⟩
  | release => cases keeps
  | reconnect boot reset chip => cases keeps

theorem settled_after {session : Session} {steps : List Step}
    (allowed : ∀ step ∈ steps, step.Whole ∧ step.KeepsConnection)
    (started : session.station.radio.lifecycle ≠ .uninitialized) :
    (session.after steps).station.radio.lifecycle =
        session.station.radio.lifecycle ∧
      (session.after steps).station.radio.connection =
        session.station.radio.connection := by
  refine after_induction (fun now => now.station.radio.lifecycle = _ ∧
    now.station.radio.connection = _) ?_ allowed ⟨rfl, rfl⟩
  rintro now step ⟨whole, keeps⟩ ⟨known, connected⟩
  have settled := settled_step whole keeps started known connected
  exact ⟨settled.lifecycle, settled.connection⟩

/-- The lifecycle along every session in which no call is dropped, with any
faults, on any chip and connection. -/
theorem lifecycle_after {boot reset : Bool} {chip : Chip} {steps : List Step}
    (whole : ∀ step ∈ steps, step.Whole) :
    let session := (start boot reset chip).after steps
    session.station.radio.lifecycle ≠ .initializing ∧
    (session.station.radio.connection.complete = false →
      (session.station.radio.lifecycle = .uninitialized ∨
        session.station.radio.lifecycle = .invalidConfiguration) ∧
      session.station.bench.events = []) ∧
    (∀ call : Call, call.Whole → call.Passage session.station.scene
      (session.step (.call call)).1 (session.step (.call call)).2.station) ∧
    (session.station.radio.lifecycle ≠ .uninitialized →
      ∀ later step, (∀ other ∈ later, other.Whole ∧ other.KeepsConnection) →
        step.Whole ∧ step.KeepsConnection →
        let next := ((session.after later).step step).2
        next.station.radio.lifecycle = session.station.radio.lifecycle ∧
          ∀ event ∈ next.station.bench.events, event.isLine = false) := by
  intro session
  have orderly : Orderly session.station := orderly_after whole (.attach _ rfl)
  refine ⟨orderly.settled, orderly.bare, ?_, ?_⟩
  · -- A step forgets the record of the one before.
    intro call made
    have cleared :
        Orderly ⟨session.station.radio, session.station.bench.clearTrace⟩ :=
      orderly.withBench rfl
    exact (Call.passage made rfl cleared).1
  · intro started later step allowed last next
    obtain ⟨known, connected⟩ := settled_after allowed started
    obtain ⟨stays, -, more, recorded, quiet, -⟩ :=
      settled_step last.1 last.2 started known connected
    exact ⟨stays, recorded ▸ quiet⟩

/-- A startup that breaks off at the second byte of the carrier, and a second
one that does not. -/
theorem lifecycle_after_broken_startup :
    let steps : List Step :=
      [.call (.setPolling ⟨10, 20⟩), .stimulus (.busFaults ⟨3, 1⟩),
        .call (.send []), .call .firmware]
    let session := (start true true Chip.fresh).after steps
    (∀ step ∈ steps, step.Whole) ∧
      session.station.radio.lifecycle = .uninitialized ∧
      ((session.step (.call .idle)).2.station.radio.lifecycle = .ready ∧
      Call.idle.Passage session.station.scene (session.step (.call .idle)).1
        (session.step (.call .idle)).2.station) := by
  intro steps session
  have whole : ∀ step ∈ steps, step.Whole := by
    simp [steps, Step.Whole, Call.Whole]
  refine ⟨whole, by decide +kernel, by decide +kernel, ?_⟩
  exact (lifecycle_after whole).2.2.1 .idle trivial

end Session

end LoraRadio
