import LoraRadio.Proofs.Calls
import LoraRadio.Proofs.Record

/-!
# Where a computation can be dropped

On its way a computation passes its stops, one for every access and every delay.
A drop at one of them leaves what the computation holds there and the bench as
it is there; nothing of the rest happens.  The stops of a sequence are those of
its parts, and every stop that was passed has its event on the record.
-/

namespace LoraRadio

open Operation

variable {σ τ ε δ α β ρ : Type}

inductive StopKind where
  | access
  | delay
  deriving DecidableEq, Repr

structure Stop (σ : Type) where
  kind : StopKind
  state : σ
  bench : Bench

namespace DropPoint

def kind : DropPoint → StopKind
  | .access _ => .access
  | .delay _ => .delay

def passed : DropPoint → Nat
  | .access passed => passed
  | .delay passed => passed

end DropPoint

/-- The kind of stop that an event stands for.  Nothing stops for a control
line. -/
def Event.stop : Event → Option StopKind
  | .read _ _ | .readFailed _ | .write _ _ | .writeFailed _ _ => some .access
  | .delay _ => some .delay
  | .line _ _ | .lineFailed _ _ => none

namespace Bench

theorem events_read (bench : Bench) (header : ReadHeader) :
    ∃ event, (bench.read header).2.events = bench.events ++ [event] ∧
      event.stop = some .access := by
  unfold read
  split
  · exact ⟨_, events_record _ _, rfl⟩
  · exact ⟨_, events_record _ _, rfl⟩

theorem events_write (bench : Bench) (header : WriteHeader) (value : UInt8) :
    ∃ event, (bench.write header value).2.events = bench.events ++ [event] ∧
      event.stop = some .access := by
  unfold write
  split
  · exact ⟨_, events_record _ _, rfl⟩
  · exact ⟨_, events_record _ _, rfl⟩

theorem events_setLine (bench : Bench) (line : Line) (level : Bool) :
    ∃ event, (bench.setLine line level).2.events = bench.events ++ [event] ∧
      event.stop = none := by
  unfold setLine
  split
  · exact ⟨_, events_record _ _, rfl⟩
  · exact ⟨_, events_record _ _, rfl⟩

end Bench

namespace Coroutine

def stops : Coroutine σ ε α → Bench → List (Stop σ)
  | .finished _ _, _ => []
  | .read state header resume, bench =>
      ⟨.access, state, bench⟩ ::
        (resume (bench.read header).1).stops (bench.read header).2
  | .write state header value resume, bench =>
      ⟨.access, state, bench⟩ ::
        (resume (bench.write header value).1).stops (bench.write header value).2
  | .setLine _ line level resume, bench =>
      (resume (bench.setLine line level).1).stops (bench.setLine line level).2
  | .delay state ms rest, bench =>
      ⟨.delay, state, bench⟩ :: rest.stops (bench.delay ms)

/-- A drop comes at the stop that it names; without that stop the computation
ends. -/
theorem runUntil_eq (computation : Coroutine σ ε α) (drop : DropPoint)
    (bench : Bench) :
    computation.runUntil drop bench =
      match ((computation.stops bench).filter fun stop => stop.kind =
        drop.kind)[drop.passed]? with
      | some stop => (none, stop.state, stop.bench)
      | none => (some (computation.run bench).1,
          (computation.run bench).2) := by
  -- A stop of the drop's kind counts it down; other stops leave it as it is.
  induction computation generalizing drop bench with
  | finished state result => rfl
  | read state header resume ih =>
      rcases drop with (_ | passed) | passed
      · rfl
      · exact ih _ _ _
      · exact ih _ _ _
  | write state header value resume ih =>
      rcases drop with (_ | passed) | passed
      · rfl
      · exact ih _ _ _
      · exact ih _ _ _
  | setLine state line level resume ih => exact ih _ _ _
  | delay state ms rest ih =>
      rcases drop with passed | (_ | passed)
      · exact ih _ _
      · rfl
      · exact ih _ _

theorem stops_bind (computation : Coroutine σ ε α)
    (next : α → σ → Coroutine σ ε β) (bench : Bench) :
    (computation.bind next).stops bench = computation.stops bench ++
      match computation.run bench with
      | (.ok value, state, bench) => (next value state).stops bench
      | (.error _, _, _) => [] := by
  induction computation generalizing bench with
  | finished state result => cases result <;> rfl
  | read state header resume ih => exact congrArg _ (ih _ _)
  | write state header value resume ih => exact congrArg _ (ih _ _)
  | setLine state line level resume ih => exact ih _ _
  | delay state ms rest ih => exact congrArg _ (ih _)

theorem stops_onError (computation : Coroutine σ ε α) (change : σ → σ)
    (bench : Bench) :
    (computation.onError change).stops bench = computation.stops bench := by
  induction computation generalizing bench with
  | finished state result => cases result <;> rfl
  | read state header resume ih => exact congrArg _ (ih _ _)
  | write state header value resume ih => exact congrArg _ (ih _ _)
  | setLine state line level resume ih => exact ih _ _
  | delay state ms rest ih => exact congrArg _ (ih _)

theorem embed_bind (computation : Coroutine σ ε α)
    (next : α → σ → Coroutine σ ε β) (state : τ) (rename : ε → δ)
    (rest : α → Coroutine σ ε β)
    (same : ∀ value inner, next value inner = rest value) :
    (computation.bind next).embed state rename =
      (computation.embed state rename).bind fun value outer =>
        (rest value).embed outer rename := by
  induction computation with
  | finished inner result =>
      cases result with
      | ok value => exact congrArg (embed state rename) (same value inner)
      | error error => rfl
  | read inner header resume ih =>
      exact congrArg _ (funext fun reply => ih reply)
  | write inner header value resume ih =>
      exact congrArg _ (funext fun passed => ih passed)
  | setLine inner line level resume ih =>
      exact congrArg _ (funext fun passed => ih passed)
  | delay inner ms rest ih => exact congrArg _ ih

theorem kinds_of_stops (computation : Coroutine σ ε α) (bench : Bench) :
    ∃ events, (computation.run bench).2.2.events = bench.events ++ events ∧
      (computation.stops bench).map Stop.kind =
        events.filterMap Event.stop := by
  induction computation generalizing bench with
  | finished state result => exact ⟨[], by simp [run], rfl⟩
  | read state header resume ih =>
      obtain ⟨event, recorded, counted⟩ := bench.events_read header
      obtain ⟨events, more, kinds⟩ :=
        ih (bench.read header).1 (bench.read header).2
      refine ⟨event :: events, ?_, ?_⟩
      · rw [run, more, recorded, List.append_assoc, List.singleton_append]
      · simp [stops, kinds, counted]
  | write state header value resume ih =>
      obtain ⟨event, recorded, counted⟩ := bench.events_write header value
      obtain ⟨events, more, kinds⟩ :=
        ih (bench.write header value).1 (bench.write header value).2
      refine ⟨event :: events, ?_, ?_⟩
      · rw [run, more, recorded, List.append_assoc, List.singleton_append]
      · simp [stops, kinds, counted]
  | setLine state line level resume ih =>
      obtain ⟨event, recorded, counted⟩ := bench.events_setLine line level
      obtain ⟨events, more, kinds⟩ :=
        ih (bench.setLine line level).1 (bench.setLine line level).2
      refine ⟨event :: events, ?_, ?_⟩
      · rw [run, more, recorded, List.append_assoc, List.singleton_append]
      · simp [stops, kinds, counted]
  | delay state ms rest ih =>
      obtain ⟨events, more, kinds⟩ := ih (bench.delay ms)
      refine ⟨.delay ms :: events, ?_, ?_⟩
      · rw [run, more, Bench.delay, Bench.events_record, List.append_assoc,
          List.singleton_append]
        rfl
      · simp [stops, kinds, Event.stop]

theorem events_of_stop (computation : Coroutine σ ε α) (bench : Bench) :
    ∀ stop ∈ computation.stops bench,
      ∃ rest, (computation.run bench).2.2.events =
        stop.bench.events ++ rest := by
  have whole (computation : Coroutine σ ε α) (bench : Bench) :
      ∃ rest, (computation.run bench).2.2.events = bench.events ++ rest := by
    obtain ⟨events, recorded, -⟩ := computation.kinds_of_stops bench
    exact ⟨events, recorded⟩
  induction computation generalizing bench with
  | finished state result => simp [stops]
  | read state header resume ih =>
      rw [stops, List.forall_mem_cons]
      exact ⟨whole (.read state header resume) bench, ih _ _⟩
  | write state header value resume ih =>
      rw [stops, List.forall_mem_cons]
      exact ⟨whole (.write state header value resume) bench, ih _ _⟩
  | setLine state line level resume ih => exact ih _ _
  | delay state ms rest ih =>
      rw [stops, List.forall_mem_cons]
      exact ⟨whole (.delay state ms rest) bench, ih _⟩

end Coroutine

namespace RadioM

theorem state_read (header : ReadHeader) (station : Station) :
    ((access (Bus.read header)).run station).state =
      ⟨station.radio, (station.bench.read header).2⟩ := by
  simp only [access, Bus.read]
  obtain ⟨reply, bench⟩ := station.bench.read header
  cases reply <;> rfl

theorem state_write (header : WriteHeader) (value : UInt8) (station : Station) :
    ((access (Bus.write header value)).run station).state =
      ⟨station.radio, (station.bench.write header value).2⟩ := by
  simp only [access, Bus.write]
  obtain ⟨passed, bench⟩ := station.bench.write header value
  cases passed <;> rfl

theorem state_setLine (line : Line) (level : Bool) (station : Station) :
    ((setLine line level).run station).state =
      ⟨station.radio, (station.bench.setLine line level).2⟩ := by
  simp only [setLine]
  obtain ⟨passed, bench⟩ := station.bench.setLine line level
  cases passed <;> rfl

end RadioM

/-! ## Stops of the driver's tasks -/

def Stop.station (stop : Stop Radio) : Station :=
  ⟨stop.state, stop.bench⟩

namespace RadioTask

def stops (task : RadioTask α) (station : Station) : List (Stop Radio) :=
  (task.start station.radio).stops station.bench

def stopsOf (task : RadioTask α) (kind : StopKind) (station : Station) :
    List (Stop Radio) :=
  (task.stops station).filter fun stop => stop.kind = kind

theorem mem_stops_of_stopsOf {task : RadioTask α} {kind : StopKind}
    {station : Station} {stop : Stop Radio}
    (member : stop ∈ task.stopsOf kind station) : stop ∈ task.stops station :=
  (List.mem_filter.mp member).1

theorem stops_bind (task : RadioTask α) (next : α → RadioTask β)
    (station : Station) :
    (task >>= next).stops station = task.stops station ++
      match task.complete.run station with
      | .ok value reached => (next value).stops reached
      | .error _ _ => [] := by
  simp only [stops, complete, Deferred.start_bind, Coroutine.stops_bind]
  obtain ⟨result, radio, bench⟩ := (task.start station.radio).run station.bench
  cases result <;> rfl

theorem events_of_stop {task : RadioTask α} {station : Station}
    {stop : Stop Radio} (member : stop ∈ task.stops station) :
    ∃ rest, (task.complete.run station).state.bench.events =
      stop.bench.events ++ rest := by
  obtain ⟨rest, recorded⟩ :=
    (task.start station.radio).events_of_stop station.bench stop member
  refine ⟨rest, ?_⟩
  rw [← recorded]
  simp only [complete]
  obtain ⟨result, radio, bench⟩ := (task.start station.radio).run station.bench
  cases result <;> rfl

theorem stops_onError (change : Radio → Radio) (task : RadioTask α)
    (station : Station) :
    (onError change task).stops station = task.stops station :=
  Coroutine.stops_onError _ change _

theorem access_bind (task : BusTask α) (next : α → BusTask β) :
    access (task >>= next) = access task >>= fun value =>
      access (next value) := by
  unfold access
  congr 1
  funext radio
  exact Coroutine.embed_bind _ _ _ _ (fun value => (next value).start ())
    fun _ _ => rfl

/-- The condition holds wherever the task can be dropped. -/
def Halts (before : Station → Prop) (task : RadioTask α)
    (stopped : Station → Prop) : Prop :=
  ∀ station, before station → ∀ stop ∈ task.stops station, stopped stop.station

namespace Halts

variable {before stopped : Station → Prop} {task : RadioTask α}
  {next : α → RadioTask β}

theorem ofNone (none : ∀ station, task.stops station = []) :
    Halts before task stopped := by
  intro station _ stop member
  rw [none] at member
  cases member

theorem andThen {middle : Station → Prop} (first : Halts before task stopped)
    (reaches : ∀ station value reached, before station →
      task.complete.run station = .ok value reached → middle reached)
    (rest : ∀ value, Halts middle (next value) stopped) :
    Halts before (task >>= next) stopped := by
  intro station holds stop member
  rw [stops_bind, List.mem_append] at member
  rcases member with early | late
  · exact first station holds stop early
  · cases run : task.complete.run station with
    | ok value reached =>
        rw [run] at late
        exact rest value reached
          (reaches station value reached holds run) stop late
    | error failure reached =>
        rw [run] at late
        cases late

theorem bind (first : Halts before task stopped)
    (kept : Keeps before task.complete)
    (rest : ∀ value, Halts before (next value) stopped) :
    Halts before (task >>= next) stopped := by
  refine .andThen first (fun station value reached holds run => ?_) rest
  have after := kept station holds
  rwa [run] at after

theorem bind_of_complete {operation : RadioM α}
    (completes : task.complete = operation) (first : Halts before task stopped)
    (kept : Keeps before operation)
    (rest : ∀ value, Halts before (next value) stopped) :
    Halts before (task >>= next) stopped := by
  rw [← completes] at kept
  exact .bind first kept rest

theorem ite {condition : Prop} [Decidable condition] {yes no : RadioTask α}
    (haltsYes : Halts before yes stopped) (haltsNo : Halts before no stopped) :
    Halts before (if condition then yes else no) stopped := by
  by_cases holds : condition
  · rwa [if_pos holds]
  · rwa [if_neg holds]

end Halts

theorem halts_checked {before stopped : Station → Prop} (result : Checked α) :
    Halts before (checked result) stopped := by
  cases result with
  | ok value => exact .ofNone fun _ => rfl
  | error trap => exact .ofNone fun _ => rfl

theorem halts_setLine {before stopped : Station → Prop} (line : Line)
    (level : Bool) :
    Halts before (setLine line level) stopped := by
  refine .ofNone fun station => ?_
  simp only [stops, setLine, Coroutine.stops]
  cases (station.bench.setLine line level).1 <;> rfl

section Accesses

variable {before stopped : Station → Prop}
  (weaken : ∀ station, before station → stopped station)

include weaken

theorem halts_delay (ms : UInt32) : Halts before (delay ms) stopped := by
  intro station holds stop member
  obtain rfl := List.mem_singleton.mp member
  exact weaken station holds

theorem halts_read (header : ReadHeader) :
    Halts before (access (BusTask.read header)) stopped := by
  intro station holds stop member
  have only : (access (BusTask.read header)).stops station =
      [⟨.access, station.radio, station.bench⟩] := by
    simp only [stops, access, BusTask.read, Coroutine.embed, Coroutine.stops]
    cases (station.bench.read header).1 <;> rfl
  rw [only] at member
  obtain rfl := List.mem_singleton.mp member
  exact weaken station holds

theorem halts_write (header : WriteHeader) (value : UInt8) :
    Halts before (access (BusTask.write header value)) stopped := by
  intro station holds stop member
  have only : (access (BusTask.write header value)).stops station =
      [⟨.access, station.radio, station.bench⟩] := by
    simp only [stops, access, BusTask.write, Coroutine.embed, Coroutine.stops]
    cases (station.bench.write header value).1 <;> rfl
  rw [only] at member
  obtain rfl := List.mem_singleton.mp member
  exact weaken station holds

theorem halts_readBytes [Register ρ]
    (each : ∀ offset : Fin (Register.width ρ),
      Keeps before (RadioM.access (Bus.read (Register.address ρ offset)))) :
    ∀ (count : Nat) (within : count ≤ Register.width ρ),
      Halts before (access (BusTask.readBytes ρ count within)) stopped
  | 0, _ => .ofNone fun _ => rfl
  | count + 1, within => by
      change Halts before (access (BusTask.readBytes ρ count _ >>= fun bytes =>
        BusTask.read (Register.address ρ ⟨count, within⟩) >>= fun byte =>
          pure (bytes.push byte))) stopped
      rw [access_bind]
      refine .bind (halts_readBytes each count _) ?_ fun bytes => ?_
      · rw [complete_access, BusTask.complete_readBytes]
        exact RadioM.keeps_access fun radio =>
          Bus.keeps_readBytes (fun offset => RadioM.keeps_of_access
            (each offset) radio) _ _
      · rw [access_bind]
        refine .bind (halts_read weaken _) ?_ fun byte => .ofNone fun _ => rfl
        rw [complete_access, BusTask.complete_read]
        exact each _

theorem halts_readRegister [Register ρ]
    (each : ∀ offset : Fin (Register.width ρ),
      Keeps before (RadioM.access (Bus.read (Register.address ρ offset)))) :
    Halts before (readRegister ρ) stopped := by
  rw [readRegister, BusTask.readRegister, access_bind]
  refine .bind (halts_readBytes weaken each _ _) ?_ fun bytes => ?_
  · rw [complete_access, BusTask.complete_readBytes]
    exact RadioM.keeps_access fun radio =>
      Bus.keeps_readBytes (fun offset => RadioM.keeps_of_access
        (each offset) radio) _ _
  · cases Register.decode bytes with
    | ok register => exact .ofNone fun _ => rfl
    | error byte => exact .ofNone fun _ => rfl

theorem halts_writeBytes [Register ρ] (bytes : Vector UInt8 (Register.width ρ))
    (each : ∀ (offset : Fin (Register.width ρ)) (value : UInt8),
      Keeps before
        (RadioM.access (Bus.write (Register.address ρ offset) value))) :
    ∀ (count : Nat) (within : count ≤ Register.width ρ),
      Halts before (access (BusTask.writeBytes ρ bytes count within)) stopped
  | 0, _ => .ofNone fun _ => rfl
  | count + 1, within => by
      rw [BusTask.writeBytes, access_bind]
      refine .bind (halts_writeBytes bytes each count _) ?_ fun _ =>
        halts_write weaken _ _
      rw [complete_access, BusTask.complete_writeBytes]
      exact RadioM.keeps_access fun radio =>
        Bus.keeps_writeBytes
          (fun offset value => RadioM.keeps_of_access (each offset value) radio)
          _ _

theorem halts_writeRegister [WritableRegister ρ] (register : ρ)
    (each : ∀ (offset : Fin (Register.width ρ)) (value : UInt8),
      Keeps before
        (RadioM.access (Bus.write (Register.address ρ offset) value))) :
    Halts before (writeRegister register) stopped :=
  halts_writeBytes weaken _ each _ _

end Accesses

end RadioTask

/-! ## Calls that are dropped -/

theorem Call.answerDeferred_some (success : α → Reply) (task : RadioTask α)
    (drop : DropPoint) (station : Station) :
    answerDeferred success task (some drop) station =
      match (task.stopsOf drop.kind station)[drop.passed]? with
      | some stop => (.dropped, stop.station)
      | none => answerDeferred success task none station := by
  simp only [answerDeferred, Coroutine.execute, Coroutine.runUntil_eq,
    RadioTask.stopsOf, RadioTask.stops]
  cases ((Coroutine.stops (task.start station.radio) station.bench).filter
    fun stop =>
      stop.kind = drop.kind)[drop.passed]? <;> rfl

theorem DeferredCall.perform_drop (call : DeferredCall) (drop : DropPoint)
    (station : Station) :
    (call.perform (some drop) station).1 = .dropped ∨
      call.perform (some drop) station = call.perform none station := by
  have each {α : Type} (success : α → Reply) (task : RadioTask α) :
      (Call.answerDeferred success task (some drop) station).1 = .dropped ∨
        Call.answerDeferred success task (some drop) station =
          Call.answerDeferred success task none station := by
    rw [Call.answerDeferred_some]
    cases (task.stopsOf drop.kind station)[drop.passed]? with
    | some stop => exact .inl rfl
    | none => exact .inr rfl
  cases call with
  | isReady => exact each _ _
  | firmware => exact each _ _
  | idle => exact each _ _
  | send bytes => exact each _ _
  | sendText text => exact each _ _

end LoraRadio
