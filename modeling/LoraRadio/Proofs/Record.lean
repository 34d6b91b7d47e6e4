import LoraRadio.Proofs.Quiet

/-!
# What an operation leaves on the record

As long as nothing fails, the events of an operation follow a script.  The first
failing event is the last one on the record, and its failure is what the
operation reports.  The chip is left as the events on the record make it,
whether there was a failure or not.  The statement `Follows operation before
script after` says this for every bench, with faults or without, and its rules
follow the structure of operations like those of `Gives`.
-/

namespace LoraRadio

open Operation

def Bench.events (bench : Bench) : List Event :=
  bench.trace.toList

@[simp] theorem Bench.events_record (bench : Bench) (event : Event) :
    (bench.record event).events = bench.events ++ [event] := by
  simp [events, record]

/-- The event as it is recorded when it fails, with the failure that is
reported.  A delay cannot fail. -/
def Event.broken : Event → Option (Event × Failure)
  | .read header _ => some (.readFailed header, .bus)
  | .write header value => some (.writeFailed header value, .bus)
  | .line which level => some (.lineFailed which level, .line)
  | .readFailed _ | .writeFailed _ _ | .lineFailed _ _ | .delay _ => none

theorem Event.cases_of_broken {event failed : Event} {failure : Failure}
    (fails : event.broken = some (failed, failure)) :
    (∃ header value, event = .read header value ∧ failed = .readFailed header ∧
        failure = .bus) ∨
      (∃ header value, event = .write header value ∧
        failed = .writeFailed header value ∧
        failure = .bus) ∨
      ∃ which level, event = .line which level ∧
        failed = .lineFailed which level ∧
        failure = .line := by
  cases event with
  | read header value =>
      cases fails
      exact .inl ⟨header, value, rfl, rfl, rfl⟩
  | write header value =>
      cases fails
      exact .inr (.inl ⟨header, value, rfl, rfl, rfl⟩)
  | line which level =>
      cases fails
      exact .inr (.inr ⟨which, level, rfl, rfl, rfl⟩)
  | _ => cases fails

/-- The record of a script that breaks off: its events up to one that fails. -/
inductive Breaks (failure : Failure) : List Event → List Event → Prop where
  | here {event failed : Event} {rest : List Event}
      (fails : event.broken = some (failed, failure)) :
      Breaks failure (event :: rest) [failed]
  | later {event : Event} {script events : List Event}
      (breaks : Breaks failure script events) :
      Breaks failure (event :: script) (event :: events)

namespace Breaks

variable {failure : Failure} {script events : List Event}

theorem append_right (breaks : Breaks failure script events)
    (rest : List Event) :
    Breaks failure (script ++ rest) events := by
  induction breaks with
  | here fails => exact .here fails
  | later _ ih => exact .later ih

theorem append_left (passed : List Event)
    (breaks : Breaks failure script events) :
    Breaks failure (passed ++ script) (passed ++ events) := by
  induction passed with
  | nil => exact breaks
  | cons event rest ih => exact .later ih

/-- Everything before the event that fails has passed, and nothing comes after
it. -/
theorem exists_split (breaks : Breaks failure script events) :
    ∃ passed event rest failed, script = passed ++ event :: rest ∧
      events = passed ++ [failed] ∧
      event.broken = some (failed, failure) := by
  induction breaks with
  | here fails => exact ⟨[], _, _, _, rfl, rfl, fails⟩
  | later breaks ih =>
      obtain ⟨passed, event, rest, failed, rfl, rfl, fails⟩ := ih
      exact ⟨_ :: passed, event, rest, failed, rfl, rfl, fails⟩

theorem bus_or_line (breaks : Breaks failure script events) :
    failure = .bus ∨ failure = .line := by
  obtain ⟨_, _, _, _, -, -, fails⟩ := breaks.exists_split
  rcases Event.cases_of_broken fails with ⟨_, _, -, -, bus⟩ |
    ⟨_, _, -, -, bus⟩ | ⟨_, _, -, -, line⟩
  · exact .inl bus
  · exact .inl bus
  · exact .inr line

end Breaks

namespace Chip

def hear (chip : Chip) : Event → Chip
  | .read header _ => (chip.read header.address).2
  | .write header value => chip.write header.address value
  | .readFailed _ | .writeFailed _ _ | .line _ _ | .lineFailed _ _
  | .delay _ => chip

def replay (chip : Chip) (events : List Event) : Chip :=
  events.foldl hear chip

theorem replay_append (chip : Chip) (first second : List Event) :
    chip.replay (first ++ second) = (chip.replay first).replay second :=
  List.foldl_append

end Chip

structure Bench.Records (before after : Bench) (events : List Event) :
    Prop where
  recorded : after.events = before.events ++ events
  sound : before.Sound → after.Sound
  replayed : after.chip = before.chip.replay events

namespace Bench.Records

variable {first second third : Bench} {events others : List Event}

theorem refl (bench : Bench) : bench.Records bench [] :=
  ⟨(List.append_nil _).symm, id, rfl⟩

theorem trans (left : first.Records second events)
    (right : second.Records third others) :
    first.Records third (events ++ others) where
  recorded := by rw [right.recorded, left.recorded, List.append_assoc]
  sound sound := right.sound (left.sound sound)
  replayed := by rw [right.replayed, left.replayed, Chip.replay_append]

theorem access (bench : Bench) {chip : Chip} {event : Event}
    (heard : bench.chip.hear event = chip) :
    bench.Records ({ bench.countAccess with chip }.record event) [event] where
  recorded := events_record _ _
  sound sound := ⟨FaultWindow.count_next sound.1, sound.2⟩
  replayed := heard.symm

theorem setLine (bench : Bench) {event : Event}
    (unheard : bench.chip.hear event = bench.chip) :
    bench.Records ({ bench with
      lineFaults := bench.lineFaults.next }.record event) [event] where
  recorded := events_record _ _
  sound sound := ⟨sound.1, FaultWindow.count_next sound.2⟩
  replayed := unheard.symm

end Bench.Records

/-- On every bench the operation takes the scene to the outcome and records the
script, or breaks off on a bench with faults. -/
def Follows {α : Type} (operation : RadioM α) (before : Scene)
    (script : List Event) (after : Outcome Failure Scene α) : Prop :=
  ∀ station : Station, station.scene = before →
    ((operation.run station).view Station.scene = after ∧
      station.bench.Records (operation.run station).state.bench script) ∨
    (¬station.bench.Sound ∧ ∃ failure final events,
      operation.run station = .error failure final ∧
      Breaks failure script events ∧ station.bench.Records final.bench events)

namespace Follows

variable {α β : Type} {operation : RadioM α} {next : α → RadioM β}
  {before middle : Scene} {script others : List Event}

theorem gives {after : Outcome Failure Scene α}
    (follows : Follows operation before script after) :
    Gives operation before after := by
  intro station sound scene
  rcases follows station scene with ⟨seen, records⟩ | ⟨unsound, -⟩
  · exact ⟨seen, records.sound sound⟩
  · exact absurd sound unsound

theorem exists_run {value : α} {after : Scene}
    (follows : Follows operation before script (.ok value after))
    {station : Station} (sound : station.bench.Sound)
    (scene : station.scene = before) :
    ∃ final, operation.run station = .ok value final ∧ final.bench.Sound ∧
      final.scene = after ∧
      final.bench.events = station.bench.events ++ script := by
  rcases follows station scene with ⟨seen, records⟩ | ⟨unsound, -⟩
  · obtain ⟨final, run, reached⟩ := Outcome.exists_of_view_ok seen
    rw [run] at records
    exact ⟨final, run, records.sound sound, reached, records.recorded⟩
  · exact absurd sound unsound

theorem exists_ok {value : α} {after : Scene}
    (follows : Follows operation before script (.ok value after))
    {station : Station} (sound : station.bench.Sound)
    (scene : station.scene = before) :
    ∃ final, operation.run station = .ok value final ∧ final.scene = after ∧
      final.bench.events = station.bench.events ++ script := by
  obtain ⟨final, run, -, reached, recorded⟩ := follows.exists_run sound scene
  exact ⟨final, run, reached, recorded⟩

theorem of_ok {value result : α} {after : Scene} {station final : Station}
    (follows : Follows operation station.scene script (.ok value after))
    (run : operation.run station = .ok result final) :
    result = value ∧ final.scene = after := by
  rcases follows station rfl with ⟨seen, -⟩ |
    ⟨-, failure, reached, events, other, -⟩
  · rw [run] at seen
    cases seen
    exact ⟨rfl, rfl⟩
  · rw [run] at other
    cases other

theorem records_of_ok {value result : α} {after : Scene}
    {station final : Station}
    (follows : Follows operation station.scene script (.ok value after))
    (run : operation.run station = .ok result final) :
    station.bench.Records final.bench script := by
  rcases follows station rfl with ⟨-, records⟩ |
    ⟨-, failure, reached, events, other, -⟩
  · rwa [run] at records
  · rw [run] at other
    cases other

theorem breaks_of_error {value : α} {after : Scene} {failure : Failure}
    {station final : Station}
    (follows : Follows operation station.scene script (.ok value after))
    (run : operation.run station = .error failure final) :
    ∃ events, Breaks failure script events ∧
      station.bench.Records final.bench events := by
  rcases follows station rfl with ⟨seen, -⟩ |
    ⟨-, reported, reached, events, other, broken⟩
  · rw [run] at seen
    cases seen
  · rw [run] at other
    cases other
    exact ⟨events, broken⟩

theorem exists_error {failure : Failure} {after : Scene}
    (follows : Follows operation before script (.error failure after))
    {station : Station} (sound : station.bench.Sound)
    (scene : station.scene = before) :
    ∃ final, operation.run station = .error failure final ∧
      final.scene = after ∧
      final.bench.events = station.bench.events ++ script := by
  rcases follows station scene with ⟨seen, records⟩ | ⟨unsound, -⟩
  · obtain ⟨final, run, reached⟩ := Outcome.exists_of_view_error seen
    rw [run] at records
    exact ⟨final, run, reached, records.recorded⟩
  · exact absurd sound unsound

theorem pure (value : α) (before : Scene) :
    Follows (Pure.pure value) before [] (.ok value before) := by
  rintro station rfl
  exact .inl ⟨rfl, .refl _⟩

theorem fail (failure : Failure) (before : Scene) :
    Follows (Operation.fail failure : RadioM α) before []
      (.error failure before) := by
  rintro station rfl
  exact .inl ⟨rfl, .refl _⟩

theorem bind {value : α} {after : Outcome Failure Scene β}
    (first : Follows operation before script (.ok value middle))
    (rest : Follows (next value) middle others after) :
    Follows (operation >>= next) before (script ++ others) after := by
  intro station scene
  rw [run_bind]
  rcases first station scene with
    ⟨seen, records⟩ | ⟨unsound, failure, final, events, run, breaks, records⟩
  · obtain ⟨reached, run, scene⟩ := Outcome.exists_of_view_ok seen
    rw [run] at records ⊢
    rcases rest reached scene with
      ⟨seen, more⟩ | ⟨unsound, failure, final, events, run, breaks, more⟩
    · exact .inl ⟨seen, records.trans more⟩
    · exact .inr ⟨fun sound => unsound (records.sound sound), failure, final,
        script ++ events, run, breaks.append_left script, records.trans more⟩
  · rw [run]
    exact .inr ⟨unsound, failure, final, events, rfl,
      breaks.append_right others, records⟩

theorem silent_bind {value : α} {after : Outcome Failure Scene β}
    (first : Follows operation before [] (.ok value middle))
    (rest : Follows (next value) middle script after) :
    Follows (operation >>= next) before script after :=
  .bind first rest

theorem bind_silent {value : α} {after : Outcome Failure Scene β}
    (first : Follows operation before script (.ok value middle))
    (rest : Follows (next value) middle [] after) :
    Follows (operation >>= next) before script after := by
  rw [← List.append_nil script]
  exact .bind first rest

end Follows

namespace RadioM

variable {α : Type}

theorem follows_getRadio (before : Scene) :
    Follows getRadio before [] (.ok before.radio before) := by
  rintro station rfl
  exact .inl ⟨rfl, .refl _⟩

theorem follows_getConfiguration (before : Scene) :
    Follows getConfiguration before []
      (.ok before.radio.configuration before) := by
  rintro station rfl
  exact .inl ⟨rfl, .refl _⟩

theorem follows_modifyRadio (change : Radio → Radio) (before : Scene) :
    Follows (modifyRadio change) before []
      (.ok () { before with radio := change before.radio }) := by
  rintro station rfl
  exact .inl ⟨rfl, .refl _⟩

theorem follows_modifyConfiguration (change : Configuration → Configuration)
    (before : Scene) :
    Follows (modifyConfiguration change) before []
      (.ok () (before.configure change)) :=
  follows_modifyRadio _ before

theorem follows_checked {result : Checked α} {value : α}
    (computed : result = .ok value) (before : Scene) :
    Follows (checked result) before [] (.ok value before) := by
  subst computed
  exact .pure value before

theorem follows_delay (ms : UInt32) (before : Scene) :
    Follows (delay ms) before [.delay ms]
      (.ok () { before with elapsedMs := before.elapsedMs + ms.toNat }) := by
  rintro station rfl
  exact .inl ⟨rfl, Bench.events_record _ _, id, rfl⟩

theorem follows_setLine (line : Line) (level : Bool) (before : Scene) :
    Follows (setLine line level) before [.line line level] (.ok () before) := by
  rintro station rfl
  cases passes : station.bench.lineFaults.passes with
  | true =>
      simp only [setLine, Bench.setLine, passes]
      exact .inl ⟨rfl, .setLine _ rfl⟩
  | false =>
      have unsound : ¬station.bench.Sound := by
        intro sound
        simp [FaultWindow.passes_of_count sound.2] at passes
      simp only [setLine, Bench.setLine, passes]
      exact .inr ⟨unsound, .line, _, [.lineFailed line level], rfl, .here rfl,
        .setLine _ rfl⟩

theorem unsound_of_passes {bench : Bench}
    (fails : bench.busFaults.passes = false) :
    ¬bench.Sound := by
  intro sound
  simp [FaultWindow.passes_of_count sound.1] at fails

theorem follows_read (address : Address) (before : Scene) :
    Follows (access (Bus.read address)) before
      [.read address (before.chip.read address).1]
      (.ok (before.chip.read address).1
        (before.withChip (before.chip.read address).2)) := by
  rintro station rfl
  cases passes : station.bench.busFaults.passes with
  | true =>
      simp only [access, Bus.read, Bench.read, passes]
      exact .inl ⟨rfl, .access _ rfl⟩
  | false =>
      simp only [access, Bus.read, Bench.read, passes]
      exact .inr ⟨unsound_of_passes passes, .bus, _, [.readFailed address], rfl,
        .here rfl, .access _ rfl⟩

theorem follows_write (address : Address) (value : UInt8) (before : Scene) :
    Follows (access (Bus.write address value)) before [.write address value]
      (.ok () (before.withChip (before.chip.write address value))) := by
  rintro station rfl
  cases passes : station.bench.busFaults.passes with
  | true =>
      simp only [access, Bus.write, Bench.write, passes]
      exact .inl ⟨rfl, .access _ rfl⟩
  | false =>
      simp only [access, Bus.write, Bench.write, passes]
      exact .inr ⟨unsound_of_passes passes, .bus, _,
        [.writeFailed address value], rfl, .here rfl, .access _ rfl⟩

end RadioM

/-! ## Typed registers -/

def Chip.readScript (ρ : Type) [Register ρ] (chip : Chip) :
    (count : Nat) → count ≤ Register.width ρ → List Event
  | 0, _ => []
  | count + 1, within =>
      chip.readScript ρ count (Register.le_width_of_succ within) ++
        [.read (Register.address ρ ⟨count, within⟩)
          ((chip.readBytes ρ count (Register.le_width_of_succ within)).2.read
            (Register.address ρ ⟨count, within⟩)).1]

def writeScript (ρ : Type) [Register ρ]
    (bytes : Vector UInt8 (Register.width ρ)) :
    (count : Nat) → count ≤ Register.width ρ → List Event
  | 0, _ => []
  | count + 1, within =>
      writeScript ρ bytes count (Register.le_width_of_succ within) ++
        [.write (Register.address ρ ⟨count, within⟩)
          (bytes.get ⟨count, within⟩)]

namespace RadioM

variable {ρ : Type}

theorem follows_readBytes [Register ρ] (before : Scene) (count : Nat)
    (within : count ≤ Register.width ρ) :
    Follows (access (Bus.readBytes ρ count within)) before
      (before.chip.readScript ρ count within)
      (.ok (before.chip.readBytes ρ count within).1
        (before.withChip (before.chip.readBytes ρ count within).2)) := by
  induction count with
  | zero => exact .pure _ before
  | succ count ih =>
      rw [Bus.readBytes, access_bind]
      refine .bind (ih _) ?_
      rw [access_bind]
      exact .bind (follows_read _ _) (.pure _ _)

theorem follows_readRegister [Register ρ] {register : ρ} {before : Scene}
    (decoded : (before.chip.readRegister ρ).1 = .ok register) :
    Follows (readRegister ρ) before
      (before.chip.readScript ρ (Register.width ρ) Register.width_le_width)
      (.ok register (before.withChip (before.chip.readRegister ρ).2)) := by
  change Register.decode _ = _ at decoded
  rw [readRegister, Bus.readRegister, access_bind]
  refine .bind_silent (follows_readBytes before _ _) ?_
  rw [decoded]
  exact .pure register _

theorem follows_readNumber {name : RegisterName} (buffer : name ≠ .fifo)
    (flags : name ≠ .irqFlags) (before : Scene) :
    Follows (readRegister (ByteRegister name)) before
      [.read name.address (before.chip.register name.address)]
      (.ok ⟨before.chip.register name.address⟩ before) := by
  have looked : before.chip.readRegister (ByteRegister name) =
      (.ok ⟨(before.chip.read name.address).1⟩,
        (before.chip.read name.address).2) := rfl
  have follows := follows_readRegister (congrArg Prod.fst looked)
  have script :
      before.chip.readScript (ByteRegister name) _ Register.width_le_width =
        [.read name.address (before.chip.read name.address).1] := rfl
  rw [script, looked, Chip.read_plain buffer flags] at follows
  exact follows

theorem follows_writeBytes [Register ρ]
    (bytes : Vector UInt8 (Register.width ρ)) (before : Scene) (count : Nat)
    (within : count ≤ Register.width ρ) :
    Follows (access (Bus.writeBytes ρ bytes count within)) before
      (writeScript ρ bytes count within)
      (.ok () (before.withChip
        (before.chip.writeBytes ρ bytes count within))) := by
  induction count with
  | zero => exact .pure _ before
  | succ count ih =>
      rw [Bus.writeBytes, access_bind]
      exact .bind (ih _) (follows_write _ _ _)

theorem follows_writeRegister [WritableRegister ρ] (register : ρ)
    (before : Scene) :
    Follows (writeRegister register) before
      (writeScript ρ
        (EncodableRegister.encode register) _ Register.width_le_width)
      (.ok () (before.withChip (before.chip.writeRegister register))) :=
  follows_writeBytes _ before _ _

theorem follows_updateRegister [WritableRegister ρ] {register : ρ}
    {before : Scene} (change : ρ → ρ)
    (looked : before.chip.readRegister ρ = (.ok register, before.chip)) :
    Follows (updateRegister change) before
      (before.chip.readScript ρ _ Register.width_le_width ++
        writeScript ρ (EncodableRegister.encode (change register)) _
          Register.width_le_width)
      (.ok () (before.withChip
        (before.chip.writeRegister (change register)))) := by
  refine .bind (follows_readRegister (congrArg Prod.fst looked)) ?_
  rw [looked]
  exact follows_writeRegister _ before

end RadioM

/-! ## Without faults

The record has no part in these, so they are what is left of the statements
above. -/

namespace RadioM

variable {α ρ : Type}

theorem gives_getRadio (before : Scene) :
    Gives getRadio before (.ok before.radio before) :=
  (follows_getRadio before).gives

theorem gives_modifyRadio (change : Radio → Radio) (before : Scene) :
    Gives (modifyRadio change) before
      (.ok () { before with radio := change before.radio }) :=
  (follows_modifyRadio change before).gives

theorem gives_modifyConfiguration (change : Configuration → Configuration)
    (before : Scene) :
    Gives (modifyConfiguration change) before
      (.ok () (before.configure change)) :=
  (follows_modifyConfiguration change before).gives

theorem gives_delay (ms : UInt32) (before : Scene) :
    Gives (delay ms) before
      (.ok () { before with elapsedMs := before.elapsedMs + ms.toNat }) :=
  (follows_delay ms before).gives

theorem gives_read (address : Address) (before : Scene) :
    Gives (access (Bus.read address)) before
      (.ok (before.chip.read address).1
        (before.withChip (before.chip.read address).2)) :=
  (follows_read address before).gives

theorem gives_write (address : Address) (value : UInt8) (before : Scene) :
    Gives (access (Bus.write address value)) before
      (.ok () (before.withChip (before.chip.write address value))) :=
  (follows_write address value before).gives

theorem gives_readRegister [Register ρ] {register : ρ} {before : Scene}
    (decoded : (before.chip.readRegister ρ).1 = .ok register) :
    Gives (readRegister ρ) before
      (.ok register (before.withChip (before.chip.readRegister ρ).2)) :=
  (follows_readRegister decoded).gives

theorem gives_writeRegister [WritableRegister ρ] (register : ρ)
    (before : Scene) :
    Gives (writeRegister register) before
      (.ok () (before.withChip (before.chip.writeRegister register))) :=
  (follows_writeRegister register before).gives

end RadioM

namespace Radio

open RadioM

variable {α : Type}

theorem follows_whenReady {before : Scene} {script : List Event}
    {after : Outcome Failure Scene α} {operation : RadioM α}
    (ready : before.radio.ready = true) (neutral : α)
    (follows : Follows operation before script after) :
    Follows (whenReady neutral operation) before script after := by
  rintro station rfl
  rw [run_whenReady_of_ready ready]
  exact follows station rfl

end Radio

end LoraRadio
