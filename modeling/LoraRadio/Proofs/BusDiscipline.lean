import LoraRadio.Proofs.Chip
import LoraRadio.Proofs.Safety

/-!
# Discipline on the bus

The driver writes a fixed set of registers and no other.  It selects long range
from sleep, never leaves it, and switches the transmitter on only right after
the flag for the end of a transmission was cleared.  All of this can be seen on
the record, where events that fail count as well, whatever is asked of the
driver and wherever calls are dropped.
-/

namespace LoraRadio

open Operation RadioM Radio

/-! ## Events in their order -/

def writtenRegisters : List RegisterName :=
  [.fifo, .opMode, .frfMsb, .frfMid, .frfLsb, .paConfig, .lna, .fifoAddrPtr,
    .fifoTxBaseAddr, .fifoRxBaseAddr, .irqFlags, .modemConfig1, .modemConfig2,
    .preambleMsb, .preambleLsb, .payloadLength, .modemConfig3,
    .detectionOptimize, .detectionThreshold, .syncWord]

example : writtenRegisters.map (fun name => name.address.val) =
    [0x00, 0x01, 0x06, 0x07, 0x08, 0x09, 0x0C, 0x0D, 0x0E, 0x0F, 0x12, 0x1D,
      0x1E, 0x20, 0x21, 0x22, 0x26, 0x31, 0x37, 0x39] := by
  decide

theorem settingRegisters_written :
    ∀ name ∈ settingRegisters, name ∈ writtenRegisters ∧ name ≠ .opMode := by
  decide

theorem packetRegisters_written :
    ∀ name ∈ packetRegisters, name ∈ writtenRegisters ∧ name ≠ .opMode := by
  decide

/-- Sleep, standby, transmission and single reception, all in long range. -/
def modeBytes : List UInt8 :=
  [0x80, 0x81, 0x83, 0x86]

def Event.Permitted (previous : Option Event) : Event → Prop
  | .write header value | .writeFailed header value =>
      (∃ name ∈ writtenRegisters, name.address = header.address) ∧
        (header.address = RegisterName.opMode.address → value ∈ modeBytes ∧
          (value = 0x83 →
            previous = some (.write RegisterName.irqFlags.address 0x08)))
  | .read _ _ | .readFailed _ | .line _ _ | .lineFailed _ _ | .delay _ => True

def Disciplined : Option Event → List Event → Prop
  | _, [] => True
  | previous, event :: rest =>
      event.Permitted previous ∧ Disciplined (some event) rest

theorem Event.permitted_write {name : RegisterName} {value : UInt8} :
    (Event.write name.address value).Permitted none ↔
      name ∈ writtenRegisters ∧
        (name = .opMode → value ∈ modeBytes ∧ value ≠ 0x83) := by
  simp [Permitted, RegisterName.address_inj]

theorem Event.permitted_of_mem {names : List RegisterName}
    (known : ∀ name ∈ names, name ∈ writtenRegisters ∧ name ≠ .opMode)
    {name : RegisterName} (member : name ∈ names) (value : UInt8) :
    (Event.write name.address value).Permitted none := by
  obtain ⟨written, apart⟩ := known name member
  exact permitted_write.mpr ⟨written, fun mode => absurd mode apart⟩

theorem Event.Permitted.weaken {event : Event}
    (permitted : event.Permitted none) (previous : Option Event) :
    event.Permitted previous := by
  cases event with
  | write header value =>
      exact ⟨permitted.1, fun mode => ⟨(permitted.2 mode).1, fun transmit =>
        absurd ((permitted.2 mode).2 transmit) (by simp)⟩⟩
  | writeFailed header value =>
      exact ⟨permitted.1, fun mode => ⟨(permitted.2 mode).1, fun transmit =>
        absurd ((permitted.2 mode).2 transmit) (by simp)⟩⟩
  | _ => trivial

theorem Event.Permitted.broken {event failed : Event} {failure : Failure}
    {previous : Option Event} (fails : event.broken = some (failed, failure))
    (permitted : event.Permitted previous) :
    failed.Permitted previous := by
  rcases Event.cases_of_broken fails with
    ⟨_, _, -, rfl, -⟩ | ⟨_, _, rfl, rfl, -⟩ | ⟨_, _, -, rfl, -⟩
  · trivial
  · exact permitted
  · trivial

namespace Disciplined

variable {previous : Option Event} {first second events : List Event}
  {event : Event}

theorem append_iff : Disciplined previous (first ++ second) ↔
    Disciplined previous first ∧
      Disciplined (first.getLast?.or previous) second := by
  induction first generalizing previous with
  | nil => simp [Disciplined]
  | cons event rest ih =>
      rw [List.cons_append, Disciplined, ih, Disciplined, and_assoc]
      cases rest with
      | nil => simp
      | cons next rest => simp [List.getLast?_cons]

theorem weaken (disciplined : Disciplined none events)
    (previous : Option Event) :
    Disciplined previous events := by
  cases events with
  | nil => trivial
  | cons event rest => exact ⟨disciplined.1.weaken previous, disciplined.2⟩

theorem append (left : Disciplined previous first)
    (right : Disciplined none second) :
    Disciplined previous (first ++ second) :=
  append_iff.mpr ⟨left, right.weaken _⟩

theorem left (whole : Disciplined previous (first ++ second)) :
    Disciplined previous first :=
  (append_iff.mp whole).1

theorem ofAll (permitted : ∀ event ∈ events, event.Permitted none) :
    Disciplined none events := by
  induction events with
  | nil => trivial
  | cons event rest ih =>
      rw [List.forall_mem_cons] at permitted
      exact ⟨permitted.1, (ih permitted.2).weaken _⟩

theorem snoc (disciplined : Disciplined none events)
    (permitted : event.Permitted none) :
    Disciplined none (events ++ [event]) :=
  disciplined.append ⟨permitted, trivial⟩

theorem ofBreaks {failure : Failure} {script : List Event}
    (breaks : Breaks failure script events)
    (disciplined : Disciplined previous script) :
    Disciplined previous events := by
  induction breaks generalizing previous with
  | here fails => exact ⟨disciplined.1.broken fails, trivial⟩
  | later _ ih => exact ⟨disciplined.1, ih disciplined.2⟩

end Disciplined

/-! ## The first mode -/

def Event.mode? : Event → Option UInt8
  | .write header value =>
      if header.address = RegisterName.opMode.address then some value else none
  | _ => none

def firstMode (events : List Event) : Option UInt8 :=
  events.findSome? Event.mode?

def FromSleep (events : List Event) : Prop :=
  ∀ mode, firstMode events = some mode → mode = 0x80

theorem firstMode_append (first second : List Event) :
    firstMode (first ++ second) = (firstMode first).or (firstMode second) :=
  List.findSome?_append

namespace FromSleep

variable {first second events : List Event}

theorem append (left : FromSleep first) (right : FromSleep second) :
    FromSleep (first ++ second) := by
  intro mode found
  rw [firstMode_append, Option.or_eq_some_iff] at found
  rcases found with early | ⟨-, late⟩
  · exact left mode early
  · exact right mode late

theorem left (whole : FromSleep (first ++ second)) : FromSleep first := by
  intro mode found
  apply whole
  rw [firstMode_append, found]
  rfl

theorem ofBreaks {failure : Failure} {script : List Event}
    (breaks : Breaks failure script events) (whole : FromSleep script) :
    FromSleep events := by
  induction breaks with
  | here fails =>
      rename_i event failed rest
      intro mode found
      rcases Event.cases_of_broken fails with
        ⟨_, _, -, rfl, -⟩ | ⟨_, _, -, rfl, -⟩ | ⟨_, _, -, rfl, -⟩ <;>
        simp [firstMode, Event.mode?] at found
  | later _ ih =>
      rename_i event script events _
      intro mode found
      cases chosen : event.mode? with
      | some earlier =>
          apply whole
          rw [firstMode, List.findSome?_cons, chosen] at found ⊢
          exact found
      | none =>
          refine ih (fun mode found => whole mode ?_) mode ?_
          · rw [firstMode, List.findSome?_cons, chosen]
            exact found
          · rwa [firstMode, List.findSome?_cons, chosen] at found

end FromSleep

/-! ## Startup -/

theorem disciplined_startupScript (scene : Scene) :
    Disciplined none (startupScript scene) := by
  have lines : ∀ event ∈ pulseScript, event.Permitted none := by
    simp [pulseScript, Event.Permitted]
  apply Disciplined.ofAll
  unfold startupScript
  split
  · rw [List.forall_mem_append, List.forall_mem_cons]
    refine ⟨lines, trivial, ?_⟩
    split
    · simp [defaultsScript, Event.permitted_write, writtenRegisters, modeBytes]
      simp [Event.Permitted]
    · simp
  · simp

theorem firstMode_startupScript (scene : Scene) :
    firstMode (startupScript scene) =
      if scene.radio.connection.complete = true ∧
        scene.chip.register RegisterName.version.address = requiredVersion then
          some 0x80
      else none := by
  by_cases complete : scene.radio.connection.complete = true
  · by_cases required : scene.chip.register RegisterName.version.address =
      requiredVersion
    · simp only [startupScript, complete, required, if_true, and_self]
      rfl
    · simp only [startupScript, complete, required, if_true, if_false,
        and_false]
      rfl
  · simp only [startupScript, complete]
    rfl

theorem fromSleep_startupScript (scene : Scene) :
    FromSleep (startupScript scene) := by
  intro mode found
  rw [firstMode_startupScript] at found
  split at found
  · exact (Option.some.inj found).symm
  · cases found

theorem mode_startup {scene : Scene}
    (ready : (startup scene).radio.ready = true) :
    (startup scene).chip.register RegisterName.opMode.address = 0x81 := by
  obtain ⟨complete, required⟩ := usable_of_startup_ready ready
  simp [startup, complete, required, Chip.putDefaults]

theorem events_of_run_write {address : Address} {value : UInt8}
    {station reached : Station} {done : Unit}
    (run : (access (Bus.write address value)).run station = .ok done reached) :
    reached.bench.events = station.bench.events ++ [.write address value] := by
  by_cases passes : station.bench.busFaults.passes = true
  · simp only [access, Bus.write, Bench.write, passes, if_true] at run
    obtain ⟨-, rfl⟩ := Outcome.ok.inj run
    exact Bench.events_record _ _
  · simp [access, Bus.write, Bench.write, passes] at run

/-! ## Conduct of the driver -/

/-- What can be seen of a driver on the record since it was connected.  The
events in `heard` are those of earlier calls; the chip counts only if nobody
else chooses its mode. -/
structure Conduct (heard : List Event) (alone : Prop) (station : Station) :
    Prop where
  disciplined : Disciplined none station.bench.events
  fromSleep : FromSleep (heard ++ station.bench.events)
  chosen : station.radio.ready = true →
    firstMode (heard ++ station.bench.events) ≠ none
  longRange : alone → station.radio.ready = true →
    station.bench.chip.register RegisterName.opMode.address &&& 0x80 = 0x80

theorem longRange_of_modeByte {value : UInt8} (known : value ∈ modeBytes) :
    value &&& 0x80 = 0x80 := by
  simp only [modeBytes, List.mem_cons, List.not_mem_nil, or_false] at known
  rcases known with rfl | rfl | rfl | rfl <;> decide

namespace Conduct

variable {α : Type} {heard : List Event} {alone : Prop}

theorem extend {station final : Station} {more : List Event}
    (live : Live (Conduct heard alone) station)
    (same : final.radio.ready = station.radio.ready)
    (recorded : final.bench.events = station.bench.events ++ more)
    (disciplined : Disciplined none final.bench.events)
    (longRange : alone →
      final.bench.chip.register RegisterName.opMode.address &&& 0x80 = 0x80) :
    Live (Conduct heard alone) final := by
  obtain ⟨conduct, ready⟩ := live
  -- In service the first mode has been chosen, and more events do not change
  -- it.
  have first : firstMode (heard ++ final.bench.events) =
      firstMode (heard ++ station.bench.events) := by
    obtain ⟨mode, found⟩ := Option.ne_none_iff_exists'.mp (conduct.chosen ready)
    rw [recorded, ← List.append_assoc, firstMode_append, found]
    rfl
  have stillReady : final.radio.ready = true := by rw [same, ready]
  refine ⟨⟨disciplined, ?_, ?_, fun here _ => longRange here⟩, stillReady⟩
  · intro mode found
    exact conduct.fromSleep mode (first ▸ found)
  · intro _
    rw [first]
    exact conduct.chosen ready

theorem keeps_read (address : Address) :
    Keeps (Live (Conduct heard alone)) (access (Bus.read address)) := by
  intro station live
  rw [state_read]
  have before := live.1.longRange
  unfold Bench.read
  split
  · refine extend live rfl (Bench.events_record _ _) ?_ fun here => ?_
    · rw [Bench.events_record]
      exact live.1.disciplined.snoc trivial
    · change ((station.bench.chip.read address).2.register _) &&& 0x80 = 0x80
      rw [Chip.register_read (by decide) (by decide)]
      exact before here live.2
  · refine extend live rfl (Bench.events_record _ _) ?_ fun here =>
      before here live.2
    rw [Bench.events_record]
    exact live.1.disciplined.snoc trivial

theorem live_write {station : Station} {address : Address} {value : UInt8}
    (live : Live (Conduct heard alone) station)
    (permitted :
      (Event.write address value).Permitted station.bench.events.getLast?) :
    Live (Conduct heard alone)
      ((access (Bus.write address value)).run station).state := by
  have follows {event : Event}
      (permitted : event.Permitted station.bench.events.getLast?) :
      Disciplined none (station.bench.events ++ [event]) := by
    rw [Disciplined.append_iff, Option.or_none]
    exact ⟨live.1.disciplined, permitted, trivial⟩
  rw [state_write]
  unfold Bench.write
  split
  · refine extend live rfl (Bench.events_record _ _) ?_ fun here => ?_
    · rw [Bench.events_record]
      exact follows permitted
    · change (station.bench.chip.write address value).register _ &&& 0x80 = 0x80
      by_cases mode : address = RegisterName.opMode.address
      · rw [mode, Chip.register_write_mode]
        exact longRange_of_modeByte (permitted.2 mode).1
      · rw [Chip.register_write (Ne.symm mode) (by decide) (by decide)]
        exact live.1.longRange here live.2
  · refine extend live rfl (Bench.events_record _ _) ?_ fun here =>
      live.1.longRange here live.2
    rw [Bench.events_record]
    exact follows (show (Event.writeFailed address value).Permitted _ from
      permitted)

theorem keeps_write {name : RegisterName} {value : UInt8}
    (permitted : (Event.write name.address value).Permitted none) :
    Keeps (Live (Conduct heard alone))
      (access (Bus.write name.address value)) :=
  fun _ live => live_write live (permitted.weaken _)

theorem keeps_writeMode {mode : Mode}
    (resting : mode ∈ [Mode.sleep, .standby, .receiveSingle]) :
    Keeps (Live (Conduct heard alone)) (writeMode mode) := by
  rw [writeMode_eq]
  apply keeps_write
  rw [Event.permitted_write]
  revert mode
  decide

theorem keeps_clear : Keeps (Live (Conduct heard alone)) clearTransmitDone := by
  rw [clearTransmitDone_eq]
  exact keeps_write (Event.permitted_write.mpr (by decide))

theorem keeps_launch : Keeps (Live (Conduct heard alone)) launch := by
  intro station live
  have cleared : Live (Conduct heard alone) _ := keeps_clear station live
  rw [launch, run_bind]
  cases run : clearTransmitDone.run station with
  | error failure reached =>
      rw [run] at cleared
      exact cleared
  | ok value reached =>
      rw [run] at cleared
      -- The transmitter is only switched on if this write has passed and is the
      -- last on the record.
      have last : reached.bench.events.getLast? =
          some (.write RegisterName.irqFlags.address 0x08) := by
        rw [events_of_run_write (clearTransmitDone_eq ▸ run),
          List.getLast?_concat]
      rw [Outcome.andThen_ok, writeMode_eq]
      refine live_write cleared ⟨⟨.opMode, by decide, rfl⟩,
        fun _ => ⟨by decide, fun _ => last⟩⟩

theorem keeps_modifyRadio {change : Radio → Radio}
    (same : ∀ radio, (change radio).ready = radio.ready) :
    Keeps (Live (Conduct heard alone)) (modifyRadio change) := by
  intro station live
  refine extend live (same station.radio)
    (List.append_nil _).symm live.1.disciplined fun here => ?_
  exact live.1.longRange here live.2

theorem keeps_point (value : UInt8) : Keeps (Live (Conduct heard alone))
    (access (Bus.write RegisterName.fifoAddrPtr.address value)) :=
  keeps_write (Event.permitted_of_mem packetRegisters_written (by decide) value)

theorem upkeep : Upkeep (Conduct heard alone) where
  read := keeps_read
  write _ member value :=
    keeps_write (Event.permitted_of_mem settingRegisters_written member value)
  rest mode resting := keeps_writeMode (by revert mode; decide)
  packet _ member value :=
    keeps_write (Event.permitted_of_mem packetRegisters_written member value)
  delay ms station live := by
    refine extend live rfl (Bench.events_record _ _) ?_ fun here =>
      live.1.longRange here live.2
    change Disciplined none (Bench.record _ _).events
    rw [Bench.events_record]
    exact live.1.disciplined.snoc trivial
  launch := keeps_launch
  advance _ conduct _ :=
    ⟨conduct.disciplined, conduct.fromSleep, conduct.chosen, conduct.longRange⟩
  configure _ := keeps_modifyRadio fun _ => rfl
  header _ := keeps_modifyRadio fun _ => rfl
  polling _ _ conduct :=
    ⟨conduct.disciplined, conduct.fromSleep, conduct.chosen, conduct.longRange⟩

end Conduct

def Proper (heard : List Event) (alone : Prop) (station : Station) : Prop :=
  station.Sane ∧ Conduct heard alone station

namespace Proper

variable {heard : List Event} {alone : Prop}

theorem keeps_ensureReady : Keeps (Proper heard alone) ensureReady := by
  rintro station ⟨sane, conduct⟩
  have stays := Station.Sane.keeps_ensureReady station sane
  by_cases new : station.radio.lifecycle = .uninitialized
  · rcases @follows_ensureReady station.scene new sane.legal station rfl with
      ⟨seen, records⟩ | ⟨-, failure, final, events, run, breaks, records⟩
    · obtain ⟨final, run, scene⟩ := Outcome.exists_of_view_ok seen
      have radio : final.radio = (startup station.scene).radio :=
        congrArg Scene.radio scene
      have chip : final.bench.chip = (startup station.scene).chip :=
        congrArg Scene.chip scene
      rw [run] at records stays ⊢
      have recorded : heard ++ final.bench.events =
          (heard ++ station.bench.events) ++ startupScript station.scene := by
        rw [show final.bench.events = _ from records.recorded,
          List.append_assoc]
      refine ⟨stays, ?_, ?_, fun ready => ?_, fun _ ready => ?_⟩
      · rw [records.recorded]
        exact conduct.disciplined.append (disciplined_startupScript _)
      · change FromSleep (heard ++ final.bench.events)
        rw [recorded]
        exact conduct.fromSleep.append (fromSleep_startupScript _)
      · change firstMode (heard ++ final.bench.events) ≠ none
        change final.radio.ready = true at ready
        rw [radio] at ready
        rw [recorded, firstMode_append, firstMode_startupScript,
          if_pos (usable_of_startup_ready ready)]
        simp
      · change final.bench.chip.register _ &&& 0x80 = 0x80
        change final.radio.ready = true at ready
        rw [radio] at ready
        rw [chip, mode_startup ready]
        decide
    · have waiting : final.radio.ready ≠ true := by
        simp [Radio.ready, lifecycle_of_run_error run]
      rw [run] at stays ⊢
      refine ⟨stays, ?_, ?_,
        fun ready => absurd ready waiting, fun _ ready => absurd ready waiting⟩
      · change Disciplined none final.bench.events
        rw [records.recorded]
        exact conduct.disciplined.append
          (.ofBreaks breaks (disciplined_startupScript _))
      · change FromSleep (heard ++ final.bench.events)
        rw [records.recorded, ← List.append_assoc]
        exact conduct.fromSleep.append
          (.ofBreaks breaks (fromSleep_startupScript _))
  · rw [run_ensureReady_of_started new]
    exact ⟨sane, conduct⟩

theorem halts_ensureReady :
    RadioTask.Halts (Proper heard alone) RadioTask.ensureReady
      (Proper heard alone) := by
  intro station proper stop member
  have initializing : stop.station.radio.lifecycle = .initializing :=
    startable_initializing.halts_ensureReady (fun _ _ _ => rfl) station proper
      stop member
  have waiting : stop.station.radio.ready ≠ true := by
    simp [Radio.ready, initializing]
  obtain ⟨rest, recorded⟩ := RadioTask.events_of_stop member
  rw [RadioTask.complete_ensureReady] at recorded
  obtain ⟨-, whole⟩ := keeps_ensureReady station proper
  refine ⟨Station.Sane.halts_ensureReady station proper.1 stop member, ?_, ?_,
    fun ready => absurd ready waiting, fun _ ready => absurd ready waiting⟩
  · have disciplined := whole.disciplined
    rw [recorded] at disciplined
    exact disciplined.left
  · have fromSleep := whole.fromSleep
    rw [recorded, ← List.append_assoc] at fromSleep
    exact fromSleep.left

theorem robust : Robust (Proper heard alone) where
  toDroppable :=
    (Station.Sane.upkeep.and Conduct.upkeep).droppable keeps_ensureReady
      halts_ensureReady
  accept := safe_acceptPacket.keeps.live_and
    (Radio.keeps_acceptPacket Conduct.keeps_read
      (fun _ => Conduct.keeps_modifyRadio fun _ => rfl)
      Conduct.keeps_point (Conduct.keeps_writeMode (by decide)))
  listen := safe_listen.keeps.live_and
    (Radio.keeps_listen Conduct.keeps_read
      (Conduct.keeps_modifyRadio fun _ => rfl)
      Conduct.keeps_point (Conduct.keeps_writeMode (by decide)))

end Proper

end LoraRadio
