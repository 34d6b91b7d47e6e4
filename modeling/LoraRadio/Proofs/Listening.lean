import LoraRadio.Proofs.Looking
import LoraRadio.Proofs.Safety

/-!
# Nothing to read while listening

A driver without faults only listens after it has dropped what was left of the
packet before.  A look for a packet ends in one of three ways, and one that
finds none leaves a chip that listens and a driver with nothing to read.  Looks
at a chip that listens already leave its mode and its pointer alone.
-/

namespace LoraRadio

open Operation RadioM Radio

variable {α : Type}

/-! ## Drivers with nothing to read -/

/-- No byte is left out of service, nor while the chip receives; with `shut`, at
no time. -/
def Vacant (shut : Prop) (scene : Scene) : Prop :=
  shut ∨ scene.radio.ready = false ∨ scene.chip.isReceiving = true →
    scene.radio.cursor.remaining = 0

theorem Live.keeps_quietly {condition : Scene → Prop} {operation : RadioM α}
    (each : ∀ before, condition before → before.radio.ready = true →
      ∃ after, Gives operation before after ∧ condition after.state ∧
        after.state.radio.ready = true) :
    Keeps (Live (Quietly condition)) operation := by
  have kept : Keeps (Quietly fun scene => condition scene ∧
      scene.radio.ready = true) operation :=
    Gives.keeps fun before holds => each before holds.1 holds.2
  rintro station ⟨⟨sound, holds⟩, ready⟩
  obtain ⟨stays, after, stillReady⟩ := kept station ⟨sound, holds, ready⟩
  exact ⟨⟨stays, after⟩, stillReady⟩

namespace Chip

theorem isReceiving_congr {first second : Chip}
    (same : second.register RegisterName.opMode.address =
      first.register RegisterName.opMode.address) :
    second.isReceiving = first.isReceiving := by
  rw [isReceiving, isReceiving, same]

theorem isReceiving_of_isListening {chip : Chip}
    (listening : chip.isListening = true) :
    chip.isReceiving = true := by
  simp only [isListening, Bool.and_eq_true] at listening
  exact listening.2

end Chip

namespace Vacant

variable {shut : Prop} {scene : Scene}

theorem withChip {chip : Chip} (vacant : Vacant shut scene)
    (same : chip.register RegisterName.opMode.address =
      scene.chip.register RegisterName.opMode.address) :
    Vacant shut (scene.withChip chip) := by
  intro known
  change shut ∨ scene.radio.ready = false ∨ chip.isReceiving = true at known
  rw [Chip.isReceiving_congr same] at known
  exact vacant known

theorem ofDeaf (deaf : scene.chip.isReceiving = false)
    (ready : scene.radio.ready = true)
    (empty : shut → scene.radio.cursor.remaining = 0) : Vacant shut scene := by
  rintro (always | waiting | receiving)
  · exact empty always
  · simp [ready] at waiting
  · simp [deaf] at receiving

theorem ofEmpty (empty : scene.radio.cursor.remaining = 0) :
    Vacant shut scene :=
  fun _ => empty

theorem available (vacant : Vacant True scene) : scene.radio.available = 0 := by
  simp [Radio.available, vacant (.inl trivial)]

theorem available_of_receiving (vacant : Vacant shut scene)
    (receiving : scene.chip.isReceiving = true) :
    scene.radio.available = 0 := by
  simp [Radio.available, vacant (.inr (.inr receiving))]

theorem keeps_read (address : Address) :
    Keeps (Live (Quietly (Vacant shut))) (access (Bus.read address)) :=
  Live.keeps_quietly fun before vacant ready =>
    ⟨_, gives_read address before,
      vacant.withChip (Chip.register_read (by decide) (by decide)), ready⟩

theorem keeps_write (name : RegisterName) (apart : name ≠ .opMode)
    (value : UInt8) :
    Keeps (Live (Quietly (Vacant shut)))
      (access (Bus.write name.address value)) := by
  have other : RegisterName.opMode.address ≠ name.address := by
    simpa using apart.symm
  exact Live.keeps_quietly fun before vacant ready =>
    ⟨_, gives_write _ value before,
      vacant.withChip (Chip.register_write other (by decide) (by decide)),
      ready⟩

theorem keeps_writeMode {mode : Mode} (deaf : mode.isReceiving = false) :
    Keeps (Live (Quietly (Vacant shut))) (writeMode mode) := by
  rw [writeMode_eq]
  refine Live.keeps_quietly fun before vacant ready =>
    ⟨_, gives_write _ _ before, ?_, ready⟩
  refine ofDeaf ?_ ready fun always => vacant (.inl always)
  change Chip.isReceiving (Chip.write _ _ _) = false
  rw [Chip.isReceiving, Chip.register_write_mode]
  cases mode with
  | receiveContinuous => cases deaf
  | receiveSingle => cases deaf
  | _ => rfl

theorem keeps_modifyConfiguration (change : Configuration → Configuration) :
    Keeps (Live (Quietly (Vacant shut))) (modifyConfiguration change) :=
  Live.keeps_quietly fun before vacant ready =>
    ⟨_, gives_modifyConfiguration change before, vacant, ready⟩

theorem upkeep : Upkeep (Quietly (Vacant shut)) where
  read := keeps_read
  write name member := by
    apply keeps_write
    revert name
    decide
  rest mode resting := by
    apply keeps_writeMode
    revert mode
    decide
  packet name member := by
    apply keeps_write
    revert name
    decide
  delay ms := Live.keeps_quietly fun before vacant ready =>
    ⟨_, gives_delay ms before, vacant, ready⟩
  launch :=
    .bind (keeps_write .irqFlags (by decide) _) fun _ => keeps_writeMode rfl
  advance station holds _ := by
    refine ⟨holds.1, fun known => ?_⟩
    have none : station.radio.cursor.remaining = 0 := holds.2 known
    change station.radio.cursor.advance.remaining = 0
    simp only [Cursor.remaining, Cursor.advance] at none ⊢
    omega
  configure _ := keeps_modifyConfiguration _
  header _ := keeps_modifyConfiguration _
  polling _ := Gives.keeps fun before vacant =>
    ⟨_, gives_modifyConfiguration _ before, vacant⟩

/-! ## Startup -/

theorem startable_empty :
    Startable (Quietly fun scene => scene.radio.cursor.remaining = 0) where
  line line level :=
    Gives.keeps fun before empty =>
      ⟨_, (follows_setLine line level before).gives, empty⟩
  delay ms := Gives.keeps fun before empty => ⟨_, gives_delay ms before, empty⟩
  read address :=
    Gives.keeps fun before empty => ⟨_, gives_read address before, empty⟩
  write _ _ value :=
    Gives.keeps fun before empty => ⟨_, gives_write _ value before, empty⟩
  version _ :=
    Gives.keeps fun before empty => ⟨_, gives_modifyRadio _ before, empty⟩
  power := Gives.keeps fun before empty =>
    ⟨_, gives_modifyConfiguration _ before, empty⟩

theorem keeps_ensureReady : Keeps (Quietly (Vacant shut)) ensureReady := by
  rintro station ⟨sound, vacant⟩
  by_cases new : station.radio.lifecycle = .uninitialized
  · have empty :=
      vacant (.inr (.inl (by simp [Radio.ready, Station.scene, new])))
    have stage (lifecycle : Lifecycle) :
        Keeps (Quietly fun scene => scene.radio.cursor.remaining = 0)
          (setLifecycle lifecycle) :=
      Gives.keeps fun before empty => ⟨_, gives_modifyRadio _ before, empty⟩
    obtain ⟨stays, after⟩ :=
      startable_empty.keeps_ensureReady stage station ⟨sound, empty⟩
    exact ⟨stays, ofEmpty after⟩
  · rw [run_ensureReady_of_started new]
    exact ⟨sound, vacant⟩

theorem halts_ensureReady :
    RadioTask.Halts (Quietly (Vacant shut)) RadioTask.ensureReady
      (Quietly (Vacant shut)) := by
  have halts : RadioTask.Halts (Quietly (Vacant shut)) RadioTask.ensureReady
      (Quietly fun scene => scene.radio.cursor.remaining = 0) := by
    refine startable_empty.halts_ensureReady fun station holds new =>
      ⟨holds.1, ?_⟩
    exact holds.2 (.inr (.inl (by simp [Radio.ready, Station.scene, new])))
  intro station holds stop member
  obtain ⟨sound, empty⟩ := halts station holds stop member
  exact ⟨sound, ofEmpty empty⟩

theorem droppable : Droppable (Quietly (Vacant shut)) :=
  upkeep.droppable keeps_ensureReady halts_ensureReady

/-! ## The search for a packet -/

theorem accepted (ready : scene.radio.ready = true) :
    Vacant False scene.accepted := by
  refine ofDeaf ?_ ready False.elim
  simp [Scene.accepted, Chip.isReceiving, Chip.atPacket]
  rfl

theorem listening (vacant : Vacant shut scene) :
    Vacant True scene.listening := by
  unfold Scene.listening
  by_cases already : scene.chip.isListening = true
  · rw [if_pos already]
    exact ofEmpty
      (vacant (.inr (.inr (Chip.isReceiving_of_isListening already))))
  · rw [if_neg already]
    exact ofEmpty rfl

theorem robust : Robust (Quietly (Vacant False)) where
  toDroppable := droppable
  accept := Live.keeps_quietly fun before _ ready =>
    ⟨_, (follows_acceptPacket before).gives, accepted ready, ready⟩
  listen := Live.keeps_quietly fun before vacant ready => by
    refine ⟨_, (follows_listen before).gives, ?_, ?_⟩
    · exact fun known => vacant.listening (.inl trivial)
    · change (Scene.listening before).radio.ready = true
      unfold Scene.listening
      split
      · exact ready
      · exact ready

end Vacant

/-! ## What a look leaves on the record -/

def Event.showsPacket : Event → Bool
  | .read header value =>
      header.address = RegisterName.irqFlags.address &&
        InterruptFlags.packetReady ⟨value⟩
  | _ => false

/-- An event that touches neither the mode of the chip nor its pointer into the
packet buffer. -/
def Event.isPassive : Event → Bool
  | .read header _ | .readFailed header =>
      header.address ∉
        [RegisterName.fifo.address, RegisterName.fifoAddrPtr.address]
  | .write header _ | .writeFailed header _ =>
      header.address ∉ [RegisterName.fifo.address,
        RegisterName.fifoAddrPtr.address, RegisterName.opMode.address]
  | .line _ _ | .lineFailed _ _ | .delay _ => true

namespace Event

def listens : Event :=
  .write RegisterName.opMode.address 0x86

theorem count_listens_of_passive {events : List Event}
    (passive : ∀ event ∈ events, event.isPassive = true) :
    events.count listens = 0 := by
  rw [List.count_eq_zero]
  intro member
  exact absurd (passive _ member) (by decide)

end Event

namespace Chip

theorem passive_pollScript (chip : Chip) (size : UInt8) :
    ∀ event ∈ chip.pollScript size, event.isPassive = true := by
  unfold pollScript expectScript
  split <;> simp [headerScript, updateScript, Event.isPassive]

theorem shown_pollScript (chip : Chip) (size : UInt8) :
    .read RegisterName.irqFlags.address chip.flags.bits ∈
      chip.pollScript size :=
  List.mem_cons_self

theorem passive_listenScript {chip : Chip}
    (listening : chip.isListening = true) :
    ∀ event ∈ chip.listenScript, event.isPassive = true := by
  simp [listenScript, listening, Event.isPassive]

theorem count_listenScript (chip : Chip) :
    chip.listenScript.count Event.listens ≤ 1 := by
  unfold listenScript
  split <;> simp [Event.listens]

theorem isListening_congr {first second : Chip}
    (same : second.register RegisterName.opMode.address =
      first.register RegisterName.opMode.address) :
    second.isListening = first.isListening := by
  rw [isListening, isListening, isReceiving_congr same, same]

theorem isListening_polled (chip : Chip) (size : UInt8) :
    (chip.polled size).isListening = chip.isListening :=
  isListening_congr (chip.register_polled size (by decide) (by decide)
    (by decide))

theorem flags_atStart {chip : Chip} {size : UInt8} :
    (chip.polled size).atStart.register RegisterName.irqFlags.address = 0 := by
  simp [atStart, chip.flags_polled size]

end Chip

namespace Scene

theorem isListening_listening (scene : Scene) :
    scene.listening.chip.isListening = true := by
  unfold listening
  split
  · assumption
  · simp [Chip.atStart, Chip.isListening, Chip.isReceiving]
    decide

theorem lifecycle_listening (scene : Scene) :
    scene.listening.radio.lifecycle = scene.radio.lifecycle := by
  unfold listening
  split <;> rfl

end Scene

inductive Look (size : UInt8) (before : Scene) :
    Nat → Scene → List Event → Prop where
  | refused (waiting : before.radio.ready = false) :
      Look size before 0 before []
  | found (ready : before.radio.ready = true)
      (shown : before.chip.flags.packetReady = true) :
      Look size before (before.polled size).packetLength
        (before.polled size).accepted
        (before.chip.pollScript size ++ (before.polled size).chip.acceptScript
          (before.polled size).radio.configuration.headerMode)
  | missed (ready : before.radio.ready = true)
      (hidden : before.chip.flags.packetReady = false) :
      Look size before 0 (before.polled size).listening
        (before.chip.pollScript size ++ (before.polled size).chip.listenScript)

/-- The driver has looked for a packet in vain: if it is in service, its chip
listens. -/
structure Expectant (scene : Scene) : Prop where
  started : scene.radio.lifecycle ≠ .uninitialized
  listening : scene.radio.ready = true → scene.chip.isListening = true

theorem Radio.exists_look {station : Station} (size : UInt8)
    (sound : station.bench.Sound)
    (started : station.radio.lifecycle ≠ .uninitialized) :
    ∃ length final script, (receive size).run station = .ok length final ∧
      final.bench.Sound ∧
      final.bench.events = station.bench.events ++ script ∧
      Look size station.scene length final.scene script := by
  cases ready : station.radio.ready with
  | false =>
      refine ⟨0, station, [], ?_, sound, (List.append_nil _).symm,
        .refused ready⟩
      simp [receive, whenReady, run_bind,
        run_ensureReady_of_started started, ready]
  | true =>
      cases shown : station.scene.chip.flags.packetReady with
      | true =>
          obtain ⟨final, run, sound, scene, recorded⟩ :=
            (@follows_receive_found station.scene size ready shown).exists_run
              sound rfl
          exact ⟨_, final, _, run, sound, recorded, scene ▸ .found ready shown⟩
      | false =>
          obtain ⟨final, run, sound, scene, recorded⟩ :=
            (@follows_receive_missed station.scene size ready shown).exists_run
              sound rfl
          exact ⟨_, final, _, run, sound, recorded, scene ▸ .missed ready shown⟩

namespace Look

variable {size : UInt8} {before final : Scene} {length : Nat}
  {script : List Event}

theorem flags (look : Look size before length final script)
    (ready : final.radio.ready = true) :
    (∃ flags, .read RegisterName.irqFlags.address flags ∈ script) ∧
      final.chip.register RegisterName.irqFlags.address = 0 := by
  have polls := before.chip.shown_pollScript size
  cases look with
  | refused waiting => simp [waiting] at ready
  | found _ _ => exact ⟨⟨_, List.mem_append_left _ polls⟩, Chip.flags_atPacket⟩
  | missed _ _ =>
      refine ⟨⟨_, List.mem_append_left _ polls⟩, ?_⟩
      unfold Scene.listening
      split
      · exact Chip.flags_polled _ _
      · exact Chip.flags_atStart

/-- Whether there was a packet can be seen on the record. -/
theorem cases_of_hidden (look : Look size before length final script)
    (hidden : ∀ event ∈ script, event.showsPacket = false) :
    length = 0 ∧ (before.radio.ready = false ∧ final = before ∧ script = [] ∨
      before.radio.ready = true ∧ final = (before.polled size).listening ∧
        script = before.chip.pollScript size ++
          (before.polled size).chip.listenScript) := by
  cases look with
  | refused waiting => exact ⟨rfl, .inl ⟨waiting, rfl, rfl⟩⟩
  | missed ready _ => exact ⟨rfl, .inr ⟨ready, rfl, rfl⟩⟩
  | found ready shown =>
      have seen :=
        hidden _ (List.mem_append_left _ (before.chip.shown_pollScript size))
      change (true && InterruptFlags.packetReady before.chip.flags) =
        false at seen
      simp [shown] at seen

theorem vacant {shut : Prop} (look : Look size before length final script)
    (hidden : ∀ event ∈ script, event.showsPacket = false)
    (vacant : Vacant shut before) :
    Vacant True final := by
  rcases (look.cases_of_hidden hidden).2 with ⟨waiting, rfl, -⟩ | ⟨-, rfl, -⟩
  · exact .ofEmpty (vacant (.inr (.inl waiting)))
  · have mode : (before.chip.polled size).register RegisterName.opMode.address =
        before.chip.register RegisterName.opMode.address :=
      before.chip.register_polled size (by decide) (by decide) (by decide)
    exact (show Vacant shut (before.polled size) from
      vacant.withChip mode).listening

theorem expectant (look : Look size before length final script)
    (hidden : ∀ event ∈ script, event.showsPacket = false)
    (started : before.radio.lifecycle ≠ .uninitialized) : Expectant final := by
  rcases (look.cases_of_hidden hidden).2 with ⟨waiting, rfl, -⟩ | ⟨-, rfl, -⟩
  · exact ⟨started, fun ready => by simp [waiting] at ready⟩
  · refine ⟨?_, fun _ => Scene.isListening_listening _⟩
    rw [Scene.lifecycle_listening]
    exact started

theorem count_listens (look : Look size before length final script)
    (hidden : ∀ event ∈ script, event.showsPacket = false) :
    script.count Event.listens ≤ 1 := by
  rcases (look.cases_of_hidden hidden).2 with ⟨-, -, rfl⟩ | ⟨-, -, rfl⟩
  · simp
  · rw [List.count_append,
      Event.count_listens_of_passive (Chip.passive_pollScript _ _),
      Nat.zero_add]
    exact Chip.count_listenScript _

theorem passive (look : Look size before length final script)
    (hidden : ∀ event ∈ script, event.showsPacket = false)
    (expectant : Expectant before) :
    ∀ event ∈ script, event.isPassive = true := by
  rcases (look.cases_of_hidden hidden).2 with ⟨-, -, rfl⟩ | ⟨ready, -, rfl⟩
  · simp
  · rw [List.forall_mem_append]
    refine ⟨Chip.passive_pollScript _ _, Chip.passive_listenScript ?_⟩
    exact (before.chip.isListening_polled size).trans
      (expectant.listening ready)

end Look

end LoraRadio
