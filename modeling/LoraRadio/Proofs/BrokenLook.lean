import LoraRadio.Proofs.Footprint
import LoraRadio.Proofs.ReadHead

/-!
# A look for a packet that fails

A look that finds a packet counts its bytes first and points the chip at them
afterwards.  If it fails in between, there are bytes to read, but the pointer is
where it was before.  A failure at any other place leaves nothing to read, or
the packet with the pointer at its first byte.
-/

namespace LoraRadio

open Operation RadioM Radio

/-! ## Where a run breaks off -/

def Bench.BrokeAt (bench : Bench) (failed : List Event) : Prop :=
  ∃ event ∈ failed, bench.events.getLast? = some event

theorem Bench.Records.getLast? {before after : Bench} {events : List Event}
    {event : Event} (records : before.Records after events)
    (last : events.getLast? = some event) :
    after.events.getLast? = some event := by
  rw [records.recorded, List.getLast?_append, last]
  rfl

theorem Breaks.exists_last {failure : Failure} {script events : List Event}
    (breaks : Breaks failure script events) :
    ∃ event ∈ script, ∃ failed, event.broken = some (failed, failure) ∧
      events.getLast? = some failed := by
  obtain ⟨passed, event, rest, failed, rfl, rfl, fails⟩ := breaks.exists_split
  exact ⟨event, List.mem_append_right _ List.mem_cons_self, failed, fails,
    List.getLast?_concat⟩

theorem Follows.of_error {α : Type} {operation : RadioM α} {value : α}
    {after : Scene} {station final : Station} {event failed : Event}
    {failure : Failure}
    (follows : Follows operation station.scene [event] (.ok value after))
    (fails : event.broken = some (failed, .bus))
    (still : (operation.run station).state.radio = station.radio)
    (run : operation.run station = .error failure final) :
    final.radio = station.radio ∧ final.bench.chip = station.bench.chip ∧
      final.bench.events.getLast? = some failed := by
  rw [run] at still
  obtain ⟨events, breaks, records⟩ := follows.breaks_of_error run
  cases breaks with
  | later breaks => cases breaks
  | here broken =>
      rw [fails] at broken
      cases broken
      refine ⟨still, ?_, records.getLast? rfl⟩
      rw [records.replayed]
      exact station.bench.chip.hear_broken fails

namespace Chip

/-- The accesses that point the chip at a packet, as they are recorded when they
fail. -/
def placing (chip : Chip) : List Event :=
  [.readFailed RegisterName.fifoRxCurrentAddr.address,
    .writeFailed RegisterName.fifoAddrPtr.address
      (chip.register RegisterName.fifoRxCurrentAddr.address)]

theorem not_mem_placing_of_pollScript (chip origin : Chip) (size : UInt8) :
    ∀ event ∈ chip.pollScript size, ∀ failed failure,
      event.broken = some (failed, failure) →
      failed ∉ origin.placing := by
  unfold pollScript expectScript
  split <;> simp [headerScript, updateScript, Event.broken, placing]

theorem placing_polled (chip : Chip) (size : UInt8) :
    (chip.polled size).placing = chip.placing := by
  rw [placing, placing,
    chip.register_polled size (by decide) (by decide) (by decide)]

/-- The chip shows a packet, and the record ends with an access that should have
pointed at it. -/
def Misplaces (chip : Chip) (bench : Bench) : Prop :=
  InterruptFlags.packetReady ⟨chip.register RegisterName.irqFlags.address⟩ =
      true ∧
    bench.BrokeAt chip.placing

end Chip

namespace Radio

variable {station final : Station} {failure : Failure}

theorem poll_broken {size : UInt8} (ready : station.radio.ready = true)
    (broken : (poll size).run station = .error failure final) :
    final.radio.available = station.radio.available ∧
      ¬final.bench.BrokeAt station.bench.chip.placing := by
  have carrying := (abandonable_cursor station.radio.cursor).toCarrying
  have keeps : Keeps (Live fun other => other.radio.ready = true ∧
      other.radio.cursor = station.radio.cursor) (poll size) := by
    refine .bind carrying.keeps_readRegister fun flags => ?_
    refine .bind (carrying.keeps_expectPacket size) fun _ => ?_
    exact .bind (carrying.keeps_writeRegister flags (by decide)) fun _ =>
      .pure _
  have kept := keeps station ⟨⟨ready, rfl⟩, ready⟩
  rw [broken] at kept
  obtain ⟨⟨stillReady, cursor⟩, -⟩ := kept
  obtain ⟨events, breaks, records⟩ :=
    (follows_poll size station.scene).breaks_of_error broken
  obtain ⟨origin, within, failed, fails, ended⟩ := breaks.exists_last
  refine ⟨?_, ?_⟩
  · simp only [Outcome.state] at stillReady cursor
    rw [available, available, stillReady, ready, cursor]
  · rintro ⟨event, member, last⟩
    rw [records.getLast? ended] at last
    cases last
    exact station.bench.chip.not_mem_placing_of_pollScript _ size _ within _ _
      fails member

def placePacket (length : Nat) : RadioM Nat := do
  let start ← readRegister ReceiveStart
  writeRegister (⟨start.value⟩ : FifoPointer)
  writeMode .standby
  return length

theorem acceptPacket_eq : acceptPacket = (do
    let known ← getConfiguration
    let length ← packetLength known.headerMode
    modifyRadio fun radio => { radio with cursor := .start length }
    placePacket length) := rfl

theorem placePacket_broken {length : Nat}
    (broken : (placePacket length).run station = .error failure final) :
    final.radio = station.radio ∧
      (final.bench.chip = station.bench.chip ∧
          final.bench.BrokeAt station.bench.chip.placing ∨
        final.bench.chip =
            station.bench.chip.setRegister RegisterName.fifoAddrPtr.address
            (station.bench.chip.register
              RegisterName.fifoRxCurrentAddr.address) ∧
          ¬final.bench.BrokeAt station.bench.chip.placing) := by
  -- Each of the three accesses may be the one that fails; only the second one
  -- changes the pointer.
  generalize begins :
    station.bench.chip.register RegisterName.fifoRxCurrentAddr.address = start
  have looks : Follows (readRegister ReceiveStart) station.scene
      [.read RegisterName.fifoRxCurrentAddr.address start]
        (.ok ⟨start⟩ station.scene) := by
    rw [← begins]
    exact follows_readNumber (by decide) (by decide) station.scene
  rcases cases_of_run_bind broken with broken | ⟨_, found, run, broken⟩
  · obtain ⟨radio, chip, last⟩ :=
      looks.of_error rfl (radio_access _ station) broken
    exact ⟨radio, .inl ⟨chip, _, List.mem_cons_self, last⟩⟩
  obtain ⟨rfl, foundScene⟩ := looks.of_ok run
  have foundRadio : found.radio = station.radio :=
    congrArg Scene.radio foundScene
  have foundChip : found.bench.chip = station.bench.chip :=
    congrArg Scene.chip foundScene
  have points : Follows (writeRegister (⟨start⟩ : FifoPointer)) found.scene
      [.write RegisterName.fifoAddrPtr.address start]
      (.ok () (found.scene.withChip
        (found.scene.chip.setRegister RegisterName.fifoAddrPtr.address
          start))) :=
    follows_writeRegister _ found.scene
  rcases cases_of_run_bind broken with broken | ⟨_, placed, run, broken⟩
  · obtain ⟨radio, chip, last⟩ :=
      points.of_error rfl (radio_access _ found) broken
    refine ⟨radio.trans foundRadio, .inl ⟨chip.trans foundChip, _, ?_, last⟩⟩
    simp [Chip.placing, begins]
  obtain ⟨-, placedScene⟩ := points.of_ok run
  have placedRadio : placed.radio = found.radio :=
    congrArg Scene.radio placedScene
  have placedChip : placed.bench.chip =
      found.bench.chip.setRegister RegisterName.fifoAddrPtr.address start :=
    congrArg Scene.chip placedScene
  have rests : Follows (writeMode .standby) placed.scene
      [.write RegisterName.opMode.address 0x81] (.ok () _) :=
    follows_writeRegister (OperatingMode.lora .standby) placed.scene
  rcases cases_of_run_bind broken with broken | ⟨_, rested, run, broken⟩
  · obtain ⟨radio, chip, last⟩ :=
      rests.of_error rfl (radio_access _ placed) broken
    refine ⟨radio.trans (placedRadio.trans foundRadio), .inr ⟨?_, ?_⟩⟩
    · rw [chip, placedChip, foundChip]
    · rintro ⟨event, member, other⟩
      rw [last] at other
      cases other
      simp [Chip.placing] at member
  · cases broken

/-- Before the bytes are counted the driver is as it was.  Afterwards the chip
is pointed at them in two accesses, and put to rest in a third one. -/
theorem acceptPacket_broken
    (broken : acceptPacket.run station = .error failure final) :
    (final.radio = station.radio ∧
        ¬final.bench.BrokeAt station.bench.chip.placing) ∨
      final.radio =
          { station.radio with cursor := .start station.scene.packetLength } ∧
        (final.bench.chip = station.bench.chip ∧
            final.bench.BrokeAt station.bench.chip.placing ∨
          final.bench.chip =
              station.bench.chip.setRegister RegisterName.fifoAddrPtr.address
              (station.bench.chip.register
                RegisterName.fifoRxCurrentAddr.address) ∧
            ¬final.bench.BrokeAt station.bench.chip.placing) := by
  have measures := follows_packetLength station.scene
  have still : ((packetLength station.scene.radio.configuration.headerMode).run
      station).state.radio = station.radio :=
    keeps_packetLength (fun _ => keeps_access_radio (· = station.radio) _) _
      station rfl
  rw [acceptPacket_eq] at broken
  change (packetLength station.scene.radio.configuration.headerMode >>= _).run
    station = _ at broken
  rcases cases_of_run_bind broken with broken | ⟨length, measured, run, broken⟩
  · obtain ⟨radio, -, last⟩ := measures.of_error rfl still broken
    refine .inl ⟨radio, ?_⟩
    rintro ⟨event, member, other⟩
    rw [last] at other
    cases other
    revert member
    cases station.scene.radio.configuration.headerMode <;>
      simp [Chip.placing, HeaderMode.lengthRegister]
  · obtain ⟨rfl, scene⟩ := measures.of_ok run
    have radio : measured.radio = station.radio := congrArg Scene.radio scene
    have chip : measured.bench.chip = station.bench.chip :=
      congrArg Scene.chip scene
    change (placePacket _).run ⟨{ measured.radio with cursor := _ },
      measured.bench⟩ = _ at broken
    have placed := placePacket_broken broken
    rw [chip, radio] at placed
    exact .inr placed

theorem listen_broken (ready : station.radio.ready = true)
    (empty : station.radio.available = 0)
    (broken : listen.run station = .error failure final) :
    final.radio.available = 0 := by
  let held (radio : Radio) := radio.available = 0
  have access {α : Type} (operation : BusM α) :
      Keeps (Live fun station => held station.radio) (access operation) :=
    Live.keeps_access_radio held operation
  have forgets : Keeps (Live fun station => held station.radio)
      (modifyRadio fun radio => { radio with cursor := {} }) :=
    fun _ holds => ⟨ite_self 0, holds.2⟩
  have keeps : Keeps (Live fun station => held station.radio) listen :=
    keeps_listen (fun _ => access _) forgets (fun _ => access _) (access _)
  have kept := keeps station ⟨empty, ready⟩
  rw [broken] at kept
  exact kept.1

/-- How a look that fails leaves a driver that had nothing to read: with nothing
still, or with a packet and a pointer that was not moved, or with a packet and a
pointer at its first byte. -/
inductive BrokenLook (chip : Chip) (length : Nat) (final : Station) : Prop where
  | nothing (empty : final.radio.available = 0)
      (apart : ¬chip.Misplaces final.bench)
  | misplaced (left : final.radio.available = length)
      (buffer : final.bench.chip.fifo = chip.fifo)
      (pointer : final.bench.chip.pointer = chip.pointer)
        (misplaces : chip.Misplaces final.bench)
  | placed (left : final.radio.available = length)
      (buffer : final.bench.chip.fifo = chip.fifo)
      (pointer : final.bench.chip.pointer =
        chip.register RegisterName.fifoRxCurrentAddr.address)
      (apart : ¬chip.Misplaces final.bench)

theorem acceptPacket_polled_broken {before : Scene} {size : UInt8}
    (ready : before.radio.ready = true) (empty : before.radio.available = 0)
    (found : before.chip.flags.packetReady = true)
    (scene : station.scene = before.polled size)
    (broken : acceptPacket.run station = .error failure final) :
    BrokenLook before.chip (before.polled size).packetLength final := by
  have radio : station.radio = (before.polled size).radio :=
    congrArg Scene.radio scene
  have chip : station.bench.chip = before.chip.polled size :=
    congrArg Scene.chip scene
  have pointer : (before.chip.polled size).pointer = before.chip.pointer :=
    before.chip.register_polled size (by decide) (by decide) (by decide)
  have buffer := before.chip.fifo_polled size
  have start :
        (before.chip.polled size).register
          RegisterName.fifoRxCurrentAddr.address =
      before.chip.register RegisterName.fifoRxCurrentAddr.address :=
    before.chip.register_polled size (by decide) (by decide) (by decide)
  have after := acceptPacket_broken broken
  rw [scene, radio, chip, before.chip.placing_polled, start] at after
  rw [before.chip.packetReady_flags] at found
  rcases after with ⟨same, apart⟩ | ⟨counted, moved⟩
  · exact .nothing (same ▸ empty) fun misplaces => apart misplaces.2
  have left : final.radio.available = (before.polled size).packetLength := by
    rw [counted]
    exact if_pos ready
  rcases moved with ⟨kept, broke⟩ | ⟨set, apart⟩
  · exact .misplaced left (kept ▸ buffer) (kept ▸ pointer) ⟨found, broke⟩
  · refine .placed left (set ▸ buffer) ?_ fun misplaces => apart misplaces.2
    rw [set]
    simp [Chip.pointer]

theorem receive_broken {size : UInt8} (ready : station.radio.ready = true)
    (empty : station.radio.available = 0)
    (broken : (receive size).run station = .error failure final) :
    BrokenLook station.bench.chip
      (if 0 < size then size.toNat else
        station.bench.chip.value .rxNbBytes) final := by
  rw [receive_eq, run_whenReady_of_ready ready] at broken
  rcases cases_of_run_bind broken with broken | ⟨flags, reached, run, broken⟩
  · obtain ⟨available, apart⟩ := poll_broken ready broken
    exact .nothing (available.trans empty) fun misplaces => apart misplaces.2
  obtain ⟨rfl, scene⟩ := (follows_poll size station.scene).of_ok run
  by_cases found : station.scene.chip.flags.packetReady = true
  · rw [if_pos found] at broken
    have length := station.scene.packetLength_polled size
    exact length ▸ acceptPacket_polled_broken ready empty found scene broken
  · rw [if_neg found] at broken
    have radio : reached.radio = (station.scene.polled size).radio :=
      congrArg Scene.radio scene
    have shown := station.bench.chip.packetReady_flags
    -- A chip that is made to listen has its pointer written too, but there is
    -- nothing to read.
    refine .nothing ?_ fun misplaces => found (shown.trans misplaces.1)
    rcases cases_of_run_bind broken with broken | ⟨_, listening, -, broken⟩
    · exact listen_broken (radio ▸ ready) (radio ▸ empty) broken
    · cases broken

end Radio

/-! ## The look as a whole -/

namespace Call

theorem perform_readByte_of_left {station : Station}
    (sound : station.bench.Sound) (left : station.radio.available ≠ 0) :
    (Call.readByte.perform station).1 =
      .byte (some (station.bench.chip.cell station.bench.chip.pointer)) := by
  obtain ⟨final, run, -⟩ :=
    (@gives_readByte_of_left station.scene left).exists_run sound rfl
  exact congrArg Prod.fst (answer_of_ok run)

/-- A look that fails when it points the chip at a packet leaves as many bytes
to read as the packet has, but they are read from where the pointer was before.
A look that fails at any other access leaves nothing to read, or the packet from
its first byte on. -/
theorem receive_broken_reads {station final : Station} {size : UInt8}
    {failure : Failure} (ready : station.radio.ready = true)
    (empty : station.radio.available = 0)
    (broken : (Call.receive size).perform station = (.failed failure, final)) :
    let chip := station.bench.chip
    let start := chip.register RegisterName.fifoRxCurrentAddr.address
    let length := if 0 < size then size.toNat else chip.value .rxNbBytes
    let reads (cell : UInt8) := ∀ bench : Bench, bench.Sound →
      bench.chip = final.bench.chip →
      (Call.readByte.perform ⟨final.radio, bench⟩).1 =
        .byte (some (chip.cell cell))
    (chip.Misplaces final.bench →
        final.radio.available = length ∧ (0 < length → reads chip.pointer)) ∧
      (¬chip.Misplaces final.bench →
        final.radio.available = 0 ∨ final.radio.available = length ∧
          reads start) := by
  intro chip start length reads
  have run : (Radio.receive size).run station = .error failure final :=
    run_of_answer_failed broken fun _ => Reply.noConfusion
  have next {cell : UInt8} (left : final.radio.available ≠ 0)
      (buffer : final.bench.chip.fifo = chip.fifo)
        (pointer : final.bench.chip.pointer = cell) :
      reads cell := by
    intro bench sound same
    have read := @perform_readByte_of_left ⟨final.radio, bench⟩ sound left
    rw [read, same, pointer, Chip.cell, buffer]
    rfl
  cases Radio.receive_broken ready empty run with
  | nothing none apart =>
      exact ⟨fun misplaces => absurd misplaces apart, fun _ => .inl none⟩
  | misplaced left buffer pointer misplaces =>
      refine ⟨fun _ => ⟨left, fun some => ?_⟩,
        fun apart => absurd misplaces apart⟩
      exact next (left ▸ Nat.ne_of_gt some) buffer pointer
  | placed left buffer pointer apart =>
      refine ⟨fun misplaces => absurd misplaces apart, fun _ => ?_⟩
      by_cases none : final.radio.available = 0
      · exact .inl none
      · exact .inr ⟨left, next none buffer pointer⟩

theorem receive_broken_reads_last_byte :
    let station : Station :=
      ⟨{ Radio.attach ⟨0, true, true⟩ with lifecycle := .ready },
        { chip := Chip.fresh.deliver 254 [10, 11, 12] 0x40
          busFaults := ⟨5, 1⟩ }⟩
    let final := ((Call.receive 0).perform station).2
    final.radio.available = 3 ∧
      ∀ bench : Bench, bench.Sound → bench.chip = final.bench.chip →
        (Call.readByte.perform ⟨final.radio, bench⟩).1 = .number (some 12) := by
  intro station final
  have failed : ((Call.receive 0).perform station).1 = .failed .bus := by
    subst station
    rfl
  have broken : (Call.receive 0).perform station = (.failed .bus, final) :=
    Prod.ext failed rfl
  have misplaces : station.bench.chip.Misplaces final.bench :=
    ⟨by decide +kernel, _, List.mem_cons_self, by decide +kernel⟩
  obtain ⟨left, reads⟩ :=
    (@receive_broken_reads station final 0 .bus rfl rfl broken).1 misplaces
  exact ⟨left, reads (by decide +kernel)⟩

/-- A look that fails before it has pointed the chip at a packet leaves three
bytes to read, and the first of them is not the first one of the packet. -/
theorem receive_broken_misplaces_reader :
    let steps : List Step :=
      [.call .isReady, .stimulus (.deliver 16 [10, 11, 12] 0x40),
        .stimulus (.busFaults ⟨5, 1⟩), .call (.receive 0), .call .readByte]
    ((Session.start true true Chip.fresh).outcomes steps).map
        (fun outcome => (outcome.1, outcome.2.station.radio.available)) =
      [(.truth true, 0), (.done, 0), (.done, 0), (.failed .bus, 3),
        (.number (some 0), 2)] := by
  rfl

end Call

end LoraRadio
