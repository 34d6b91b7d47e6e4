import LoraRadio.Proofs.Footprint
import LoraRadio.Proofs.ReadHead

/-!
# Appending while accesses fail

An append puts its bytes into the packet buffer and counts them afterwards.  If
it fails in between, the bytes it has put there stay, with the pointer behind
them, but the length register does not count them.  The next append goes on
behind these strays.  So the bytes at the start of the buffer are the packet
that was given only as long as no failed append has left a stray.
-/

namespace LoraRadio

open Operation RadioM Radio

/-! ## Bytes on the record -/

def Event.laid : Event → Option UInt8
  | .write header value =>
      if header.address = RegisterName.fifo.address then some value else none
  | _ => none

def laidBytes (events : List Event) : List UInt8 :=
  events.filterMap Event.laid

inductive Event.Appends : Event → Prop where
  | look (value : UInt8) :
      Appends (.read RegisterName.payloadLength.address value)
  | put (value : UInt8) : Appends (.write RegisterName.fifo.address value)
  | count (value : UInt8) :
      Appends (.write RegisterName.payloadLength.address value)
  | lookFailed (header : ReadHeader) : Appends (.readFailed header)
  | writeFailed (header : WriteHeader) (value : UInt8) :
      Appends (.writeFailed header value)

theorem laidBytes_append (first second : List Event) :
    laidBytes (first ++ second) = laidBytes first ++ laidBytes second :=
  List.filterMap_append

theorem laidBytes_map_write (bytes : List UInt8) :
    laidBytes (bytes.map (.write RegisterName.fifo.address)) = bytes := by
  induction bytes with
  | nil => rfl
  | cons byte rest ih => simpa [laidBytes, Event.laid] using ih

theorem Event.laid_broken {event failed : Event} {failure : Failure}
    (fails : event.broken = some (failed, failure)) : failed.laid = none := by
  obtain ⟨_, _, -, rfl, -⟩ | ⟨_, _, -, rfl, -⟩ | ⟨_, _, -, rfl, -⟩ :=
    cases_of_broken fails
  all_goals rfl

theorem Event.Appends.broken {event failed : Event} {failure : Failure}
    (appends : event.Appends) (fails : event.broken = some (failed, failure)) :
    failed.Appends := by
  cases appends with
  | look value => cases fails; exact .lookFailed _
  | put value => cases fails; exact .writeFailed _ _
  | count value => cases fails; exact .writeFailed _ _
  | lookFailed header => cases fails
  | writeFailed header value => cases fails

namespace Chip

theorem fill_setRegister (chip : Chip) {address : Address} (value : UInt8)
    (apart : address ≠ RegisterName.fifoAddrPtr.address) (bytes : List UInt8) :
    ((chip.setRegister address value).fill bytes).fifo =
        (chip.fill bytes).fifo ∧
      ((chip.setRegister address value).fill bytes).pointer =
        (chip.fill bytes).pointer := by
  have same : (chip.setRegister address value).pointer = chip.pointer := by
    simp [pointer, apart]
  rw [fill, fill, same, load_setRegister]
  exact ⟨rfl, by simp [pointer]⟩

/-- The buffer and its pointer are as if the bytes on the record had been filled
in at once. -/
theorem replay_appends {events : List Event}
    (appends : ∀ event ∈ events, event.Appends) (chip : Chip) :
    (chip.replay events).fifo = (chip.fill (laidBytes events)).fifo ∧
      (chip.replay events).pointer =
        (chip.fill (laidBytes events)).pointer := by
  induction events generalizing chip with
  | nil =>
      rw [laidBytes, List.filterMap_nil, fill_nil]
      exact ⟨rfl, rfl⟩
  | cons event rest ih =>
      rw [List.forall_mem_cons] at appends
      change ((chip.hear event).replay rest).fifo = _ ∧
        ((chip.hear event).replay rest).pointer = _
      have after := ih appends.2 (chip.hear event)
      cases appends.1 with
      | put value =>
          change _ = (chip.fill (value :: laidBytes rest)).fifo ∧
            _ = (chip.fill (value :: laidBytes rest)).pointer
          rw [fill_cons]
          exact after
      | count value =>
          -- The count is written before the rest is filled in, to a register
          -- that filling ignores.
          have apart : RegisterName.payloadLength.address ≠
              RegisterName.fifoAddrPtr.address := by
            decide
          obtain ⟨fifo, pointer⟩ :=
            chip.fill_setRegister value apart (laidBytes rest)
          exact ⟨after.1.trans fifo, after.2.trans pointer⟩
      | look value => exact after
      | lookFailed header => exact after
      | writeFailed header value => exact after

theorem value_replay_uncounted {events : List Event}
    (appends : ∀ event ∈ events, event.Appends)
    (uncounted : ∀ value,
      .write RegisterName.payloadLength.address value ∉ events) (chip : Chip) :
    (chip.replay events).value .payloadLength = chip.value .payloadLength := by
  induction events generalizing chip with
  | nil => rfl
  | cons event rest ih =>
      rw [List.forall_mem_cons] at appends
      have later : ∀ value,
          .write RegisterName.payloadLength.address value ∉ rest :=
        fun value member => uncounted value (List.mem_cons_of_mem _ member)
      refine (ih appends.2 later (chip.hear event)).trans ?_
      cases appends.1 with
      | put value =>
          exact congrArg UInt8.toNat
            (register_write (by decide) (by decide) (by decide))
      | count value => exact absurd List.mem_cons_self (uncounted value)
      | look value => rfl
      | lookFailed header => rfl
      | writeFailed header value => rfl

end Chip

/-! ## One append -/

theorem Breaks.exists_passed {failure : Failure} {script events : List Event}
    {last : Event} (breaks : Breaks failure (script ++ [last]) events) :
    ∃ passed origin failed, events = passed ++ [failed] ∧ passed <+: script ∧
      origin ∈ script ++ [last] ∧ origin.broken = some (failed, failure) := by
  obtain ⟨passed, origin, rest, failed, split, rfl, fails⟩ :=
    breaks.exists_split
  have whole : passed <+: script ++ [last] := ⟨origin :: rest, split.symm⟩
  have early : passed.length ≤ script.length := by
    have lengths := congrArg List.length split
    simp only [List.length_append, List.length_cons, List.length_nil] at lengths
    omega
  refine ⟨passed, origin, failed, rfl, ?_, ?_, fails⟩
  · exact List.prefix_of_prefix_length_le whole (List.prefix_append _ _) early
  · rw [split]
    exact List.mem_append_right _ List.mem_cons_self

namespace Chip

variable (chip : Chip) (chunk : List UInt8) (size : Nat)

theorem cases_of_putScript {event : Event}
    (member : event ∈ chip.putScript chunk size) :
    (∃ value, event = .read RegisterName.payloadLength.address value) ∨
      ∃ value, event = .write RegisterName.fifo.address value := by
  rcases List.mem_cons.mp member with look | put
  · exact .inl ⟨_, look⟩
  · obtain ⟨byte, -, same⟩ := List.mem_map.mp put
    exact .inr ⟨byte, same.symm⟩

theorem appends_putScript :
    ∀ event ∈ chip.putScript chunk size, event.Appends := by
  intro event member
  rcases chip.cases_of_putScript chunk size member with ⟨value, rfl⟩ |
    ⟨value, rfl⟩
  · exact .look value
  · exact .put value

theorem appends_appendScript :
    ∀ event ∈ chip.appendScript chunk size, event.Appends := by
  rw [appendScript, List.forall_mem_append, List.forall_mem_singleton]
  exact ⟨chip.appends_putScript chunk size, .count _⟩

theorem laidBytes_putScript :
    laidBytes (chip.putScript chunk size) = chunk.take size :=
  laidBytes_map_write _

theorem laidBytes_appendScript :
    laidBytes (chip.appendScript chunk size) = chunk.take size := by
  rw [appendScript, laidBytes_append, laidBytes_putScript]
  exact List.append_nil _

end Chip

/-- Bytes were given to a packet.  Those that fit are counted and in the buffer,
in their order; the record shows nothing else there but strays. -/
structure Chip.Grows (before after : Chip) (given strays : List UInt8)
    (events : List Event) :
    Prop where
  replayed : after = before.replay events
  appends : ∀ event ∈ events, event.Appends
  length : after.value .payloadLength =
    min (before.value .payloadLength + given.length) maxPayload
  order : (given.take (maxPayload - before.value .payloadLength)).Sublist
    (laidBytes events)
  count : (laidBytes events).length =
    min given.length (maxPayload - before.value .payloadLength) + strays.length

namespace Chip.Grows

variable {first second third : Chip}
  {given strays laterGiven laterStrays : List UInt8}
  {events laterEvents : List Event}

theorem refl (chip : Chip) : Grows chip chip [] [] [] where
  replayed := rfl
  appends event member := nomatch member
  length := (Nat.min_eq_left chip.value_payloadLength_le).symm
  order := by
    rw [List.take_nil]
    exact List.nil_sublist _
  count := (Nat.zero_min (maxPayload - chip.value .payloadLength)).symm

theorem trans (left : first.Grows second given strays events)
    (right : second.Grows third laterGiven laterStrays laterEvents) :
    first.Grows third (given ++ laterGiven) (strays ++ laterStrays)
      (events ++ laterEvents) where
  replayed := by rw [right.replayed, left.replayed, replay_append]
  appends := List.forall_mem_append.mpr ⟨left.appends, right.appends⟩
  length := by
    rw [right.length, left.length, List.length_append]
    omega
  order := by
    -- The earlier bytes take their room first.
    have room : maxPayload - first.value .payloadLength - given.length =
        maxPayload - second.value .payloadLength := by
      rw [left.length]
      omega
    rw [List.take_append, room, laidBytes_append]
    exact left.order.append right.order
  count := by
    have after := right.count
    rw [left.length] at after
    rw [laidBytes_append, List.length_append, List.length_append,
      List.length_append, left.count, after]
    omega

theorem laid_of_clean (grows : first.Grows second given [] events) :
    laidBytes events =
      given.take (maxPayload - first.value .payloadLength) := by
  refine (grows.order.eq_of_length ?_).symm
  rw [grows.count, List.length_take, Nat.min_comm]
  rfl

section

variable (start : first.pointer = 0)

include start

theorem cell (grows : first.Grows second given strays events)
    (position : UInt8) :
    second.cell position = (first.load 0 (laidBytes events)).cell position := by
  have fifo := (first.replay_appends grows.appends).1
  rw [← grows.replayed, fill, start] at fifo
  rw [Chip.cell, fifo]
  rfl

theorem pointer (grows : first.Grows second given strays events) :
    second.value .fifoAddrPtr = (laidBytes events).length % 256 := by
  have behind := (first.replay_appends grows.appends).2
  rw [← grows.replayed, fill, start, UInt8.zero_add] at behind
  have number := congrArg UInt8.toNat behind
  refine number.trans ((value_setRegister _ _ _ _).trans ?_)
  exact UInt8.toNat_ofNat'

theorem stages (none : first.value .payloadLength = 0)
    (grows : first.Grows second given [] events) :
    first.Stages second given := by
  have laid : laidBytes events = given.take maxPayload := by
    rw [grows.laid_of_clean, none, Nat.sub_zero]
  have cells (position : UInt8) : second.cell position =
      (first.staged given).cell position := by
    rw [grows.cell start, laid]
    rfl
  have staged := first.stages_staged given
  constructor
  · intro index inside
    rw [cells]
    exact staged.content index inside
  · intro position outside
    rw [cells]
    exact staged.rest position outside
  · rw [grows.length, none, Nat.zero_add]
  · have fits : min given.length maxPayload < 256 :=
      Nat.lt_of_le_of_lt (Nat.min_le_right _ _) (by decide)
    rw [grows.pointer start, laid, List.length_take, Nat.min_comm,
      Nat.mod_eq_of_lt fits]

end

end Chip.Grows

namespace Radio

variable {station final : Station} {bytes : List UInt8}

theorem append_counted (ready : station.radio.ready = true) {size : Nat}
    (run : (append bytes).run station = .ok size final) :
    ∃ events, station.bench.Records final.bench events ∧
      station.bench.chip.Grows final.bench.chip bytes [] events := by
  have most := station.bench.chip.value_payloadLength_le
  obtain ⟨taken, fits⟩ : ∃ taken, taken =
    min bytes.length (maxPayload - station.scene.chip.value .payloadLength) :=
      ⟨_, rfl⟩
  have follows := follows_append_chunk bytes ready fits
  obtain ⟨rfl, scene⟩ := follows.of_ok run
  have records := follows.records_of_ok run
  change size =
    min bytes.length (maxPayload - station.bench.chip.value .payloadLength)
      at fits
  have laid : laidBytes (station.bench.chip.appendScript bytes size) =
      bytes.take (maxPayload - station.bench.chip.value .payloadLength) := by
    rw [Chip.laidBytes_appendScript, fits, Nat.min_comm,
      ← List.take_eq_take_min]
  have length : final.bench.chip.value .payloadLength =
      station.bench.chip.value .payloadLength + size := by
    have fit : station.bench.chip.value .payloadLength + size < 256 := by
      have limit : maxPayload = 255 := rfl
      omega
    have counted :=
      congrArg (fun scene => scene.chip.value .payloadLength) scene
    refine counted.trans ?_
    exact (Chip.value_setRegister _ _ _ _).trans (UInt8.toNat_ofNat_of_lt' fit)
  refine ⟨_, records, records.replayed, Chip.appends_appendScript _ _ _,
    ?_, ?_, ?_⟩
  · rw [length, fits]
    omega
  · rw [← laid]
    exact List.Sublist.refl _
  · refine (congrArg List.length laid).trans ?_
    rw [List.length_take, Nat.min_comm]
    rfl

theorem append_broken (ready : station.radio.ready = true) {failure : Failure}
    (run : (append bytes).run station = .error failure final) :
    ∃ events, station.bench.Records final.bench events ∧
      station.bench.chip.Grows final.bench.chip [] (laidBytes events) events ∧
      laidBytes events <+: bytes.take
        (maxPayload - station.bench.chip.value .payloadLength) := by
  obtain ⟨size, fits⟩ : ∃ size, size =
    min bytes.length (maxPayload - station.scene.chip.value .payloadLength) :=
      ⟨_, rfl⟩
  obtain ⟨events, breaks, records⟩ :=
    (follows_append_chunk bytes ready fits).breaks_of_error run
  have appends := station.bench.chip.appends_appendScript bytes size
  -- The count is the last event of the script, so it has not passed.
  obtain ⟨passed, origin, failed, rfl, before, member, fails⟩ :=
    breaks.exists_passed
  have early : ∀ event ∈ passed, event.Appends := fun event member =>
    appends event (List.mem_append_left _ (before.subset member))
  have part : laidBytes (passed ++ [failed]) <+:
      bytes.take (maxPayload - station.bench.chip.value .payloadLength) := by
    have put := before.filterMap Event.laid
    change laidBytes passed <+: laidBytes
      (station.bench.chip.putScript bytes size) at put
    rw [Chip.laidBytes_putScript, fits, Nat.min_comm, ← List.take_eq_take_min]
      at put
    have unlaid : laidBytes [failed] = [] := by
      rw [laidBytes, List.filterMap_cons, Event.laid_broken fails,
        List.filterMap_nil]
    rw [laidBytes_append, unlaid, List.append_nil]
    exact put
  have length : final.bench.chip.value .payloadLength =
      station.bench.chip.value .payloadLength := by
    have uncounted : ∀ value,
        .write RegisterName.payloadLength.address value ∉ passed := by
      intro value found
      rcases Chip.cases_of_putScript _ _ _ (before.subset found) with
        ⟨_, same⟩ | ⟨_, same⟩
      · cases same
      · exact absurd (Event.write.inj same).1 (by decide)
    rw [records.replayed, Chip.replay_append]
    change ((station.bench.chip.replay passed).hear failed).value _ = _
    rw [Chip.hear_broken _ fails]
    exact station.bench.chip.value_replay_uncounted early uncounted
  refine ⟨_, records, ⟨records.replayed, ?_, ?_, ?_, ?_⟩, part⟩
  · rw [List.forall_mem_append, List.forall_mem_singleton]
    exact ⟨early, (appends origin member).broken fails⟩
  · rw [length]
    exact (Nat.min_eq_left station.bench.chip.value_payloadLength_le).symm
  · rw [List.take_nil]
    exact List.nil_sublist _
  · rw [List.length_nil, Nat.zero_min, Nat.zero_add]

theorem empty_of_begun (run : beginPacket.run station = .ok () final)
    (ready : final.radio.ready = true) :
    final.bench.chip.pointer = 0 ∧
      final.bench.chip.value .payloadLength = 0 := by
  obtain ⟨started, inService, opening⟩ := exists_of_run_whenReady run ready
  have begun : beginPacket.run started = .ok () final := by
    rw [beginPacket, run_whenReady_of_ready inService]
    exact opening
  have scene := ((follows_beginPacket inService).of_ok begun).2
  have chip : final.bench.chip =
      (started.bench.chip.opened
        started.radio.configuration.headerMode).staged [] :=
    congrArg Scene.chip scene
  rw [chip, Chip.pointer_staged, Chip.value, Chip.register_staged]
  exact ⟨rfl, rfl⟩

end Radio

/-! ## Packets built under faults -/

inductive Step.Appending : Step → Prop where
  | append (bytes : List UInt8) : Appending (.call (.append bytes))
  | faults (window : FaultWindow) : Appending (.stimulus (.busFaults window))

def Step.given : Step → Reply → List UInt8
  | .call (.append bytes), .count _ => bytes
  | _, _ => []

/-- The bytes that a step leaves in the buffer although it fails. -/
def Reply.strays : Reply → List Event → List UInt8
  | .failed _, events => laidBytes events
  | _, _ => []

namespace Session

def given (session : Session) : List Step → List UInt8
  | [] => []
  | step :: rest =>
      step.given (session.step step).1 ++ (session.step step).2.given rest

def strays (session : Session) (steps : List Step) : List UInt8 :=
  (session.outcomes steps).flatMap fun outcome =>
    outcome.1.strays outcome.2.station.bench.events

theorem strays_cons (session : Session) (step : Step) (rest : List Step) :
    session.strays (step :: rest) =
      (session.step step).1.strays (session.step step).2.station.bench.events ++
        (session.step step).2.strays rest := by
  simp [strays, outcomes]

variable {session : Session} {steps : List Step}

theorem ready_append (bytes : List UInt8)
    (ready : session.station.radio.ready = true) :
    (session.step (.call (.append bytes))).2.station.radio.ready = true := by
  have kept :=
    @Abandonable.perform_turned_apart _
      (abandonable_cursor session.station.radio.cursor)
    (.append bytes) rfl (by simp) session.station.cleared ⟨ready, rfl⟩
  exact kept.1

theorem grows_append (bytes : List UInt8)
    (ready : session.station.radio.ready = true) :
    let next := session.step (.call (.append bytes))
    session.station.bench.chip.Grows next.2.station.bench.chip
      (Step.given (.call (.append bytes)) next.1)
      (next.1.strays next.2.station.bench.events)
        next.2.station.bench.events := by
  rw [step_call]
  cases run : (append bytes).run session.station.cleared with
  | ok size final =>
      obtain ⟨events, records, grows⟩ :=
        @append_counted session.station.cleared _ _ ready _ run
      have whole : final.bench.events = events := records.recorded
      rw [show (Call.append bytes).perform session.station.cleared = _ from
        Call.answer_of_ok run]
      rw [← whole] at grows
      exact grows
  | error failure final =>
      obtain ⟨events, records, grows, -⟩ :=
        @append_broken session.station.cleared _ _ ready _ run
      have whole : final.bench.events = events := records.recorded
      rw [show (Call.append bytes).perform session.station.cleared = _ from
        Call.answer_of_error run]
      rw [← whole] at grows
      exact grows

theorem grows_step {step : Step} (appending : step.Appending)
    (ready : session.station.radio.ready = true) :
    (session.step step).2.station.radio.ready = true ∧
      session.station.bench.chip.Grows (session.step step).2.station.bench.chip
        (step.given (session.step step).1)
        ((session.step step).1.strays
          (session.step step).2.station.bench.events)
        (session.step step).2.station.bench.events := by
  cases appending with
  | append bytes => exact ⟨ready_append bytes ready, grows_append bytes ready⟩
  | faults window => exact ⟨ready, .refl _⟩

theorem grows_after (appending : ∀ step ∈ steps, step.Appending)
    (ready : session.station.radio.ready = true) :
    (session.after steps).station.radio.ready = true ∧
      session.station.bench.chip.Grows (session.after steps).station.bench.chip
        (session.given steps) (session.strays steps)
          (session.history steps) := by
  induction steps generalizing session with
  | nil => exact ⟨ready, .refl _⟩
  | cons step rest ih =>
      rw [List.forall_mem_cons] at appending
      obtain ⟨stillReady, grows⟩ := grows_step appending.1 ready
      obtain ⟨atLast, later⟩ := ih appending.2 stillReady
      rw [strays_cons, history_cons]
      exact ⟨atLast, grows.trans later⟩

theorem part_of_failed {bytes : List UInt8} {failure : Failure} {next : Session}
    (ready : session.station.radio.ready = true)
    (failed : session.step (.call (.append bytes)) = (.failed failure, next)) :
    laidBytes next.station.bench.events <+:
        bytes.take (maxPayload
          - session.station.bench.chip.value .payloadLength) ∧
      next.station.bench.chip.value .payloadLength =
        session.station.bench.chip.value .payloadLength := by
  rw [step_call] at failed
  obtain ⟨told, rfl⟩ := Prod.mk.inj failed
  have run :=
    @Call.run_of_answer_failed _ Reply.count
      (append bytes) session.station.cleared _ _
    (Prod.ext told rfl) (fun _ => Reply.noConfusion)
  obtain ⟨events, records, grows, part⟩ :=
    @append_broken session.station.cleared _ _ ready _ run
  have whole :
      ((Call.append bytes).perform session.station.cleared).2.bench.events =
        events :=
    records.recorded
  refine ⟨whole ▸ part, grows.length.trans ?_⟩
  exact Nat.min_eq_left session.station.bench.chip.value_payloadLength_le

theorem empty_of_step {begun : Session}
    (begins : session.step (.call .beginPacket) = (.done, begun))
    (ready : begun.station.radio.ready = true) :
    begun.station.bench.chip.pointer = 0 ∧
      begun.station.bench.chip.value .payloadLength = 0 := by
  rw [step_call] at begins
  obtain ⟨told, rfl⟩ := Prod.mk.inj begins
  obtain ⟨_, -, run⟩ :=
    @Call.exists_run_of_answer _ Call.acknowledge beginPacket
      session.station.cleared _ _ (Prod.ext told rfl)
      fun _ => Reply.noConfusion
  exact empty_of_begun run ready

/-- A packet is begun and appended to while any accesses fail.  The length
register counts the bytes of the appends that were answered, up to the largest
payload, and these bytes are in the buffer in their order.  Bytes of failed
appends lie between them, and the pointer is behind all of them: it is ahead of
the length by the number of strays.  So it is the packet that was given if there
are none.  A failed append leaves a beginning of its bytes as strays and the
length as it was. -/
theorem packet_under_faults {begun : Session}
    (begins : session.step (.call .beginPacket) = (.done, begun))
    (ready : begun.station.radio.ready = true)
    (appending : ∀ step ∈ steps, step.Appending) :
    let empty := begun.station.bench.chip
    let chip := (begun.after steps).station.bench.chip
    let given := begun.given steps
    let strays := begun.strays steps
    let laid := laidBytes (begun.history steps)
    (given.take maxPayload).Sublist laid ∧
      laid.length = min given.length maxPayload + strays.length ∧
      (∀ position, chip.cell position = (empty.load 0 laid).cell position) ∧
      chip.value .payloadLength = min given.length maxPayload ∧
      chip.value .fifoAddrPtr =
        (min given.length maxPayload + strays.length) % 256 ∧
      (strays = [] → empty.Stages chip given) ∧
      ∀ bytes failure next,
        (begun.after steps).step (.call (.append bytes)) =
          (.failed failure, next) →
        laidBytes next.station.bench.events <+:
            bytes.take (maxPayload - min given.length maxPayload) ∧
          next.station.bench.chip.value .payloadLength =
            min given.length maxPayload := by
  intro empty chip given strays laid
  obtain ⟨start, none⟩ := empty_of_step begins ready
  obtain ⟨stillReady, grows⟩ := grows_after appending ready
  have order : (given.take maxPayload).Sublist laid := by
    have kept := grows.order
    rwa [none] at kept
  have count : laid.length = min given.length maxPayload + strays.length := by
    have total := grows.count
    rwa [none] at total
  have length : chip.value .payloadLength = min given.length maxPayload := by
    have known := grows.length
    rwa [none, Nat.zero_add] at known
  refine ⟨order, count, grows.cell start, length, ?_, fun clean => ?_, ?_⟩
  · rw [← count]
    exact grows.pointer start
  · have whole : begun.strays steps = [] := clean
    rw [whole] at grows
    exact grows.stages start none
  · intro bytes failure next failed
    have part := part_of_failed stillReady failed
    rwa [show (begun.after steps).station.bench.chip.value .payloadLength =
      _ from length] at part

theorem packet_under_faults_repeated :
    let begun :=
      (Session.start true true Chip.fresh).after
        [.call .isReady, .call .beginPacket]
    let steps : List Step :=
      [.stimulus (.busFaults ⟨2, 1⟩), .call (.append [10, 11]),
        .call (.append [10, 11])]
    begun.given steps = [10, 11] ∧ begun.strays steps = [10] ∧
      (begun.after steps).station.bench.chip.value .payloadLength = 2 ∧
      (begun.after steps).station.bench.chip.value .fifoAddrPtr = 3 := by
  intro begun steps
  have begins :
      ((Session.start true true Chip.fresh).after [.call .isReady]).step
      (.call .beginPacket) = (.done, begun) := rfl
  have appending : ∀ step ∈ steps, step.Appending := by
    simp only [steps, List.forall_mem_cons]
    exact ⟨.faults _, .append _, .append _, fun _ member => nomatch member⟩
  have given : begun.given steps = [10, 11] := by
    subst begun steps
    rfl
  have strays : begun.strays steps = [10] := by
    subst begun steps
    rfl
  obtain ⟨-, -, -, length, pointer, -⟩ :=
    packet_under_faults begins (by rfl) appending
  rw [given] at length pointer
  rw [strays] at pointer
  exact ⟨given, strays, length, pointer⟩

/-- An append that fails after its first byte and is made again leaves that byte
in the buffer twice, and the packet is cut short of its last byte. -/
theorem append_repeated_corrupts :
    let steps : List Step :=
      [.call .isReady, .call .beginPacket, .stimulus (.busFaults ⟨2, 1⟩),
        .call (.append [10, 11]), .call (.append [10, 11])]
    ((Session.start true true Chip.fresh).outcomes steps).map (fun outcome =>
        let chip := outcome.2.station.bench.chip
        (outcome.1, chip.value .payloadLength, chip.value .fifoAddrPtr,
          [chip.cell 0, chip.cell 1, chip.cell 2])) =
      [(.truth true, 1, 0, [0, 0, 0]), (.done, 0, 0, [0, 0, 0]),
        (.done, 0, 0, [0, 0, 0]), (.failed .bus, 0, 1, [10, 0, 0]),
        (.count 2, 2, 3, [10, 10, 11])] := by
  rfl

end Session

end LoraRadio
