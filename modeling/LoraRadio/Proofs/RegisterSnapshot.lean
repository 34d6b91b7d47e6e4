import LoraRadio.Proofs.RegisterAccess
import LoraRadio.Proofs.Safety

/-!
# Snapshots of the registers

A snapshot is taken by reading every named register but the packet buffer, in
the order of the addresses.  Such reads leave the chip as it is, apart from the
interrupt flags, which may change when they are read.  So each register is found
with the value that it still has in the end, and a snapshot that breaks off has
changed no more than one that is complete.
-/

namespace LoraRadio

open Operation RadioM

/-! ## The registers of a snapshot -/

namespace RegisterName

def shown : List RegisterName :=
  all.filter (· ≠ .fifo)

theorem mem_all (name : RegisterName) : name ∈ all :=
  List.mem_of_find?_eq_some (find?_address name)

@[simp] theorem mem_shown {name : RegisterName} :
    name ∈ shown ↔ name ≠ .fifo := by
  simp [shown, mem_all]

@[simp] theorem length_shown : shown.length = 49 := rfl

theorem shown_ascending :
    shown.Pairwise fun first second => first.address < second.address := by
  decide

theorem nodup_shown : shown.Nodup := by
  refine shown_ascending.imp ?_
  intro first second less same
  rw [same] at less
  exact absurd less (Nat.lt_irrefl _)

end RegisterName

/-! ## Reads in a row -/

def Event.isRead : Event → Bool
  | .read _ _ | .readFailed _ => true
  | .write _ _ | .writeFailed _ _ | .line _ _ | .lineFailed _ _
  | .delay _ => false

def Event.ofEntry (entry : RegisterName × UInt8) : Event :=
  .read entry.1.address entry.2

def Snapshot.reads (snapshot : Snapshot) : List Event :=
  snapshot.entries.map .ofEntry

namespace Chip

variable {address other : Address} {name : RegisterName}
  {names : List RegisterName} {entries : List (RegisterName × UInt8)}

/-- What reads in a row find, each on the chip as the one before left it. -/
def found (chip : Chip) : List RegisterName → List (RegisterName × UInt8)
  | [] => []
  | name :: rest =>
      (name, (chip.read name.address).1) ::
        (chip.read name.address).2.found rest

@[simp] theorem map_fst_found (chip : Chip) (names : List RegisterName) :
    (chip.found names).map Prod.fst = names := by
  induction names generalizing chip with
  | nil => rfl
  | cons name rest ih => simp [found, ih]

@[simp] theorem length_found (chip : Chip) (names : List RegisterName) :
    (chip.found names).length = names.length := by
  rw [← List.length_map Prod.fst, map_fst_found]

theorem found_append (chip : Chip) (first second : List RegisterName) :
    chip.found (first ++ second) =
      chip.found first ++
        (chip.replay ((chip.found first).map .ofEntry)).found second := by
  induction first generalizing chip with
  | nil => rfl
  | cons name rest ih =>
      rw [List.cons_append, found, ih]
      rfl

theorem register_read_self (chip : Chip)
    (buffer : address ≠ RegisterName.fifo.address) :
    (chip.read address).2.register address = (chip.read address).1 := by
  unfold read
  rw [if_neg buffer]
  split <;> rfl

theorem register_read_apart (chip : Chip)
    (buffer : address ≠ RegisterName.fifo.address)
    (apart : address = RegisterName.irqFlags.address →
      other ≠ RegisterName.irqFlags.address) :
    (chip.read address).2.register other = chip.register other := by
  unfold read
  rw [if_neg buffer]
  split
  · exact register_countFlagRead (apart ‹_›)
  · rfl

/-- Reads keep every register but the interrupt flags, and these too when they
are not read. -/
theorem register_replay_reads (chip : Chip)
    (buffer : .fifo ∉ entries.map Prod.fst)
    (apart : .irqFlags ∈ entries.map Prod.fst →
      other ≠ RegisterName.irqFlags.address) :
    (chip.replay (entries.map .ofEntry)).register other =
      chip.register other := by
  induction entries generalizing chip with
  | nil => rfl
  | cons entry rest ih =>
      simp only [List.map_cons, List.mem_cons, not_or] at buffer apart
      let next := (chip.read entry.1.address).2
      calc
        (next.replay (rest.map .ofEntry)).register other
        _ = next.register other :=
          ih _ buffer.2 fun later => apart (.inr later)
        _ = chip.register other :=
          chip.register_read_apart (by simpa using Ne.symm buffer.1) fun same =>
            apart (.inl (RegisterName.address_inj.mp same).symm)

theorem fifo_replay_reads (chip : Chip)
    (entries : List (RegisterName × UInt8)) :
    (chip.replay (entries.map .ofEntry)).fifo = chip.fifo := by
  induction entries generalizing chip with
  | nil => rfl
  | cons entry rest ih => exact (ih _).trans fifo_read

/-- A register that is read once is found with the value that it has when all
reads are done. -/
theorem exists_found (chip : Chip) (buffer : .fifo ∉ names) (once : names.Nodup)
    (listed : name ∈ names) :
    ∃ earlier value later,
      chip.found names = earlier ++ (name, value) :: later ∧
      ((chip.replay (earlier.map .ofEntry)).read name.address).1 = value ∧
      (chip.replay ((chip.found names).map .ofEntry)).register name.address =
        value := by
  obtain ⟨before, after, rfl⟩ := List.append_of_mem listed
  simp only [List.mem_append, List.mem_cons, not_or] at buffer
  -- The reads after this one leave the register alone, for it is not among
  -- them.
  have absent : name ∉ after := by
    simp only [List.nodup_append, List.nodup_cons] at once
    exact once.2.1.1
  have here : name.address ≠ RegisterName.fifo.address := by
    simpa using Ne.symm buffer.2.1
  refine ⟨chip.found before, _, _, chip.found_append before (name :: after),
    rfl, ?_⟩
  generalize reached : chip.replay ((chip.found before).map .ofEntry) = middle
  rw [found_append, reached, List.map_append, replay_append, reached, found]
  calc ((middle.read name.address).2.replay
        (((middle.read name.address).2.found after).map .ofEntry)).register
          name.address
    _ = (middle.read name.address).2.register name.address := by
      refine register_replay_reads _ (by simpa using buffer.2.2)
        fun read same => absent ?_
      rw [map_fst_found] at read
      rwa [RegisterName.address_inj.mp same]
    _ = (middle.read name.address).1 := middle.register_read_self here

end Chip

namespace Snapshot

variable {snapshot : Snapshot} {name : RegisterName} {value : UInt8}

def unused (snapshot : Snapshot) : List (RegisterName × UInt8) :=
  snapshot.slots.toList.drop snapshot.length

@[simp] theorem length_entries (snapshot : Snapshot) :
    snapshot.entries.length = snapshot.length := by
  simp [entries, snapshot.within]

/-- The snapshot with entries in the next slots, as far as there is room. -/
def extend (snapshot : Snapshot) : List (RegisterName × UInt8) → Snapshot
  | [] => snapshot
  | (name, value) :: rest =>
      match snapshot.push name value with
      | .ok pushed => pushed.extend rest
      | .error _ => snapshot

theorem extend_cons (room : snapshot.length < RegisterName.count)
    (rest : List (RegisterName × UInt8)) :
    snapshot.extend ((name, value) :: rest) =
      extend ⟨snapshot.slots.set snapshot.length (name, value),
        snapshot.length + 1, room⟩
        rest := by
  rw [extend, snapshot.push_of_room room]

theorem view_set (room : snapshot.length < RegisterName.count)
    (entry : RegisterName × UInt8) :
    let pushed : Snapshot :=
      ⟨snapshot.slots.set snapshot.length entry, snapshot.length + 1, room⟩
    pushed.entries = snapshot.entries ++ [entry] ∧
      pushed.unused = snapshot.unused.tail := by
  intro pushed
  have inside : snapshot.length <
      (snapshot.slots.toList.set snapshot.length entry).length := by
    simpa using room
  constructor
  · simp only [entries, pushed, Vector.toList_set]
    rw [List.take_succ_eq_append_getElem inside,
      List.take_set_of_le (Nat.le_refl _), List.getElem_set_self]
  · simp only [unused, pushed, Vector.toList_set]
    rw [List.drop_set_of_lt (Nat.lt_succ_self _), List.tail_drop]

theorem view_extend {added : List (RegisterName × UInt8)}
    (room : snapshot.length + added.length ≤ RegisterName.count) :
    (snapshot.extend added).length = snapshot.length + added.length ∧
      (snapshot.extend added).entries = snapshot.entries ++ added ∧
      (snapshot.extend added).unused = snapshot.unused.drop added.length := by
  induction added generalizing snapshot with
  | nil => simp [extend]
  | cons entry rest ih =>
      rw [List.length_cons] at room
      have inside : snapshot.length < RegisterName.count := by omega
      obtain ⟨entries, unused⟩ := view_set inside entry
      rw [extend_cons inside]
      obtain ⟨length, shown, left⟩ := @ih
        ⟨snapshot.slots.set snapshot.length entry, snapshot.length + 1, inside⟩
        (by dsimp only; omega)
      refine ⟨?_, ?_, ?_⟩
      · rw [length, List.length_cons]
        dsimp only
        omega
      · rw [shown, entries, List.append_assoc, List.singleton_append]
      · rw [left, unused, List.length_cons, List.drop_tail]

theorem get?_of_once {earlier later : List (RegisterName × UInt8)}
    (once : (snapshot.entries.map Prod.fst).Nodup)
    (split : snapshot.entries = earlier ++ (name, value) :: later) :
    snapshot.get? name = some value := by
  have unseen : earlier.find? (fun entry => entry.1 = name) = none := by
    rw [split, List.map_append, List.map_cons, List.nodup_append] at once
    simp only [List.find?_eq_none, decide_eq_true_eq]
    intro entry seen same
    exact once.2.2 _ (List.mem_map_of_mem seen) name List.mem_cons_self same
  simp [get?, split, List.find?_append, unseen]

theorem get?_eq_none (absent : name ∉ snapshot.entries.map Prod.fst) :
    snapshot.get? name = none := by
  simp only [get?, Option.map_eq_none_iff, List.find?_eq_none,
    decide_eq_true_eq]
  intro entry listed same
  exact absent (List.mem_map.mpr ⟨entry, listed, same⟩)

end Snapshot

/-! ## Taking a snapshot -/

theorem Radio.run_capture {names : List RegisterName} {snapshot : Snapshot}
    (room : snapshot.length + names.length ≤ RegisterName.count)
    (station : Station) :
    (capture names snapshot).run station =
      (access ⟨fun bench => bench.attempt
        ((bench.chip.found names).map .ofEntry)
        (snapshot.extend (bench.chip.found names))⟩).run station := by
  induction names generalizing snapshot station with
  | nil => simp [capture, access, Bench.attempt, Chip.found, Snapshot.extend]
  | cons name rest ih =>
      rw [List.length_cons] at room
      have inside : snapshot.length < RegisterName.count := by omega
      have pushed := snapshot.push_of_room inside name
      rw [capture, run_bind]
      simp only [access, Bus.run_read, Chip.found, List.map_cons, Bench.attempt,
        Snapshot.extend_cons inside]
      cases station.bench.busFaults.passes with
      | true =>
          simp only [if_true, Outcome.andThen_ok, pushed]
          exact ih (by dsimp only; omega) _
      | false => rfl

theorem Radio.run_snapshot {station : Station}
    (ready : station.radio.ready = true) :
    let entries := station.bench.chip.found RegisterName.shown
    snapshot.run station =
      match station.bench.busFaults.firstFailure 49 with
      | none =>
          .ok (({} : Snapshot).extend entries)
            { station with
              bench := station.bench.accessed (entries.map .ofEntry) }
      | some index =>
          .error .bus { station with
            bench :=
              (station.bench.accessed
                ((entries.take index).map .ofEntry)).refused
              (.readFailed (RegisterName.shown.get index).address) } := by
  intro entries
  have size : (entries.map Event.ofEntry).length = 49 := by simp [entries]
  change (whenReady {} (capture RegisterName.shown {})).run station = _
  rw [run_whenReady_of_ready ready, run_capture (by decide)]
  simp only [access]
  rw [station.bench.attempt_of_length size]
  cases station.bench.busFaults.firstFailure 49 with
  | none => rfl
  | some index =>
      have failing :
          ((entries.map Event.ofEntry).get (index.cast size.symm)).failed =
            .readFailed (RegisterName.shown.get index).address := by
        have names : entries.map Prod.fst = RegisterName.shown :=
          Chip.map_fst_found _ _
        have named :
            (entries.map Prod.fst).get (index.cast (by simp [entries])) =
              RegisterName.shown.get index := List.getElem_of_eq names _
        rw [← named]
        simp [Event.failed, Event.ofEntry, Event.broken]
      simp only [failing, List.map_take]
      rfl

/-! ## Main result -/

/-- Nothing but reads went on: the driver and the packet buffer are the same,
and so is every register apart from the interrupt flags. -/
structure Station.OnlyRead (before after : Station) : Prop where
  radio : after.radio = before.radio
  fifo : after.bench.chip.fifo = before.bench.chip.fifo
  pointer : after.bench.chip.pointer = before.bench.chip.pointer
  register : ∀ address ≠ RegisterName.irqFlags.address,
    after.bench.chip.register address = before.bench.chip.register address
  recorded : ∃ events, after.bench.events = before.bench.events ++ events ∧
    ∀ event ∈ events, event.isRead = true

namespace Station.OnlyRead

variable {before after : Station}

theorem accessed (station : Station) {entries : List (RegisterName × UInt8)}
    (buffer : .fifo ∉ entries.map Prod.fst) :
    station.OnlyRead { station with
      bench := station.bench.accessed (entries.map .ofEntry) } := by
  have chip := station.bench.chip_accessed (entries.map .ofEntry)
  have kept {address : Address}
      (apart : address ≠ RegisterName.irqFlags.address) :=
    station.bench.chip.register_replay_reads buffer fun _ => apart
  constructor
  · rfl
  · simp only [chip, Chip.fifo_replay_reads]
  · simp only [chip]
    exact kept (by decide)
  · intro address apart
    simp only [chip, kept apart]
  · refine ⟨_, station.bench.events_accessed _, fun event read => ?_⟩
    obtain ⟨entry, -, rfl⟩ := List.mem_map.mp read
    rfl

theorem refused (only : before.OnlyRead after) (address : Address) :
    before.OnlyRead { after with
      bench := after.bench.refused (.readFailed address) } := by
  obtain ⟨events, recorded, reads⟩ := only.recorded
  refine { only with recorded := ⟨events ++ [.readFailed address], ?_, ?_⟩ }
  · refine (Bench.events_record _ _).trans ?_
    change after.bench.events ++ _ = _
    rw [recorded, List.append_assoc]
  · intro event listed
    cases List.mem_append.mp listed with
    | inl earlier => exact reads event earlier
    | inr last => rw [List.mem_singleton.mp last, Event.isRead]

end Station.OnlyRead

/-- The snapshot shows every register but the packet buffer once, with the value
that its read found at that time, and that it has afterwards.  One slot is left
as it was. -/
structure Snapshot.Faithful (snapshot : Snapshot) (before after : Bench) :
    Prop where
  recorded : after.events = before.events ++ snapshot.reads
  length : snapshot.length = 49 ∧ snapshot.entries.length = 49
  unused : snapshot.unused = [(.fifo, 0)]
  ascending : snapshot.entries.Pairwise fun first second => first.1.address <
    second.1.address
  names : ∀ name, name ∈ snapshot.entries.map Prod.fst ↔ name ≠ .fifo
  buffer : snapshot.get? .fifo = none
  found : ∀ name, name ≠ .fifo → ∃ earlier value later,
    snapshot.reads = earlier ++ .read name.address value :: later ∧
      ((before.chip.replay earlier).read name.address).1 = value ∧
      snapshot.get? name = some value ∧ after.chip.register name.address = value

theorem Snapshot.faithful_found (bench : Bench) :
    let found := bench.chip.found RegisterName.shown
    (({} : Snapshot).extend found).Faithful bench
      (bench.accessed (found.map .ofEntry)) := by
  intro found
  have size : found.length = 49 := Chip.length_found _ _
  obtain ⟨length, entries, unused⟩ :=
    @view_extend {} found (by rw [size]; decide)
  generalize ({} : Snapshot).extend found = snapshot at *
  change snapshot.entries = found at entries
  have names : snapshot.entries.map Prod.fst = RegisterName.shown := by
    rw [entries]
    exact Chip.map_fst_found _ _
  constructor
  · rw [reads, entries]
    exact bench.events_accessed _
  · rw [length_entries, and_self, length, size]
  · rw [unused, size]
    rfl
  · have ascending := RegisterName.shown_ascending
    rwa [← names, List.pairwise_map] at ascending
  · intro name
    rw [names, RegisterName.mem_shown]
  · apply get?_eq_none
    simp [names]
  · intro name apart
    obtain ⟨earlier, value, later, split, read, kept⟩ :=
      bench.chip.exists_found (by simp) RegisterName.nodup_shown
        (RegisterName.mem_shown.mpr apart)
    refine ⟨earlier.map .ofEntry, value, later.map .ofEntry, ?_, read, ?_, ?_⟩
    · rw [reads, entries]
      simp [found, split, Event.ofEntry]
    · exact get?_of_once (names ▸ RegisterName.nodup_shown)
        (entries.trans split)
    · rw [bench.chip_accessed]
      exact kept

namespace Call

/-- A snapshot only reads, up to the first read that fails, and when none fails
it shows what was found. -/
theorem snapshot_faithful {station : Station}
    (ready : station.radio.ready = true) :
    let result := perform .snapshot station
    station.OnlyRead result.2 ∧
    match station.bench.busFaults.firstFailure 49 with
    | none => ∃ snapshot : Snapshot, result.1 = .snapshot snapshot ∧
        snapshot.Faithful station.bench result.2.bench
    | some index => result.1 = .failed .bus ∧ ∃ passed : List Event,
        passed.length = index ∧
        result.2.bench.events = station.bench.events ++ passed ++
          [.readFailed (RegisterName.shown.get index).address] := by
  intro result
  have run := Radio.run_snapshot ready
  have buffer (chip : Chip) :
    .fifo ∉ (chip.found RegisterName.shown).map Prod.fst := by simp
  cases fails : station.bench.busFaults.firstFailure 49 with
  | none =>
      simp only [fails] at run
      have told : result = _ := answer_of_ok run
      rw [told]
      exact ⟨.accessed station (buffer _), _, rfl,
        Snapshot.faithful_found station.bench⟩
  | some index =>
      simp only [fails] at run
      have told : result = _ := answer_of_error run
      rw [told]
      let passed := (station.bench.chip.found RegisterName.shown).take index
      refine ⟨.refused (.accessed station ?_) _, rfl,
        passed.map .ofEntry, ?_, ?_⟩
      · rw [List.map_take]
        exact fun taken => buffer _ (List.mem_of_mem_take taken)
      · simp [passed, Nat.le_of_lt index.isLt]
      · rw [← Bench.events_accessed]
        exact Bench.events_record _ _

/-- A read of the version on a chip that answers, and a fault at the twentieth
read while a packet is half read. -/
theorem snapshot_faithful_at_fault :
    let radio : Radio :=
      { Radio.attach ⟨0, true, true⟩ with
        lifecycle := .ready, cursor := ⟨2, 5⟩ }
    let broken : Bench := { busFaults := ⟨19, 1⟩ }
    radio.ready = true ∧
    (∃ snapshot, (perform .snapshot ⟨radio, {}⟩).1 = .snapshot snapshot ∧
      snapshot.get? .version = some 0x12) ∧
    (perform .snapshot ⟨radio, broken⟩).1 = .failed .bus ∧
    (perform .snapshot ⟨radio, broken⟩).2.radio = radio := by
  intro radio broken
  obtain ⟨only, snapshot, shown, faithful⟩ := @snapshot_faithful ⟨radio, {}⟩ rfl
  obtain ⟨_, value, _, -, -, got, kept⟩ := faithful.found .version (by decide)
  have unchanged := only.register RegisterName.version.address (by decide)
  have version : value = 0x12 := by
    rw [← kept, unchanged]
    rfl
  obtain ⟨alone, failed, -⟩ := @snapshot_faithful ⟨radio, broken⟩ rfl
  exact ⟨rfl, ⟨snapshot, shown, version ▸ got⟩, failed, alone.radio⟩

end Call

end LoraRadio
