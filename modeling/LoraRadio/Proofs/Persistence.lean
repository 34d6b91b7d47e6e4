import LoraRadio.Proofs.Coherence
import LoraRadio.Proofs.Lasting

/-!
# Settings that outlast faults and drops

An access that fails changes nothing, and a setter remembers a value only after
the write of it has passed.  So whatever fails and wherever a call is dropped,
the settings that lie in one byte agree with what the driver knows.  The carrier
lies in three bytes, of which some may be new and some old; but the chip takes
the word over with the last byte, and the word that it works with is the known
one.
-/

namespace LoraRadio

open Operation RadioM Radio

variable {α ρ : Type}

/-! ## The carrier that the chip works with -/

/-- The first two bytes of the carrier as they were last written, and the word
that counts. -/
structure Synthesizer where
  msb : UInt8
  mid : UInt8
  word : Nat
  deriving DecidableEq, Repr

namespace Synthesizer

def ofChip (chip : Chip) : Synthesizer where
  msb := chip.register RegisterName.frfMsb.address
  mid := chip.register RegisterName.frfMid.address
  word :=
    65536 * chip.value .frfMsb + 256 * chip.value .frfMid + chip.value .frfLsb

/-- The word is taken over when its last byte is written. -/
def hear (synthesizer : Synthesizer) : Event → Synthesizer
  | .write header value =>
      if header.address = RegisterName.frfMsb.address then
        { synthesizer with msb := value }
      else if header.address = RegisterName.frfMid.address then
        { synthesizer with mid := value }
      else if header.address = RegisterName.frfLsb.address then
        { synthesizer with
          word :=
            65536 * synthesizer.msb.toNat + 256 * synthesizer.mid.toNat
              + value.toNat }
      else synthesizer
  | .read _ _ | .readFailed _ | .writeFailed _ _ | .line _ _ | .lineFailed _ _
  | .delay _ =>
      synthesizer

end Synthesizer

def carrierRegisters : List RegisterName :=
  [.frfMsb, .frfMid, .frfLsb]

def keptRegisters : List RegisterName :=
  carrierRegisters ++ singleRegisters

theorem Synthesizer.hear_apart (synthesizer : Synthesizer) {address : Address}
    (value : UInt8) (apart : ∀ name ∈ keptRegisters, name.address ≠ address) :
    synthesizer.hear (.write address value) = synthesizer := by
  simp only [keptRegisters, carrierRegisters, List.cons_append,
    List.forall_mem_cons] at apart
  simp [hear, apart.1.symm, apart.2.1.symm, apart.2.2.1.symm]

def Station.tuned (heard : Synthesizer) (station : Station) : Synthesizer :=
  station.bench.events.foldl Synthesizer.hear heard

theorem Station.tuned_add {heard : Synthesizer} {first second : Station}
    {event : Event}
    (recorded : second.bench.events = first.bench.events ++ [event]) :
    second.tuned heard = (first.tuned heard).hear event := by
  simp [tuned, recorded]

/-! ## Accesses -/

structure Alike (heard : Synthesizer) (first second : Station) : Prop where
  lifecycle : second.radio.lifecycle = first.radio.lifecycle
  configuration : second.radio.configuration = first.radio.configuration
  registers : ∀ name ∈ keptRegisters,
    second.bench.chip.register name.address =
      first.bench.chip.register name.address
  tuned : second.tuned heard = first.tuned heard

structure Wrote (name : RegisterName) (byte : UInt8) (first second : Station) :
    Prop where
  radio : second.radio = first.radio
  chip : second.bench.chip = first.bench.chip.write name.address byte
  events : second.bench.events =
    first.bench.events ++ [.write name.address byte]

theorem keptRegisters_plain {name : RegisterName}
    (member : name ∈ keptRegisters) :
    name.address ≠ RegisterName.fifoAddrPtr.address ∧
      name.address ≠ RegisterName.irqFlags.address := by
  revert name
  decide

namespace Alike

variable {heard : Synthesizer} {station : Station}

theorem add {bench : Bench} {event : Event}
    (recorded : bench.events = station.bench.events ++ [event])
    (unheard : ∀ synthesizer : Synthesizer,
      synthesizer.hear event = synthesizer)
    (registers : ∀ name ∈ keptRegisters, bench.chip.register name.address =
      station.bench.chip.register name.address) :
    Alike heard station ⟨station.radio, bench⟩ where
  lifecycle := rfl
  configuration := rfl
  registers := registers
  tuned := by rw [@Station.tuned_add heard station _ event recorded, unheard]

variable (heard) (station)

theorem read (address : Address) :
    Alike heard station ⟨station.radio, (station.bench.read address).2⟩ := by
  unfold Bench.read
  split
  · refine add (Bench.events_record _ _) (fun _ => rfl) fun name member => ?_
    have plain := keptRegisters_plain member
    exact Chip.register_read plain.1 plain.2
  · exact add (Bench.events_record _ _) (fun _ => rfl) fun _ _ => rfl

theorem write {address : Address} (value : UInt8)
    (apart : ∀ name ∈ keptRegisters, name.address ≠ address) :
    Alike heard station
      ⟨station.radio, (station.bench.write address value).2⟩ := by
  unfold Bench.write
  split
  · refine add (Bench.events_record _ _)
      (fun _ => Synthesizer.hear_apart _ value apart) ?_
    intro name member
    have plain := keptRegisters_plain member
    exact Chip.register_write (apart name member) plain.1 plain.2
  · exact add (Bench.events_record _ _) (fun _ => rfl) fun _ _ => rfl

theorem writeFailed (address : Address) (value : UInt8) :
    Alike heard station
      ⟨station.radio,
        station.bench.countAccess.record (.writeFailed address value)⟩ :=
  add (Bench.events_record _ _) (fun _ => rfl) fun _ _ => rfl

theorem delay (ms : UInt32) :
    Alike heard station ⟨station.radio, station.bench.delay ms⟩ :=
  add (Bench.events_record _ _) (fun _ => rfl) fun _ _ => rfl

theorem setLine (line : Line) (level : Bool) :
    Alike heard station
      ⟨station.radio, (station.bench.setLine line level).2⟩ := by
  unfold Bench.setLine
  dsimp only
  split
  · exact add (Bench.events_record _ _) (fun _ => rfl) fun _ _ => rfl
  · exact add (Bench.events_record _ _) (fun _ => rfl) fun _ _ => rfl

end Alike

def Closed (heard : Synthesizer) (condition : Station → Prop) : Prop :=
  ∀ first second, Alike heard first second → condition first → condition second

namespace Closed

variable {heard : Synthesizer} {condition : Station → Prop}
  (closed : Closed heard condition)

include closed

theorem keeps_read (address : Address) :
    Keeps condition (access (Bus.read address)) := by
  intro station holds
  rw [state_read]
  exact closed _ _ (.read heard station address) holds

theorem keeps_write {address : Address} (value : UInt8)
    (apart : ∀ name ∈ keptRegisters, name.address ≠ address) :
    Keeps condition (access (Bus.write address value)) := by
  intro station holds
  rw [state_write]
  exact closed _ _ (.write heard station value apart) holds

theorem keeps_delay (ms : UInt32) : Keeps condition (delay ms) :=
  fun station holds => closed _ _ (.delay heard station ms) holds

theorem keeps_setLine (line : Line) (level : Bool) :
    Keeps condition (setLine line level) := by
  intro station holds
  rw [state_setLine]
  exact closed _ _ (.setLine heard station line level) holds

theorem meets_write (name : RegisterName) (byte : UInt8) :
    Meets condition (access (Bus.write name.address byte))
      (fun _ final => ∃ start, condition start ∧
        Wrote name byte start final) condition := by
  intro station holds
  cases passes : station.bench.busFaults.passes with
  | true =>
      simp only [access, Bus.write, Bench.write, passes]
      exact ⟨station, holds, rfl, rfl, Bench.events_record _ _⟩
  | false =>
      simp only [access, Bus.write, Bench.write, passes]
      exact closed _ _ (.writeFailed heard station _ _) holds

theorem meets_readRegister [Register ρ] {look : Chip → ρ}
    (looks : ∀ chip : Chip, chip.readRegister ρ = (.ok (look chip), chip)) :
    Meets condition (readRegister ρ)
      (fun register final => condition final ∧
        register = look final.bench.chip) condition := by
  intro station holds
  have kept : condition ((readRegister ρ).run station).state :=
    RadioM.keeps_readRegister (fun offset => closed.keeps_read _) station holds
  have decoded : (station.scene.chip.readRegister ρ).1 =
      .ok (look station.bench.chip) :=
    congrArg Prod.fst (looks station.bench.chip)
  rcases follows_readRegister decoded station rfl with
    ⟨seen, -⟩ | ⟨-, failure, final, events, run, -⟩
  · obtain ⟨final, run, scene⟩ := Outcome.exists_of_view_ok seen
    have chip : final.bench.chip = station.bench.chip :=
      (congrArg Scene.chip scene).trans
        (congrArg Prod.snd (looks station.bench.chip))
    rw [run] at kept ⊢
    exact ⟨kept, by rw [chip]⟩
  · rw [run] at kept ⊢
    exact kept

end Closed

structure OneByte (ρ : Type) [WritableRegister ρ] (name : RegisterName)
    (ofByte : UInt8 → ρ) (toByte : ρ → UInt8) : Prop where
  single : name ∈ singleRegisters
  looks : ∀ chip : Chip,
    chip.readRegister ρ = (.ok (ofByte (chip.register name.address)), chip)
  writes : ∀ register : ρ,
    writeRegister register = access (Bus.write name.address (toByte register))

theorem oneByte_modemConfig1 :
    OneByte ModemConfig1 .modemConfig1 ModemConfig1.ofByte
      ModemConfig1.toByte :=
  ⟨by decide, fun _ => rfl, fun _ => rfl⟩

theorem oneByte_modemConfig2 :
    OneByte ModemConfig2 .modemConfig2 ModemConfig2.ofByte
      ModemConfig2.toByte :=
  ⟨by decide, fun _ => rfl, fun _ => rfl⟩

/-! ## The condition -/

/-- The first two bytes of the carrier are those on the chip. -/
def Faithful (heard : Synthesizer) (station : Station) : Prop :=
  (station.tuned heard).msb =
      station.bench.chip.register RegisterName.frfMsb.address ∧
    (station.tuned heard).mid =
      station.bench.chip.register RegisterName.frfMid.address

/-- The registers that startup does not write have their reset values. -/
def Chip.Unwritten (chip : Chip) : Prop :=
  ∀ name ∈ [RegisterName.modemConfig1, .modemConfig2, .syncWord],
    chip.value name = Chip.fresh.value name

structure Persistent (heard : Synthesizer) (station : Station) : Prop where
  legal : station.radio.configuration.Legal
  faithful : Faithful heard station
  waiting : station.radio.lifecycle = .uninitialized →
    station.radio.configuration.Initial ∧ station.bench.chip.Unwritten
  agrees : station.radio.ready = true →
    Agrees station.radio.configuration station.bench.chip ∧
      (station.tuned heard).word =
        (Carrier.toWord station.radio.configuration.frequency).toNat

theorem Wrote.chip_eq {name : RegisterName} {byte : UInt8}
    {start final : Station} (wrote : Wrote name byte start final)
    (member : name ∈ keptRegisters) :
    final.bench.chip = start.bench.chip.setRegister name.address byte := by
  rw [wrote.chip]
  refine Chip.write_plain ?_ ?_ ?_ byte <;> rintro rfl <;>
    exact absurd member (by decide)

theorem Wrote.tuned {name : RegisterName} {byte : UInt8} {start final : Station}
    (wrote : Wrote name byte start final) (heard : Synthesizer) :
    final.tuned heard = (start.tuned heard).hear (.write name.address byte) :=
  Station.tuned_add wrote.events

section

variable {heard : Synthesizer} {first second start final : Station}
  {name : RegisterName} {byte : UInt8}

theorem Alike.value (alike : Alike heard first second) {name : RegisterName}
    (member : name ∈ keptRegisters) :
    second.bench.chip.value name = first.bench.chip.value name :=
  congrArg UInt8.toNat (alike.registers name member)

theorem Alike.faithful (alike : Alike heard first second)
    (faithful : Faithful heard first) :
    Faithful heard second := by
  rw [Faithful, alike.tuned, alike.registers .frfMsb (by decide),
    alike.registers .frfMid (by decide)]
  exact faithful

theorem Alike.unwritten (alike : Alike heard first second)
    (unwritten : first.bench.chip.Unwritten) : second.bench.chip.Unwritten := by
  intro name member
  have kept : name ∈ keptRegisters := by
    revert name
    decide
  rw [alike.value kept, unwritten name member]

theorem Wrote.faithful (wrote : Wrote name byte start final)
    (member : name ∈ keptRegisters) (faithful : Faithful heard start) :
    Faithful heard final := by
  obtain ⟨msb, mid⟩ := faithful
  rw [Faithful, wrote.tuned, wrote.chip_eq member]
  simp only [keptRegisters, carrierRegisters, singleRegisters, List.mem_append,
    List.mem_cons, List.not_mem_nil, or_false, or_assoc] at member
  rcases member with rfl | rfl | rfl | rfl | rfl | rfl | rfl <;>
    simp [Synthesizer.hear, msb, mid]

theorem Wrote.agrees (wrote : Wrote name byte start final)
    (carrier : name ∈ carrierRegisters) {known : Configuration}
    (agrees : Agrees known start.bench.chip) :
    Agrees known final.bench.chip := by
  refine agrees.congr fun single member => ?_
  have other : name ≠ single := by
    rintro rfl
    revert carrier member
    cases name <;> decide
  rw [wrote.chip_eq (by simp [keptRegisters, carrier]), Chip.value_setRegister,
    if_neg other]

namespace Persistent

theorem closed : Closed heard (Persistent heard) := by
  intro first second alike holds
  refine ⟨?_, alike.faithful holds.faithful, ?_, ?_⟩
  · rw [alike.configuration]
    exact holds.legal
  · intro new
    rw [alike.lifecycle] at new
    obtain ⟨settings, unwritten⟩ := holds.waiting new
    rw [alike.configuration]
    exact ⟨settings, alike.unwritten unwritten⟩
  · intro ready
    rw [Radio.ready, alike.lifecycle] at ready
    obtain ⟨agrees, word⟩ := holds.agrees ready
    rw [alike.configuration, alike.tuned]
    exact ⟨agrees.congr fun name member => alike.value
      (by simp [keptRegisters, member]), word⟩

theorem closed_live : Closed heard (Live (Persistent heard)) := by
  intro first second alike live
  refine ⟨closed _ _ alike live.1, ?_⟩
  rw [Radio.ready, alike.lifecycle]
  exact live.2

theorem ofReady {station : Station} (ready : station.radio.ready = true)
    (legal : station.radio.configuration.Legal)
    (faithful : Faithful heard station)
    (agrees : Agrees station.radio.configuration station.bench.chip)
    (word : (station.tuned heard).word =
      (Carrier.toWord station.radio.configuration.frequency).toNat) :
    Live (Persistent heard) station := by
  refine ⟨⟨legal, faithful, fun new => ?_, fun _ => ⟨agrees, word⟩⟩, ready⟩
  simp [Radio.ready, new] at ready

/-- A byte is written, and then the driver remembers what it stands for. -/
theorem commit {change : Configuration → Configuration}
    (live : Live (Persistent heard) start) (wrote : Wrote name byte start final)
    (single : name ∈ singleRegisters)
    (legal : (change start.radio.configuration).Legal)
    (same : (change start.radio.configuration).frequency =
      start.radio.configuration.frequency)
    (agrees : Agrees (change start.radio.configuration)
      (start.bench.chip.setRegister name.address byte)) :
    Live (Persistent heard) ((modifyConfiguration change).run final).state := by
  have member : name ∈ keptRegisters := by simp [keptRegisters, single]
  have unheard : (start.tuned heard).hear (.write name.address byte) =
      start.tuned heard := by
    simp only [singleRegisters, List.mem_cons, List.not_mem_nil,
      or_false] at single
    rcases single with rfl | rfl | rfl | rfl <;> rfl
  obtain ⟨⟨-, faithful, -, holds⟩, ready⟩ := live
  refine ofReady ?_ ?_ (wrote.faithful member faithful) ?_ ?_
  · change final.radio.ready = true
    rw [wrote.radio, ready]
  · change (change final.radio.configuration).Legal
    rw [wrote.radio]
    exact legal
  · change Agrees (change final.radio.configuration) final.bench.chip
    rw [wrote.radio, wrote.chip_eq member]
    exact agrees
  · change (final.tuned heard).word =
      (Carrier.toWord (change final.radio.configuration).frequency).toNat
    rw [wrote.tuned, unheard, wrote.radio, same]
    exact (holds ready).2

/-! ## Setters -/

theorem keeps_modifyConfiguration {change : Configuration → Configuration}
    (legal : ∀ known : Configuration, known.Legal → (change known).Legal)
    (same : ∀ known, (change known).frequency = known.frequency)
    (agrees : ∀ {known chip}, Agrees known chip → Agrees (change known) chip) :
    Keeps (Live (Persistent heard)) (modifyConfiguration change) := by
  rintro station ⟨holds, ready⟩
  obtain ⟨known, word⟩ := holds.agrees ready
  refine ofReady ready (legal _ holds.legal) holds.faithful (agrees known) ?_
  change (station.tuned heard).word =
    (Carrier.toWord (change _).frequency).toNat
  rw [same, word]

theorem closed_seen {ofByte : UInt8 → ρ} (member : name ∈ keptRegisters)
    (register : ρ) :
    Closed heard fun station => Live (Persistent heard) station ∧
      register = ofByte (station.bench.chip.register name.address) := by
  rintro first second alike ⟨live, seen⟩
  exact ⟨closed_live _ _ alike live, by rw [alike.registers name member, seen]⟩

theorem keeps_rewrite [WritableRegister ρ] {ofByte : UInt8 → ρ}
    {toByte : ρ → UInt8} (oneByte : OneByte ρ name ofByte toByte)
    {change : ρ → ρ} {configure : Configuration → Configuration}
    (legal : ∀ known : Configuration, known.Legal → (configure known).Legal)
    (same : ∀ known, (configure known).frequency = known.frequency)
    (agrees : ∀ {known chip}, known.Legal → Agrees known chip →
      Agrees (configure known)
        (chip.update name fun byte => toByte (change (ofByte byte)))) :
    Keeps (Live (Persistent heard)) (updateRegister change >>= fun _ =>
      modifyConfiguration configure) := by
  have member : name ∈ keptRegisters := by simp [keptRegisters, oneByte.single]
  rw [updateRegister, bind_assoc]
  -- A failure before the write leaves all as it was; nothing can fail between
  -- it and the end.
  refine Meets.keeps
    (.bind (closed_live.meets_readRegister oneByte.looks) fun register => ?_)
  rw [oneByte.writes]
  refine .bind
    (((closed_seen member register).meets_write name _).imp (fun _ _ => id)
    fun _ lost => lost.1) fun _ => ?_
  rintro final ⟨start, ⟨live, rfl⟩, wrote⟩
  have known := (live.1.agrees live.2).1
  exact commit live wrote oneByte.single (legal _ live.1.legal) (same _)
    (agrees live.1.legal known)

theorem keeps_store (single : name ∈ singleRegisters)
    {configure : Configuration → Configuration}
    (legal : ∀ known : Configuration, known.Legal → (configure known).Legal)
    (same : ∀ known, (configure known).frequency = known.frequency)
    (agrees : ∀ {known chip}, Agrees known chip →
      Agrees (configure known) (chip.setRegister name.address byte)) :
    Keeps (Live (Persistent heard))
      (access (Bus.write name.address byte) >>= fun _ =>
      modifyConfiguration configure) := by
  refine Meets.keeps (.bind (closed_live.meets_write name byte) fun _ => ?_)
  rintro final ⟨start, live, wrote⟩
  have known := (live.1.agrees live.2).1
  exact commit live wrote single (legal _ live.1.legal) (same _) (agrees known)

theorem closed_tuned (look : Synthesizer → Prop) :
    Closed heard fun station => Live (Persistent heard) station ∧
      look (station.tuned heard) := by
  rintro first second alike ⟨live, looked⟩
  exact ⟨closed_live _ _ alike live, by rwa [alike.tuned]⟩

/-- The first bytes of a carrier do not count yet. -/
theorem advance (live : Live (Persistent heard) start)
    (wrote : Wrote name byte start final)
    (early : name = .frfMsb ∨ name = .frfMid) :
    Live (Persistent heard) final := by
  have carrier : name ∈ carrierRegisters := by
    rcases early with rfl | rfl <;> decide
  have word : (final.tuned heard).word = (start.tuned heard).word := by
    rw [wrote.tuned]
    rcases early with rfl | rfl <;> rfl
  obtain ⟨⟨legal, faithful, -, holds⟩, ready⟩ := live
  obtain ⟨known, counts⟩ := holds ready
  refine ofReady ?_ ?_
    (wrote.faithful (by simp [keptRegisters, carrier]) faithful) ?_ ?_
  · rw [wrote.radio, ready]
  · rw [wrote.radio]
    exact legal
  · rw [wrote.radio]
    exact wrote.agrees carrier known
  · rw [wrote.radio, word, counts]

/-- The last byte brings the carrier into effect, and then the driver remembers
it. -/
theorem tune {hz : UInt32} (fits : Carrier.span.Contains hz)
    (live : Live (Persistent heard) start)
    (msb : (start.tuned heard).msb =
      UInt8.ofNat ((Carrier.toWord hz).toNat >>> 16))
    (mid : (start.tuned heard).mid =
      UInt8.ofNat ((Carrier.toWord hz).toNat >>> 8))
    (wrote : Wrote .frfLsb (UInt8.ofNat (Carrier.toWord hz).toNat)
      start final) :
    Live (Persistent heard) ((modifyConfiguration fun known =>
      { known with frequency := hz }).run final).state := by
  obtain ⟨⟨legal, faithful, -, holds⟩, ready⟩ := live
  refine ofReady ?_ ?_ (wrote.faithful (by decide) faithful) ?_ ?_
  · change final.radio.ready = true
    rw [wrote.radio, ready]
  · change { final.radio.configuration with frequency := hz }.Legal
    rw [wrote.radio]
    exact { legal with frequency := fits }
  · change Agrees
      { final.radio.configuration with frequency := hz } final.bench.chip
    rw [wrote.radio]
    exact { wrote.agrees (by decide) (holds ready).1 with }
  · change (final.tuned heard).word = (Carrier.toWord hz).toNat
    rw [wrote.tuned]
    change 65536 * (start.tuned heard).msb.toNat
      + 256 * (start.tuned heard).mid.toNat + _ = _
    rw [msb, mid]
    exact bytes_of_word (Carrier.toNat_toWord_lt fits)

theorem writeCarrier_eq (hz : UInt32) :
    writeRegister (CarrierWord.ofHz hz) =
      (access (Bus.write RegisterName.frfMsb.address
          (UInt8.ofNat ((Carrier.toWord hz).toNat >>> 16))) >>= fun _ =>
        access (Bus.write RegisterName.frfMid.address
          (UInt8.ofNat ((Carrier.toWord hz).toNat >>> 8)))) >>= fun _ =>
      access (Bus.write RegisterName.frfLsb.address
        (UInt8.ofNat (Carrier.toWord hz).toNat)) := by
  change access
    (((pure () >>= fun _ => Bus.write _ _) >>= fun _ => Bus.write _ _) >>=
      fun _ =>
    Bus.write _ _) = _
  rw [access_bind, access_bind]
  rfl

theorem keeps_setFrequency {hz : UInt32} (fits : Carrier.span.Contains hz) :
    Keeps (Live (Persistent heard))
      (writeRegister (CarrierWord.ofHz hz) >>= fun _ =>
      modifyConfiguration fun known => { known with frequency := hz }) := by
  rw [writeCarrier_eq]
  -- After each of the first two bytes a failure leaves the old carrier in
  -- effect and known.
  generalize high : UInt8.ofNat ((Carrier.toWord hz).toNat >>> 16) = msb
  generalize middle : UInt8.ofNat ((Carrier.toWord hz).toNat >>> 8) = mid
  have first : Meets (Live (Persistent heard))
      (access (Bus.write RegisterName.frfMsb.address msb))
      (fun _ final => Live (Persistent heard) final ∧
        (final.tuned heard).msb = msb)
      (Live (Persistent heard)) := by
    refine (closed_live.meets_write .frfMsb msb).imp ?_ fun _ => id
    rintro - final ⟨start, live, wrote⟩
    exact ⟨advance live wrote (.inl rfl), by rw [wrote.tuned]; rfl⟩
  have second : Meets
      (fun start => Live (Persistent heard) start ∧
        (start.tuned heard).msb = msb)
      (access (Bus.write RegisterName.frfMid.address mid))
      (fun _ final => Live (Persistent heard) final ∧
        (final.tuned heard).msb = msb ∧
        (final.tuned heard).mid = mid)
      (Live (Persistent heard)) := by
    have closed := @closed_tuned heard fun tuned => tuned.msb = msb
    refine (closed.meets_write .frfMid mid).imp ?_ fun _ lost => lost.1
    rintro - final ⟨start, ⟨live, same⟩, wrote⟩
    refine ⟨advance live wrote (.inr rfl), ?_, ?_⟩
    · rw [wrote.tuned, ← same]
      rfl
    · rw [wrote.tuned]
      rfl
  have third :=
    (@closed_tuned heard fun tuned => tuned.msb = msb ∧
      tuned.mid = mid).meets_write
    .frfLsb (UInt8.ofNat (Carrier.toWord hz).toNat)
  refine Meets.keeps (.bind (.bind (.bind first fun _ => second) fun _ =>
    third.imp (fun _ _ => id) fun _ lost => lost.1) fun _ => ?_)
  rintro final ⟨start, ⟨live, hasMsb, hasMid⟩, wrote⟩
  exact tune fits live (hasMsb.trans high.symm) (hasMid.trans middle.symm) wrote

theorem keeps_setHeaderMode (mode : HeaderMode) :
    Keeps (Live (Persistent heard)) (setHeaderMode mode) :=
  keeps_rewrite oneByte_modemConfig1 (fun _ legal => { legal with })
    (fun _ => rfl) fun _ => .putHeaderMode

theorem keeps_writeApart [WritableRegister ρ] (register : ρ)
    (apart : ∀ offset : Fin (Register.width ρ), ∀ name ∈ keptRegisters,
      name.address ≠ Register.address ρ offset) :
    Keeps (Live (Persistent heard)) (writeRegister register) :=
  keeps_writeRegister register fun offset value =>
    closed_live.keeps_write value (apart offset)

theorem keeps_updateLowDataRate :
    Keeps (Live (Persistent heard)) updateLowDataRate := by
  refine .bind keeps_getConfiguration fun known =>
    .bind (keeps_checked _) fun enabled => ?_
  refine .bind (keeps_readRegister fun _ => closed_live.keeps_read _)
    fun modem => ?_
  exact keeps_writeApart _ (by decide)

theorem keeps_set (setting : Setting) :
    Keeps (Live (Persistent heard)) setting.set := by
  have legal : ∀ known : Configuration, known.Legal →
      (setting.configure known).Legal :=
    fun _ => setting.legal_configure
  cases setting with
  | frequency hz =>
      exact Live.keeps_whenReady ()
        (keeps_setFrequency (Span.contains_clamp (by decide) hz))
  | power dbm amplifier =>
      have fits := amplifier.contains_clampPower dbm
      have keeps := @keeps_store heard .paConfig
        (AmplifierSetup.ofLegal amplifier (amplifier.clampPower dbm)).toByte
          (by decide)
        (Setting.power dbm amplifier).configure legal (fun _ => rfl)
          (.putPower fits)
      refine Live.keeps_whenReady () ?_
      rw [programPower, AmplifierSetup.ofPower_of_legal fits]
      exact keeps
  | spreadingFactor factor =>
      refine Live.keeps_whenReady ()
        (.bind (keeps_writeApart _ (by decide)) fun _ => ?_)
      refine .bind (keeps_writeApart _ (by decide)) fun _ => ?_
      rw [← bind_assoc]
      refine .bind
          (keeps_rewrite oneByte_modemConfig2 legal (fun _ => rfl) fun _ => ?_)
          fun _ =>
        keeps_updateLowDataRate
      exact .putFactor (Span.contains_clamp (by decide) factor)
  | bandwidth hz =>
      refine Live.keeps_whenReady () ?_
      rw [← bind_assoc]
      exact .bind (keeps_rewrite oneByte_modemConfig1 legal
          (fun _ => rfl) .putBandwidth) fun _ =>
        keeps_updateLowDataRate
  | codingRate denominator =>
      have fits : CodingRate.span.Contains (CodingRate.clamp denominator) :=
        Span.contains_clamp (by decide) denominator
      have atLeast : 4 ≤ (CodingRate.clamp denominator).toNat :=
        Nat.le_of_succ_le (UInt8.le_iff_toNat_le.mp fits.1)
      refine Live.keeps_whenReady () ?_
      dsimp only
      rw [Checked.sub_of_le atLeast]
      have keeps := @keeps_rewrite _ heard _ _ _ _ oneByte_modemConfig1
        (fun modem => { modem with
          codingRate :=
            UInt8.ofNat ((CodingRate.clamp denominator).toNat - 4) })
        (Setting.codingRate denominator).configure legal (fun _ => rfl)
        fun legal => .putCodingRate legal fits
      rw [updateRegister, bind_assoc] at keeps
      exact keeps
  | preambleLength symbols =>
      refine Live.keeps_whenReady ()
        (.bind (keeps_writeApart _ (by decide)) fun _ => ?_)
      exact keeps_modifyConfiguration legal (fun _ => rfl) fun agrees =>
        { agrees with }
  | syncWord word =>
      have keeps := @keeps_store heard .syncWord word (by decide)
        (Setting.syncWord word).configure legal (fun _ => rfl) .putSyncWord
      exact Live.keeps_whenReady () keeps
  | checksum enabled =>
      exact Live.keeps_whenReady ()
        (keeps_rewrite oneByte_modemConfig2 legal (fun _ => rfl)
          fun _ => .putChecksum)
  | polling wait =>
      exact keeps_modifyConfiguration legal (fun _ => rfl) fun agrees =>
        { agrees with }

theorem keeps_setPolling (wait : Polling) :
    Keeps (Persistent heard) (setPolling wait) := by
  intro station holds
  refine ⟨{ holds.legal with }, holds.faithful, fun new => ?_, fun ready => ?_⟩
  · obtain ⟨initial, unwritten⟩ := holds.waiting new
    exact ⟨Setting.initial_polling initial wait, unwritten⟩
  · obtain ⟨agrees, word⟩ := holds.agrees ready
    exact ⟨{ agrees with }, word⟩

end Persistent

/-! ## Startup -/

/-- A driver that has not set anything yet, at whatever stage its startup is. -/
structure Fallow (heard : Synthesizer) (station : Station) : Prop where
  settings : station.radio.configuration.Initial
  unwritten : station.bench.chip.Unwritten
  faithful : Faithful heard station

namespace Fallow

theorem closed : Closed heard (Fallow heard) := by
  intro first second alike holds
  refine ⟨?_, alike.unwritten holds.unwritten, alike.faithful holds.faithful⟩
  rw [alike.configuration]
  exact holds.settings

theorem startable : Startable (Fallow heard) where
  line := closed.keeps_setLine
  delay := closed.keeps_delay
  read := closed.keeps_read
  write name member value := by
    by_cases kept : name ∈ keptRegisters
    · refine Meets.keeps ((closed.meets_write name value).imp ?_ fun _ => id)
      rintro - final ⟨start, fallow, wrote⟩
      refine ⟨?_, ?_, wrote.faithful kept fallow.faithful⟩
      · rw [wrote.radio]
        exact fallow.settings
      · intro other inside
        have apart : name ≠ other := by
          rintro rfl
          revert member inside
          cases name <;> decide
        rw [wrote.chip_eq kept, Chip.value_setRegister, if_neg apart]
        exact fallow.unwritten other inside
    · refine closed.keeps_write value ?_
      rintro other inside same
      rw [RegisterName.address_inj.mp same] at inside
      exact kept inside
  version _ _ fallow := ⟨fallow.settings, fallow.unwritten, fallow.faithful⟩
  power _ fallow :=
    ⟨Setting.initial_power fallow.settings, fallow.unwritten, fallow.faithful⟩

theorem stage (lifecycle : Lifecycle) :
    Keeps (Fallow heard) (setLifecycle lifecycle) :=
  fun _ fallow => ⟨fallow.settings, fallow.unwritten, fallow.faithful⟩

theorem word_startup {before : Scene} (legal : before.radio.configuration.Legal)
    (ready : (startup before).radio.ready = true) (tuned : Synthesizer) :
    ((startupScript before).foldl Synthesizer.hear tuned).word =
      (Carrier.toWord before.radio.configuration.frequency).toNat := by
  obtain ⟨complete, required⟩ := usable_of_startup_ready ready
  rw [startupScript, if_pos complete]
  simp only [if_pos required]
  exact bytes_of_word (Carrier.toNat_toWord_lt legal.frequency)

theorem agrees_startup {before : Scene}
    (initial : before.radio.configuration.Initial)
    (unwritten : before.chip.Unwritten)
    (ready : (startup before).radio.ready = true) :
    Agrees (startup before).radio.configuration (startup before).chip ∧
      (startup before).radio.configuration.frequency =
        before.radio.configuration.frequency := by
  obtain ⟨polling, known⟩ := initial
  obtain ⟨complete, required⟩ := usable_of_startup_ready ready
  rw [startup, if_pos complete]
  simp only [if_pos required, known]
  exact ⟨.putDefaults polling unwritten, rfl⟩

end Fallow

namespace Persistent

theorem fallow {station : Station} (holds : Persistent heard station)
    (new : station.radio.lifecycle = .uninitialized) : Fallow heard station :=
  ⟨(holds.waiting new).1, (holds.waiting new).2, holds.faithful⟩

theorem ofFallow {station : Station} (fallow : Fallow heard station)
    (agrees : station.radio.ready = true →
      Agrees station.radio.configuration station.bench.chip ∧
        (station.tuned heard).word =
          (Carrier.toWord station.radio.configuration.frequency).toNat) :
    Persistent heard station :=
  ⟨fallow.settings.legal, fallow.faithful,
    fun _ => ⟨fallow.settings, fallow.unwritten⟩, agrees⟩

theorem keeps_ensureReady : Keeps (Persistent heard) ensureReady := by
  intro station holds
  by_cases new : station.radio.lifecycle = .uninitialized
  · have fallow := holds.fallow new
    have reached :=
      Fallow.startable.keeps_ensureReady Fallow.stage station fallow
    refine ofFallow reached fun ready => ?_
    -- Only a startup without failures ends in service.
    rcases @follows_ensureReady station.scene new holds.legal station rfl with
      ⟨seen, records⟩ | ⟨-, failure, final, events, run, -⟩
    · obtain ⟨final, run, scene⟩ := Outcome.exists_of_view_ok seen
      rw [run] at records ready ⊢
      have radio : final.radio = (startup station.scene).radio :=
        congrArg Scene.radio scene
      have chip : final.bench.chip = (startup station.scene).chip :=
        congrArg Scene.chip scene
      have heardAll : final.tuned heard =
          (startupScript station.scene).foldl Synthesizer.hear
            (station.tuned heard) := by
        have recorded : final.bench.events = station.bench.events ++ _ :=
          records.recorded
        rw [Station.tuned, recorded, List.foldl_append]
        rfl
      change final.radio.ready = true at ready
      change Agrees final.radio.configuration final.bench.chip ∧
        (final.tuned heard).word =
          (Carrier.toWord final.radio.configuration.frequency).toNat
      rw [radio] at ready
      obtain ⟨agrees, same⟩ :=
        Fallow.agrees_startup fallow.settings fallow.unwritten ready
      rw [radio, chip, same, heardAll]
      exact ⟨agrees, Fallow.word_startup holds.legal ready _⟩
    · rw [run] at ready
      simp [Radio.ready, lifecycle_of_run_error run] at ready
  · rw [run_ensureReady_of_started new]
    exact holds

theorem keeps_writeMode (mode : Mode) :
    Keeps (Live (Persistent heard)) (writeMode mode) :=
  closed_live.keeps_write _ (by decide)

theorem steady : Steady (Persistent heard) where
  start := keeps_ensureReady
  read _ := closed_live.keeps_read _
  rest mode _ := keeps_writeMode mode

theorem lasting : Lasting (Persistent heard) where
  toSteady := steady
  mode := keeps_writeMode
  buffer := closed_live.keeps_read _
  write name member value := by
    apply closed_live.keeps_write
    revert name
    decide
  delay := closed_live.keeps_delay
  cursor _ := fun _ live =>
    ⟨⟨live.1.legal, live.1.faithful, live.1.waiting, live.1.agrees⟩, live.2⟩
  header := keeps_setHeaderMode
  set := steady.keeps_set keeps_set keeps_setPolling

theorem robust : Robust (Persistent heard) where
  toEnduring := lasting.enduring
  startStops := by
    have startable := startable_initializing.and (@Fallow.startable heard)
    have halts : RadioTask.Halts (Persistent heard) RadioTask.ensureReady _ :=
      startable.halts_ensureReady fun station holds new =>
        ⟨rfl, Fallow.stage .initializing station (holds.fallow new)⟩
    intro station holds stop member
    obtain ⟨starting, fallow⟩ := halts station holds stop member
    refine ofFallow fallow fun ready => ?_
    simp [Radio.ready, starting] at ready
  headerStops mode := by
    -- The last stop is before the byte is written; the mode is remembered
    -- without another one.
    refine .andThen (.bind ?_ ?_ fun modem => ?_)
        (fun _ _ _ _ _ => trivial) fun _ =>
      .ofNone fun _ => rfl
    · exact RadioTask.halts_readRegister Live.left fun _ =>
        closed_live.keeps_read _
    · rw [RadioTask.complete_readRegister]
      exact keeps_readRegister fun _ => closed_live.keeps_read _
    · exact RadioTask.halts_write Live.left _ _

end Persistent

end

end LoraRadio
