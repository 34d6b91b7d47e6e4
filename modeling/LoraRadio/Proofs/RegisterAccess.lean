import LoraRadio.Proofs.Bits
import LoraRadio.Proofs.Completion
import LoraRadio.Proofs.Record
import LoraRadio.Trace

/-!
# Access to typed registers

A register is accessed byte by byte, and the first access that fails is the last
one.  What a fault window does to such a row of accesses is known in advance:
those before the failing one have their effect on the chip, it has none, and
nothing comes after it.
-/

namespace LoraRadio

open Operation

variable {α β ρ : Type}

/-! ## Rows of accesses -/

namespace FaultWindow

variable {window : FaultWindow}

/-- The first of the next `count` attempts that fails: `window.after` attempts
pass before it. -/
def firstFailure (window : FaultWindow) (count : Nat) : Option (Fin count) :=
  if fails : window.count ≠ 0 ∧ window.after < count then
    some ⟨window.after, fails.2⟩ else none

theorem firstFailure_of_refused (refused : window.passes = false)
    (count : Nat) :
    window.firstFailure (count + 1) = some 0 := by
  obtain ⟨after, broken⟩ := window
  simp only [passes, Bool.or_eq_false_iff, decide_eq_false_iff_not, Nat.not_lt,
    Nat.le_zero] at refused
  obtain ⟨rfl, broken⟩ := refused
  simp [firstFailure, broken]

theorem firstFailure_of_passes (passes : window.passes = true) (count : Nat) :
    window.firstFailure (count + 1) =
      (window.next.firstFailure count).map Fin.succ := by
  obtain ⟨after, broken⟩ := window
  cases after with
  | zero =>
      have empty : broken = 0 := by simpa [FaultWindow.passes] using passes
      simp [firstFailure, next, empty]
  | succ after =>
      by_cases fails : broken ≠ 0 ∧ after < count
      · simp [firstFailure, next, fails]
      · simp [firstFailure, next, fails]

end FaultWindow

def Event.failed (event : Event) : Event :=
  (event.broken.map Prod.fst).getD event

namespace Bench

def heard (bench : Bench) (event : Event) : Bench :=
  { bench.countAccess with chip := bench.chip.hear event }.record event

def refused (bench : Bench) (event : Event) : Bench :=
  bench.countAccess.record event

def accessed (bench : Bench) (events : List Event) : Bench :=
  events.foldl heard bench

theorem chip_accessed (bench : Bench) (events : List Event) :
    (bench.accessed events).chip = bench.chip.replay events := by
  induction events generalizing bench with
  | nil => rfl
  | cons event rest ih => exact ih (bench.heard event)

theorem events_accessed (bench : Bench) (events : List Event) :
    (bench.accessed events).events = bench.events ++ events := by
  induction events generalizing bench with
  | nil => exact (List.append_nil _).symm
  | cons event rest ih =>
      refine (ih (bench.heard event)).trans ?_
      rw [heard, events_record, List.append_assoc]
      rfl

def attempt (bench : Bench) (events : List Event) (value : α) :
    Outcome AccessError Bench α :=
  match events with
  | [] => .ok value bench
  | event :: rest =>
      if bench.busFaults.passes then (bench.heard event).attempt rest value
      else .error .bus (bench.refused event.failed)

theorem attempt_andThen {bench : Bench} {first second : List Event} {value : α}
    {result : β} {next : α → Bench → Outcome AccessError Bench β}
    (rest : ∀ after : Bench, after.chip = bench.chip.replay first →
      next value after = after.attempt second result) :
    (bench.attempt first value).andThen next =
      bench.attempt (first ++ second) result := by
  induction first generalizing bench with
  | nil => exact rest bench rfl
  | cons event others ih =>
      rw [List.cons_append, attempt, attempt]
      cases bench.busFaults.passes with
      | true => exact ih rest
      | false => rfl

theorem attempt_ofFn {count : Nat} (bench : Bench) (event : Fin count → Event)
    (value : α) :
    bench.attempt (List.ofFn event) value =
      match bench.busFaults.firstFailure count with
      | none => .ok value (bench.accessed (List.ofFn event))
      | some index =>
          .error .bus ((bench.accessed ((List.ofFn event).take index)).refused
            (event index).failed) := by
  induction count generalizing bench with
  | zero => simp [attempt, FaultWindow.firstFailure, accessed]
  | succ count ih =>
      rw [List.ofFn_succ, attempt]
      cases passes : bench.busFaults.passes with
      | true =>
          have ahead : (bench.heard (event 0)).busFaults =
              bench.busFaults.next := rfl
          rw [if_pos rfl, ih, ahead, FaultWindow.firstFailure_of_passes passes]
          cases bench.busFaults.next.firstFailure count <;> rfl
      | false =>
          rw [FaultWindow.firstFailure_of_refused passes]
          rfl

theorem attempt_of_length {count : Nat} {events : List Event}
    (length : events.length = count) (bench : Bench) (value : α) :
    bench.attempt events value =
      match bench.busFaults.firstFailure count with
      | none => .ok value (bench.accessed events)
      | some index =>
          .error .bus ((bench.accessed (events.take index)).refused
            (events.get (index.cast length.symm)).failed) := by
  subst length
  have row := bench.attempt_ofFn events.get value
  rwa [show List.ofFn events.get = events from
    List.ext_getElem (by simp) (by simp)] at row

end Bench

/-! ## Bytes in a row -/

theorem get_push_castSucc {count : Nat} (bytes : Vector UInt8 count)
    (byte : UInt8) (offset : Fin count) :
    (bytes.push byte).get offset.castSucc = bytes.get offset :=
  Vector.getElem_push_lt offset.isLt

theorem get_push_last {count : Nat} (bytes : Vector UInt8 count)
    (byte : UInt8) :
    (bytes.push byte).get (Fin.last count) = byte :=
  Vector.getElem_push_eq

namespace Register

variable [Register ρ]

def writes (ρ : Type) [Register ρ] (bytes : Vector UInt8 (width ρ)) :
    List Event :=
  List.ofFn fun offset => .write (address ρ offset) (bytes.get offset)

def reads (ρ : Type) [Register ρ] (bytes : Vector UInt8 (width ρ)) :
    List Event :=
  List.ofFn fun offset => .read (address ρ offset) (bytes.get offset)

def interpret (bytes : Vector UInt8 (width ρ)) (bench : Bench) :
    Outcome AccessError Bench ρ :=
  match decode bytes with
  | .ok register => .ok register bench
  | .error _ => .error .decoding bench

/-- Every byte of the register only keeps what is written to it. -/
def Inert (ρ : Type) [Register ρ] : Prop :=
  ∀ offset : Fin (width ρ), ∀ name ∈ [RegisterName.fifo, .opMode, .irqFlags],
    address ρ offset ≠ name.address

instance : Decidable (Inert ρ) :=
  inferInstanceAs (Decidable (∀ offset : Fin (width ρ), ∀ name ∈ _,
    address ρ offset ≠ _))

theorem address_inj {first second : Fin (width ρ)} :
    address ρ first = address ρ second ↔ first = second := by
  simp [address, Fin.ext_iff]

end Register

theorem writeScript_eq_ofFn [Register ρ]
    (bytes : Vector UInt8 (Register.width ρ)) (count : Nat)
    (within : count ≤ Register.width ρ) :
    writeScript ρ bytes count within = List.ofFn fun offset : Fin count =>
      .write (Register.address ρ (offset.castLE within))
        (bytes.get (offset.castLE within)) := by
  induction count with
  | zero => rfl
  | succ count ih =>
      rw [writeScript, ih, List.ofFn_succ_last]
      rfl

namespace Chip

variable [Register ρ]

theorem fst_readBytes_succ (chip : Chip) {count : Nat}
    (within : count + 1 ≤ Register.width ρ) :
    (chip.readBytes ρ (count + 1) within).1 =
      (chip.readBytes ρ count (Register.le_width_of_succ within)).1.push
        ((chip.readBytes ρ count (Register.le_width_of_succ within)).2.read
          (Register.address ρ ⟨count, within⟩)).1 := rfl

theorem snd_readBytes_succ (chip : Chip) {count : Nat}
    (within : count + 1 ≤ Register.width ρ) :
    (chip.readBytes ρ (count + 1) within).2 =
      ((chip.readBytes ρ count (Register.le_width_of_succ within)).2.read
        (Register.address ρ ⟨count, within⟩)).2 := rfl

theorem readScript_eq_ofFn (chip : Chip) (count : Nat)
    (within : count ≤ Register.width ρ) :
    chip.readScript ρ count within = List.ofFn fun offset : Fin count =>
      .read (Register.address ρ (offset.castLE within))
        ((chip.readBytes ρ count within).1.get offset) := by
  induction count with
  | zero => rfl
  | succ count ih =>
      rw [readScript, ih, List.ofFn_succ_last, fst_readBytes_succ]
      simp only [get_push_castSucc, get_push_last]
      rfl

theorem replay_readScript (chip : Chip) (count : Nat)
    (within : count ≤ Register.width ρ) :
    chip.replay (chip.readScript ρ count within) =
      (chip.readBytes ρ count within).2 := by
  induction count with
  | zero => rfl
  | succ count ih =>
      rw [readScript, replay_append, ih]
      rfl

theorem replay_writeScript (chip : Chip)
    (bytes : Vector UInt8 (Register.width ρ)) (count : Nat)
    (within : count ≤ Register.width ρ) :
    chip.replay (writeScript ρ bytes count within) =
      chip.writeBytes ρ bytes count within := by
  induction count with
  | zero => rfl
  | succ count ih =>
      rw [writeScript, replay_append, ih]
      rfl

end Chip

/-! ## Typed registers -/

namespace Bus

theorem run_read (header : ReadHeader) (bench : Bench) :
    (read header).run bench =
      bench.attempt [.read header (bench.chip.read header.address).1]
        (bench.chip.read header.address).1 := by
  rw [read, Bench.attempt]
  simp only [Bench.read]
  cases bench.busFaults.passes <;> rfl

theorem run_write (header : WriteHeader) (value : UInt8) (bench : Bench) :
    (write header value).run bench =
      bench.attempt [.write header value] () := by
  rw [write, Bench.attempt]
  simp only [Bench.write]
  cases bench.busFaults.passes <;> rfl

theorem run_writeBytes [Register ρ] (bytes : Vector UInt8 (Register.width ρ))
    (count : Nat) (within : count ≤ Register.width ρ) (bench : Bench) :
    (writeBytes ρ bytes count within).run bench =
      bench.attempt (writeScript ρ bytes count within) () := by
  induction count with
  | zero => rfl
  | succ count ih =>
      rw [writeBytes, run_bind, ih, writeScript]
      exact Bench.attempt_andThen fun after _ => run_write _ _ after

theorem run_readBytes [Register ρ] (count : Nat)
    (within : count ≤ Register.width ρ) (bench : Bench) :
    (readBytes ρ count within).run bench =
      bench.attempt (bench.chip.readScript ρ count within)
        (bench.chip.readBytes ρ count within).1 := by
  induction count with
  | zero => rfl
  | succ count ih =>
      rw [readBytes, run_bind, ih, Chip.readScript]
      -- What the last access finds depends on what those before it did to the
      -- chip.
      refine Bench.attempt_andThen fun after reached => ?_
      rw [Chip.replay_readScript] at reached
      rw [run_bind, run_read, reached]
      exact @Bench.attempt_andThen _ _ after [_] [] _ _ _ fun _ _ => rfl

theorem run_writeRegister [WritableRegister ρ] (register : ρ) (bench : Bench) :
    (writeRegister register).run bench =
      match bench.busFaults.firstFailure (Register.width ρ) with
      | none => .ok ()
          (bench.accessed (Register.writes ρ
            (EncodableRegister.encode register)))
      | some offset =>
          .error .bus ((bench.accessed
            ((Register.writes ρ (EncodableRegister.encode register)).take
              offset)).refused
              (.writeFailed (Register.address ρ offset)
                ((EncodableRegister.encode register).get offset))) := by
  rw [writeRegister, writeAll, run_writeBytes, writeScript_eq_ofFn,
    Bench.attempt_ofFn]
  cases bench.busFaults.firstFailure (Register.width ρ) <;> rfl

theorem run_readRegister [Register ρ] (bench : Bench) :
    let bytes :=
      (bench.chip.readBytes ρ (Register.width ρ) Register.width_le_width).1
    (readRegister ρ).run bench =
      match bench.busFaults.firstFailure (Register.width ρ) with
      | none => Register.interpret bytes
          (bench.accessed (Register.reads ρ bytes))
      | some offset =>
          .error .bus ((bench.accessed
            ((Register.reads ρ bytes).take offset)).refused
            (.readFailed (Register.address ρ offset))) := by
  intro bytes
  have ends (bytes : Vector UInt8 (Register.width ρ)) (after : Bench) :
      (match (Register.decode bytes : Except InvalidByte ρ) with
        | .ok register => Pure.pure register
        | .error _ => Operation.fail .decoding : BusM ρ).run after =
      Register.interpret bytes after := by
    rw [Register.interpret]
    cases (Register.decode bytes : Except InvalidByte ρ) <;> rfl
  rw [readRegister, run_bind, run_readBytes, Chip.readScript_eq_ofFn,
    Bench.attempt_ofFn]
  cases bench.busFaults.firstFailure (Register.width ρ) with
  | none => exact ends _ _
  | some offset => rfl

end Bus

/-! ## Reading back -/

namespace Chip

variable [Register ρ]

theorem readBytes_of_inert (inert : Register.Inert ρ) (chip : Chip)
    (count : Nat) (within : count ≤ Register.width ρ) :
    (chip.readBytes ρ count within).2 = chip ∧
      ∀ offset : Fin count, (chip.readBytes ρ count within).1.get offset =
        chip.register (Register.address ρ (offset.castLE within)) := by
  induction count with
  | zero => exact ⟨rfl, fun offset => offset.elim0⟩
  | succ count ih =>
      obtain ⟨same, found⟩ := ih (Register.le_width_of_succ within)
      have last : chip.read (Register.address ρ ⟨count, within⟩) = _ :=
        read_elsewhere (inert _ .fifo (by decide))
          (inert _ .irqFlags (by decide))
      refine ⟨?_, fun offset => ?_⟩
      · rw [snd_readBytes_succ, same, last]
      · rw [fst_readBytes_succ, same, last]
        cases offset using Fin.lastCases with
        | last => exact get_push_last _ _
        | cast offset => exact (get_push_castSucc _ _ _).trans (found offset)

theorem register_writeBytes (inert : Register.Inert ρ) (chip : Chip)
    (bytes : Vector UInt8 (Register.width ρ)) (count : Nat)
    (within : count ≤ Register.width ρ) (offset : Fin count) :
    (chip.writeBytes ρ bytes count within).register
        (Register.address ρ (offset.castLE within)) =
      bytes.get (offset.castLE within) := by
  induction count with
  | zero => exact offset.elim0
  | succ count ih =>
      rw [writeBytes,
        write_elsewhere (inert _ .fifo (by decide))
          (inert _ .irqFlags (by decide)) (inert _ .opMode (by decide)),
        register_setRegister]
      cases offset using Fin.lastCases with
      | last => exact if_pos rfl
      | cast offset =>
          -- The last byte goes to an address of its own.
          have apart : (⟨count, within⟩ : Fin (Register.width ρ)) ≠
              offset.castSucc.castLE within := fun same =>
            Nat.ne_of_gt offset.isLt (congrArg Fin.val same)
          rw [if_neg fun same => apart (Register.address_inj.mp same)]
          exact ih (Register.le_width_of_succ within) offset

theorem readBytes_writeBytes (inert : Register.Inert ρ) (chip : Chip)
    (bytes : Vector UInt8 (Register.width ρ)) :
    ((chip.writeBytes ρ bytes
      (Register.width ρ) Register.width_le_width).readBytes ρ
      (Register.width ρ) Register.width_le_width).1 = bytes := by
  apply Vector.ext
  intro offset inside
  have found :=
    (readBytes_of_inert inert
      (chip.writeBytes ρ bytes _ Register.width_le_width) _
    Register.width_le_width).2 ⟨offset, inside⟩
  exact found.trans (register_writeBytes inert chip bytes _ _ ⟨offset, inside⟩)

end Chip

theorem Bus.chip_of_writeRegister [WritableRegister ρ] {register : ρ}
    {bench after : Bench}
    (written : (writeRegister register).run bench = .ok () after) :
    after.chip =
      bench.chip.writeBytes ρ (EncodableRegister.encode register)
        (Register.width ρ) Register.width_le_width := by
  rw [run_writeRegister] at written
  split at written
  · injection written with _ reached
    rw [← reached, Bench.chip_accessed, ← Chip.replay_writeScript,
      writeScript_eq_ofFn]
    rfl
  · contradiction

/-! ## Headers -/

theorem Bus.run_readAt (address : UInt8) (bench : Bench) :
    (readAt address).run bench =
      let header := ReadHeader.ofByte address
      let found := (bench.chip.read header.address).1
      if bench.busFaults.passes then
        .ok found (bench.heard (.read header found))
      else .error .bus (bench.refused (.readFailed header)) :=
  run_read _ _

theorem Bus.run_writeAt (address value : UInt8) (bench : Bench) :
    (writeAt address value).run bench =
      let header := WriteHeader.ofByte address
      if bench.busFaults.passes then .ok () (bench.heard (.write header value))
      else .error .bus (bench.refused (.writeFailed header value)) :=
  run_write _ _ _

theorem Header.bit_byte {flag : UInt8} (header : Header flag) :
    bit 7 header.byte = bit 7 flag := by
  have small := header.address.isLt
  have low : bit 7 (UInt8.ofNat header.address.val) = false := by
    rw [bit_eq_testBit, UInt8.toNat_ofNat', Nat.mod_eq_of_lt (by omega)]
    exact Nat.testBit_lt_two_pow small
  rw [header.sent, bit_or, low, Bool.false_or]

/-! ## Main result -/

namespace Bus

/-- A register is written and read byte by byte from its address on, up to the
first access that fails; those before it have had their effect, and bytes are
only judged when all of them are there.  A register that only keeps its bytes
gives back what was written to it.  Of a raw address the last seven bits count,
and the eighth bit of what is sent tells a write from a read. -/
theorem register_access {ρ σ : Type} [Register ρ] [WritableRegister σ]
    (register : σ) (address value : UInt8) (bench : Bench) :
    let bytes := EncodableRegister.encode register
    let found :=
      (bench.chip.readBytes ρ (Register.width ρ) Register.width_le_width).1
    let target := Address.ofByte address
    let byte := (bench.chip.read target).1
    let reading := ReadHeader.ofByte address
    let writing := WriteHeader.ofByte address
    (∀ row, (bench.accessed row).chip = bench.chip.replay row ∧
      (bench.accessed row).events = bench.events ++ row) ∧
    ((writeRegister register).run bench =
      match bench.busFaults.firstFailure (Register.width σ) with
      | none => .ok () (bench.accessed (Register.writes σ bytes))
      | some offset =>
          .error .bus ((bench.accessed
            ((Register.writes σ bytes).take offset)).refused
            (.writeFailed (Register.address σ offset) (bytes.get offset)))) ∧
    ((readRegister ρ).run bench =
      match bench.busFaults.firstFailure (Register.width ρ) with
      | none => Register.interpret found
          (bench.accessed (Register.reads ρ found))
      | some offset =>
          .error .bus ((bench.accessed
            ((Register.reads ρ found).take offset)).refused
            (.readFailed (Register.address ρ offset)))) ∧
    ((BusTask.writeRegister register).complete = writeRegister register ∧
      (BusTask.readRegister ρ).complete = readRegister ρ ∧
      (BusTask.readAt address).complete = readAt address ∧
      (BusTask.writeAt address value).complete = writeAt address value) ∧
    (Register.Inert σ → ∀ after later : Bench,
      (writeRegister register).run bench = .ok () after →
      later.chip = after.chip →
      later.busFaults.firstFailure (Register.width σ) = none →
        (readRegister σ).run later =
          Register.interpret bytes (later.accessed (Register.reads σ bytes))) ∧
    ((readAt address).run bench =
      if bench.busFaults.passes then .ok byte (bench.heard (.read reading byte))
      else .error .bus (bench.refused (.readFailed reading))) ∧
    ((writeAt address value).run bench =
      if bench.busFaults.passes then .ok () (bench.heard (.write writing value))
      else .error .bus (bench.refused (.writeFailed writing value))) ∧
    target.val = address.toNat % 128 ∧ reading.address = target ∧
    writing.address = target ∧
    (Event.read reading byte).text =
      hexByte reading.byte ++ ">" ++ hexByte byte ∧
    reading.byte = address &&& 0x7F ∧
    (∀ header : ReadHeader, bit 7 header.byte = false) ∧
    (Event.write writing value).text =
      hexByte writing.byte ++ ":" ++ hexByte value ∧
    writing.byte = address ||| 0x80 ∧ ∀ header : WriteHeader,
      bit 7 header.byte = true := by
  intro bytes found target byte reading writing
  refine ⟨fun row => ⟨bench.chip_accessed row, bench.events_accessed row⟩,
    run_writeRegister register bench, run_readRegister bench,
    ⟨BusTask.complete_writeRegister register, BusTask.complete_readRegister,
      BusTask.complete_read _, BusTask.complete_write _ _⟩,
    fun inert after later written same passes => ?_, run_readAt address bench,
    run_writeAt address value bench, rfl, rfl, rfl, rfl, rfl, Header.bit_byte,
      rfl, rfl, Header.bit_byte⟩
  · have kept : (later.chip.readBytes σ _ Register.width_le_width).1 =
        bytes := by
      rw [same, chip_of_writeRegister written]
      exact Chip.readBytes_writeBytes inert bench.chip bytes
    rw [run_readRegister, passes, kept]

/-- The carrier is torn by a fault at its second byte, and comes back when there
is none. -/
theorem register_access_carrier :
    let word : CarrierWord := ⟨0x6C4012⟩
    let broken : Bench := { busFaults := ⟨1, 1⟩ }
    Register.Inert CarrierWord ∧
      (writeRegister word).run broken = .error .bus
        ((broken.accessed [.write RegisterName.frfMsb.address 0x6C]).refused
          (.writeFailed RegisterName.frfMid.address 0x40)) ∧
      ∃ after, (writeRegister word).run {} = .ok () after ∧
        (readRegister CarrierWord).run after =
          .ok word (after.accessed [.read RegisterName.frfMsb.address 0x6C,
            .read RegisterName.frfMid.address 0x40,
              .read RegisterName.frfLsb.address 0x12]) := by
  intro word broken
  have inert : Register.Inert CarrierWord := by decide
  have encoded : EncodableRegister.encode word = #v[0x6C, 0x40, 0x12] := by
    decide
  have decoded : (Register.decode #v[0x6C, 0x40, 0x12] : Except InvalidByte _) =
    .ok word := rfl
  obtain ⟨-, stopped, -⟩ := register_access (ρ := CarrierWord) word 0 0 broken
  obtain ⟨-, written, -, -, kept, -⟩ :=
    register_access (ρ := CarrierWord) word 0 0 {}
  have back := kept inert _ _ written rfl rfl
  rw [encoded] at stopped
  rw [encoded, Register.interpret, decoded] at back
  rw [encoded] at written
  exact ⟨inert, stopped, _, written, back⟩

end Bus

end LoraRadio
