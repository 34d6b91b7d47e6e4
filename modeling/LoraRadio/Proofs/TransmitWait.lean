import LoraRadio.Proofs.Codec
import LoraRadio.Proofs.Staging

/-!
# The wait for the end of a transmission

The driver looks at the interrupt flags once before every interval and once
after the last one.  So it finds the end of the transmission if one of these
looks does, and gives up after all of them otherwise.  A flag left over from an
earlier packet is cleared first and has no part in this.
-/

namespace LoraRadio

open Operation RadioM Radio

/-! ## Looks at the interrupt flags -/

namespace Chip

variable {chip : Chip}

def seesDone (chip : Chip) : Bool :=
  InterruptFlags.has ⟨chip.countFlagRead.register RegisterName.irqFlags.address⟩
    .transmitDone

/-- The first look, counted from one, that finds the packet sent. -/
inductive DoneAtLook : Chip → Nat → Prop where
  | now {chip : Chip} (found : chip.seesDone = true) : DoneAtLook chip 1
  | later {chip : Chip} {look : Nat} (missed : chip.seesDone = false)
      (rest : DoneAtLook chip.countFlagRead look) : DoneAtLook chip (look + 1)

theorem DoneAtLook.pos {look : Nat} (done : chip.DoneAtLook look) :
    0 < look := by
  cases done <;> omega

theorem DoneAtLook.unique {first second : Nat} (left : chip.DoneAtLook first)
    (right : chip.DoneAtLook second) : first = second := by
  induction left generalizing second with
  | now found =>
      cases right with
      | now => rfl
      | later missed => simp [found] at missed
  | later missed _ ih =>
      cases right with
      | now found => simp [missed] at found
      | later _ rest => rw [ih rest]

theorem doneInTime_or_late (chip : Chip) (attempts : Nat) :
    (∃ pauses, chip.DoneAtLook (pauses + 1) ∧ pauses ≤ attempts) ∨
      ∀ look, chip.DoneAtLook look → attempts + 1 < look := by
  by_cases inTime : ∃ pauses, chip.DoneAtLook (pauses + 1) ∧ pauses ≤ attempts
  · exact .inl inTime
  · refine .inr fun look done => Nat.lt_of_not_le fun bound =>
      inTime ⟨look - 1, ?_, by omega⟩
    rwa [Nat.sub_add_cancel done.pos]

def looked (chip : Chip) : (looks : Nat) → Chip
  | 0 => chip
  | looks + 1 => chip.countFlagRead.looked looks

def sending (chip : Chip) : Chip :=
  chip.withoutTransmitDone.write RegisterName.opMode.address 0x83

theorem seesDone_eq (chip : Chip) :
    chip.seesDone =
      (InterruptFlags.has ⟨chip.register RegisterName.irqFlags.address⟩
        .transmitDone
      || decide (chip.transmitDoneAt = some (chip.flagReads + 1))) := by
  have raised : bit 3 (0x08 : UInt8) = true := by decide
  unfold seesDone countFlagRead
  by_cases due : chip.transmitDoneAt = some (chip.flagReads + 1)
  · simp [due, raiseTransmitDone, InterruptFlags.has, Interrupt.position,
      bit_or, raised]
  · simp [due, register]

theorem doneAtLook_iff {look : Nat}
    (clear : InterruptFlags.has
      ⟨chip.register RegisterName.irqFlags.address⟩ .transmitDone = false) :
    chip.DoneAtLook look ↔
      0 < look ∧ chip.transmitDoneAt = some (chip.flagReads + look) := by
  induction look generalizing chip with
  | zero =>
      constructor
      · intro done
        exact absurd done.pos (Nat.lt_irrefl 0)
      · rintro ⟨positive, -⟩
        exact absurd positive (Nat.lt_irrefl 0)
  | succ look ih =>
      by_cases due : chip.transmitDoneAt = some (chip.flagReads + 1)
      · have found : chip.seesDone = true := by simp [seesDone_eq, due]
        constructor
        · intro done
          cases done with
          | now => simp [due]
          | later missed => simp [found] at missed
        · rintro ⟨-, told⟩
          have first : look = 0 := by
            rw [due] at told
            simp at told
            omega
          subst first
          exact .now found
      · have missed : chip.seesDone = false := by simp [seesDone_eq, clear, due]
        have counted : chip.countFlagRead =
            { chip with flagReads := chip.flagReads + 1 } := by
          simp [countFlagRead, due]
        have still := @ih chip.countFlagRead (by rw [counted]; exact clear)
        have shift : chip.flagReads + 1 + look =
          chip.flagReads + (look + 1) := by omega
        simp only [counted, shift] at still
        constructor
        · intro done
          cases done with
          | now found => simp [missed] at found
          | later _ rest =>
              rw [counted] at rest
              exact ⟨Nat.succ_pos look, (still.mp rest).2⟩
        · rintro ⟨-, told⟩
          have positive : 0 < look := by
            rcases Nat.eq_zero_or_pos look with rfl | positive
            · exact absurd told due
            · exact positive
          refine .later missed ?_
          rw [counted]
          exact still.mpr ⟨positive, told⟩

theorem has_withoutTransmitDone (chip : Chip) :
    InterruptFlags.has
      ⟨chip.withoutTransmitDone.register RegisterName.irqFlags.address⟩
      .transmitDone = false := by
  have cleared : bit 3 (~~~0x08 : UInt8) = false := by decide
  simp only [withoutTransmitDone, register_setRegister, InterruptFlags.has,
    Interrupt.position, bit_and, cleared, Bool.and_false, if_true]

theorem sending_eq (chip : Chip) : chip.sending =
    (chip.withoutTransmitDone.setRegister
      RegisterName.opMode.address 0x83).startTransmitter := rfl

theorem doneAtLook_sending {look : Nat} : chip.sending.DoneAtLook look ↔
    if chip.transmitCompletes = true then look = 1
    else 0 < look ∧ chip.transmitDoneAt = some look := by
  have same : (chip.withoutTransmitDone.setRegister RegisterName.opMode.address
      0x83).transmitCompletes = chip.transmitCompletes := rfl
  by_cases atOnce : chip.transmitCompletes = true
  · have raised : bit 3 (0x08 : UInt8) = true := by decide
    have found : chip.sending.seesDone = true := by
      rw [seesDone_eq, sending_eq, startTransmitter, same, if_pos atOnce]
      simp [raiseTransmitDone, InterruptFlags.has, Interrupt.position,
        bit_or, raised]
    rw [if_pos atOnce]
    constructor
    · intro done
      cases done with
      | now => rfl
      | later missed => simp [found] at missed
    · rintro rfl
      exact .now found
  · have quiet : chip.sending =
        { chip.withoutTransmitDone.setRegister RegisterName.opMode.address
        0x83 with flagReads := 0 } := by
      rw [sending_eq, startTransmitter, same, if_neg atOnce]
      rfl
    have clear :
        InterruptFlags.has ⟨chip.sending.register RegisterName.irqFlags.address⟩
        .transmitDone = false := by
      have kept : chip.sending.register RegisterName.irqFlags.address =
          chip.withoutTransmitDone.register RegisterName.irqFlags.address := by
        rw [quiet]
        exact register_setRegister _ _ _ _
      rw [kept]
      exact has_withoutTransmitDone chip
    rw [if_neg atOnce, doneAtLook_iff clear, quiet]
    simp [withoutTransmitDone, setRegister]

/-! ## What looks leave alone -/

theorem register_looked {other : Address}
    (apart : other ≠ RegisterName.irqFlags.address) (looks : Nat) :
    (chip.looked looks).register other = chip.register other := by
  induction looks generalizing chip with
  | zero => rfl
  | succ looks ih => rw [looked, ih, register_countFlagRead apart]

theorem fifo_looked (looks : Nat) : (chip.looked looks).fifo = chip.fifo := by
  induction looks generalizing chip with
  | zero => rfl
  | succ looks ih => rw [looked, ih, fifo_countFlagRead]

theorem register_raiseTransmitDone_clear (chip : Chip) :
    chip.raiseTransmitDone.register RegisterName.irqFlags.address &&& ~~~0x08 =
      chip.register RegisterName.irqFlags.address &&& ~~~0x08 := by
  simp only [raiseTransmitDone, register_setRegister, if_true, or_and_not]

theorem flags_looked (looks : Nat) :
    (chip.looked looks).register RegisterName.irqFlags.address &&& ~~~0x08 =
      chip.register RegisterName.irqFlags.address &&& ~~~0x08 := by
  induction looks generalizing chip with
  | zero => rfl
  | succ looks ih =>
      rw [looked, ih, countFlagRead]
      split
      · exact register_raiseTransmitDone_clear _
      · rfl

theorem flags_sending (chip : Chip) :
    chip.sending.register RegisterName.irqFlags.address &&& ~~~0x08 =
      chip.register RegisterName.irqFlags.address &&& ~~~0x08 := by
  have cleared :
      (chip.withoutTransmitDone.setRegister
          RegisterName.opMode.address 0x83).register
          RegisterName.irqFlags.address &&& ~~~0x08 =
        chip.register RegisterName.irqFlags.address &&& ~~~0x08 := by
    simp [withoutTransmitDone, UInt8.and_assoc]
  rw [sending_eq, startTransmitter]
  split
  · rw [register_raiseTransmitDone_clear]
    exact cleared
  · exact cleared

/-- A flag that is left over makes no difference to the transmission. -/
theorem sending_raiseTransmitDone (chip : Chip) :
    chip.raiseTransmitDone.sending = chip.sending := by
  have same : chip.raiseTransmitDone.withoutTransmitDone =
      chip.withoutTransmitDone := by
    rw [withoutTransmitDone, register_raiseTransmitDone_clear]
    exact setRegister_setRegister _ _ _ _
  rw [sending, sending, same]

def lookScript (chip : Chip) (intervalMs : UInt32) : (pauses : Nat) → List Event
  | 0 =>
      [.read RegisterName.irqFlags.address
        (chip.countFlagRead.register RegisterName.irqFlags.address)]
  | pauses + 1 =>
      .read RegisterName.irqFlags.address
        (chip.countFlagRead.register RegisterName.irqFlags.address) ::
      .delay intervalMs :: chip.countFlagRead.lookScript intervalMs pauses

end Chip

/-! ## The wait -/

def Scene.waited (scene : Scene) (intervalMs : UInt32) (pauses : Nat) :
    Scene where
  radio := scene.radio
  chip := scene.chip.looked (pauses + 1)
  elapsedMs := scene.elapsedMs + pauses * intervalMs.toNat

namespace Radio

variable {before : Scene} {intervalMs : UInt32} {attempts pauses : Nat}

theorem follows_look (before : Scene) :
    Follows (readRegister InterruptFlags) before
      [.read RegisterName.irqFlags.address
        (before.chip.countFlagRead.register RegisterName.irqFlags.address)]
      (.ok ⟨before.chip.countFlagRead.register RegisterName.irqFlags.address⟩
        (before.withChip before.chip.countFlagRead)) :=
  follows_readRegister rfl

theorem waited_zero (before : Scene) (intervalMs : UInt32) :
    before.waited intervalMs 0 = before.withChip before.chip.countFlagRead := by
  simp [Scene.waited, Scene.withChip, Chip.looked]

theorem follows_awaitTransmitDone_last (before : Scene) (intervalMs : UInt32) :
    Follows (awaitTransmitDone intervalMs 0) before
      (before.chip.lookScript intervalMs 0)
      (.ok before.chip.seesDone (before.waited intervalMs 0)) := by
  rw [waited_zero]
  exact .bind (follows_look before) (.pure before.chip.seesDone _)

theorem follows_awaitTransmitDone_later {script : List Event} {done : Bool}
    (missed : before.chip.seesDone = false)
    (rest : Follows (awaitTransmitDone intervalMs attempts) { before with
      chip := before.chip.countFlagRead, elapsedMs :=
      before.elapsedMs + intervalMs.toNat } script
      (.ok done (Scene.waited { before with
        chip := before.chip.countFlagRead, elapsedMs :=
        before.elapsedMs + intervalMs.toNat } intervalMs pauses))) :
    Follows (awaitTransmitDone intervalMs (attempts + 1)) before
      (.read RegisterName.irqFlags.address
        (before.chip.countFlagRead.register RegisterName.irqFlags.address) ::
        .delay intervalMs :: script)
      (.ok done (before.waited intervalMs (pauses + 1))) := by
  have elapsed :
      before.elapsedMs + intervalMs.toNat + pauses * intervalMs.toNat =
        before.elapsedMs + (pauses + 1) * intervalMs.toNat := by
    rw [Nat.succ_mul]
    omega
  have reached : Scene.waited
      { before with
        chip := before.chip.countFlagRead, elapsedMs :=
          before.elapsedMs + intervalMs.toNat }
      intervalMs pauses = before.waited intervalMs (pauses + 1) := by
    simp only [Scene.waited, elapsed, Chip.looked]
  rw [reached] at rest
  refine .bind (follows_look before) ?_
  rw [if_neg (by simpa [Chip.seesDone] using missed)]
  exact .bind (follows_delay intervalMs _) rest

theorem follows_awaitTransmitDone_found
    (done : before.chip.DoneAtLook (pauses + 1)) (inTime : pauses ≤ attempts) :
    Follows (awaitTransmitDone intervalMs attempts) before
      (before.chip.lookScript intervalMs pauses)
        (.ok true (before.waited intervalMs pauses)) := by
  -- Each pause uses up one attempt, and the chip that is left is done one look
  -- earlier.
  induction pauses generalizing attempts before with
  | zero =>
      have found : before.chip.seesDone = true := by
        cases done with
        | now found => exact found
        | later _ rest => exact absurd rest.pos (Nat.lt_irrefl 0)
      cases attempts with
      | zero =>
          rw [← found]
          exact follows_awaitTransmitDone_last before intervalMs
      | succ attempts =>
          rw [waited_zero]
          refine .bind (follows_look before) ?_
          rw [if_pos (by simpa [Chip.seesDone] using found)]
          exact .pure true _
  | succ pauses ih =>
      cases done with
      | later missed rest =>
          cases attempts with
          | zero => exact absurd inTime (Nat.not_succ_le_zero _)
          | succ attempts =>
              exact follows_awaitTransmitDone_later missed
                (ih rest (Nat.le_of_succ_le_succ inTime))

theorem follows_awaitTransmitDone_missed
    (never : ∀ look, before.chip.DoneAtLook look → attempts + 1 < look) :
    Follows (awaitTransmitDone intervalMs attempts) before
      (before.chip.lookScript intervalMs attempts)
      (.ok false (before.waited intervalMs attempts)) := by
  induction attempts generalizing before with
  | zero =>
      have missed : before.chip.seesDone = false := by
        cases found : before.chip.seesDone with
        | false => rfl
        | true => exact absurd (never 1 (.now found)) (Nat.lt_irrefl 1)
      rw [← missed]
      exact follows_awaitTransmitDone_last before intervalMs
  | succ attempts ih =>
      have missed : before.chip.seesDone = false := by
        cases found : before.chip.seesDone with
        | false => rfl
        | true => exact absurd (never 1 (.now found)) (by omega)
      refine follows_awaitTransmitDone_later missed (ih fun look done => ?_)
      have last := never (look + 1) (.later missed done)
      omega

variable {polling : Polling}

theorem follows_awaitEnd_found (done : before.chip.DoneAtLook (pauses + 1))
    (inTime : pauses ≤ polling.attempts) :
    let waited := before.waited polling.intervalMs pauses
    Follows (awaitEnd polling) before
      (before.chip.lookScript polling.intervalMs pauses ++
        [.write RegisterName.irqFlags.address 0x08])
      (.ok () (waited.withChip waited.chip.withoutTransmitDone)) := by
  intro waited
  exact .bind (follows_awaitTransmitDone_found done inTime)
    (follows_writeRegister _ waited)

theorem follows_awaitEnd_missed
    (never : ∀ look, before.chip.DoneAtLook look →
      polling.attempts + 1 < look) :
    let waited := before.waited polling.intervalMs polling.attempts
    Follows (awaitEnd polling) before
      (before.chip.lookScript polling.intervalMs polling.attempts ++
        [.write RegisterName.opMode.address 0x81,
          .write RegisterName.irqFlags.address 0x08])
      (.error .transmitTimeout (waited.withChip
        (waited.chip.setRegister
          RegisterName.opMode.address 0x81).withoutTransmitDone)) := by
  intro waited
  refine .bind (follows_awaitTransmitDone_missed never) ?_
  refine .bind (follows_writeRegister _ waited) ?_
  exact .bind (follows_writeRegister _ _) (.fail .transmitTimeout _)

/-! ## The end of a packet -/

def endScript (chip : Chip) (intervalMs : UInt32) (pauses : Nat)
    (closing : List Event) : List Event :=
  .read RegisterName.payloadLength.address
    (chip.register RegisterName.payloadLength.address) ::
    .write RegisterName.irqFlags.address 0x08 ::
    .write RegisterName.opMode.address 0x83 ::
    (chip.sending.lookScript intervalMs pauses ++ closing)

theorem follows_endPacket_found (ready : before.radio.ready = true)
    (chosen : before.radio.configuration.pollingFor
      (before.chip.register RegisterName.payloadLength.address) = .ok polling)
    (done : before.chip.sending.DoneAtLook (pauses + 1))
    (inTime : pauses ≤ polling.attempts) :
    let waited :=
      (before.withChip before.chip.sending).waited polling.intervalMs pauses
    Follows endPacket before
      (endScript before.chip polling.intervalMs pauses
        [.write RegisterName.irqFlags.address 0x08])
      (.ok () (waited.withChip waited.chip.withoutTransmitDone)) := by
  intro waited
  rw [endPacket_eq]
  refine follows_whenReady ready () (.bind (follows_prepareTransmit chosen) ?_)
  exact .bind (follows_writeRegister _ _) (follows_awaitEnd_found done inTime)

theorem follows_endPacket_missed (ready : before.radio.ready = true)
    (chosen : before.radio.configuration.pollingFor
      (before.chip.register RegisterName.payloadLength.address) = .ok polling)
    (never : ∀ look, before.chip.sending.DoneAtLook look →
      polling.attempts + 1 < look) :
    let waited :=
      (before.withChip before.chip.sending).waited polling.intervalMs
        polling.attempts
    Follows endPacket before
      (endScript before.chip polling.intervalMs polling.attempts
        [.write RegisterName.opMode.address 0x81,
          .write RegisterName.irqFlags.address 0x08])
      (.error .transmitTimeout (waited.withChip
        (waited.chip.setRegister
          RegisterName.opMode.address 0x81).withoutTransmitDone)) := by
  intro waited
  rw [endPacket_eq]
  refine follows_whenReady ready () (.bind (follows_prepareTransmit chosen) ?_)
  exact .bind (follows_writeRegister _ _) (follows_awaitEnd_missed never)

end Radio

/-! ## What a caller sees -/

namespace Event

def isFlagRead : Event → Bool
  | .read header _ => header.address = RegisterName.irqFlags.address
  | _ => false

def pause : Event → Option UInt32
  | .delay ms => some ms
  | _ => none

end Event

namespace Chip

theorem countP_lookScript (chip : Chip) (intervalMs : UInt32) (pauses : Nat) :
    (chip.lookScript intervalMs pauses).countP Event.isFlagRead =
      pauses + 1 := by
  induction pauses generalizing chip with
  | zero => simp [lookScript, Event.isFlagRead]
  | succ pauses ih => simp [lookScript, Event.isFlagRead, ih]

theorem filterMap_lookScript (chip : Chip) (intervalMs : UInt32)
    (pauses : Nat) :
    (chip.lookScript intervalMs pauses).filterMap Event.pause =
      List.replicate pauses intervalMs := by
  induction pauses generalizing chip with
  | zero => rfl
  | succ pauses ih =>
      simp [lookScript, List.filterMap_cons, Event.pause, ih,
        List.replicate_succ]

end Chip

/-- What the record of a bench gained: a number of looks at the interrupt flags,
and pauses. -/
def Bench.Waits (before after : Bench) (looks : Nat) (pauses : List UInt32) :
    Prop :=
  ∃ events, after.events = before.events ++ events ∧
    events.countP Event.isFlagRead = looks ∧
      events.filterMap Event.pause = pauses

/-- The chip after a wait: the flag of the transmission is clear, and the other
flags, the packet buffer and the length of the packet are what they were. -/
structure Chip.Waited (before after : Chip) : Prop where
  flags : after.register RegisterName.irqFlags.address =
    before.register RegisterName.irqFlags.address &&& ~~~0x08
  fifo : after.fifo = before.fifo
  length : after.register RegisterName.payloadLength.address =
    before.register RegisterName.payloadLength.address

theorem Bench.waits_endScript {before after : Bench} {chip : Chip}
    {intervalMs : UInt32} {pauses : Nat} {closing : List Event}
    (recorded : after.events =
      before.events ++ Radio.endScript chip intervalMs pauses closing)
    (writes : closing.countP Event.isFlagRead = 0 ∧
      closing.filterMap Event.pause = []) :
    before.Waits after (pauses + 1) (List.replicate pauses intervalMs) := by
  refine ⟨_, recorded, ?_, ?_⟩
  · simp [Radio.endScript, Event.isFlagRead, Chip.countP_lookScript, writes.1]
  · simp [Radio.endScript, List.filterMap_cons, Event.pause,
      Chip.filterMap_lookScript, writes.2]

namespace Chip

theorem register_sending {other : Address}
    (mode : other ≠ RegisterName.opMode.address)
    (pointer : other ≠ RegisterName.fifoAddrPtr.address)
    (flags : other ≠ RegisterName.irqFlags.address) (chip : Chip) :
    chip.sending.register other = chip.register other := by
  rw [sending, register_write mode pointer flags]
  simp [withoutTransmitDone, flags.symm]

theorem waited_looked {last : Chip} (chip : Chip) (looks : Nat)
    (same : ∀ other, other ≠ RegisterName.opMode.address →
      last.register other = (chip.sending.looked looks).register other)
    (fifo : last.fifo = (chip.sending.looked looks).fifo) :
    chip.Waited last.withoutTransmitDone where
  flags := by
    simp only [withoutTransmitDone, register_setRegister, if_true]
    rw [same _ (by decide), flags_looked, flags_sending]
  fifo := by
    change last.fifo = chip.fifo
    rw [fifo, fifo_looked]
    exact fifo_write (by decide)
  length := by
    have kept : last.withoutTransmitDone.register
          RegisterName.payloadLength.address =
        last.register RegisterName.payloadLength.address := by
      simp [withoutTransmitDone]
    rw [kept, same _ (by decide), register_looked (by decide),
      register_sending (by decide) (by decide) (by decide)]

end Chip

namespace Call

variable {station : Station} {polling : Polling} {pauses : Nat}

theorem perform_endPacket_found (sound : station.bench.Sound)
    (ready : station.radio.ready = true)
    (chosen : station.radio.configuration.pollingFor
      (station.bench.chip.register RegisterName.payloadLength.address) =
      .ok polling) (done : station.bench.chip.sending.DoneAtLook (pauses + 1))
    (inTime : pauses ≤ polling.attempts) :
    ∃ final, Call.endPacket.perform station = (.done, final) ∧
      station.bench.Waits final.bench (pauses + 1)
        (List.replicate pauses polling.intervalMs) ∧
      final.bench.chip =
        (station.bench.chip.sending.looked (pauses
          + 1)).withoutTransmitDone := by
  have follows :=
    @follows_endPacket_found station.scene pauses polling ready chosen
      done inTime
  obtain ⟨final, run, scene, recorded⟩ := follows.exists_ok sound rfl
  exact ⟨final, answer_of_ok run, Bench.waits_endScript recorded (by decide),
    congrArg Scene.chip scene⟩

theorem perform_endPacket_missed (sound : station.bench.Sound)
    (ready : station.radio.ready = true)
    (chosen : station.radio.configuration.pollingFor
      (station.bench.chip.register RegisterName.payloadLength.address) =
      .ok polling)
    (never : ∀ look, station.bench.chip.sending.DoneAtLook look →
      polling.attempts + 1 < look) :
    ∃ final, Call.endPacket.perform station =
        (.failed .transmitTimeout, final) ∧
      station.bench.Waits final.bench (polling.attempts + 1)
        (List.replicate polling.attempts polling.intervalMs) ∧
      final.bench.chip =
        ((station.bench.chip.sending.looked (polling.attempts + 1)).setRegister
          RegisterName.opMode.address 0x81).withoutTransmitDone := by
  have follows :=
    @follows_endPacket_missed station.scene polling ready chosen never
  obtain ⟨final, run, scene, recorded⟩ := follows.exists_error sound rfl
  exact ⟨final, answer_of_error run, Bench.waits_endScript recorded (by decide),
    congrArg Scene.chip scene⟩

theorem perform_endPacket_stale {stale : Station} (sound : station.bench.Sound)
    (quiet : stale.bench.Sound) (ready : station.radio.ready = true)
    (chosen : station.radio.configuration.pollingFor
      (station.bench.chip.register RegisterName.payloadLength.address) =
      .ok polling) (radio : stale.radio = station.radio)
    (raised : stale.bench.chip = station.bench.chip.raiseTransmitDone) :
    (Call.endPacket.perform stale).1 = (Call.endPacket.perform station).1 ∧
      (Call.endPacket.perform stale).2.bench.chip =
        (Call.endPacket.perform station).2.bench.chip := by
  have same : stale.bench.chip.sending = station.bench.chip.sending := by
    rw [raised, Chip.sending_raiseTransmitDone]
  have again : stale.radio.configuration.pollingFor
      (stale.bench.chip.register RegisterName.payloadLength.address) =
        .ok polling := by
    rw [radio, raised, Chip.register_raiseTransmitDone (by decide), chosen]
  have inService : stale.radio.ready = true := by rw [radio, ready]
  rcases station.bench.chip.sending.doneInTime_or_late polling.attempts with
    ⟨pauses, done, inTime⟩ | late
  · obtain ⟨final, performed, -, chip⟩ :=
      perform_endPacket_found sound ready chosen done inTime
    obtain ⟨last, repeated, -, left⟩ :=
      perform_endPacket_found quiet inService again (same ▸ done) inTime
    rw [performed, repeated, left, same]
    exact ⟨rfl, chip.symm⟩
  · obtain ⟨final, performed, -, chip⟩ :=
      perform_endPacket_missed sound ready chosen late
    obtain ⟨last, repeated, -, left⟩ :=
      perform_endPacket_missed quiet inService again (same ▸ late)
    rw [performed, repeated, left, same]
    exact ⟨rfl, chip.symm⟩

/-- The outcome of a wait is settled by the first look that finds the packet
sent.  A look in time ends it well, with that look and the pauses before it.
Otherwise all looks and pauses are spent, and the chip is back in standby.  A
flag that was up before makes no difference. -/
theorem endPacket_waits {station : Station} (sound : station.bench.Sound)
    (ready : station.radio.ready = true)
    (legal : station.radio.configuration.Legal) :
    ∃ polling, station.radio.configuration.pollingFor
        (station.bench.chip.register RegisterName.payloadLength.address) =
          .ok polling ∧
      let result := Call.endPacket.perform station
      (∀ look, station.bench.chip.sending.DoneAtLook look →
        look ≤ polling.attempts + 1 →
        result.1 = .done ∧
        station.bench.Waits result.2.bench look
          (List.replicate (look - 1) polling.intervalMs)) ∧
      ((∀ look, station.bench.chip.sending.DoneAtLook look →
          polling.attempts + 1 < look) →
        result.1 = .failed .transmitTimeout ∧
        station.bench.Waits result.2.bench (polling.attempts + 1)
          (List.replicate polling.attempts polling.intervalMs) ∧
        result.2.bench.chip.register RegisterName.opMode.address = 0x81) ∧
      station.bench.chip.Waited result.2.bench.chip ∧
      ∀ stale : Station, stale.bench.Sound → stale.radio = station.radio →
        stale.bench.chip = station.bench.chip.raiseTransmitDone →
        (Call.endPacket.perform stale).1 = result.1 ∧
        (Call.endPacket.perform stale).2.bench.chip = result.2.bench.chip := by
  obtain ⟨polling, chosen⟩ := Configuration.exists_pollingFor legal
    (station.bench.chip.register RegisterName.payloadLength.address)
  refine ⟨polling, chosen, ?_⟩
  intro result
  have stale : ∀ stale : Station, stale.bench.Sound →
      stale.radio = station.radio →
      stale.bench.chip = station.bench.chip.raiseTransmitDone →
      (Call.endPacket.perform stale).1 = result.1 ∧
      (Call.endPacket.perform stale).2.bench.chip = result.2.bench.chip :=
    fun _ quiet radio raised =>
      perform_endPacket_stale sound quiet ready chosen radio raised
  rcases station.bench.chip.sending.doneInTime_or_late polling.attempts with
    ⟨pauses, done, inTime⟩ | late
  · obtain ⟨final, performed, waits, chip⟩ :=
      perform_endPacket_found sound ready chosen done inTime
    have known : result = (.done, final) := performed
    refine ⟨?_, ?_, ?_, stale⟩
    · intro look other _
      rw [other.unique done, known]
      exact ⟨rfl, waits⟩
    · intro late
      have := late _ done
      omega
    · rw [known, chip]
      exact Chip.waited_looked _ _ (fun _ _ => rfl) rfl
  · obtain ⟨final, performed, waits, chip⟩ :=
      perform_endPacket_missed sound ready chosen late
    have known : result = (.failed .transmitTimeout, final) := performed
    refine ⟨?_, ?_, ?_, stale⟩
    · intro look done inTime
      have := late look done
      omega
    · intro _
      rw [known, chip]
      exact ⟨rfl, waits, by simp [Chip.withoutTransmitDone]⟩
    · rw [known, chip]
      refine Chip.waited_looked _ (polling.attempts + 1) ?_ rfl
      intro other apart
      simp [apart.symm]

theorem endPacket_waits_until_last_look :
    let station : Station :=
      ⟨{ Radio.attach ⟨0, true, true⟩ with
          lifecycle := .ready, configuration := { polling := some ⟨10, 20⟩ } },
        { chip :=
            { Chip.fresh.setRegister RegisterName.irqFlags.address 0x48 with
              transmitCompletes := false, transmitDoneAt := some 3 } }⟩
    station.radio.ready = true ∧ (Call.endPacket.perform station).1 = .done ∧
      station.bench.Waits (Call.endPacket.perform station).2.bench 3 [10, 10] ∧
      (Call.endPacket.perform station).2.bench.chip.register
          RegisterName.irqFlags.address = 0x40 := by
  intro station
  have legal : station.radio.configuration.Legal :=
    Configuration.legal_polling _
  have done : station.bench.chip.sending.DoneAtLook 3 :=
    Chip.doneAtLook_sending.mpr ⟨by decide, rfl⟩
  obtain ⟨polling, chosen, found, -, waited, -⟩ :=
    endPacket_waits ⟨rfl, rfl⟩ rfl legal
  have known : polling = ⟨10, 20⟩ := (Except.ok.inj chosen).symm
  subst known
  obtain ⟨reply, waits⟩ := found 3 done (by decide)
  exact ⟨rfl, reply, waits, waited.flags.trans (by decide)⟩

end Call

end LoraRadio
