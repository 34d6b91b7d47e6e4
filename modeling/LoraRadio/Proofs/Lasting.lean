import LoraRadio.Proofs.Enduring

/-!
# Conditions that last

Most conditions do not depend on the mode of the chip or on the cursor, and many
do not depend on what a setter writes.  Such a condition needs less than a
condition that every call keeps in general.  A session keeps what its steps
keep.
-/

namespace LoraRadio

open Operation RadioM Radio

variable {ρ : Type} {kept : Station → Prop}

/-- A condition that depends neither on the mode nor on the cursor. -/
structure Lasting (kept : Station → Prop) : Prop extends Steady kept where
  mode : ∀ mode, Keeps (Live kept) (writeMode mode)
  buffer : Keeps (Live kept) (access (Bus.read RegisterName.fifo.address))
  write : ∀ name ∈ packetRegisters, ∀ value,
    Keeps (Live kept) (access (Bus.write name.address value))
  delay : ∀ ms, Keeps (Live kept) (delay ms)
  cursor : ∀ change : Cursor → Cursor,
    Keeps (Live kept)
      (modifyRadio fun radio => { radio with cursor := change radio.cursor })
  header : ∀ mode, Keeps (Live kept) (setHeaderMode mode)
  set : ∀ setting : Setting, Keeps kept setting.set

namespace Lasting

variable (lasting : Lasting kept)

include lasting

theorem serving : Serving kept where
  toSteady := lasting.toSteady
  flags := lasting.write .irqFlags (by decide)
  buffer := lasting.buffer
  write := lasting.write
  delay := lasting.delay
  launch := .bind (lasting.write .irqFlags (by decide) _) fun _ =>
    lasting.mode .transmit
  advance station holds left :=
    (lasting.cursor Cursor.advance station ⟨holds, ready_of_available left⟩).1
  header := lasting.header
  set := lasting.set

theorem enduring : Enduring kept where
  toServing := lasting.serving
  accept := Radio.keeps_acceptPacket lasting.serving.keeps_read (fun length =>
    lasting.cursor fun _ =>
      .start length) (lasting.write .fifoAddrPtr (by decide))
    (lasting.mode .standby)
  listen :=
    Radio.keeps_listen lasting.serving.keeps_read (lasting.cursor fun _ => {})
      (lasting.write .fifoAddrPtr (by decide)) (lasting.mode .receiveSingle)

theorem perform {call : Call} (whole : call.Whole) {station : Station}
    (holds : kept station) :
    kept (call.perform station).2 :=
  lasting.enduring.perform_whole whole holds

end Lasting

/-! ## Conditions apart from the settings -/

/-- A condition that does not depend on the registers of the settings. -/
structure Aloof (kept : Station → Prop) : Prop where
  read : ∀ address : Address, Keeps (Live kept) (access (Bus.read address))
  write : ∀ name ∈ settingRegisters, ∀ value,
    Keeps (Live kept) (access (Bus.write name.address value))

theorem aloof_radio (held : Radio → Prop) :
    Aloof fun station => held station.radio where
  read _ := Live.keeps_access_radio held _
  write _ _ _ := Live.keeps_access_radio held _

namespace Aloof

variable (aloof : Aloof kept)

include aloof

theorem keeps_readRegister [Register ρ] : Keeps (Live kept) (readRegister ρ) :=
  RadioM.keeps_readRegister fun _ => aloof.read _

theorem keeps_writeByte [WritableRegister ρ]
    (within : ∀ offset : Fin (Register.width ρ), ∃ name ∈ settingRegisters,
      name.address = Register.address ρ offset)
    (offset : Fin (Register.width ρ)) (value : UInt8) :
    Keeps (Live kept)
      (access (Bus.write (Register.address ρ offset) value)) := by
  obtain ⟨name, member, same⟩ := within offset
  rw [← same]
  exact aloof.write name member value

theorem keeps_writeRegister [WritableRegister ρ] (register : ρ)
    (within : ∀ offset : Fin (Register.width ρ), ∃ name ∈ settingRegisters,
      name.address = Register.address ρ offset) :
    Keeps (Live kept) (writeRegister register) :=
  RadioM.keeps_writeRegister register (aloof.keeps_writeByte within)

theorem keeps_updateRegister [WritableRegister ρ] (change : ρ → ρ)
    (within : ∀ offset : Fin (Register.width ρ), ∃ name ∈ settingRegisters,
      name.address = Register.address ρ offset) :
    Keeps (Live kept) (updateRegister change) :=
  .bind aloof.keeps_readRegister fun _ => aloof.keeps_writeRegister _ within

theorem keeps_updateLowDataRate : Keeps (Live kept) updateLowDataRate :=
  .bind keeps_getConfiguration fun _ =>
    .bind (keeps_checked _) fun _ => aloof.keeps_updateRegister _ (by decide)

theorem keeps_setHeaderMode {mode : HeaderMode}
    (configure :
      Keeps (Live kept)
        (modifyConfiguration fun known => { known with headerMode := mode })) :
    Keeps (Live kept) (setHeaderMode mode) :=
  .bind (aloof.keeps_updateRegister _ (by decide)) fun _ => configure

theorem halts_setHeaderMode (mode : HeaderMode) :
    RadioTask.Halts (Live kept) (RadioTask.setHeaderMode mode) kept := by
  refine .bind_of_complete (RadioTask.complete_updateRegister _) ?_
    (aloof.keeps_updateRegister _ (by decide)) fun _ => .ofNone fun _ => rfl
  exact .bind_of_complete RadioTask.complete_readRegister
    (RadioTask.halts_readRegister Live.left fun _ => aloof.read _)
      aloof.keeps_readRegister fun _ =>
      RadioTask.halts_writeRegister Live.left _
        (aloof.keeps_writeByte (by decide))

theorem keeps_set {setting : Setting}
    (configure : Keeps (Live kept) (modifyConfiguration setting.configure)) :
    Keeps (Live kept) setting.set := by
  cases setting with
  | frequency hz =>
      exact Live.keeps_whenReady ()
        (.bind (aloof.keeps_writeRegister _ (by decide)) fun _ => configure)
  | power dbm amplifier =>
      refine Live.keeps_whenReady () (.bind (keeps_checked _) fun setup => ?_)
      exact .bind (aloof.keeps_writeRegister _ (by decide)) fun _ => configure
  | spreadingFactor factor =>
      refine Live.keeps_whenReady ()
        (.bind (aloof.keeps_writeRegister _ (by decide)) fun _ => ?_)
      refine .bind (aloof.keeps_writeRegister _ (by decide)) fun _ => ?_
      refine .bind (aloof.keeps_updateRegister _ (by decide)) fun _ => ?_
      exact .bind configure fun _ => aloof.keeps_updateLowDataRate
  | bandwidth hz =>
      refine Live.keeps_whenReady ()
        (.bind (aloof.keeps_updateRegister _ (by decide)) fun _ => ?_)
      exact .bind configure fun _ => aloof.keeps_updateLowDataRate
  | codingRate denominator =>
      refine Live.keeps_whenReady ()
        (.bind aloof.keeps_readRegister fun modem => ?_)
      refine .bind (keeps_checked _) fun code => ?_
      exact .bind (aloof.keeps_writeRegister _ (by decide)) fun _ => configure
  | preambleLength symbols =>
      exact Live.keeps_whenReady ()
        (.bind (aloof.keeps_writeRegister _ (by decide)) fun _ => configure)
  | syncWord word =>
      exact Live.keeps_whenReady ()
        (.bind (aloof.keeps_writeRegister _ (by decide)) fun _ => configure)
  | checksum enabled =>
      exact Live.keeps_whenReady ()
        (.bind (aloof.keeps_updateRegister _ (by decide)) fun _ => configure)
  | polling wait => exact configure

end Aloof

structure Upkeep (kept : Station → Prop) : Prop extends Aloof kept where
  rest : ∀ mode ∈ restingModes, Keeps (Live kept) (writeMode mode)
  packet : ∀ name ∈ packetRegisters, ∀ value,
    Keeps (Live kept) (access (Bus.write name.address value))
  delay : ∀ ms, Keeps (Live kept) (delay ms)
  launch : Keeps (Live kept) launch
  advance : ∀ station, kept station → station.radio.available ≠ 0 →
    kept ⟨{ station.radio with cursor := station.radio.cursor.advance },
      station.bench⟩
  configure : ∀ setting : Setting,
    Keeps (Live kept) (modifyConfiguration setting.configure)
  header : ∀ mode,
    Keeps (Live kept)
      (modifyConfiguration fun known => { known with headerMode := mode })
  polling : ∀ wait, Keeps kept (setPolling wait)

namespace Upkeep

theorem droppable (upkeep : Upkeep kept) (start : Keeps kept ensureReady)
    (stops : RadioTask.Halts kept RadioTask.ensureReady kept) :
    Droppable kept where
  start := start
  read _ := upkeep.read _
  rest := upkeep.rest
  flags := upkeep.packet .irqFlags (by decide)
  buffer := upkeep.read _
  write := upkeep.packet
  delay := upkeep.delay
  launch := upkeep.launch
  advance := upkeep.advance
  header mode := upkeep.keeps_setHeaderMode (upkeep.header mode)
  set := Steady.keeps_set ⟨start, fun _ => upkeep.read _, upkeep.rest⟩
    (fun setting => upkeep.keeps_set (upkeep.configure setting)) upkeep.polling
  startStops := stops
  headerStops := upkeep.halts_setHeaderMode

theorem and {first second : Station → Prop} (left : Upkeep first)
    (right : Upkeep second) :
    Upkeep fun station => first station ∧ second station where
  read address := (left.read address).live_and (right.read address)
  write name member value :=
    (left.write name member value).live_and (right.write name member value)
  rest mode resting :=
    (left.rest mode resting).live_and (right.rest mode resting)
  packet name member value :=
    (left.packet name member value).live_and (right.packet name member value)
  delay ms := (left.delay ms).live_and (right.delay ms)
  launch := left.launch.live_and right.launch
  advance station holds unread :=
    ⟨left.advance station holds.1 unread, right.advance station holds.2 unread⟩
  configure setting :=
    (left.configure setting).live_and (right.configure setting)
  header mode := (left.header mode).live_and (right.header mode)
  polling wait := (left.polling wait).and (right.polling wait)

end Upkeep

/-- A condition that does not depend on what is accessed in service, nor on the
settings and the cursor. -/
structure Plain (kept : Station → Prop) : Prop where
  start : Keeps kept ensureReady
  read : ∀ address : Address, Keeps (Live kept) (access (Bus.read address))
  write : ∀ (address : Address) value,
    Keeps (Live kept) (access (Bus.write address value))
  delay : ∀ ms, Keeps (Live kept) (delay ms)
  cursor : ∀ change : Cursor → Cursor,
    Keeps (Live kept)
      (modifyRadio fun radio => { radio with cursor := change radio.cursor })
  configure : ∀ change, Keeps kept (modifyConfiguration change)

namespace Plain

variable (plain : Plain kept)

include plain

theorem aloof : Aloof kept :=
  ⟨plain.read, fun _ _ => plain.write _⟩

theorem keeps_configure (change : Configuration → Configuration) :
    Keeps (Live kept) (modifyConfiguration change) :=
  fun station holds => ⟨plain.configure change station holds.1, holds.2⟩

theorem lasting : Lasting kept where
  start := plain.start
  read _ := plain.read _
  rest _ _ := plain.write _ _
  mode _ := plain.write _ _
  buffer := plain.read _
  write name _ value := plain.write name.address value
  delay := plain.delay
  cursor := plain.cursor
  header _ := plain.aloof.keeps_setHeaderMode (plain.keeps_configure _)
  set :=
    Steady.keeps_set ⟨plain.start, fun _ => plain.read _,
      fun _ _ => plain.write _ _⟩
    (fun _ => plain.aloof.keeps_set (plain.keeps_configure _)) fun _ =>
      plain.configure _

theorem robust (stops : RadioTask.Halts kept RadioTask.ensureReady kept) :
    Robust kept where
  toEnduring := plain.lasting.enduring
  startStops := stops
  headerStops := plain.aloof.halts_setHeaderMode

end Plain

/-! ## Sessions -/

def Station.cleared (station : Station) : Station :=
  ⟨station.radio, station.bench.clearTrace⟩

namespace Session

theorem step_call (session : Session) (call : Call) :
    session.step (.call call) =
      ((call.perform session.station.cleared).1,
        ⟨(call.perform session.station.cleared).2, session.chips⟩) :=
  rfl

def after (session : Session) (steps : List Step) : Session :=
  steps.foldl (fun session step => (session.step step).2) session

def outcomes (session : Session) : List Step → List (Reply × Session)
  | [] => []
  | step :: rest => session.step step :: (session.step step).2.outcomes rest

def history (session : Session) (steps : List Step) : List Event :=
  (session.outcomes steps).flatMap fun outcome => outcome.2.station.bench.events

theorem history_cons (session : Session) (step : Step) (rest : List Step) :
    session.history (step :: rest) =
      (session.step step).2.station.bench.events ++
        (session.step step).2.history rest := by
  simp [history, outcomes]

theorem after_induction (holds : Session → Prop) {allowed : Step → Prop}
    (each : ∀ session step, allowed step → holds session →
      holds (session.step step).2) {session : Session} {steps : List Step}
    (all : ∀ step ∈ steps, allowed step) (begins : holds session) :
    holds (session.after steps) := by
  induction steps generalizing session with
  | nil => exact begins
  | cons step rest ih =>
      rw [List.forall_mem_cons] at all
      exact ih all.2 (each session step all.1 begins)

end Session

end LoraRadio
