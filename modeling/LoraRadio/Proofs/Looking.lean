import LoraRadio.Proofs.Codec
import LoraRadio.Proofs.Settings
import LoraRadio.Radio.Receive

/-!
# Looking for a packet

A look reads the flags, sets the chip up for the packet that is expected, and
clears every flag that was found.  If the flags show a packet, the chip and the
cursor are pointed at it.  Otherwise the chip is made to listen, unless it does
so already.
-/

namespace LoraRadio

open Operation RadioM

namespace InterruptFlags

theorem packetReady_or_transmitDone (bits : UInt8) :
    packetReady ⟨bits ||| 0x08⟩ = packetReady ⟨bits⟩ := by
  have done : bit 6 (0x08 : UInt8) = false := by decide
  have failed : bit 5 (0x08 : UInt8) = false := by decide
  simp [packetReady, has, Interrupt.position, bit_or, done, failed]

end InterruptFlags

namespace Chip

def flags (chip : Chip) : InterruptFlags :=
  ⟨chip.countFlagRead.register RegisterName.irqFlags.address⟩

theorem flags_eq (chip : Chip) :
    chip.flags = ⟨chip.register RegisterName.irqFlags.address⟩ ∨
      chip.flags = ⟨chip.register RegisterName.irqFlags.address ||| 0x08⟩ := by
  unfold flags countFlagRead
  split
  · right
    simp [raiseTransmitDone]
    rfl
  · exact .inl rfl

theorem packetReady_flags (chip : Chip) :
    chip.flags.packetReady =
      InterruptFlags.packetReady
        ⟨chip.register RegisterName.irqFlags.address⟩ := by
  rcases chip.flags_eq with same | raised
  · rw [same]
  · rw [raised, InterruptFlags.packetReady_or_transmitDone]

def expecting (chip : Chip) (size : UInt8) : Chip :=
  if 0 < size then
    (chip.putHeaderMode .implicit).setRegister
      RegisterName.payloadLength.address size
  else chip.putHeaderMode .explicit

theorem register_expecting (chip : Chip) (size : UInt8) {name : RegisterName}
    (modem : name ≠ .modemConfig1) (length : name ≠ .payloadLength) :
    (chip.expecting size).register name.address =
      chip.register name.address := by
  unfold expecting
  split <;> simp [putHeaderMode, update, modem.symm, length.symm]

def polled (chip : Chip) (size : UInt8) : Chip :=
  (chip.countFlagRead.expecting size).setRegister RegisterName.irqFlags.address
    ((chip.countFlagRead.expecting size).register
        RegisterName.irqFlags.address &&&
      ~~~chip.flags.bits)

theorem register_polled (chip : Chip) (size : UInt8) {name : RegisterName}
    (modem : name ≠ .modemConfig1) (length : name ≠ .payloadLength)
    (apart : name ≠ .irqFlags) :
    (chip.polled size).register name.address = chip.register name.address := by
  have looked : chip.countFlagRead.register name.address =
      chip.register name.address :=
    register_countFlagRead (by simpa using apart)
  simp [polled, apart.symm, register_expecting _ _ modem length, looked]

theorem flags_polled (chip : Chip) (size : UInt8) :
    (chip.polled size).register RegisterName.irqFlags.address = 0 := by
  have seen : (chip.countFlagRead.expecting size).register
        RegisterName.irqFlags.address =
      chip.flags.bits := register_expecting _ _ (by decide) (by decide)
  simp [polled, seen]

theorem payloadLength_polled (chip : Chip) {size : UInt8} (given : 0 < size) :
    (chip.polled size).value .payloadLength = size.toNat := by
  simp [polled, expecting, given]

theorem fifo_polled (chip : Chip) (size : UInt8) :
    (chip.polled size).fifo = chip.fifo := by
  have kept : (chip.countFlagRead.expecting size).fifo =
      chip.countFlagRead.fifo := by
    unfold expecting
    split <;> rfl
  exact kept.trans fifo_countFlagRead

def atPacket (chip : Chip) : Chip :=
  (chip.setRegister RegisterName.fifoAddrPtr.address
    (chip.register RegisterName.fifoRxCurrentAddr.address)).setRegister
      RegisterName.opMode.address 0x81

theorem pointer_atPacket (chip : Chip) :
    chip.atPacket.pointer =
      chip.register RegisterName.fifoRxCurrentAddr.address := by
  simp [atPacket, pointer]

theorem flags_atPacket {chip : Chip} {size : UInt8} :
    (chip.polled size).atPacket.register RegisterName.irqFlags.address = 0 := by
  simp [atPacket, chip.flags_polled size]

/-- The chip is in a mode for reception, whatever the modulation. -/
def isReceiving (chip : Chip) : Bool :=
  (OperatingMode.ofByte
    (chip.register RegisterName.opMode.address)).mode.isReceiving

/-- The chip is in a mode for reception in long range. -/
def isListening (chip : Chip) : Bool :=
  (OperatingMode.ofByte
    (chip.register RegisterName.opMode.address)).longRange && chip.isReceiving

def atStart (chip : Chip) : Chip :=
  (chip.setRegister RegisterName.fifoAddrPtr.address 0).setRegister
    RegisterName.opMode.address 0x86

end Chip

namespace Scene

def polled (scene : Scene) (size : UInt8) : Scene :=
  (scene.withChip (scene.chip.polled size)).configure fun known =>
    { known with headerMode := if 0 < size then .implicit else .explicit }

def packetLength (scene : Scene) : Nat :=
  match scene.radio.configuration.headerMode with
  | .implicit => scene.chip.value .payloadLength
  | .explicit => scene.chip.value .rxNbBytes

theorem packetLength_polled (scene : Scene) (size : UInt8) :
    (scene.polled size).packetLength =
      if 0 < size then size.toNat else scene.chip.value .rxNbBytes := by
  by_cases given : 0 < size
  · have mode : (scene.polled size).radio.configuration.headerMode =
      .implicit := if_pos given
    rw [packetLength, mode, if_pos given]
    exact scene.chip.payloadLength_polled given
  · have mode : (scene.polled size).radio.configuration.headerMode =
      .explicit := if_neg given
    rw [packetLength, mode, if_neg given]
    exact congrArg UInt8.toNat
      (scene.chip.register_polled size (by decide) (by decide) (by decide))

def accepted (scene : Scene) : Scene :=
  { scene with
    radio := { scene.radio with cursor := .start scene.packetLength }
    chip := scene.chip.atPacket }

theorem pointer_accepted (scene : Scene) (size : UInt8) :
    (scene.polled size).accepted.chip.pointer =
      scene.chip.register RegisterName.fifoRxCurrentAddr.address :=
  (Chip.pointer_atPacket _).trans
    (scene.chip.register_polled size (by decide) (by decide) (by decide))

def listening (scene : Scene) : Scene :=
  if scene.chip.isListening then scene
  else { scene with
    radio := { scene.radio with cursor := {} }, chip := scene.chip.atStart }

end Scene

/-! ## The record of a look -/

namespace Chip

def expectScript (chip : Chip) (size : UInt8) : List Event :=
  if 0 < size then
    chip.headerScript .implicit ++
      [.write RegisterName.payloadLength.address size]
  else chip.headerScript .explicit

def pollScript (chip : Chip) (size : UInt8) : List Event :=
  .read RegisterName.irqFlags.address chip.flags.bits ::
    (chip.countFlagRead.expectScript size ++
      [.write RegisterName.irqFlags.address chip.flags.bits])

def listenScript (chip : Chip) : List Event :=
  .read RegisterName.opMode.address
    (chip.register RegisterName.opMode.address) ::
    if chip.isListening then []
    else [.write RegisterName.fifoAddrPtr.address 0,
      .write RegisterName.opMode.address 0x86]

end Chip

def HeaderMode.lengthRegister : HeaderMode → RegisterName
  | .implicit => .payloadLength
  | .explicit => .rxNbBytes

def Chip.acceptScript (chip : Chip) (mode : HeaderMode) : List Event :=
  let start := chip.register RegisterName.fifoRxCurrentAddr.address
  [.read mode.lengthRegister.address
    (chip.register mode.lengthRegister.address),
    .read RegisterName.fifoRxCurrentAddr.address start,
    .write RegisterName.fifoAddrPtr.address start,
    .write RegisterName.opMode.address 0x81]

namespace Radio

theorem follows_expectPacket (size : UInt8) (before : Scene) :
    Follows (expectPacket size) before (before.chip.expectScript size)
      (.ok () ((before.withChip (before.chip.expecting size)).configure
        fun known =>
        { known with headerMode := if 0 < size then .implicit else
          .explicit })) := by
  unfold expectPacket Chip.expecting Chip.expectScript
  by_cases given : 0 < size
  · simp only [if_pos given]
    exact .bind (follows_setHeaderMode _ before) (follows_writeRegister _ _)
  · simp only [if_neg given]
    exact follows_setHeaderMode _ before

theorem follows_packetLength (before : Scene) :
    Follows (packetLength before.radio.configuration.headerMode) before
      [.read before.radio.configuration.headerMode.lengthRegister.address
        (before.chip.register
          before.radio.configuration.headerMode.lengthRegister.address)]
      (.ok before.packetLength before) := by
  unfold Scene.packetLength
  cases before.radio.configuration.headerMode with
  | implicit =>
      exact .bind (follows_readNumber (by decide) (by decide) before)
        (.pure _ before)
  | explicit =>
      exact .bind (follows_readNumber (by decide) (by decide) before)
        (.pure _ before)

theorem follows_acceptPacket (before : Scene) :
    Follows acceptPacket before
      (before.chip.acceptScript before.radio.configuration.headerMode)
      (.ok before.packetLength before.accepted) := by
  refine .silent_bind (follows_getConfiguration before)
    (.bind (follows_packetLength before) ?_)
  refine .silent_bind (follows_modifyRadio _ before) ?_
  refine .bind (follows_readNumber (by decide) (by decide) _) ?_
  exact .bind (follows_writeRegister _ _)
    (.bind (follows_writeRegister _ _) (.pure _ _))

theorem follows_listen (before : Scene) :
    Follows listen before before.chip.listenScript
      (.ok () before.listening) := by
  have looked : Follows (readRegister OperatingMode) before
      [.read RegisterName.opMode.address
        (before.chip.register RegisterName.opMode.address)]
      (.ok (.ofByte (before.chip.register RegisterName.opMode.address))
        before) :=
    follows_readRegister rfl
  refine .bind looked ?_
  change Follows (if before.chip.isListening then Pure.pure () else _) before
    (if before.chip.isListening then [] else _)
    (.ok () (if before.chip.isListening then before else _))
  by_cases listening : before.chip.isListening = true
  · rw [if_pos listening, if_pos listening, if_pos listening]
    exact .pure () before
  · rw [if_neg listening, if_neg listening, if_neg listening]
    refine .silent_bind (follows_modifyRadio _ before) ?_
    exact .bind (follows_writeRegister _ _) (follows_writeRegister _ _)

def poll (size : UInt8) : RadioM InterruptFlags := do
  let flags ← readRegister InterruptFlags
  expectPacket size
  writeRegister flags
  return flags

theorem receive_eq (size : UInt8) :
    receive size = whenReady 0 (poll size >>= fun flags =>
      if flags.packetReady then acceptPacket else do listen; return 0) := by
  rw [poll]
  simp only [bind_assoc]
  rfl

theorem follows_poll (size : UInt8) (before : Scene) :
    Follows (poll size) before (before.chip.pollScript size)
      (.ok before.chip.flags (before.polled size)) := by
  have looked : Follows (readRegister InterruptFlags) before
      [.read RegisterName.irqFlags.address before.chip.flags.bits]
      (.ok before.chip.flags (before.withChip before.chip.countFlagRead)) :=
    follows_readRegister rfl
  refine .bind looked (.bind (follows_expectPacket size _) ?_)
  exact .bind (follows_writeRegister before.chip.flags _) (.pure _ _)

theorem follows_receive {before : Scene} {script : List Event}
    {after : Outcome Failure Scene Nat} (size : UInt8)
    (ready : before.radio.ready = true)
    (rest : Follows
      (if before.chip.flags.packetReady then acceptPacket
        else do listen; return 0)
      (before.polled size) script after) :
    Follows (receive size) before
      (before.chip.pollScript size ++ script) after := by
  rw [receive_eq]
  exact follows_whenReady ready 0 (.bind (follows_poll size before) rest)

theorem follows_receive_found {before : Scene} (size : UInt8)
    (ready : before.radio.ready = true)
    (found : before.chip.flags.packetReady = true) :
    Follows (receive size) before
      (before.chip.pollScript size ++ (before.polled size).chip.acceptScript
        (before.polled size).radio.configuration.headerMode)
      (.ok (before.polled size).packetLength
        (before.polled size).accepted) := by
  apply follows_receive size ready
  rw [if_pos found]
  exact follows_acceptPacket _

theorem follows_receive_missed {before : Scene} (size : UInt8)
    (ready : before.radio.ready = true)
    (missed : before.chip.flags.packetReady = false) :
    Follows (receive size) before
      (before.chip.pollScript size ++ (before.polled size).chip.listenScript)
      (.ok 0 (before.polled size).listening) := by
  apply follows_receive size ready
  rw [if_neg (by simp [missed])]
  exact .bind_silent (follows_listen _) (.pure 0 _)

theorem gives_receive_found {before : Scene} (size : UInt8)
    (ready : before.radio.ready = true)
    (found : before.chip.flags.packetReady = true) :
    Gives (receive size) before
      (.ok (before.polled size).packetLength (before.polled size).accepted) :=
  (follows_receive_found size ready found).gives

end Radio

end LoraRadio
