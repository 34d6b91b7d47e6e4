import LoraRadio.Proofs.Lasting
import LoraRadio.Proofs.Reception
import LoraRadio.Proofs.SendAgreement

/-!
# Reading while packets are sent

Packets that come in and packets that go out share one buffer and one pointer
into it.  The driver keeps a count of the received bytes that are left.  The
start of a transmission leaves this count alone, but it moves the pointer and
fills the buffer.  What is read afterwards is therefore what lies under the
pointer by then, and not the next byte of the packet that came in.
-/

namespace LoraRadio

open Operation RadioM Radio

/-! ## The count -/

/-- No call changes how much is left to read but one that looks for a packet or
reads one, not even if it fails or is dropped on its way. -/
theorem abandonable_cursor (cursor : Cursor) :
    Abandonable fun station => station.radio.ready = true ∧
      station.radio.cursor = cursor := by
  let held (radio : Radio) := radio.ready = true ∧ radio.cursor = cursor
  have access {α : Type} (operation : BusM α) :
      Keeps (Live fun station => held station.radio) (access operation) :=
    Live.keeps_access_radio held operation
  have configure (change : Configuration → Configuration) :
      Keeps (fun station => held station.radio) (modifyConfiguration change) :=
    fun _ holds => holds
  have live (change : Configuration → Configuration) :
      Keeps (Live fun station => held station.radio)
        (modifyConfiguration change) :=
    fun station holds => ⟨configure change station holds.1, holds.2⟩
  have steady : Steady fun station => held station.radio := {
    start := keeps_ensureReady_of_ready And.left
    read _ := access _
    rest _ _ := access _ }
  exact {
    steady with
    flags _ := access _
    delay _ _ holds := holds
    launch := .bind (access _) fun _ => access _
    buffer := access _
    write _ _ _ := access _
    header _ := (aloof_radio held).keeps_setHeaderMode (live _)
    set :=
      steady.keeps_set (fun _ => (aloof_radio held).keeps_set (live _)) fun _ =>
        configure _
    startStops := by
      intro station holds stop member
      have started : station.radio.lifecycle ≠ .uninitialized := by
        intro new
        simp [Radio.ready, new] at holds
      rw [RadioTask.stops_ensureReady_of_started started] at member
      cases member
    headerStops := (aloof_radio held).halts_setHeaderMode }

theorem Call.available_performAll {calls : List Call}
    (apart : ∀ call ∈ calls, call.looks = false ∧ call ≠ .readByte)
    {station : Station} (ready : station.radio.ready = true) :
    (performAll calls station).2.radio.available = station.radio.available := by
  induction calls generalizing station with
  | nil => rfl
  | cons call rest ih =>
      rw [List.forall_mem_cons] at apart
      obtain ⟨stillReady, cursor⟩ :=
        (abandonable_cursor station.radio.cursor).perform_turned_apart
          apart.1.1 apart.1.2 ⟨ready, rfl⟩
      rw [performAll_snd_cons, ih apart.2 stillReady, available, available,
        stillReady, ready, cursor]

theorem Chip.register_withoutTransmitDone (chip : Chip) {name : RegisterName}
    (apart : name ≠ .irqFlags) :
    chip.withoutTransmitDone.register name.address =
      chip.register name.address := by
  simp [withoutTransmitDone, apart.symm]

theorem Setting.payloadLength_program (setting : Setting)
    (known : Configuration) (chip : Chip) :
    (setting.program known chip).register RegisterName.payloadLength.address =
      chip.register RegisterName.payloadLength.address := by
  cases setting <;>
    simp [program, Chip.update, Chip.putCarrier, Chip.putPower,
      Chip.putDetection, Chip.putFactor, Chip.putChecksum, Chip.putBandwidth,
      Chip.putCodingRate, Chip.putLowDataRate, Chip.putPreambleLength]

/-! ## The head -/

/-- What a reader of the packet buffer depends on. -/
structure Head where
  /-- How many bytes are left by the count of the driver. -/
  left : Nat
  /-- The cell under the pointer of the chip. -/
  cell : UInt8
  buffer : UInt8 → UInt8
  /-- The number in the length register. -/
  staged : UInt8

namespace Head

def byte (head : Head) : Option UInt8 :=
  if head.left = 0 then none else some (head.buffer head.cell)

def put (head : Head) (start : UInt8) (bytes : List UInt8) (cell : UInt8) :
    UInt8 :=
  (bytes[(cell - start).toNat]?).getD (head.buffer cell)

def read (head : Head) : Head :=
  if head.left = 0 then head
  else { head with left := head.left - 1, cell := head.cell + 1 }

/-- A packet is put at the start of the buffer, as far as it fits, and the
pointer behind it. -/
def stage (head : Head) (bytes : List UInt8) : Head :=
  { head with
    cell := UInt8.ofNat (min bytes.length maxPayload)
    buffer := head.put 0 (bytes.take maxPayload)
    staged := UInt8.ofNat (min bytes.length maxPayload) }

/-- Bytes are put where the pointer is, as far as the length register leaves
room for them. -/
def append (head : Head) (bytes : List UInt8) : Head :=
  let size := min bytes.length (maxPayload - head.staged.toNat)
  { head with
    cell := head.cell + UInt8.ofNat size
    buffer := head.put head.cell (bytes.take size)
    staged := UInt8.ofNat (head.staged.toNat + size) }

def send (head : Head) (bytes : List UInt8) : Head :=
  if bytes.isEmpty then head else head.stage bytes

def step (head : Head) : Call → Head
  | .readByte => head.read
  | .beginPacket => head.stage []
  | .append bytes => head.append bytes
  | .send bytes | .deferred (.send bytes) _ => head.send bytes
  | .sendText text | .deferred (.sendText text) _ =>
      head.send text.toUTF8.toList
  | _ => head

def run (head : Head) (calls : List Call) : Head :=
  calls.foldl step head

structure Describes (head : Head) (scene : Scene) : Prop where
  ready : scene.radio.ready = true
  legal : scene.radio.configuration.Legal
  left : scene.radio.available = head.left
  pointer : scene.chip.pointer = head.cell
  buffer : scene.chip.cell = head.buffer
  staged : scene.chip.register RegisterName.payloadLength.address = head.staged

namespace Describes

variable {head : Head} {scene : Scene}

theorem withChip {chip : Chip} (describes : head.Describes scene)
    (pointer : chip.pointer = scene.chip.pointer)
    (fifo : chip.fifo = scene.chip.fifo)
    (length : chip.register RegisterName.payloadLength.address =
      scene.chip.register RegisterName.payloadLength.address) :
    head.Describes (scene.withChip chip) where
  ready := describes.ready
  legal := describes.legal
  left := describes.left
  pointer := pointer.trans describes.pointer
  buffer := by
    rw [← describes.buffer]
    funext cell
    simp only [Scene.withChip, Chip.cell, fifo]
  staged := length.trans describes.staged

/-! ## Reading -/

theorem byte_eq (describes : head.Describes scene) (left : head.left ≠ 0) :
    head.byte = some (scene.chip.cell scene.chip.pointer) := by
  rw [byte, if_neg left, describes.buffer, describes.pointer]

theorem gives_readByte (describes : head.Describes scene) :
    ∃ after, Gives readByte scene (.ok head.byte after) ∧
      head.read.Describes after := by
  by_cases empty : head.left = 0
  · refine ⟨scene, ?_, ?_⟩
    · rw [byte, if_pos empty]
      exact gives_readByte_of_empty (describes.left.trans empty)
    · rw [read, if_pos empty]
      exact describes
  · have some : scene.radio.available ≠ 0 := by rwa [describes.left]
    rw [describes.byte_eq empty, read, if_neg empty]
    refine ⟨_, gives_readByte_of_left some, ?_⟩
    exact {
      ready := describes.ready
      legal := describes.legal
      left := by
        have count := describes.left
        have known := describes.ready
        simp only [Radio.available, Radio.ready] at count known ⊢
        simp only [known, if_true, Cursor.remaining, Cursor.advance] at count ⊢
        omega
      pointer := by
        rw [← describes.pointer]
        simp [Scene.withChip, Chip.movePointer, Chip.pointer]
      buffer := describes.buffer
      staged := (Chip.register_movePointer (by decide)).trans describes.staged }

theorem gives_peekByte (describes : head.Describes scene) :
    Gives peekByte scene (.ok head.byte scene) := by
  by_cases empty : head.left = 0
  · rw [byte, if_pos empty]
    exact gives_peekByte_of_empty (describes.left.trans empty)
  · rw [describes.byte_eq empty]
    exact gives_peekByte_of_left (by rwa [describes.left])

/-! ## Sending -/

theorem stage {mode : HeaderMode} {bytes : List UInt8} {chip : Chip}
    (describes : head.Describes scene)
    (pointer : chip.pointer = ((scene.chip.opened mode).staged bytes).pointer)
    (fifo : chip.fifo = ((scene.chip.opened mode).staged bytes).fifo)
    (length : chip.register RegisterName.payloadLength.address =
      ((scene.chip.opened mode).staged bytes).register
        RegisterName.payloadLength.address) :
    (head.stage bytes).Describes (scene.withChip chip) := by
  have staged : (head.stage bytes).Describes
      (scene.withChip ((scene.chip.opened mode).staged bytes)) := {
    ready := describes.ready
    legal := describes.legal
    left := describes.left
    pointer := Chip.pointer_staged _ bytes
    buffer := by
      funext cell
      have distance : cell - 0 = cell := UInt8.sub_zero cell
      change _ = ((bytes.take maxPayload)[(cell - 0).toNat]?).getD
        (head.buffer cell)
      rw [distance, ← describes.buffer]
      exact Chip.cell_staged _ bytes cell
    staged := Chip.register_staged _ bytes }
  exact staged.withChip pointer fifo length

theorem append (describes : head.Describes scene) (bytes : List UInt8) :
    ∃ size after, Gives (Radio.append bytes) scene (.ok size after) ∧
      (head.append bytes).Describes after := by
  have held : scene.chip.value .payloadLength = head.staged.toNat :=
    congrArg UInt8.toNat describes.staged
  have length :
        (bytes.take (min bytes.length
          (maxPayload - head.staged.toNat))).length =
      min bytes.length (maxPayload - head.staged.toNat) := by
    rw [List.length_take]
    omega
  have fits : (bytes.take
      (min bytes.length (maxPayload - head.staged.toNat))).length ≤ 256 := by
    have most : maxPayload = 255 := rfl
    omega
  have appended := gives_append_chunk bytes describes.ready rfl
  rw [held] at appended
  refine ⟨_, _, appended, ?_⟩
  exact {
    ready := describes.ready
    legal := describes.legal
    left := describes.left
    pointer := by
      rw [Head.append, ← describes.pointer]
      simp [Scene.withChip, Chip.fill, Chip.pointer, length]
    buffer := by
      funext cell
      change _ = head.put head.cell _ cell
      rw [put, ← describes.buffer, ← describes.pointer]
      exact Chip.cell_load _ _ fits cell
    staged := by simp [Scene.withChip, Head.append] }

theorem keeps {α : Type} {operation : RadioM α}
    (each : ∀ before, head.Describes before →
      ∃ after, Gives operation before after ∧ head.Describes after.state) :
    Keeps (Live (Quietly head.Describes)) operation := by
  intro station holds
  have after := Gives.keeps each station holds.1
  exact ⟨after, after.2.ready⟩

theorem write {address : Address} (value : UInt8)
    (describes : head.Describes scene)
    (buffer : address ≠ RegisterName.fifo.address)
    (pointer : address ≠ RegisterName.fifoAddrPtr.address)
    (length : address ≠ RegisterName.payloadLength.address) :
    head.Describes (scene.withChip (scene.chip.write address value)) :=
  describes.withChip (Chip.pointer_write buffer pointer)
    (Chip.fifo_write buffer)
    (Chip.register_write length.symm (by decide) (by decide))

theorem keeps_writeMode (mode : Mode) :
    Keeps (Live (Quietly head.Describes)) (writeMode mode) :=
  keeps fun before describes => ⟨_, gives_write _ _ before,
    describes.write _ (by decide) (by decide) (by decide)⟩

theorem keeps_flags (value : UInt8) :
    Keeps (Live (Quietly head.Describes))
      (access (Bus.write RegisterName.irqFlags.address value)) :=
  keeps fun before describes => ⟨_, gives_write _ _ before,
    describes.write _ (by decide) (by decide) (by decide)⟩

theorem steady : Steady (Quietly head.Describes) :=
  .ofReady Describes.ready
    (fun apart describes => describes.withChip
      (Chip.pointer_read apart) Chip.fifo_read
      (Chip.register_read (by decide) (by decide)))
    fun value describes =>
      describes.write value (by decide) (by decide) (by decide)

theorem awaiting : Awaiting (Quietly head.Describes) where
  toSteady := steady
  flags := keeps_flags
  delay ms :=
    keeps fun before describes => ⟨_, gives_delay ms before, { describes with }⟩
  launch := .bind (keeps_flags _) fun _ => keeps_writeMode _

/-! ## Settings -/

theorem applyTo (describes : head.Describes scene) (setting : Setting) :
    head.Describes (setting.applyTo scene) := by
  have programmed := describes.withChip
    (setting.pointer_program (setting.configure scene.radio.configuration)
      scene.chip)
    (setting.fifo_program _ _) (setting.payloadLength_program _ _)
  exact { programmed with legal := setting.legal_configure describes.legal }

end Describes

/-! ## Calls -/

variable {head : Head} {station : Station}

theorem run_send (bytes : List UInt8) (holds : Quietly head.Describes station) :
    Quietly (head.send bytes).Describes
      ((Radio.send bytes).run station).state := by
  obtain ⟨sound, describes⟩ := holds
  by_cases empty : bytes = []
  · subst empty
    exact ⟨sound, describes⟩
  · obtain ⟨loaded, polling, run, sound, -, scene⟩ :=
      exists_loaded empty sound describes.ready describes.legal
    have staged : (head.stage bytes).Describes loaded.scene := by
      rw [scene]
      exact describes.stage
        (Chip.register_withoutTransmitDone _ (by decide)) rfl
        (Chip.register_withoutTransmitDone _ (by decide))
    have sent : Keeps (Live (Quietly (head.stage bytes).Describes))
        (transmit polling) :=
      .bind (Describes.keeps_writeMode _) fun _ =>
        Describes.awaiting.keeps_awaitEnd polling
    rw [run, send, if_neg (by simpa using empty)]
    exact (sent loaded ⟨⟨sound, staged⟩, staged.ready⟩).1

theorem run_sendAtOnce (bytes : List UInt8)
    (holds : Quietly head.Describes station) :
    Quietly (head.send bytes).Describes
      ((Radio.sendAtOnce bytes).run station).state := by
  obtain ⟨sound, describes⟩ := holds
  by_cases empty : bytes = []
  · subst empty
    exact ⟨sound, describes⟩
  · obtain ⟨polling, chosen⟩ := Configuration.exists_pollingFor describes.legal
      (UInt8.ofNat (min bytes.length maxPayload))
    obtain ⟨reached, run, sound, scene⟩ :=
      (follows_transmitAtOnce chosen).gives.exists_run sound rfl
    have staged : (head.stage bytes).Describes reached.scene := by
      rw [scene]
      refine describes.stage ?_ (Chip.fifo_write (by decide)) ?_
      · exact (Chip.pointer_write (by decide) (by decide)).trans
          (Chip.register_withoutTransmitDone _ (by decide))
      · exact (Chip.register_write (by decide) (by decide) (by decide)).trans
          (Chip.register_withoutTransmitDone _ (by decide))
    have some : ¬bytes.isEmpty = true := by simpa using empty
    rw [sendAtOnce, if_neg some, run_whenReady_of_ready describes.ready,
      run_bind, run, send, if_neg some]
    exact (Describes.awaiting.keeps_awaitEnd polling reached
      ⟨⟨sound, staged⟩, staged.ready⟩).1

theorem perform_setting (setting : Setting)
    (holds : Quietly head.Describes station) :
    Quietly head.Describes (setting.call.perform station).2 := by
  obtain ⟨final, performed, sound, scene⟩ :=
    setting.exists_perform_call holds.1 holds.2.ready holds.2.legal
  rw [performed]
  exact ⟨sound, scene ▸ holds.2.applyTo setting⟩

theorem perform_deferred (call : DeferredCall)
    (holds : Quietly head.Describes station) :
    Quietly (head.step (.deferred call none)).Describes
      ((Call.deferred call none).perform station).2 := by
  cases call with
  | send bytes =>
      change Quietly _ (DeferredCall.perform _ none station).2
      rw [DeferredCall.perform_whole, DeferredCall.performWhole,
        Call.answer_snd]
      exact run_sendAtOnce bytes holds
  | sendText text =>
      change Quietly _ (DeferredCall.perform _ none station).2
      rw [DeferredCall.perform_whole, DeferredCall.performWhole,
        Call.answer_snd]
      exact run_sendAtOnce _ holds
  | _ => exact Describes.steady.perform_bystander rfl holds

theorem perform {call : Call} (whole : call.Whole) (turned : call.looks = false)
    (holds : Quietly head.Describes station) :
    Quietly (head.step call).Describes (call.perform station).2 := by
  cases call with
  | setFrequency hz => exact perform_setting (.frequency hz) holds
  | setPower dbm amplifier => exact perform_setting (.power dbm amplifier) holds
  | setSpreadingFactor factor =>
      exact perform_setting (.spreadingFactor factor) holds
  | setBandwidth hz => exact perform_setting (.bandwidth hz) holds
  | setCodingRate denominator =>
      exact perform_setting (.codingRate denominator) holds
  | setPreambleLength symbols =>
      exact perform_setting (.preambleLength symbols) holds
  | setSyncWord word => exact perform_setting (.syncWord word) holds
  | setChecksum enabled => exact perform_setting (.checksum enabled) holds
  | setPolling wait => exact perform_setting (.polling wait) holds
  | beginPacket =>
      obtain ⟨final, run, sound, scene⟩ :=
        (gives_beginPacket holds.2.ready).exists_run holds.1 rfl
      change Quietly _ (Call.answer _ Radio.beginPacket station).2
      rw [Call.answer_of_ok run]
      exact ⟨sound, scene ▸ holds.2.stage rfl rfl rfl⟩
  | append bytes =>
      obtain ⟨size, after, gives, describes⟩ := holds.2.append bytes
      obtain ⟨final, run, sound, scene⟩ := gives.exists_run holds.1 rfl
      change Quietly _ (Call.answer _ (Radio.append bytes) station).2
      rw [Call.answer_of_ok run]
      exact ⟨sound, scene ▸ describes⟩
  | endPacket =>
      change Quietly _ (Call.answer _ Radio.endPacket station).2
      rw [Call.answer_snd]
      exact (Describes.awaiting.keeps_endPacket station
        ⟨holds, holds.2.ready⟩).1
  | send bytes =>
      change Quietly _ (Call.answer _ (Radio.send bytes) station).2
      rw [Call.answer_snd]
      exact run_send bytes holds
  | sendText text =>
      change Quietly _ (Call.answer _ (Radio.sendText text) station).2
      rw [Call.answer_snd]
      exact run_send _ holds
  | receive size => cases turned
  | readByte =>
      obtain ⟨after, gives, describes⟩ := holds.2.gives_readByte
      obtain ⟨final, run, sound, scene⟩ := gives.exists_run holds.1 rfl
      change Quietly _ (Call.answer _ Radio.readByte station).2
      rw [Call.answer_of_ok run]
      exact ⟨sound, scene ▸ describes⟩
  | peekByte =>
      obtain ⟨final, run, sound, scene⟩ :=
        holds.2.gives_peekByte.exists_run holds.1 rfl
      change Quietly _ (Call.answer _ Radio.peekByte station).2
      rw [Call.answer_of_ok run]
      exact ⟨sound, scene ▸ holds.2⟩
  | readBuffer buffer => cases turned
  | readText buffer => cases turned
  | deferred call drop =>
      cases drop with
      | none => exact perform_deferred call holds
      | some drop => cases whole
  | _ => exact Describes.steady.perform_bystander rfl holds

theorem performAll {calls : List Call}
    (allowed : ∀ call ∈ calls, call.Whole ∧ call.looks = false)
    (holds : Quietly head.Describes station) :
    Quietly (head.run calls).Describes (Call.performAll calls station).2 := by
  induction calls generalizing head station with
  | nil => exact holds
  | cons call rest ih =>
      rw [List.forall_mem_cons] at allowed
      rw [Call.performAll_snd_cons]
      exact ih allowed.2 (perform allowed.1.1 allowed.1.2 holds)

theorem perform_bytes (holds : Quietly head.Describes station) :
    (Call.readByte.perform station).1 = .byte head.byte ∧
      (Call.peekByte.perform station).1 = .byte head.byte := by
  obtain ⟨after, gives, -⟩ := holds.2.gives_readByte
  obtain ⟨final, read, -⟩ := gives.exists_run holds.1 rfl
  obtain ⟨peeked, look, -⟩ := holds.2.gives_peekByte.exists_run holds.1 rfl
  exact ⟨congrArg Prod.fst (Call.answer_of_ok read),
    congrArg Prod.fst (Call.answer_of_ok look)⟩

/-! ## Where the head is -/

theorem left_read (head : Head) : head.read.left = head.left - 1 := by
  unfold read
  split
  · omega
  · rfl

theorem left_send (head : Head) (bytes : List UInt8) :
    (head.send bytes).left = head.left := by
  unfold send
  split <;> rfl

theorem left_step (head : Head) {call : Call} (other : call ≠ .readByte) :
    (head.step call).left = head.left := by
  cases call with
  | readByte => contradiction
  | send bytes => exact left_send head bytes
  | sendText text => exact left_send head _
  | deferred call drop =>
      cases call with
      | send bytes => exact left_send head bytes
      | sendText text => exact left_send head _
      | _ => rfl
  | _ => rfl

theorem left_run (head : Head) (calls : List Call) :
    (head.run calls).left = head.left - calls.count .readByte := by
  induction calls generalizing head with
  | nil => rfl
  | cons call rest ih =>
      change ((head.step call).run rest).left = _
      rw [ih, List.count_cons]
      by_cases reads : call = .readByte
      · subst reads
        change head.read.left - _ = _
        rw [left_read, if_pos (by simp)]
        omega
      · rw [left_step head reads, if_neg (by simpa using reads)]
        rfl

theorem step_of_whileReading (head : Head) {call : Call}
    (allowed : call.WhileReading) (other : call ≠ .readByte) :
    head.step call = head := by
  cases allowed with
  | bystander known =>
      cases call with
      | readByte => contradiction
      | beginPacket => cases known
      | append bytes => cases known
      | send bytes => cases known
      | sendText text => cases known
      | deferred call drop =>
          cases call with
          | send bytes => cases drop <;> cases known
          | sendText text => cases drop <;> cases known
          | _ => rfl
      | _ => rfl
  | setting setting => cases setting <;> rfl
  | readByte => contradiction
  | peekByte => rfl

theorem run_of_whileReading (head : Head) {calls : List Call}
    (allowed : ∀ call ∈ calls, call.WhileReading) :
    head.run calls =
      { head with
        left := head.left - calls.count .readByte
        cell :=
            head.cell + UInt8.ofNat
              (min (calls.count .readByte) head.left) } := by
  induction calls generalizing head with
  | nil => simp [run]
  | cons call rest ih =>
      rw [List.forall_mem_cons] at allowed
      change (head.step call).run rest = _
      rw [ih _ allowed.2, List.count_cons]
      by_cases reads : call = .readByte
      · subst reads
        rw [if_pos (by simp), step]
        by_cases empty : head.left = 0
        · simp [read, empty]
        · have most : min (rest.count .readByte + 1) head.left =
              min (rest.count .readByte) (head.left - 1) + 1 := by omega
          have less : head.left - 1 - rest.count .readByte =
              head.left - (rest.count .readByte + 1) := by omega
          simp only [read, if_neg empty, most, less, Chip.add_ofNat_succ]
      · rw [step_of_whileReading head allowed.1 reads,
          if_neg (by simpa using reads)]
        rfl

theorem byte_of_whileReading {chip : Chip} {start staged : UInt8}
    {packet : List UInt8} (content : chip.HoldsPacket start packet)
    {calls : List Call} (allowed : ∀ call ∈ calls, call.WhileReading) :
    (run ⟨packet.length, start, chip.cell, staged⟩ calls).byte =
      packet[calls.count .readByte]? := by
  rw [run_of_whileReading _ allowed]
  by_cases inside : calls.count .readByte < packet.length
  · have left : packet.length - calls.count .readByte ≠ 0 := by omega
    simp only [byte, if_neg left, content _ inside,
      Nat.min_eq_left (Nat.le_of_lt inside)]
  · have none : packet.length - calls.count .readByte = 0 := by omega
    simp only [byte, if_pos none,
      List.getElem?_eq_none (Nat.le_of_not_lt inside)]

end Head

/-! ## A packet that came in -/

theorem Reading.describes {packet : List UInt8} {chip : Chip} {start : UInt8}
    {scene : Scene} (reading : Reading packet chip.fifo start 0 scene) :
    Head.Describes ⟨packet.length, start, chip.cell,
      scene.chip.register RegisterName.payloadLength.address⟩ scene where
  ready := reading.ready
  legal := reading.legal
  left := reading.available
  pointer := reading.pointer.trans (UInt8.add_zero start)
  buffer := by
    funext cell
    simp only [Chip.cell, reading.buffer]
  staged := rfl

namespace Call

/-- After a packet has come in, nothing but another look for one or a read
changes how many bytes are left, not even a call that fails or is dropped.
Without faults the bytes are those under the pointer.  These are the bytes of
the packet as long as nothing is sent.  The beginning of a packet moves the
pointer to the start of the buffer, and a packet that is sent moves it behind
its bytes. -/
theorem receive_follows_head {station : Station} {size start : UInt8}
    {packet : List UInt8} (sound : station.bench.Sound)
    (ready : station.radio.ready = true)
    (legal : station.radio.configuration.Legal)
    (found : InterruptFlags.packetReady
      ⟨station.bench.chip.register RegisterName.irqFlags.address⟩ = true)
    (begins : station.bench.chip.register
      RegisterName.fifoRxCurrentAddr.address = start)
    (length : packet.length = if 0 < size then size.toNat else
      station.bench.chip.value .rxNbBytes)
    (content : station.bench.chip.HoldsPacket start packet) :
    ∃ received, (Call.receive size).perform station =
        (.count packet.length, received) ∧
      (∀ (bench : Bench) (calls : List Call),
        (∀ call ∈ calls, call.looks = false ∧ call ≠ .readByte) →
          (performAll calls ⟨received.radio, bench⟩).2.radio.available =
            packet.length) ∧
      ∀ calls : List Call, (∀ call ∈ calls, call.Whole ∧ call.looks = false) →
        let reads := calls.count .readByte
        let head := Head.run ⟨packet.length, start, station.bench.chip.cell,
          received.bench.chip.register RegisterName.payloadLength.address⟩ calls
        let now := (performAll calls received).2
        now.radio.available = packet.length - reads ∧
        (Call.readByte.perform now).1 = .byte head.byte ∧
        (Call.peekByte.perform now).1 = .byte head.byte ∧
        ((∀ call ∈ calls, call.WhileReading) → head.byte = packet[reads]?) := by
  have measured : packet.length = (station.scene.polled size).packetLength :=
    length.trans (station.scene.packetLength_polled size).symm
  rw [← Chip.packetReady_flags] at found
  obtain ⟨received, run, sound, scene⟩ :=
    (@gives_receive_found station.scene size ready found).exists_run sound rfl
  have reading :=
    @Reading.accepted station.scene size start packet ready legal
      begins measured
    content
  rw [← scene] at reading
  have described := reading.describes
  refine ⟨received, ?_, ?_, ?_⟩
  · rw [measured]
    exact answer_of_ok run
  · intro bench calls apart
    exact (@available_performAll calls apart ⟨received.radio, bench⟩
      described.ready).trans described.left
  · intro calls allowed reads head now
    have holds := Head.performAll allowed ⟨sound, described⟩
    obtain ⟨read, peeked⟩ := Head.perform_bytes holds
    refine ⟨?_, read, peeked,
      fun quiet => Head.byte_of_whileReading content quiet⟩
    exact holds.2.left.trans (Head.left_run _ calls)

theorem receive_follows_head_after_send :
    let station : Station :=
      ⟨{ Radio.attach ⟨0, true, true⟩ with lifecycle := .ready },
        { chip := Chip.fresh.deliver 1 [10, 11, 12] 0x40 }⟩
    let calls : List Call :=
      [.readByte, .send [113, 114], .beginPacket, .readByte]
    ∃ received, (Call.receive 0).perform station = (.count 3, received) ∧
      (performAll calls received).2.radio.available = 1 ∧
      (Call.readByte.perform (performAll calls received).2).1 =
        .number (some 114) := by
  intro station calls
  have content : station.bench.chip.HoldsPacket 1 [10, 11, 12] := by
    unfold Chip.HoldsPacket
    decide +kernel
  have allowed : ∀ call ∈ calls, call.Whole ∧ call.looks = false := by
    simp [calls, Whole, looks]
  obtain ⟨received, run, -, follows⟩ :=
    @receive_follows_head station 0 1 [10, 11, 12] ⟨rfl, rfl⟩
      rfl Configuration.legal_default (by decide +kernel) (by decide +kernel)
        (by decide +kernel)
      content
  obtain ⟨left, read, -⟩ := follows calls allowed
  have byte (staged : UInt8) :
      (Head.run ⟨3, 1, station.bench.chip.cell, staged⟩ calls).byte =
        some 114 := by
    simp [calls, Head.run, Head.step, Head.send, Head.stage, Head.read,
      Head.put, Head.byte, maxPayload]
  exact ⟨received, run, left, read.trans (congrArg Reply.byte (byte _))⟩

/-- The beginning of a packet leaves three bytes to read, and the first of them
is not the first one of the packet that came in. -/
theorem beginPacket_misplaces_reader :
    let steps : List Step :=
      [.call .isReady, .stimulus (.deliver 16 [10, 11, 12] 0x40),
        .call (.receive 0), .call .beginPacket, .call .readByte]
    ((Session.start true true Chip.fresh).outcomes steps).map
        (fun outcome => (outcome.1, outcome.2.station.radio.available)) =
      [(.truth true, 0), (.done, 0), (.count 3, 3), (.done, 3),
        (.number (some 0), 2)] := by
  rfl

end Call

end LoraRadio
