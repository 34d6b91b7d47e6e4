import LoraRadio.Proofs.BrokenLook
import LoraRadio.Proofs.Unread

/-!
# A look at the next byte that fails

The chip moves its pointer with every byte that is taken from the packet buffer.
A look at the next byte therefore notes the pointer, takes the byte and puts the
pointer back.  If putting it back fails, the pointer stays one cell ahead, while
the driver goes on counting from where it was: the byte that was looked at is
skipped, and what is read last lies behind the packet.
-/

namespace LoraRadio

open Operation RadioM Radio

namespace Call

theorem performAll_readByte {station : Station} (sound : station.bench.Sound)
    {count : Nat} (left : station.radio.available = count) :
    (performAll (List.replicate count .readByte) station).1 =
      (station.bench.chip.cellsFrom station.bench.chip.pointer count).map
        fun byte =>
        .byte (some byte) := by
  have bytes : station.scene.unread =
      station.bench.chip.cellsFrom station.bench.chip.pointer count :=
        left ▸ rfl
  have length :=
    station.bench.chip.length_cellsFrom station.bench.chip.pointer count
  rw [performAll_reads sound, bytes]
  apply List.ext_getElem
  · simp [length]
  · intro index _ inside
    rw [List.length_map] at inside
    simp [List.getElem?_eq_getElem inside]

end Call

/-! ## The look -/

namespace Radio

theorem keeps_radio_peekByte (radio : Radio) :
    Keeps (fun station => station.radio = radio) peekByte := by
  have access {α : Type} (operation : BusM α) :
      Keeps (fun station => station.radio = radio) (access operation) :=
    keeps_access_radio (· = radio) operation
  refine .bind keeps_getRadio fun _ => .ite (.pure _) ?_
  refine .bind (RadioM.keeps_readRegister fun _ => access _) fun _ => ?_
  refine .bind (RadioM.keeps_readRegister fun _ => access _) fun _ => ?_
  exact .bind (RadioM.keeps_writeRegister _ fun _ _ => access _) fun _ =>
    .pure _

/-- A failed look leaves everything as it was, or the pointer one cell ahead. -/
theorem peekByte_broken {station final : Station} {failure : Failure}
    (left : station.radio.available ≠ 0)
    (run : peekByte.run station = .error failure final) :
    let restore : Event :=
      .writeFailed RegisterName.fifoAddrPtr.address station.bench.chip.pointer
    (final.bench.chip = station.bench.chip ∧ ¬final.bench.BrokeAt [restore]) ∨
      (final.bench.chip = station.bench.chip.movePointer ∧
        final.bench.BrokeAt [restore]) := by
  intro restore
  obtain ⟨events, breaks, records⟩ :=
    (@follows_peekByte_of_left station.scene left).breaks_of_error run
  have elsewhere {address : Address}
      (last : events.getLast? = some (.readFailed address)) :
      ¬final.bench.BrokeAt [restore] := by
    rintro ⟨event, member, found⟩
    rw [records.getLast? last, List.mem_singleton.mp member] at found
    exact Event.noConfusion (Option.some.inj found)
  -- There are three accesses to fail at, and the pointer has moved only before
  -- the last of them.
  cases breaks with
  | here fails =>
      cases fails
      exact .inl ⟨records.replayed, elsewhere rfl⟩
  | later breaks =>
      cases breaks with
      | here fails =>
          cases fails
          exact .inl ⟨records.replayed, elsewhere rfl⟩
      | later breaks =>
          cases breaks with
          | here fails =>
              cases fails
              exact .inr ⟨records.replayed, _, List.mem_singleton_self _,
                records.getLast? rfl⟩
          | later breaks => cases breaks

end Radio

namespace Call

/-- A look at the next byte of a packet that fails leaves the driver as it was.
If it was the pointer that could not be put back, the byte is skipped: from then
on the bytes behind it are read, and at last the cell behind the packet.
Otherwise the rest of the packet is still there to read. -/
theorem peek_broken_reads {station final : Station} {packet : List UInt8}
    {start : UInt8} {position : Nat} {failure : Failure}
    (ready : station.radio.ready = true)
    (cursor : station.radio.cursor = ⟨position, packet.length⟩)
    (pointer : station.bench.chip.pointer = start + UInt8.ofNat position)
    (content : station.bench.chip.HoldsPacket start packet)
    (left : position < packet.length)
    (broken : Call.peekByte.perform station = (.failed failure, final)) :
    let restore : Event :=
      .writeFailed RegisterName.fifoAddrPtr.address station.bench.chip.pointer
    let reads := List.replicate (packet.length - position) Call.readByte
    final.radio = station.radio ∧
      ∀ bench : Bench, bench.Sound → bench.chip = final.bench.chip →
        (¬final.bench.BrokeAt [restore] →
          (performAll reads ⟨final.radio, bench⟩).1 =
            (packet.drop position).map fun byte => .byte (some byte)) ∧
        (final.bench.BrokeAt [restore] →
          (performAll reads ⟨final.radio, bench⟩).1 =
            (packet.drop (position + 1) ++
              [station.bench.chip.cell (start + UInt8.ofNat packet.length)]).map
              fun byte => .byte (some byte)) := by
  intro restore reads
  have run : Radio.peekByte.run station = .error failure final :=
    run_of_answer_failed broken fun _ => Reply.noConfusion
  have available : station.radio.available = packet.length - position := by
    rw [Radio.available, ready, cursor]
    rfl
  have radio : final.radio = station.radio := by
    have kept := keeps_radio_peekByte station.radio station rfl
    rwa [run] at kept
  refine ⟨radio, fun bench sound same => ?_⟩
  have given :=
    @performAll_readByte ⟨final.radio, bench⟩ sound (packet.length - position)
      (by rw [radio, available])
  change (performAll reads _).1 =
    (bench.chip.cellsFrom bench.chip.pointer _).map _ at given
  rw [given, same]
  rcases peekByte_broken (by omega) run with ⟨kept, apart⟩ | ⟨moved, broke⟩
  · refine ⟨fun _ => congrArg _ ?_, fun broke => absurd broke apart⟩
    have rest := (content.drop position).eq_cellsFrom
    rw [List.length_drop] at rest
    rw [kept, pointer, ← rest]
  · refine ⟨fun apart => absurd broke apart, fun _ => congrArg _ ?_⟩
    have ahead : final.bench.chip.pointer =
        start + UInt8.ofNat (position + 1) := by
      rw [moved, UInt8.ofNat_add, ← UInt8.add_assoc, ← pointer]
      simp [Chip.movePointer, Chip.pointer]
    have buffer : final.bench.chip.fifo = station.bench.chip.fifo := by
      rw [moved]
      rfl
    have rest := (content.drop (position + 1)).eq_cellsFrom
    rw [List.length_drop] at rest
    have count : packet.length - position =
      packet.length - (position + 1) + 1 := by omega
    have whole : position + 1 + (packet.length - (position + 1)) =
      packet.length := by omega
    rw [ahead, Chip.cellsFrom_congr buffer, count, Chip.cellsFrom_succ, ← rest,
      UInt8.add_assoc, ← UInt8.ofNat_add, whole]

theorem peek_broken_reads_around_the_end :
    let station : Station :=
      ⟨{ Radio.attach ⟨0, true, true⟩ with
          lifecycle := .ready, cursor := ⟨1, 3⟩ },
        { chip := (Chip.fresh.deliver 254 [10, 11, 12] 0x40).setRegister
            RegisterName.fifoAddrPtr.address 255
          busFaults := ⟨2, 1⟩ }⟩
    let final := (Call.peekByte.perform station).2
    ∀ bench : Bench, bench.Sound → bench.chip = final.bench.chip →
      (performAll [.readByte, .readByte] ⟨final.radio, bench⟩).1 =
        [.number (some 12), .number (some 0)] := by
  intro station final bench sound same
  have failed : (Call.peekByte.perform station).1 = .failed .bus := by
    subst station
    rfl
  have broken : Call.peekByte.perform station = (.failed .bus, final) :=
    Prod.ext failed rfl
  have content : station.bench.chip.HoldsPacket 254 [10, 11, 12] := by
    unfold Chip.HoldsPacket
    decide +kernel
  have broke : final.bench.BrokeAt
      [.writeFailed RegisterName.fifoAddrPtr.address
        station.bench.chip.pointer] :=
    ⟨_, List.mem_cons_self, by decide +kernel⟩
  have reads :=
    (@peek_broken_reads station final [10, 11, 12] 254 1 .bus rfl rfl
      (by decide +kernel) content (by decide) broken).2 bench sound same
  have behind : station.bench.chip.cell 1 = 0 := by decide +kernel
  have given := reads.2 broke
  rw [show (254 : UInt8) + UInt8.ofNat [(10 : UInt8), 11, 12].length = 1 from
    rfl, behind] at given
  exact given

/-- A look at the next byte that fails when it puts the pointer back skips this
byte. -/
theorem peek_broken_skips_byte :
    let steps : List Step :=
      [.call .isReady, .stimulus (.deliver 16 [10, 11, 12] 0x40),
        .call (.receive 0), .stimulus (.busFaults ⟨2, 1⟩), .call .peekByte,
        .call .readByte]
    ((Session.start true true Chip.fresh).outcomes steps).map
        (fun outcome => (outcome.1, outcome.2.station.radio.available)) =
      [(.truth true, 0), (.done, 0), (.count 3, 3), (.done, 3),
        (.failed .bus, 3), (.number (some 11), 2)] := by
  rfl

end Call

end LoraRadio
