import LoraRadio.Proofs.Unread

/-!
# Reading a packet into a buffer

A packet and the buffer of a caller can have any lengths.  As many bytes are
copied as both have, the rest of the buffer stays what it was, and the rest of
the packet stays to be read byte by byte.  The text of a packet is that of the
bytes that were copied.
-/

namespace LoraRadio

open Operation RadioM Radio

namespace Radio

/-! ## Filling a buffer -/

theorem exists_fill {station : Station} (sound : station.bench.Sound)
    (buffer : List UInt8) :
    let bytes := station.scene.unread
    ∃ final, fill buffer station =
        (⟨.ok (min bytes.length buffer.length),
          bytes.take buffer.length ++ buffer.drop bytes.length⟩, final) ∧
      final.bench.Sound ∧ final.scene.unread = bytes.drop buffer.length := by
  -- The loop goes along the buffer and takes what is left to read byte by byte.
  induction buffer generalizing station with
  | nil => exact ⟨station, by simp [fill], sound, rfl⟩
  | cons slot rest ih =>
      obtain ⟨after, gives, left⟩ := exists_gives_readByte station.scene
      obtain ⟨reached, run, stillSound, rfl⟩ := gives.exists_run sound rfl
      cases bytes : station.scene.unread with
      | nil =>
          rw [bytes] at run left
          refine ⟨reached, ?_, stillSound, left⟩
          simp [fill, run]
      | cons byte others =>
          rw [bytes] at run left
          obtain ⟨final, filled, finalSound, last⟩ := ih stillSound
          rw [left] at filled last
          refine ⟨final, ?_, finalSound, last⟩
          rw [fill, run]
          simp only [List.head?_cons, List.tail_cons] at filled ⊢
          simp [filled, Except.map, Nat.succ_min_succ]

theorem exists_readBuffer {station received : Station} {length : Nat}
    (run : (receive 0).run station = .ok length received) (found : length ≠ 0)
    (sound : received.bench.Sound) (buffer : List UInt8) :
    let bytes := received.scene.unread
    ∃ final, readBuffer buffer station =
        (⟨.ok (min bytes.length buffer.length),
          bytes.take buffer.length ++ buffer.drop bytes.length⟩, final) ∧
      final.bench.Sound ∧ final.scene.unread = bytes.drop buffer.length := by
  obtain ⟨less, rfl⟩ := Nat.exists_eq_succ_of_ne_zero found
  rw [readBuffer, run]
  exact exists_fill sound buffer

/-! ## Text -/

theorem isSome_textOfBytes {bytes : List UInt8} :
    (textOfBytes bytes).isSome ↔
      bytes ≠ [] ∧ ByteArray.IsValidUTF8 ⟨bytes.toArray⟩ := by
  rw [textOfBytes, String.fromUTF8?]
  cases bytes with
  | nil => simp
  | cons byte rest =>
      by_cases valid : ByteArray.IsValidUTF8 ⟨(byte :: rest).toArray⟩ <;>
        simp [valid]

theorem toByteArray_of_textOfBytes {bytes : List UInt8} {text : String}
    (given : textOfBytes bytes = some text) :
    text.toByteArray = ⟨bytes.toArray⟩ := by
  rw [textOfBytes, String.fromUTF8?] at given
  split at given
  · cases given
  · split at given
    · rw [← Option.some.inj given]
      rfl
    · cases given

theorem readText_of_readBuffer {station final : Station}
    {buffer filled : List UInt8} {count : Nat}
    (read : readBuffer buffer station = (⟨.ok count, filled⟩, final)) :
    readText buffer station =
      (⟨.ok (textOfBytes (filled.take count)), filled⟩, final) := by
  rw [readText, read]
  rfl

end Radio

/-! ## The calls -/

namespace Call

/-- A packet that is ready is read into a buffer as far as the buffer goes.
What does not fit is there to be read afterwards.  Taken for text, the bytes in
the buffer are given to the caller if they are the encoding of one. -/
theorem readBuffer_packet {station : Station} {start : UInt8}
    {packet : List UInt8} (sound : station.bench.Sound)
    (ready : station.radio.ready = true)
    (found : InterruptFlags.packetReady
      ⟨station.bench.chip.register RegisterName.irqFlags.address⟩ = true)
    (begins : station.bench.chip.register
      RegisterName.fifoRxCurrentAddr.address = start)
    (length : packet.length = station.bench.chip.value .rxNbBytes)
    (nonempty : 1 ≤ packet.length)
    (content : station.bench.chip.HoldsPacket start packet)
    (buffer : List UInt8) :
    let count := min packet.length buffer.length
    let filled := packet.take count ++ buffer.drop count
    ∃ final text,
      (Call.readBuffer buffer).perform station =
        (.buffer ⟨.ok count, filled⟩, final) ∧
      final.radio.available = packet.length - count ∧
      (∀ reads, (performAll (List.replicate reads .readByte) final).1 =
        (List.range reads).map fun index => .byte packet[count + index]?) ∧
      (Call.readText buffer).perform station =
        (.text ⟨.ok text, filled⟩, final) ∧
      (text.isSome ↔
        0 < count ∧ ByteArray.IsValidUTF8 ⟨(packet.take count).toArray⟩) ∧
      ∀ string, text = some string →
        string.toByteArray = ⟨(packet.take count).toArray⟩ := by
  intro count filled
  have measured : packet.length = (station.scene.polled 0).packetLength :=
    length.trans (station.scene.packetLength_polled 0).symm
  rw [← Chip.packetReady_flags] at found
  obtain ⟨received, run, receivedSound, scene⟩ :=
    (@gives_receive_found station.scene 0 ready found).exists_run sound rfl
  have whole : received.scene.unread = packet := by
    rw [scene]
    exact Scene.unread_accepted ready begins measured content
  obtain ⟨final, read, finalSound, left⟩ :=
    exists_readBuffer run (by omega) receivedSound buffer
  rw [whole] at read left
  replace read : Radio.readBuffer buffer station =
    (⟨.ok count, filled⟩, final) := by
    rw [read, List.take_eq_take_min, List.drop_eq_drop_min,
      Nat.min_comm buffer.length]
  replace left : final.scene.unread = packet.drop count := by
    rw [left, List.drop_eq_drop_min, Nat.min_comm buffer.length]
  have bytes : filled.take count = packet.take count :=
    List.take_left' (List.length_take_of_le (Nat.min_le_left _ _))
  have text := readText_of_readBuffer read
  rw [bytes] at text
  refine ⟨final, textOfBytes (packet.take count), ?_, ?_, fun reads => ?_,
    ?_, ?_, ?_⟩
  · rw [perform, read]
  · have available := final.scene.length_unread
    rw [left, List.length_drop] at available
    exact available.symm
  · rw [performAll_reads finalSound, left]
    simp only [List.getElem?_drop]
  · rw [perform, text]
  · rw [isSome_textOfBytes, ← List.length_pos_iff,
      List.length_take_of_le (Nat.min_le_left _ _)]
  · exact fun _ => toByteArray_of_textOfBytes

theorem readBuffer_packet_around_the_end :
    let station : Station :=
      ⟨{ Radio.attach ⟨0, true, true⟩ with lifecycle := .ready },
        { chip := Chip.fresh.deliver 254 [79, 75, 33] 0x40 }⟩
    ∃ final, (Call.readBuffer [7, 7]).perform station =
        (.buffer ⟨.ok 2, [79, 75]⟩, final) ∧
      final.radio.available = 1 ∧
      (performAll [.readByte, .readByte] final).1 =
        [.number (some 33), .number none] ∧
      (Call.readText [7, 7]).perform station =
        (.text ⟨.ok (some "OK"), [79, 75]⟩, final) := by
  intro station
  have content : station.bench.chip.HoldsPacket 254 [79, 75, 33] := by
    unfold Chip.HoldsPacket
    decide +kernel
  obtain ⟨final, text, read, left, stream, told, valid, encoded⟩ :=
    @readBuffer_packet station 254 [79, 75, 33] ⟨rfl, rfl⟩ rfl
      (by decide +kernel)
      (by decide +kernel) (by decide +kernel) (by decide) content [7, 7]
  have bytes : "OK".toByteArray = ⟨#[79, 75]⟩ := rfl
  have decodes := valid.mpr ⟨by decide, bytes ▸ "OK".isValidUTF8⟩
  obtain ⟨string, rfl⟩ := Option.isSome_iff_exists.mp decodes
  obtain rfl : string = "OK" :=
    String.toByteArray_inj.mp ((encoded string rfl).trans bytes.symm)
  exact ⟨final, read, left, stream 2, told⟩

end Call

end LoraRadio
