import LoraRadio.Register.Basic

/-!
# Registers that hold a plain number
-/

namespace LoraRadio

structure ByteRegister (name : RegisterName) where
  value : UInt8
  deriving DecidableEq, Repr

instance (name : RegisterName) : EncodableRegister (ByteRegister name) :=
  .ofByte name (fun byte => .ok ⟨byte⟩) (fun register => register.value)

abbrev SyncWord := ByteRegister .syncWord

abbrev Version := ByteRegister .version

abbrev Fifo := ByteRegister .fifo

abbrev FifoPointer := ByteRegister .fifoAddrPtr

abbrev TransmitBase := ByteRegister .fifoTxBaseAddr

abbrev ReceiveBase := ByteRegister .fifoRxBaseAddr

abbrev ReceiveStart := ByteRegister .fifoRxCurrentAddr

abbrev ReceivedLength := ByteRegister .rxNbBytes

abbrev PayloadLength := ByteRegister .payloadLength

abbrev PacketStrength := ByteRegister .pktRssiValue

instance : WritableRegister SyncWord where

instance : WritableRegister Fifo where

instance : WritableRegister FifoPointer where

instance : WritableRegister TransmitBase where

instance : WritableRegister ReceiveBase where

instance : WritableRegister PayloadLength where

structure PreambleLength where
  symbols : UInt16
  deriving DecidableEq, Repr

instance : WritableRegister PreambleLength where
  name := .preambleMsb
  width := 2
  fits := by decide
  decode bytes := .ok ⟨UInt16.ofNat (bigEndian bytes)⟩
  encode register :=
    #v[UInt8.ofNat (register.symbols.toNat >>> 8),
      UInt8.ofNat register.symbols.toNat]

structure CountRegister (name : RegisterName) where
  count : UInt16
  deriving DecidableEq, Repr

abbrev HeaderCount := CountRegister .rxHeaderCountMsb

abbrev PacketCount := CountRegister .rxPacketCountMsb

instance (name : RegisterName) : Register (CountRegister name) where
  name := name
  width := 2
  fits := by cases name <;> decide
  decode bytes := .ok ⟨UInt16.ofNat (bigEndian bytes)⟩

/-- The synthesizer word of the carrier; the chip keeps its last 24 bits. -/
structure CarrierWord where
  word : UInt32
  deriving DecidableEq, Repr

instance : WritableRegister CarrierWord where
  name := .frfMsb
  width := 3
  fits := by decide
  decode bytes := .ok ⟨UInt32.ofNat (bigEndian bytes)⟩
  encode register :=
    #v[UInt8.ofNat (register.word.toNat >>> 16),
      UInt8.ofNat (register.word.toNat >>> 8), UInt8.ofNat register.word.toNat]

end LoraRadio
