/-!
# The register map

The registers of the chip in long range mode, by name and address.
-/

namespace LoraRadio

abbrev Address := Fin 128

def Address.ofByte (byte : UInt8) : Address :=
  ⟨byte.toNat % 128, Nat.mod_lt _ (by decide)⟩

inductive RegisterName where
  | fifo
  | opMode
  | frfMsb
  | frfMid
  | frfLsb
  | paConfig
  | paRamp
  | ocp
  | lna
  | fifoAddrPtr
  | fifoTxBaseAddr
  | fifoRxBaseAddr
  | fifoRxCurrentAddr
  | irqFlags
  | rxNbBytes
  | rxHeaderCountMsb
  | rxHeaderCountLsb
  | rxPacketCountMsb
  | rxPacketCountLsb
  | modemStat
  | pktSnrValue
  | pktRssiValue
  | modemConfig1
  | modemConfig2
  | preambleMsb
  | preambleLsb
  | payloadLength
  | maxPayloadLength
  | hopPeriod
  | fifoRxByteAddr
  | modemConfig3
  | freqErrorMsb
  | freqErrorMid
  | freqErrorLsb
  | rssiWideband
  | detectionOptimize
  | invertIq
  | detectionThreshold
  | syncWord
  | dioMapping1
  | dioMapping2
  | version
  | tcxo
  | paDac
  | formerTemp
  | agcRef
  | agcThresh1
  | agcThresh2
  | agcThresh3
  | pll
  deriving DecidableEq, Repr

namespace RegisterName

def address : RegisterName → Address
  | .fifo => 0x00
  | .opMode => 0x01
  | .frfMsb => 0x06
  | .frfMid => 0x07
  | .frfLsb => 0x08
  | .paConfig => 0x09
  | .paRamp => 0x0A
  | .ocp => 0x0B
  | .lna => 0x0C
  | .fifoAddrPtr => 0x0D
  | .fifoTxBaseAddr => 0x0E
  | .fifoRxBaseAddr => 0x0F
  | .fifoRxCurrentAddr => 0x10
  | .irqFlags => 0x12
  | .rxNbBytes => 0x13
  | .rxHeaderCountMsb => 0x14
  | .rxHeaderCountLsb => 0x15
  | .rxPacketCountMsb => 0x16
  | .rxPacketCountLsb => 0x17
  | .modemStat => 0x18
  | .pktSnrValue => 0x19
  | .pktRssiValue => 0x1A
  | .modemConfig1 => 0x1D
  | .modemConfig2 => 0x1E
  | .preambleMsb => 0x20
  | .preambleLsb => 0x21
  | .payloadLength => 0x22
  | .maxPayloadLength => 0x23
  | .hopPeriod => 0x24
  | .fifoRxByteAddr => 0x25
  | .modemConfig3 => 0x26
  | .freqErrorMsb => 0x28
  | .freqErrorMid => 0x29
  | .freqErrorLsb => 0x2A
  | .rssiWideband => 0x2C
  | .detectionOptimize => 0x31
  | .invertIq => 0x33
  | .detectionThreshold => 0x37
  | .syncWord => 0x39
  | .dioMapping1 => 0x40
  | .dioMapping2 => 0x41
  | .version => 0x42
  | .tcxo => 0x4B
  | .paDac => 0x4D
  | .formerTemp => 0x5B
  | .agcRef => 0x61
  | .agcThresh1 => 0x62
  | .agcThresh2 => 0x63
  | .agcThresh3 => 0x64
  | .pll => 0x70

def label : RegisterName → String
  | .fifo => "RegFifo"
  | .opMode => "RegOpMode"
  | .frfMsb => "RegFrfMsb"
  | .frfMid => "RegFrfMid"
  | .frfLsb => "RegFrfLsb"
  | .paConfig => "RegPaConfig"
  | .paRamp => "RegPaRamp"
  | .ocp => "RegOcp"
  | .lna => "RegLna"
  | .fifoAddrPtr => "RegFifoAddrPtr"
  | .fifoTxBaseAddr => "RegFifoTxBaseAddr"
  | .fifoRxBaseAddr => "RegFifoRxBaseAddr"
  | .fifoRxCurrentAddr => "RegFifoRxCurrentAddr"
  | .irqFlags => "RegIrqFlags"
  | .rxNbBytes => "RegRxNbBytes"
  | .rxHeaderCountMsb => "RegRxHeaderCntValueMsb"
  | .rxHeaderCountLsb => "RegRxHeaderCntValueLsb"
  | .rxPacketCountMsb => "RegRxPacketCntValueMsb"
  | .rxPacketCountLsb => "RegRxPacketCntValueLsb"
  | .modemStat => "RegModemStat"
  | .pktSnrValue => "RegPktSnrValue"
  | .pktRssiValue => "RegPktRssiValue"
  | .modemConfig1 => "RegModemConfig1"
  | .modemConfig2 => "RegModemConfig2"
  | .preambleMsb => "RegPreambleMsb"
  | .preambleLsb => "RegPreambleLsb"
  | .payloadLength => "RegPayloadLength"
  | .maxPayloadLength => "RegMaxPayloadLength"
  | .hopPeriod => "RegHopPeriod"
  | .fifoRxByteAddr => "RegFifoRxByteAddr"
  | .modemConfig3 => "RegModemConfig3"
  | .freqErrorMsb => "RegFeiMsb"
  | .freqErrorMid => "RegFeiMid"
  | .freqErrorLsb => "RegFeiLsb"
  | .rssiWideband => "RegRssiWideband"
  | .detectionOptimize => "RegDetectOptimize"
  | .invertIq => "RegInvertIQ"
  | .detectionThreshold => "RegDetectionThreshold"
  | .syncWord => "RegSyncWord"
  | .dioMapping1 => "RegDioMapping1"
  | .dioMapping2 => "RegDioMapping2"
  | .version => "RegVersion"
  | .tcxo => "RegTcxo"
  | .paDac => "RegPaDac"
  | .formerTemp => "RegFormerTemp"
  | .agcRef => "RegAgcRef"
  | .agcThresh1 => "RegAgcThresh1"
  | .agcThresh2 => "RegAgcThresh2"
  | .agcThresh3 => "RegAgcThresh3"
  | .pll => "RegPll"

def all : List RegisterName :=
  [.fifo, .opMode, .frfMsb, .frfMid, .frfLsb, .paConfig, .paRamp, .ocp, .lna,
    .fifoAddrPtr, .fifoTxBaseAddr, .fifoRxBaseAddr, .fifoRxCurrentAddr,
    .irqFlags, .rxNbBytes, .rxHeaderCountMsb, .rxHeaderCountLsb,
    .rxPacketCountMsb, .rxPacketCountLsb, .modemStat, .pktSnrValue,
    .pktRssiValue, .modemConfig1, .modemConfig2, .preambleMsb, .preambleLsb,
    .payloadLength, .maxPayloadLength, .hopPeriod, .fifoRxByteAddr,
    .modemConfig3, .freqErrorMsb, .freqErrorMid, .freqErrorLsb, .rssiWideband,
    .detectionOptimize, .invertIq, .detectionThreshold, .syncWord, .dioMapping1,
    .dioMapping2, .version, .tcxo, .paDac, .formerTemp, .agcRef, .agcThresh1,
    .agcThresh2, .agcThresh3, .pll]

theorem address_add_one_le (name : RegisterName) : name.address.val + 1 ≤ 128 :=
  name.address.isLt

def count : Nat := 50

theorem length_all : all.length = count := rfl

end RegisterName

end LoraRadio
