import LoraRadio.Radio.Deferred
import LoraRadio.Radio.Inspection
import LoraRadio.Radio.Receive
import LoraRadio.Radio.Transmit

/-!
# Sessions

A driver on a bench, and everything that can be done with it, step by step.
-/

namespace LoraRadio

inductive DeferredCall where
  | isReady
  | firmware
  | idle
  | send (bytes : List UInt8)
  | sendText (text : String)
  deriving DecidableEq, Repr

inductive Call where
  | isReady
  | firmware
  | idle
  | sleep
  | setFrequency (hz : UInt32)
  | setPower (dbm : Int8) (amplifier : Amplifier)
  | setSpreadingFactor (factor : UInt8)
  | spreadingFactor
  | setBandwidth (hz : UInt32)
  | bandwidth
  | setCodingRate (denominator : UInt8)
  | setPreambleLength (symbols : UInt16)
  | setSyncWord (word : UInt8)
  | setChecksum (enabled : Bool)
  | setPolling (polling : Polling)
  | airtime (length : UInt8)
  | polling (length : UInt8)
  | beginPacket
  | append (bytes : List UInt8)
  | endPacket
  | send (bytes : List UInt8)
  | sendText (text : String)
  | receive (size : UInt8)
  | readByte
  | peekByte
  | readBuffer (buffer : List UInt8)
  | readText (buffer : List UInt8)
  | signalStrength
  | signalToNoise
  | frequencyError
  | headerCount
  | packetCount
  | snapshot
  | deferred (call : DeferredCall) (drop : Option DropPoint)
  deriving DecidableEq, Repr

inductive Reply where
  | done
  | truth (value : Bool)
  | count (value : Nat)
  | number (value : Option Int)
  | noise (value : Option PacketNoise)
  | polling (value : Polling)
  | buffer (filled : Radio.Filled Nat)
  | text (filled : Radio.Filled (Option String))
  | snapshot (value : Snapshot)
  | connection (value : Connection)
  | failed (failure : Failure)
  | dropped
  deriving Repr

namespace Reply

variable {α : Type}

def byte (value : Option UInt8) : Reply :=
  .number (value.map fun byte => byte.toNat)

def word16 (value : Option UInt16) : Reply :=
  .number (value.map fun word => word.toNat)

def word32 (value : Option UInt32) : Reply :=
  .number (value.map fun word => word.toNat)

def ofResult (success : α → Reply) : Except Failure α → Reply
  | .ok value => success value
  | .error failure => .failed failure

end Reply

namespace Call

variable {α : Type}

def answer (success : α → Reply) (operation : RadioM α) (station : Station) :
    Reply × Station :=
  match operation.run station with
  | .ok value station => (success value, station)
  | .error failure station => (.failed failure, station)

def answerDeferred (success : α → Reply) (operation : RadioTask α)
    (drop : Option DropPoint) (station : Station) : Reply × Station :=
  let (result, radio, bench) :=
    (operation.start station.radio).execute drop station.bench
  (result.elim .dropped (Reply.ofResult success), ⟨radio, bench⟩)

def acknowledge (_ : Unit) : Reply :=
  .done

end Call

open Call in
def DeferredCall.perform (call : DeferredCall) (drop : Option DropPoint)
    (station : Station) : Reply × Station :=
  match call with
  | .isReady => answerDeferred .truth RadioTask.isReady drop station
  | .firmware => answerDeferred .byte RadioTask.firmware drop station
  | .idle => answerDeferred acknowledge RadioTask.idle drop station
  | .send bytes =>
      answerDeferred acknowledge (RadioTask.send bytes) drop station
  | .sendText text =>
      answerDeferred acknowledge (RadioTask.sendText text) drop station

def Call.perform (call : Call) (station : Station) : Reply × Station :=
  match call with
  | .isReady => answer .truth Radio.isReady station
  | .firmware => answer .byte Radio.firmware station
  | .idle => answer acknowledge Radio.idle station
  | .sleep => answer acknowledge Radio.sleep station
  | .setFrequency hz => answer acknowledge (Radio.setFrequency hz) station
  | .setPower dbm amplifier =>
      answer acknowledge (Radio.setPower dbm amplifier) station
  | .setSpreadingFactor factor =>
      answer acknowledge (Radio.setSpreadingFactor factor) station
  | .spreadingFactor => answer .byte Radio.spreadingFactor station
  | .setBandwidth hz => answer acknowledge (Radio.setBandwidth hz) station
  | .bandwidth => answer .word32 Radio.bandwidth station
  | .setCodingRate denominator =>
      answer acknowledge (Radio.setCodingRate denominator) station
  | .setPreambleLength symbols =>
      answer acknowledge (Radio.setPreambleLength symbols) station
  | .setSyncWord word => answer acknowledge (Radio.setSyncWord word) station
  | .setChecksum enabled =>
      answer acknowledge (Radio.setChecksum enabled) station
  | .setPolling wait => answer acknowledge (Radio.setPolling wait) station
  | .airtime length =>
      answer (fun ms => .count ms.toNat) (Radio.airtime length) station
  | .polling length => answer .polling (Radio.polling length) station
  | .beginPacket => answer acknowledge Radio.beginPacket station
  | .append bytes => answer .count (Radio.append bytes) station
  | .endPacket => answer acknowledge Radio.endPacket station
  | .send bytes => answer acknowledge (Radio.send bytes) station
  | .sendText text => answer acknowledge (Radio.sendText text) station
  | .receive size => answer .count (Radio.receive size) station
  | .readByte => answer .byte Radio.readByte station
  | .peekByte => answer .byte Radio.peekByte station
  | .readBuffer buffer =>
      let (filled, station) := Radio.readBuffer buffer station
      (.buffer filled, station)
  | .readText buffer =>
      let (filled, station) := Radio.readText buffer station
      (.text filled, station)
  | .signalStrength => answer .number Radio.signalStrength station
  | .signalToNoise => answer .noise Radio.signalToNoise station
  | .frequencyError =>
      answer (fun value => .number (value.map Int32.toInt))
        Radio.frequencyError station
  | .headerCount => answer .word16 Radio.headerCount station
  | .packetCount => answer .word16 Radio.packetCount station
  | .snapshot => answer .snapshot Radio.snapshot station
  | .deferred call drop => call.perform drop station

inductive Step where
  | stimulus (stimulus : Stimulus)
  /-- The driver gets a new connection, to a new chip or to the one in use. -/
  | reconnect (boot reset : Bool) (chip : Option Chip)
  /-- The connection is taken from the driver and given to a new one. -/
  | release
  | call (call : Call)
  deriving DecidableEq, Repr

structure Session where
  station : Station
  /-- How many chips there have been. -/
  chips : Nat
  deriving DecidableEq, Repr

namespace Session

def start (boot reset : Bool) (chip : Chip) : Session where
  station := ⟨Radio.attach ⟨0, boot, reset⟩, { chip }⟩
  chips := 1

def reconnect (session : Session) (boot reset : Bool) (chip : Option Chip) :
    Reply × Session :=
  let previous := session.station.radio.connection
  match chip with
  | none =>
      let radio := Radio.attach ⟨previous.chip, boot, reset⟩
      (.connection previous,
        { session with station := { session.station with radio } })
  | some chip =>
      let radio := Radio.attach ⟨session.chips, boot, reset⟩
      (.connection previous,
        ⟨⟨radio, { session.station.bench with chip }⟩, session.chips + 1⟩)

/-- Does one step.  The trace of the bench is then the trace of this step. -/
def step (session : Session) (step : Step) : Reply × Session :=
  let session :=
    { session with
      station :=
        { session.station with bench := session.station.bench.clearTrace } }
  match step with
  | .stimulus stimulus =>
      (.done,
        { session with
          station :=
            { session.station with
              bench := stimulus.apply session.station.bench } })
  | .reconnect boot reset chip => session.reconnect boot reset chip
  | .release =>
      let connection := session.station.radio.connection
      (.connection connection,
        { session with
          station :=
            { session.station with radio := Radio.attach connection } })
  | .call call =>
      let (reply, station) := call.perform session.station
      (reply, { session with station })

end Session

end LoraRadio
