import LoraRadio.Bench

/-!
# The written form of a trace
-/

namespace LoraRadio

def hexByte (byte : UInt8) : String :=
  String.ofList [Nat.digitChar (byte.toNat / 16),
    Nat.digitChar (byte.toNat % 16)]

namespace Line

def label : Line → String
  | .boot => "boot"
  | .reset => "reset"

def change (line : Line) (level : Bool) : String :=
  line.label ++ (if level then "=1" else "=0")

end Line

def Event.text : Event → String
  | .read header value => hexByte header.byte ++ ">" ++ hexByte value
  | .readFailed header => "!" ++ hexByte header.byte ++ ">"
  | .write header value => hexByte header.byte ++ ":" ++ hexByte value
  | .writeFailed header value =>
      "!" ++ hexByte header.byte ++ ":" ++ hexByte value
  | .line which level => which.change level
  | .lineFailed which level => "!" ++ which.change level
  | .delay ms => "d" ++ toString ms.toNat

namespace Trace

def join (events : List Event) : String :=
  String.intercalate " " (events.map Event.text)

/-- At most 600 events are written; of more, the first and the last 300 and the
number of those in between. -/
def text (events : List Event) : String :=
  if events.length ≤ 600 then join events
  else
    let omitted := events.length - 600
    join (events.take 300) ++ s!" ...{omitted}... "
      ++ join (events.drop (300 + omitted))

end Trace

end LoraRadio
