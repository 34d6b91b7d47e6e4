/-!
# Bandwidths

The signal bandwidths of the modem, and the choice of one for a requested width.
-/

namespace LoraRadio

/-- The first entry of a table whose key reaches `value`, or the last entry when
none does. -/
def firstReaching {α : Type} (table : List (α × UInt32)) (value : UInt32) :
    Option α :=
  ((table.find? fun entry => value ≤ entry.2) <|> table.getLast?).map Prod.fst

inductive Bandwidth where
  | khz7_8
  | khz10_4
  | khz15_6
  | khz20_8
  | khz31_25
  | khz41_7
  | khz62_5
  | khz125
  | khz250
  | khz500
  deriving DecidableEq, Repr

namespace Bandwidth

def hz : Bandwidth → UInt32
  | .khz7_8 => 7800
  | .khz10_4 => 10400
  | .khz15_6 => 15600
  | .khz20_8 => 20800
  | .khz31_25 => 31250
  | .khz41_7 => 41700
  | .khz62_5 => 62500
  | .khz125 => 125000
  | .khz250 => 250000
  | .khz500 => 500000

def index : Bandwidth → UInt8
  | .khz7_8 => 0
  | .khz10_4 => 1
  | .khz15_6 => 2
  | .khz20_8 => 3
  | .khz31_25 => 4
  | .khz41_7 => 5
  | .khz62_5 => 6
  | .khz125 => 7
  | .khz250 => 8
  | .khz500 => 9

def all : List Bandwidth :=
  [.khz7_8, .khz10_4, .khz15_6, .khz20_8, .khz31_25, .khz41_7, .khz62_5,
    .khz125, .khz250, .khz500]

def ofIndex? (index : UInt8) : Option Bandwidth :=
  all[index.toNat]?

/-- The narrowest bandwidth of at least `width` Hz, 500 kHz if there is none. -/
def ofHz (width : UInt32) : Bandwidth :=
  (firstReaching (all.map fun bandwidth => (bandwidth, bandwidth.hz))
    width).getD .khz500

theorem ofIndex?_index (bandwidth : Bandwidth) :
    ofIndex? bandwidth.index = some bandwidth := by
  cases bandwidth <;> rfl

end Bandwidth

end LoraRadio
