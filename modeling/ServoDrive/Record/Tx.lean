import ServoDrive.Record.Layout
import ServoDrive.Profile

/-!
# Transmit records

The record a drive sends every cycle: its actual values and its statusword.

| layout   | fields (byte offset)                                                                       |
|----------|--------------------------------------------------------------------------------------------|
| standard | position 0 (i32), digital inputs 4 (u32), velocity 8 (i32), statusword 12, analog input 14 (i16), current 16 (i16), bus voltage 18 (u32) |
| cst      | position 0 (i32), torque 4 (i16), statusword 6, mode display 8 (i8), padding 9, velocity 10 (i32) |

Reading a record of a negotiated layout gives the record; reading one of layout `na` gives none.
-/

namespace ServoDrive

/-- The standard transmit record, 22 bytes. -/
structure TxStandard where
  actualPosition : Int32 := 0
  digitalInputs : UInt32 := 0
  actualVelocity : Int32 := 0
  statusWord : StatusWord := ⟨0⟩
  analogInput : Int16 := 0
  actualCurrent : Int16 := 0
  busVoltage : UInt32 := 0
  deriving DecidableEq, Repr

/-- The cyclic synchronous torque transmit record, 14 bytes. -/
structure TxCst where
  actualPosition : Int32 := 0
  actualTorque : Int16 := 0
  statusWord : StatusWord := ⟨0⟩
  modeDisplay : Int8 := 0
  actualVelocity : Int32 := 0
  deriving DecidableEq, Repr

namespace TxStandard

def slots (r : TxStandard) : List Slot :=
  [.value (.i32 r.actualPosition), .value (.u32 r.digitalInputs), .value (.i32 r.actualVelocity),
   .value (.u16 r.statusWord.raw), .value (.i16 r.analogInput), .value (.i16 r.actualCurrent),
   .value (.u32 r.busVoltage)]

def pack (r : TxStandard) (dst : List UInt8) : Except PackingError (List UInt8) :=
  packSlots r.slots dst

def unpack (src : List UInt8) : Except PackingError TxStandard := do
  let (position, c) ← Cursor.read ⟨src, 0⟩ 4
  let (inputs, c) ← c.read 4
  let (velocity, c) ← c.read 4
  let (word, c) ← c.read 2
  let (analog, c) ← c.read 2
  let (current, c) ← c.read 2
  let (voltage, _) ← c.read 4
  pure ⟨position.toUInt32.toInt32, inputs.toUInt32, velocity.toUInt32.toInt32, ⟨word.toUInt16⟩,
    analog.toUInt16.toInt16, current.toUInt16.toInt16, voltage.toUInt32⟩

end TxStandard

namespace TxCst

def slots (r : TxCst) : List Slot :=
  [.value (.i32 r.actualPosition), .value (.i16 r.actualTorque), .value (.u16 r.statusWord.raw),
   .value (.i8 r.modeDisplay), .padding, .value (.i32 r.actualVelocity)]

def pack (r : TxCst) (dst : List UInt8) : Except PackingError (List UInt8) :=
  packSlots r.slots dst

def unpack (src : List UInt8) : Except PackingError TxCst := do
  let (position, c) ← Cursor.read ⟨src, 0⟩ 4
  let (torque, c) ← c.read 2
  let (word, c) ← c.read 2
  let (mode, c) ← c.read 1
  let (_, c) ← c.read 1
  let (velocity, _) ← c.read 4
  pure ⟨position.toUInt32.toInt32, torque.toUInt16.toInt16, ⟨word.toUInt16⟩, mode.toUInt8.toInt8,
    velocity.toUInt32.toInt32⟩

end TxCst

/-- A transmit record of either layout. -/
inductive TxRecord where
  | standard (r : TxStandard)
  | cst (r : TxCst)
  deriving DecidableEq, Repr

namespace TxRecord

/-- The record of a layout at the front of a buffer; layout `na` reads nothing. -/
def unpack (ty : RecordType) (src : List UInt8) : Except PackingError (Option TxRecord) :=
  match ty with
  | .na => .ok none
  | .standard => (some ∘ standard) <$> TxStandard.unpack src
  | .cst => (some ∘ cst) <$> TxCst.unpack src

def pack : TxRecord → List UInt8 → Except PackingError (List UInt8)
  | standard r => r.pack
  | cst r => r.pack

/-- Packing writes over the buffer and never resizes it. -/
theorem length_pack {r : TxRecord} {dst out : List UInt8} (h : r.pack dst = .ok out) :
    out.length = dst.length := by
  cases r with
  | standard r => exact length_packSlots h
  | cst r => exact length_packSlots h

/-- The statusword the record reports. -/
def statusWord : TxRecord → StatusWord
  | standard r => r.statusWord
  | cst r => r.statusWord

end TxRecord

end ServoDrive
