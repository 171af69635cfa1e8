import ServoDrive.Record.Layout
import ServoDrive.Profile

/-!
# Receive records

The record the master sends every cycle: the setpoints, the controlword and the mode of operation.

| layout   | fields (byte offset)                                                                       |
|----------|--------------------------------------------------------------------------------------------|
| standard | position 0 (i32), velocity 4 (i32), torque 8 (i16), max torque 10 (u16), controlword 12, mode 14 (i8), padding 15, torque offset 16 (i16) |
| cst      | torque 0 (i16), controlword 2, mode 4 (i8), padding 5                                      |

`RxRecord.new` builds the record a drive is sent from the staged setpoints: the standard layout
carries all five, the cst layout only the target torque.
-/

namespace ServoDrive

/-- Setpoints in drive units, as the receive records carry them. -/
structure Setpoints where
  targetPosition : Int32 := 0
  targetVelocity : Int32 := 0
  targetTorque : Int16 := 0
  maxTorque : UInt16 := 0
  torqueOffset : Int16 := 0
  deriving DecidableEq, Repr, Inhabited

/-- The standard receive record, 18 bytes. -/
structure RxStandard where
  targetPosition : Int32
  targetVelocity : Int32
  targetTorque : Int16
  maxTorque : UInt16
  controlWord : ControlWord
  mode : Int8
  torqueOffset : Int16
  deriving DecidableEq, Repr

/-- The cyclic synchronous torque receive record, 6 bytes. -/
structure RxCst where
  targetTorque : Int16
  controlWord : ControlWord
  mode : Int8
  deriving DecidableEq, Repr

namespace RxStandard

def slots (r : RxStandard) : List Slot :=
  [.value (.i32 r.targetPosition), .value (.i32 r.targetVelocity), .value (.i16 r.targetTorque),
   .value (.u16 r.maxTorque), .value (.u16 r.controlWord.raw), .value (.i8 r.mode), .padding,
   .value (.i16 r.torqueOffset)]

def pack (r : RxStandard) (dst : List UInt8) : Except PackingError (List UInt8) :=
  packSlots r.slots dst

def unpack (src : List UInt8) : Except PackingError RxStandard := do
  let (position, c) ← Cursor.read ⟨src, 0⟩ 4
  let (velocity, c) ← c.read 4
  let (torque, c) ← c.read 2
  let (maxTorque, c) ← c.read 2
  let (word, c) ← c.read 2
  let (mode, c) ← c.read 1
  let (_, c) ← c.read 1
  let (offset, _) ← c.read 2
  pure ⟨position.toUInt32.toInt32, velocity.toUInt32.toInt32, torque.toUInt16.toInt16,
    maxTorque.toUInt16, ⟨word.toUInt16⟩, mode.toUInt8.toInt8, offset.toUInt16.toInt16⟩

end RxStandard

namespace RxCst

def slots (r : RxCst) : List Slot :=
  [.value (.i16 r.targetTorque), .value (.u16 r.controlWord.raw), .value (.i8 r.mode), .padding]

def pack (r : RxCst) (dst : List UInt8) : Except PackingError (List UInt8) :=
  packSlots r.slots dst

def unpack (src : List UInt8) : Except PackingError RxCst := do
  let (torque, c) ← Cursor.read ⟨src, 0⟩ 2
  let (word, c) ← c.read 2
  let (mode, c) ← c.read 1
  let _ ← c.read 1
  pure ⟨torque.toUInt16.toInt16, ⟨word.toUInt16⟩, mode.toUInt8.toInt8⟩

end RxCst

/-- A receive record of either layout. -/
inductive RxRecord where
  | standard (r : RxStandard)
  | cst (r : RxCst)
  deriving DecidableEq, Repr

namespace RxRecord

/-- The record of a negotiated layout for the setpoints, controlword and mode; `na` has none. -/
def new (ty : RecordType) (s : Setpoints) (word : ControlWord) (mode : OperationMode) :
    Option RxRecord :=
  match ty with
  | .na => none
  | .standard => some (.standard ⟨s.targetPosition, s.targetVelocity, s.targetTorque, s.maxTorque,
      word, mode.signedCode, s.torqueOffset⟩)
  | .cst => some (.cst ⟨s.targetTorque, word, mode.signedCode⟩)

def size : RxRecord → Nat
  | standard _ => 18
  | cst _ => 6

/-- Every receive record fits the record buffer. -/
theorem size_le_max (r : RxRecord) : r.size ≤ maxRecordSize := by
  cases r <;> simp [size, maxRecordSize]

def pack : RxRecord → List UInt8 → Except PackingError (List UInt8)
  | standard r => r.pack
  | cst r => r.pack

end RxRecord

end ServoDrive
