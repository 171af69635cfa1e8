import ServoDrive.Wire

/-!
# Record types, cursors and layouts

The record types of each side, the cursor that packs and unpacks a record in a buffer, and the
layout of a record as the slots the cursor writes.
-/

/-!
## Record types

A drive exchanges one receive record (master to drive) and one transmit record (drive to master)
every bus cycle. Each side has two layouts, `standard` and `cst` (cyclic synchronous torque), and
`na` for a side not yet negotiated. A layout is assembled from manufacturer PDOs assigned to the
side's sync manager, in the order of its assignment list.

| side | type     | PDOs                            | bytes |
|------|----------|---------------------------------|-------|
| rx   | standard | 0x1605, 0x1618                  | 18    |
| rx   | cst      | 0x1602, 0x160b                  | 6     |
| tx   | standard | 0x1a03, 0x1a1d, 0x1a1f, 0x1a18  | 22    |
| tx   | cst      | 0x1a02, 0x1a11                  | 14    |
-/

namespace ServoDrive

/-- The direction of a record: `rx` is received by the drive, `tx` transmitted by it. -/
inductive Side where
  | rx
  | tx
  deriving DecidableEq, Repr

/-- The layout negotiated for one side. -/
inductive RecordType where
  | na
  | standard
  | cst
  deriving DecidableEq, Repr, Inhabited

namespace RecordType

def name : RecordType → String
  | na => "NA"
  | standard => "Standard"
  | cst => "CST"

def ofName? (s : String) : Option RecordType :=
  [na, standard, cst].find? (·.name == s)

/-- The PDOs assigned to the side's sync manager for the layout; `na` has none. -/
def assignment : Side → RecordType → Option (List UInt16)
  | _, na => none
  | .rx, standard => some [0x1605, 0x1618]
  | .rx, cst => some [0x1602, 0x160b]
  | .tx, standard => some [0x1a03, 0x1a1d, 0x1a1f, 0x1a18]
  | .tx, cst => some [0x1a02, 0x1a11]

/-- The number of bytes of the side's record; `na` has none. -/
def size : Side → RecordType → Option Nat
  | _, na => none
  | .rx, standard => some 18
  | .rx, cst => some 6
  | .tx, standard => some 22
  | .tx, cst => some 14

end RecordType

/-- The bytes of the buffer a controller packs a record into, or fetches one into: room for the
largest record of either side. -/
def maxRecordSize : Nat := 22

/-- Every record fits the record buffer. -/
theorem RecordType.size_le_max {side : Side} {ty : RecordType} {n : Nat}
    (h : ty.size side = some n) : n ≤ maxRecordSize := by
  cases side <;> cases ty <;> cases h <;> decide

end ServoDrive

/-!
## Cursors

A cursor walks a buffer front to back: each packed scalar or written byte string lands at the
cursor's position and moves it past what was written, and each unpacked scalar is read there and
moves it past what was read. A step that does not fit fails and changes neither the position nor
the buffer.

Packing reports the length of what is left after the position, writing a byte string reports the
whole buffer's length, and unpacking reports what is left, as the scalar operations do. A position
past the end, which no step can produce, makes packing fail with `beyondEnd`.
-/

namespace ServoDrive

structure Cursor where
  buffer : List UInt8
  position : Nat := 0
  deriving DecidableEq, Repr

namespace Cursor

/-- The scalar packed at the position, which then moves past it. -/
def pack (c : Cursor) (v : Scalar) : Except PackingError Cursor :=
  if c.position > c.buffer.length then .error (.badSize c.buffer.length .beyondEnd)
  else
    match v.pack (c.buffer.drop c.position) with
    | .ok rest => .ok ⟨c.buffer.take c.position ++ rest, c.position + v.kind.width⟩
    | .error e => .error e

/-- The bytes written at the position, which then moves past them. -/
def write (c : Cursor) (bytes : List UInt8) : Except PackingError Cursor :=
  if c.position + bytes.length ≤ c.buffer.length then
    .ok ⟨c.buffer.take c.position ++ bytes ++ c.buffer.drop (c.position + bytes.length),
      c.position + bytes.length⟩
  else .error (.badSize c.buffer.length .noRoomForSlice)

/-- A scalar packed at the position writes over the buffer and never resizes it. -/
theorem length_pack {c c' : Cursor} {v : Scalar} (h : c.pack v = .ok c') :
    c'.buffer.length = c.buffer.length := by
  unfold pack at h
  split at h
  · cases h
  · rename_i hpos
    split at h
    · rename_i rest hrest
      cases h
      simp only [List.length_append, List.length_take, Scalar.length_pack hrest,
        List.length_drop]
      omega
    · cases h

/-- Bytes written at the position write over the buffer and never resize it. -/
theorem length_write {c c' : Cursor} {bytes : List UInt8} (h : c.write bytes = .ok c') :
    c'.buffer.length = c.buffer.length := by
  unfold write at h
  split at h
  · rename_i hfit
    cases h
    simp only [List.length_append, List.length_take, List.length_drop]
    omega
  · cases h

/-- The little-endian number in the `width` bytes at the position, and the cursor moved past
them; fewer bytes left than `width` is reported with the count left. -/
def read (c : Cursor) (width : Nat) : Except PackingError (Nat × Cursor) :=
  let rest := c.buffer.drop c.position
  if rest.length < width then .error (.badSize rest.length .tooFewBytes)
  else .ok (ofLeBytes (rest.take width), { c with position := c.position + width })

/-- The scalar of a kind read at the position, and the cursor moved past it. -/
def unpack (c : Cursor) (k : ScalarKind) : Except PackingError (Scalar × Cursor) :=
  match c.read k.width with
  | .ok (n, c) => .ok (k.ofPattern n, c)
  | .error e => .error e

end Cursor

end ServoDrive

/-!
## Record layouts

A process-data record is a packed sequence of slots: scalars, each at the offset where the one
before it ends, and padding bytes that are written as `0x00` and skipped when read. Packing a
record runs a cursor over its slots from the start of the buffer; the first slot that does not fit
ends the packing with that slot's error, as the cursor reports it.
-/

namespace ServoDrive

/-- One slot of a record: a scalar or a padding byte. -/
inductive Slot where
  | value (v : Scalar)
  | padding
  deriving DecidableEq, Repr

/-- The number of bytes a slot takes. -/
def Slot.width : Slot → Nat
  | .value v => v.kind.width
  | .padding => 1

namespace Cursor

/-- The slot written at the position: a scalar packed, or a zero byte. -/
def put (c : Cursor) : Slot → Except PackingError Cursor
  | .value v => c.pack v
  | .padding => c.write [0]

/-- The slots written one after the other; the first that does not fit stops the rest. -/
def putAll (c : Cursor) : List Slot → Except PackingError Cursor
  | [] => .ok c
  | s :: rest => match c.put s with
    | .ok c => c.putAll rest
    | .error e => .error e

theorem length_put {c c' : Cursor} {s : Slot} (h : c.put s = .ok c') :
    c'.buffer.length = c.buffer.length := by
  cases s with
  | value v => exact length_pack h
  | padding => exact length_write h

/-- Slots written one after the other never resize the buffer: by induction on the slots, each
written as `length_put` says. -/
theorem length_putAll {c c' : Cursor} {slots : List Slot} (h : c.putAll slots = .ok c') :
    c'.buffer.length = c.buffer.length := by
  induction slots generalizing c with
  | nil => cases h; rfl
  | cons s rest ih =>
    unfold putAll at h
    split at h
    · rename_i c₁ h₁
      rw [ih h, length_put h₁]
    · cases h

end Cursor

/-- The buffer with the slots written from its start. -/
def packSlots (slots : List Slot) (dst : List UInt8) : Except PackingError (List UInt8) :=
  (Cursor.putAll ⟨dst, 0⟩ slots).map (·.buffer)

/-- Packing slots writes over the buffer and never resizes it. -/
theorem length_packSlots {slots : List Slot} {dst out : List UInt8}
    (h : packSlots slots dst = .ok out) : out.length = dst.length := by
  unfold packSlots at h
  cases hput : Cursor.putAll ⟨dst, 0⟩ slots with
  | error e => rw [hput] at h; cases h
  | ok c =>
    rw [hput] at h
    cases h
    exact Cursor.length_putAll hput

end ServoDrive
