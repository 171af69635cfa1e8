import ServoDrive.Record.Rx
import ServoDrive.Record.Tx

/-!
# Packing records

A record packs as its slots' bytes laid end to end: each scalar's little-endian bytes and a zero
for each padding byte (`Slot.bytes`). This module proves the cursor steps that build that picture
and reads it back:

* a cursor standing after `pre` in `pre ++ rest` packs a scalar, or writes bytes, that fit in
  `rest` by putting them right after `pre` (`Cursor.pack_at`, `Cursor.write_at`), so a run of
  slots that fits lays down their bytes in order (`Cursor.putAll_at`, `packSlots_of_le`);
* the bytes of a slot sit at the total width before it (`Slot.bytes_at`), which places the
  controlword of a receive record at byte 12 of a standard record and byte 2 of a cst record;
* reading a scalar's bytes back gives its bit pattern (`Scalar.ofLeBytes_bytes`), so a record of
  each of the four layouts unpacks from its packed bytes, whatever follows them (`unpack_pack`);
* a cursor read that fits takes the bytes at the position and one that does not reports the bytes
  left (`Cursor.read_of_le`, `Cursor.read_of_lt`), and a scalar rebuilt from bytes it read is
  written as those bytes (`ScalarKind.bytes_ofPattern`).
-/

namespace ServoDrive

/-! ## 1. Scalars -/

namespace Scalar

/-- A bit pattern fits the scalar's width. -/
theorem pattern_lt (v : Scalar) : v.pattern < Nat.pow 256 v.kind.width := by
  cases v with
  | u8 x => exact x.toNat_lt
  | u16 x => exact x.toNat_lt
  | u32 x => exact x.toNat_lt
  | u64 x => exact x.toNat_lt
  | i8 x => exact x.toUInt8.toNat_lt
  | i16 x => exact x.toUInt16.toNat_lt
  | i32 x => exact x.toUInt32.toNat_lt
  | i64 x => exact x.toUInt64.toNat_lt
  | f32 x => exact x.toNat_lt
  | f64 x => exact x.toNat_lt

/-- A scalar's bytes read back as its bit pattern. -/
@[simp] theorem ofLeBytes_bytes (v : Scalar) : ofLeBytes v.bytes = v.pattern := by
  rw [bytes, ofLeBytes_leBytes, Nat.mod_eq_of_lt v.pattern_lt]

/-- A scalar packs into a buffer with room for it. -/
theorem pack_of_le {v : Scalar} {dst : List UInt8} (h : v.kind.width ≤ dst.length) :
    v.pack dst = .ok (v.bytes ++ dst.drop v.kind.width) := by
  simp [pack, Nat.not_lt.2 h]

end Scalar

namespace ScalarKind

@[simp] theorem kind_ofPattern (k : ScalarKind) (n : Nat) : (k.ofPattern n).kind = k := by
  cases k <;> rfl

theorem pattern_ofPattern (k : ScalarKind) (n : Nat) :
    (k.ofPattern n).pattern = n % Nat.pow 256 k.width := by
  cases k <;> simp [ofPattern, Scalar.pattern, width]

/-- The scalar of a kind with a bit pattern is written as the pattern's low bytes. -/
theorem bytes_ofPattern (k : ScalarKind) (n : Nat) : (k.ofPattern n).bytes = leBytes k.width n := by
  rw [Scalar.bytes, kind_ofPattern, pattern_ofPattern, leBytes_mod]

end ScalarKind

/-! The same, for each kind as the record readers build it from the number they read. -/

namespace Scalar

theorem bytes_i32 (n : Nat) : (Scalar.i32 n.toUInt32.toInt32).bytes = leBytes 4 n :=
  ScalarKind.bytes_ofPattern .i32 n

theorem bytes_u32 (n : Nat) : (Scalar.u32 n.toUInt32).bytes = leBytes 4 n :=
  ScalarKind.bytes_ofPattern .u32 n

theorem bytes_i16 (n : Nat) : (Scalar.i16 n.toUInt16.toInt16).bytes = leBytes 2 n :=
  ScalarKind.bytes_ofPattern .i16 n

theorem bytes_u16 (n : Nat) : (Scalar.u16 n.toUInt16).bytes = leBytes 2 n :=
  ScalarKind.bytes_ofPattern .u16 n

theorem bytes_i8 (n : Nat) : (Scalar.i8 n.toUInt8.toInt8).bytes = leBytes 1 n :=
  ScalarKind.bytes_ofPattern .i8 n

end Scalar

/-! ## 2. Cursor steps -/

namespace Cursor

/-- A scalar packed where it fits lands right after the bytes before the position. -/
theorem pack_at {pre rest : List UInt8} {v : Scalar} (h : v.kind.width ≤ rest.length) :
    Cursor.pack ⟨pre ++ rest, pre.length⟩ v =
      .ok ⟨pre ++ v.bytes ++ rest.drop v.kind.width, pre.length + v.kind.width⟩ := by
  have hpos : ¬ pre.length > (pre ++ rest).length := by simp
  simp only [pack, if_neg hpos, List.drop_left, Scalar.pack_of_le h, List.take_left,
    List.append_assoc]

/-- Bytes written where they fit land right after the bytes before the position. -/
theorem write_at {pre rest bytes : List UInt8} (h : bytes.length ≤ rest.length) :
    Cursor.write ⟨pre ++ rest, pre.length⟩ bytes =
      .ok ⟨pre ++ bytes ++ rest.drop bytes.length, pre.length + bytes.length⟩ := by
  have hfit : pre.length + bytes.length ≤ (pre ++ rest).length := by simp; omega
  rw [write, if_pos hfit]
  simp

/-- Reading the `w` bytes `mid` in front of the position gives their number and moves past them,
to where `post` begins. -/
theorem read_front {buffer : List UInt8} (position w : Nat) {mid post : List UInt8}
    (h : buffer.drop position = mid ++ post) (hw : mid.length = w) :
    Cursor.read ⟨buffer, position⟩ w = .ok (ofLeBytes mid, ⟨buffer, position + w⟩) ∧
      buffer.drop (position + w) = post := by
  subst hw
  refine ⟨by simp [read, h], ?_⟩
  rw [← List.drop_drop, h, List.drop_left]

/-- A read that fits takes the number in the `w` bytes at the position and moves past them. -/
theorem read_of_le {b : List UInt8} {p w : Nat} (h : p + w ≤ b.length) :
    Cursor.read ⟨b, p⟩ w = .ok (ofLeBytes ((b.drop p).take w), ⟨b, p + w⟩) := by
  have hfit : ¬ (b.drop p).length < w := by simp; omega
  rw [read, if_neg hfit]

/-- A read that does not fit reports the bytes left from the position. -/
theorem read_of_lt {b : List UInt8} {p w : Nat} (hp : p ≤ b.length) (h : b.length < p + w) :
    Cursor.read ⟨b, p⟩ w = .error (.badSize (b.length - p) .tooFewBytes) := by
  have hshort : (b.drop p).length < w := by simp; omega
  rw [read, if_pos hshort, List.length_drop]

end Cursor

/-- The bytes at a place inside a buffer do not depend on what follows the buffer. -/
theorem take_drop_append {b rest : List UInt8} {o w : Nat} (h : o + w ≤ b.length) :
    ((b ++ rest).drop o).take w = (b.drop o).take w := by
  rw [List.drop_append_of_le_length (by omega), List.take_append_of_le_length (by simp; omega)]

/-! ## 3. Slots laid end to end -/

namespace Slot

/-- The bytes a slot puts on the wire: a scalar's little-endian bytes, a zero for padding. -/
def bytes : Slot → List UInt8
  | .value v => v.bytes
  | .padding => [0]

@[simp] theorem length_bytes (s : Slot) : s.bytes.length = s.width := by
  cases s <;> simp [bytes, width]

/-- The number of bytes slots take laid end to end. -/
def totalWidth : List Slot → Nat
  | [] => 0
  | s :: rest => s.width + totalWidth rest

/-- Slots laid end to end take their total width. -/
theorem length_flatMap_bytes (slots : List Slot) :
    (slots.flatMap bytes).length = totalWidth slots := by
  induction slots with
  | nil => rfl
  | cons s slots ih => simp [totalWidth, ih]

/-- The bytes of a slot stand at the total width of the slots before it. -/
theorem bytes_at (front back : List Slot) (s : Slot) :
    (((front ++ s :: back).flatMap bytes).drop (totalWidth front)).take s.width = s.bytes := by
  have hfront : (front.flatMap bytes).length = totalWidth front := length_flatMap_bytes front
  rw [List.flatMap_append, ← hfront, List.drop_left, List.flatMap_cons, ← length_bytes s,
    List.take_left]

end Slot

namespace Cursor

/-- A slot put where it fits lands right after the bytes before the position. -/
theorem put_at {pre rest : List UInt8} {s : Slot} (h : s.width ≤ rest.length) :
    Cursor.put ⟨pre ++ rest, pre.length⟩ s =
      .ok ⟨pre ++ s.bytes ++ rest.drop s.width, pre.length + s.width⟩ := by
  cases s with
  | value v => exact pack_at h
  | padding => exact write_at h

/-- Slots put where they all fit lay down their bytes in order after the bytes before the
position. -/
theorem putAll_at (slots : List Slot) {pre rest : List UInt8}
    (h : Slot.totalWidth slots ≤ rest.length) :
    Cursor.putAll ⟨pre ++ rest, pre.length⟩ slots =
      .ok ⟨pre ++ slots.flatMap Slot.bytes ++ rest.drop (Slot.totalWidth slots),
        pre.length + (Slot.totalWidth slots)⟩ := by
  induction slots generalizing pre rest with
  | nil => simp [putAll, Slot.totalWidth]
  | cons s slots ih =>
    simp only [Slot.totalWidth] at h ⊢
    rw [putAll, put_at (by omega)]
    -- the cursor after the first slot stands after its bytes, which join the front
    have hnext : (⟨pre ++ s.bytes ++ rest.drop s.width, pre.length + s.width⟩ : Cursor) =
        ⟨(pre ++ s.bytes) ++ rest.drop s.width, (pre ++ s.bytes).length⟩ := by
      simp
    have hroom : Slot.totalWidth slots ≤ (rest.drop s.width).length := by
      simp only [List.length_drop]
      omega
    rw [hnext]
    dsimp only
    rw [ih hroom]
    simp [List.drop_drop, Nat.add_assoc]

end Cursor

/-- Slots that fit in a buffer pack as their bytes over its front, the rest left as it was. -/
theorem packSlots_of_le {slots : List Slot} {dst : List UInt8}
    (h : Slot.totalWidth slots ≤ dst.length) :
    packSlots slots dst = .ok (slots.flatMap Slot.bytes ++ dst.drop (Slot.totalWidth slots)) := by
  have hput := @Cursor.putAll_at slots [] dst h
  simp only [List.nil_append, List.length_nil, Nat.zero_add] at hput
  rw [packSlots, hput]
  rfl

/-- Slots packed into a zeroed buffer with room for them give their bytes, then the zeros they
leave. -/
theorem packSlots_replicate {slots : List Slot} {n : Nat} (h : Slot.totalWidth slots ≤ n) :
    packSlots slots (List.replicate n 0) =
      .ok (slots.flatMap Slot.bytes ++ List.replicate (n - Slot.totalWidth slots) 0) := by
  rw [packSlots_of_le (by simpa using h), List.drop_replicate]

/-- Slots packed into a zeroed buffer of their total width give exactly their bytes. -/
theorem packSlots_zeros (slots : List Slot) :
    packSlots slots (List.replicate (Slot.totalWidth slots) 0) =
      .ok (slots.flatMap Slot.bytes) := by
  simpa using packSlots_replicate (Nat.le_refl (Slot.totalWidth slots))

/-! ## 4. Receive records: where the controlword goes, and reading them back -/

namespace RxStandard

/-- The controlword of a standard receive record stands at bytes 12 and 13. -/
theorem controlWord_at (r : RxStandard) :
    ((r.slots.flatMap Slot.bytes).drop 12).take 2 = (Scalar.u16 r.controlWord.raw).bytes :=
  Slot.bytes_at [.value (.i32 r.targetPosition), .value (.i32 r.targetVelocity),
    .value (.i16 r.targetTorque), .value (.u16 r.maxTorque)]
    [.value (.i8 r.mode), .padding, .value (.i16 r.torqueOffset)] (.value (.u16 r.controlWord.raw))

/-- A standard receive record unpacks from its bytes, whatever follows them. -/
theorem unpack_pack (r : RxStandard) (rest : List UInt8) :
    unpack (r.slots.flatMap Slot.bytes ++ rest) = .ok r := by
  generalize hsrc : r.slots.flatMap Slot.bytes ++ rest = src
  have h₀ : src.drop 0 = (Scalar.i32 r.targetPosition).bytes ++ ((Scalar.i32 r.targetVelocity).bytes ++
      ((Scalar.i16 r.targetTorque).bytes ++ ((Scalar.u16 r.maxTorque).bytes ++
        ((Scalar.u16 r.controlWord.raw).bytes ++ ((Scalar.i8 r.mode).bytes ++
          ([0] ++ ((Scalar.i16 r.torqueOffset).bytes ++ rest))))))) := by
    simp [← hsrc, slots, Slot.bytes]
  obtain ⟨h₁, d₁⟩ := Cursor.read_front 0 4 h₀ (Scalar.length_bytes _)
  obtain ⟨h₂, d₂⟩ := Cursor.read_front (0 + 4) 4 d₁ (Scalar.length_bytes _)
  obtain ⟨h₃, d₃⟩ := Cursor.read_front (0 + 4 + 4) 2 d₂ (Scalar.length_bytes _)
  obtain ⟨h₄, d₄⟩ := Cursor.read_front (0 + 4 + 4 + 2) 2 d₃ (Scalar.length_bytes _)
  obtain ⟨h₅, d₅⟩ := Cursor.read_front (0 + 4 + 4 + 2 + 2) 2 d₄ (Scalar.length_bytes _)
  obtain ⟨h₆, d₆⟩ := Cursor.read_front (0 + 4 + 4 + 2 + 2 + 2) 1 d₅ (Scalar.length_bytes _)
  -- the padding byte is read and dropped
  obtain ⟨h₇, d₇⟩ := Cursor.read_front (0 + 4 + 4 + 2 + 2 + 2 + 1) 1 d₆ rfl
  obtain ⟨h₈, -⟩ := Cursor.read_front (0 + 4 + 4 + 2 + 2 + 2 + 1 + 1) 2 d₇ (Scalar.length_bytes _)
  simp only [unpack, h₁, h₂, h₃, h₄, h₅, h₆, h₇, h₈, bind, Except.bind, pure, Except.pure,
    Scalar.ofLeBytes_bytes, Scalar.pattern]
  simp

end RxStandard

namespace RxCst

/-- The controlword of a cst receive record stands at bytes 2 and 3. -/
theorem controlWord_at (r : RxCst) :
    ((r.slots.flatMap Slot.bytes).drop 2).take 2 = (Scalar.u16 r.controlWord.raw).bytes :=
  Slot.bytes_at [.value (.i16 r.targetTorque)] [.value (.i8 r.mode), .padding]
    (.value (.u16 r.controlWord.raw))

/-- A cst receive record unpacks from its bytes, whatever follows them. -/
theorem unpack_pack (r : RxCst) (rest : List UInt8) :
    unpack (r.slots.flatMap Slot.bytes ++ rest) = .ok r := by
  generalize hsrc : r.slots.flatMap Slot.bytes ++ rest = src
  have h₀ : src.drop 0 = (Scalar.i16 r.targetTorque).bytes ++
      ((Scalar.u16 r.controlWord.raw).bytes ++ ((Scalar.i8 r.mode).bytes ++ ([0] ++ rest))) := by
    simp [← hsrc, slots, Slot.bytes]
  obtain ⟨h₁, d₁⟩ := Cursor.read_front 0 2 h₀ (Scalar.length_bytes _)
  obtain ⟨h₂, d₂⟩ := Cursor.read_front (0 + 2) 2 d₁ (Scalar.length_bytes _)
  obtain ⟨h₃, d₃⟩ := Cursor.read_front (0 + 2 + 2) 1 d₂ (Scalar.length_bytes _)
  obtain ⟨h₄, -⟩ := Cursor.read_front (0 + 2 + 2 + 1) 1 d₃ rfl
  simp only [unpack, h₁, h₂, h₃, h₄, bind, Except.bind, pure, Except.pure,
    Scalar.ofLeBytes_bytes, Scalar.pattern]
  simp

end RxCst

/-! ## 5. Transmit records read back -/

namespace TxStandard

/-- A standard transmit record unpacks from its bytes, whatever follows them. -/
theorem unpack_pack (r : TxStandard) (rest : List UInt8) :
    unpack (r.slots.flatMap Slot.bytes ++ rest) = .ok r := by
  generalize hsrc : r.slots.flatMap Slot.bytes ++ rest = src
  have h₀ : src.drop 0 = (Scalar.i32 r.actualPosition).bytes ++ ((Scalar.u32 r.digitalInputs).bytes ++
      ((Scalar.i32 r.actualVelocity).bytes ++ ((Scalar.u16 r.statusWord.raw).bytes ++
        ((Scalar.i16 r.analogInput).bytes ++ ((Scalar.i16 r.actualCurrent).bytes ++
          ((Scalar.u32 r.busVoltage).bytes ++ rest)))))) := by
    simp [← hsrc, slots, Slot.bytes]
  -- each read takes the next field's bytes and leaves the cursor in front of the one after
  obtain ⟨h₁, d₁⟩ := Cursor.read_front 0 4 h₀ (Scalar.length_bytes _)
  obtain ⟨h₂, d₂⟩ := Cursor.read_front (0 + 4) 4 d₁ (Scalar.length_bytes _)
  obtain ⟨h₃, d₃⟩ := Cursor.read_front (0 + 4 + 4) 4 d₂ (Scalar.length_bytes _)
  obtain ⟨h₄, d₄⟩ := Cursor.read_front (0 + 4 + 4 + 4) 2 d₃ (Scalar.length_bytes _)
  obtain ⟨h₅, d₅⟩ := Cursor.read_front (0 + 4 + 4 + 4 + 2) 2 d₄ (Scalar.length_bytes _)
  obtain ⟨h₆, d₆⟩ := Cursor.read_front (0 + 4 + 4 + 4 + 2 + 2) 2 d₅ (Scalar.length_bytes _)
  obtain ⟨h₇, -⟩ := Cursor.read_front (0 + 4 + 4 + 4 + 2 + 2 + 2) 4 d₆ (Scalar.length_bytes _)
  simp only [unpack, h₁, h₂, h₃, h₄, h₅, h₆, h₇, bind, Except.bind, pure, Except.pure,
    Scalar.ofLeBytes_bytes, Scalar.pattern]
  -- what is left is each field's bit pattern converted back to the field's type
  simp

end TxStandard

namespace TxCst

/-- A cst transmit record unpacks from its bytes, whatever follows them. -/
theorem unpack_pack (r : TxCst) (rest : List UInt8) :
    unpack (r.slots.flatMap Slot.bytes ++ rest) = .ok r := by
  generalize hsrc : r.slots.flatMap Slot.bytes ++ rest = src
  have h₀ : src.drop 0 = (Scalar.i32 r.actualPosition).bytes ++ ((Scalar.i16 r.actualTorque).bytes ++
      ((Scalar.u16 r.statusWord.raw).bytes ++ ((Scalar.i8 r.modeDisplay).bytes ++
        ([0] ++ ((Scalar.i32 r.actualVelocity).bytes ++ rest))))) := by
    simp [← hsrc, slots, Slot.bytes]
  obtain ⟨h₁, d₁⟩ := Cursor.read_front 0 4 h₀ (Scalar.length_bytes _)
  obtain ⟨h₂, d₂⟩ := Cursor.read_front (0 + 4) 2 d₁ (Scalar.length_bytes _)
  obtain ⟨h₃, d₃⟩ := Cursor.read_front (0 + 4 + 2) 2 d₂ (Scalar.length_bytes _)
  obtain ⟨h₄, d₄⟩ := Cursor.read_front (0 + 4 + 2 + 2) 1 d₃ (Scalar.length_bytes _)
  -- the padding byte is read and dropped
  obtain ⟨h₅, d₅⟩ := Cursor.read_front (0 + 4 + 2 + 2 + 1) 1 d₄ rfl
  obtain ⟨h₆, -⟩ := Cursor.read_front (0 + 4 + 2 + 2 + 1 + 1) 4 d₅ (Scalar.length_bytes _)
  simp only [unpack, h₁, h₂, h₃, h₄, h₅, h₆, bind, Except.bind, pure, Except.pure,
    Scalar.ofLeBytes_bytes, Scalar.pattern]
  simp

end TxCst

namespace RxRecord

/-- The slots of a receive record of either layout. -/
def slots : RxRecord → List Slot
  | standard r => r.slots
  | cst r => r.slots

theorem width_slots (r : RxRecord) : Slot.totalWidth r.slots = r.size := by
  cases r <;> rfl

/-- A receive record packs as its slots. -/
theorem pack_eq (r : RxRecord) : r.pack = packSlots r.slots := by
  cases r <;> rfl

/-- A receive record packed into the record buffer leaves its bytes in the buffer's first
`size` bytes. -/
theorem pack_buffer (r : RxRecord) :
    ∃ packed, r.pack (List.replicate maxRecordSize 0) = .ok packed ∧
      packed.take r.size = r.slots.flatMap Slot.bytes := by
  have hfit : Slot.totalWidth r.slots ≤ maxRecordSize := by
    rw [width_slots]
    exact r.size_le_max
  refine ⟨_, by rw [pack_eq, packSlots_replicate hfit], ?_⟩
  rw [List.take_left' (by rw [Slot.length_flatMap_bytes, width_slots])]

/-- A receive record packs into a zeroed buffer of its size as its bytes. -/
theorem pack_zeros (r : RxRecord) :
    r.pack (List.replicate r.size 0) = .ok (r.slots.flatMap Slot.bytes) := by
  rw [pack_eq, ← width_slots, packSlots_zeros]

end RxRecord

namespace TxRecord

/-- The slots of a transmit record of either layout. -/
def slots : TxRecord → List Slot
  | standard r => r.slots
  | cst r => r.slots

/-- The layout of a transmit record. -/
def layout : TxRecord → RecordType
  | standard _ => .standard
  | cst _ => .cst

/-- A transmit record packs as its slots. -/
theorem pack_eq (r : TxRecord) : r.pack = packSlots r.slots := by
  cases r <;> rfl

/-- A transmit record packs into a zeroed buffer of its layout's size as its bytes. -/
theorem pack_zeros (r : TxRecord) :
    r.pack (List.replicate (Slot.totalWidth r.slots) 0) = .ok (r.slots.flatMap Slot.bytes) := by
  rw [pack_eq, packSlots_zeros]

/-- A transmit record unpacks, in its own layout, from its bytes, whatever follows them. -/
theorem unpack_pack (r : TxRecord) (rest : List UInt8) :
    unpack r.layout (r.slots.flatMap Slot.bytes ++ rest) = .ok (some r) := by
  cases r with
  | standard r =>
    show (some ∘ standard) <$> TxStandard.unpack (r.slots.flatMap Slot.bytes ++ rest) = _
    rw [TxStandard.unpack_pack]
    rfl
  | cst r =>
    show (some ∘ cst) <$> TxCst.unpack (r.slots.flatMap Slot.bytes ++ rest) = _
    rw [TxCst.unpack_pack]
    rfl

end TxRecord

end ServoDrive
