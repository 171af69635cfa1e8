/-!
# Values on the wire

Every value a drive exchanges is a scalar written as the little-endian bytes of its bit pattern.
-/

/-!
## Little-endian bytes

Every value on the wire is little endian: the least significant byte first. `leBytes w n` is the
`w` low bytes of `n` in that order and `ofLeBytes` reads them back; the round trip keeps `n` modulo
`256 ^ w` (`ofLeBytes_leBytes`), and the bytes of what is read are the bytes read
(`leBytes_ofLeBytes`).
-/

namespace ServoDrive

/-- The `width` low bytes of `n`, least significant first. -/
def leBytes : Nat → Nat → List UInt8
  | 0, _ => []
  | w + 1, n => (n % 256).toUInt8 :: leBytes w (n / 256)

/-- The number whose little-endian bytes these are. -/
def ofLeBytes : List UInt8 → Nat
  | [] => 0
  | b :: bs => b.toNat + 256 * ofLeBytes bs

@[simp] theorem length_leBytes (w n : Nat) : (leBytes w n).length = w := by
  induction w generalizing n with
  | zero => rfl
  | succ w ih => simp [leBytes, ih]

theorem ofLeBytes_leBytes (w n : Nat) : ofLeBytes (leBytes w n) = n % Nat.pow 256 w := by
  rw [Nat.pow_eq]
  induction w generalizing n with
  | zero => simp [leBytes, ofLeBytes, Nat.mod_one]
  | succ w ih =>
    have h : (n % 256).toUInt8.toNat = n % 256 := by
      simp [Nat.toUInt8]
    rw [leBytes, ofLeBytes, ih, h, Nat.pow_succ', Nat.mod_mul]

/-- Bytes read as a number are that number's little-endian bytes. -/
theorem leBytes_ofLeBytes (xs : List UInt8) : leBytes xs.length (ofLeBytes xs) = xs := by
  induction xs with
  | nil => rfl
  | cons x xs ih =>
    have hx := x.toNat_lt
    have hmod : (x.toNat + 256 * ofLeBytes xs) % 256 = x.toNat := by omega
    have hdiv : (x.toNat + 256 * ofLeBytes xs) / 256 = ofLeBytes xs := by omega
    rw [List.length_cons, leBytes, ofLeBytes, hmod, hdiv, ih]
    simp

/-- The first `w` bytes of a buffer with room for them, read as a number, are that number's `w`
little-endian bytes. -/
theorem leBytes_take_ofLeBytes {xs : List UInt8} {w : Nat} (h : w ≤ xs.length) :
    leBytes w (ofLeBytes (xs.take w)) = xs.take w := by
  have hlen : (xs.take w).length = w := by simp; omega
  have hbytes := leBytes_ofLeBytes (xs.take w)
  rwa [hlen] at hbytes

/-- Only the number modulo `256 ^ w` shows in its `w` low bytes. -/
theorem leBytes_mod (w n : Nat) : leBytes w (n % Nat.pow 256 w) = leBytes w n := by
  rw [Nat.pow_eq]
  induction w generalizing n with
  | zero => rfl
  | succ w ih =>
    simp only [leBytes]
    rw [Nat.pow_succ', Nat.mod_mul_right_mod, Nat.mod_mul_right_div_self, ih]

end ServoDrive

/-!
## Scalars on the wire

The numeric types a record field or a mailbox object can hold: unsigned and signed integers of 8
to 64 bits and binary32 and binary64 floats. A scalar is written as the little-endian bytes of its
bit pattern; a float travels as its bit pattern, so packing and unpacking keep every bit, NaN
payloads included.

Packing writes into the front of a buffer and leaves the rest as it was; it needs at least the
scalar's width and otherwise reports the buffer's length. Unpacking reads the front of a buffer
and ignores the rest; a buffer shorter than the width is reported with its length.
-/

namespace ServoDrive

/-- Why a value does not fit, or cannot be read. -/
inductive Shortage where
  /-- The buffer is shorter than the value to pack. -/
  | noRoom
  /-- The buffer is shorter than the value to unpack. -/
  | tooFewBytes
  /-- A cursor stands past the end of its buffer. -/
  | beyondEnd
  /-- The buffer has no room for a byte string. -/
  | noRoomForSlice
  deriving DecidableEq, Repr

def Shortage.text : Shortage → String
  | noRoom => "no room for integer"
  | tooFewBytes => "not enough bytes for integer"
  | beyondEnd => "cursor beyond buffer"
  | noRoomForSlice => "not enough room for slice"

/-- A failure to pack or unpack a value. -/
inductive PackingError where
  /-- A buffer of `size` bytes is too short. -/
  | badSize (size : Nat) (shortage : Shortage)
  /-- A value outside what its type may hold. -/
  | invalidValue (reason : String)
  deriving DecidableEq, Repr

def PackingError.message : PackingError → String
  | .badSize _ s => s.text
  | .invalidValue r => r

/-- The scalar types of the wire. -/
inductive ScalarKind where
  | u8 | u16 | u32 | u64 | i8 | i16 | i32 | i64 | f32 | f64
  deriving DecidableEq, Repr

/-- The number of bytes a scalar of the kind takes. -/
def ScalarKind.width : ScalarKind → Nat
  | .u8 | .i8 => 1
  | .u16 | .i16 => 2
  | .u32 | .i32 | .f32 => 4
  | .u64 | .i64 | .f64 => 8

/-- A typed value; floats are held as their bit patterns. -/
inductive Scalar where
  | u8 (v : UInt8)
  | u16 (v : UInt16)
  | u32 (v : UInt32)
  | u64 (v : UInt64)
  | i8 (v : Int8)
  | i16 (v : Int16)
  | i32 (v : Int32)
  | i64 (v : Int64)
  | f32 (bits : UInt32)
  | f64 (bits : UInt64)
  deriving DecidableEq, Repr

namespace Scalar

def kind : Scalar → ScalarKind
  | u8 _ => .u8 | u16 _ => .u16 | u32 _ => .u32 | u64 _ => .u64
  | i8 _ => .i8 | i16 _ => .i16 | i32 _ => .i32 | i64 _ => .i64
  | f32 _ => .f32 | f64 _ => .f64

/-- The bit pattern as an unsigned number below `256 ^ width`. -/
def pattern : Scalar → Nat
  | u8 v => v.toNat | u16 v => v.toNat | u32 v => v.toNat | u64 v => v.toNat
  | i8 v => v.toUInt8.toNat | i16 v => v.toUInt16.toNat | i32 v => v.toUInt32.toNat
  | i64 v => v.toUInt64.toNat
  | f32 b => b.toNat | f64 b => b.toNat

/-- The integer value of an integer scalar; floats have none. -/
def toInt? : Scalar → Option Int
  | u8 v => some v.toNat | u16 v => some v.toNat | u32 v => some v.toNat
  | u64 v => some v.toNat
  | i8 v => some v.toInt | i16 v => some v.toInt | i32 v => some v.toInt
  | i64 v => some v.toInt
  | f32 _ | f64 _ => none

/-- The scalar's bytes on the wire. -/
def bytes (v : Scalar) : List UInt8 := leBytes v.kind.width v.pattern

@[simp] theorem length_bytes (v : Scalar) : v.bytes.length = v.kind.width := by
  simp [bytes]

/-- The buffer with the scalar written over its first bytes. -/
def pack (v : Scalar) (dst : List UInt8) : Except PackingError (List UInt8) :=
  if dst.length < v.kind.width then .error (.badSize dst.length .noRoom)
  else .ok (v.bytes ++ dst.drop v.kind.width)

/-- Packing writes over the buffer and never resizes it. -/
theorem length_pack {v : Scalar} {dst out : List UInt8} (h : v.pack dst = .ok out) :
    out.length = dst.length := by
  unfold pack at h
  split at h
  · cases h
  · rename_i hfit
    cases h
    simp only [List.length_append, length_bytes, List.length_drop]
    omega

end Scalar

/-- The scalar of a kind with a given bit pattern. -/
def ScalarKind.ofPattern (k : ScalarKind) (n : Nat) : Scalar :=
  match k with
  | .u8 => .u8 n.toUInt8
  | .u16 => .u16 n.toUInt16
  | .u32 => .u32 n.toUInt32
  | .u64 => .u64 n.toUInt64
  | .i8 => .i8 n.toUInt8.toInt8
  | .i16 => .i16 n.toUInt16.toInt16
  | .i32 => .i32 n.toUInt32.toInt32
  | .i64 => .i64 n.toUInt64.toInt64
  | .f32 => .f32 n.toUInt32
  | .f64 => .f64 n.toUInt64

/-- The scalar of a kind holding an integer, wrapped modulo `256 ^ width` as two's complement. -/
def ScalarKind.ofInt (k : ScalarKind) (i : Int) : Scalar :=
  k.ofPattern (i % (Nat.pow 2 (8 * k.width) : Nat)).toNat

/-- The scalar of the kind at the front of a buffer. -/
def ScalarKind.unpack (k : ScalarKind) (src : List UInt8) : Except PackingError Scalar :=
  if src.length < k.width then .error (.badSize src.length .tooFewBytes)
  else .ok (k.ofPattern (ofLeBytes (src.take k.width)))

end ServoDrive
