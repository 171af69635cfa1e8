import ServoDrive.Proofs.Record.Packing

/-!
# Cursors called one after the other

Every record codec runs a cursor over a buffer: scalars packed and byte strings written one after
the other, or scalars unpacked one after the other. A caller may go on after a call that failed,
which then left the cursor as it was, so a run of calls is a fold in which a failed call changes
nothing (`Cursor.emitAll`, `Cursor.unpackEach`). The status and control words travel as `u16`
scalars of their raw value and need no calls of their own.

The invariant is that the cursor stands inside its buffer (`Cursor.InBounds`). Under it each call
is one equation (`Cursor.emit_eq`): a call of width `w` succeeds exactly when `w` bytes are left
after the position, and then lays its bytes at the position and moves past them; otherwise it
reports a short buffer, the bytes left for a scalar and the whole buffer for a byte string. An
unpack needs no invariant for its equation (`Cursor.unpack_eq`), and none of the calls moves the
cursor past the end, so the invariant holds along every run and a run never meets the error of a
cursor past the end.

Calls that all fit lay down their bytes end to end (`Cursor.emitAll_at`), and unpacking the kinds
of the packed scalars from those bytes gives the scalars back (`Cursor.unpackAll_front`): a scalar
is read back from its bit pattern, so a float comes back bit for bit.

Main statement: `cursor_call_sequences`.
-/

namespace ServoDrive

namespace ScalarKind

/-- A scalar rebuilt from its own bit pattern is the scalar. -/
@[simp] theorem ofPattern_pattern (v : Scalar) : v.kind.ofPattern v.pattern = v := by
  cases v <;> simp [ofPattern, Scalar.pattern, Scalar.kind]

end ScalarKind

namespace Cursor

/-- A call on a cursor over a buffer it writes: a scalar packed or a byte string written. -/
inductive Emit where
  | pack (v : Scalar)
  | write (bytes : List UInt8)
  deriving DecidableEq, Repr

namespace Emit

/-- The number of bytes the call writes. -/
def width : Emit → Nat
  | pack v => v.kind.width
  | write bytes => bytes.length

/-- The bytes the call writes: the scalar's little-endian bytes, or the byte string. -/
def bytes : Emit → List UInt8
  | pack v => v.bytes
  | write bytes => bytes

/-- What a call that does not fit reports, from a cursor at `pos` in a buffer of `len` bytes: a
scalar reports the bytes left, a byte string the whole buffer. -/
def shortError (len pos : Nat) : Emit → PackingError
  | pack _ => .badSize (len - pos) .noRoom
  | write _ => .badSize len .noRoomForSlice

@[simp] theorem length_bytes (e : Emit) : e.bytes.length = e.width := by
  cases e <;> simp [bytes, width]

/-- The number of bytes calls write one after the other. -/
def totalWidth : List Emit → Nat
  | [] => 0
  | e :: es => e.width + totalWidth es

end Emit

/-- The call made on the cursor. -/
def emit (c : Cursor) : Emit → Except PackingError Cursor
  | .pack v => c.pack v
  | .write bytes => c.write bytes

/-- The cursor after a call; one that failed left it as it was. -/
def emitting (c : Cursor) (e : Emit) : Cursor :=
  match c.emit e with
  | .ok c' => c'
  | .error _ => c

/-- The cursor after calls one after the other, each failure ignored. -/
def emitAll (c : Cursor) (es : List Emit) : Cursor := es.foldl emitting c

/-- The cursor after an unpack; one that failed left it as it was. -/
def unpacking (c : Cursor) (k : ScalarKind) : Cursor :=
  match c.unpack k with
  | .ok (_, c') => c'
  | .error _ => c

/-- The cursor after unpacks one after the other, each failure ignored. -/
def unpackEach (c : Cursor) (ks : List ScalarKind) : Cursor := ks.foldl unpacking c

/-- Scalars unpacked one after the other; the first that does not fit stops the rest. -/
def unpackAll (c : Cursor) : List ScalarKind → Except PackingError (List Scalar × Cursor)
  | [] => .ok ([], c)
  | k :: ks =>
    match c.unpack k with
    | .ok (v, c') => (c'.unpackAll ks).map fun r => (v :: r.1, r.2)
    | .error e => .error e

/-- The cursor stands inside its buffer, at most at its end. -/
def InBounds (c : Cursor) : Prop := c.position ≤ c.buffer.length

/-! ## 1. One call -/

/-- From inside its buffer, a call succeeds exactly when its bytes fit after the position: it lays
them there, keeps every other byte and moves past them. Otherwise it reports a short buffer. -/
theorem emit_eq {c : Cursor} (h : c.InBounds) (e : Emit) :
    c.emit e =
      if e.width ≤ c.buffer.length - c.position then
        .ok ⟨c.buffer.take c.position ++ e.bytes ++ c.buffer.drop (c.position + e.width),
          c.position + e.width⟩
      else .error (e.shortError c.buffer.length c.position) := by
  cases e with
  | pack v =>
    have hin : ¬ c.position > c.buffer.length := Nat.not_lt.2 h
    have hleft : (c.buffer.drop c.position).length = c.buffer.length - c.position :=
      List.length_drop
    by_cases hfit : v.kind.width ≤ c.buffer.length - c.position
    · rw [if_pos (show (Emit.pack v).width ≤ c.buffer.length - c.position from hfit)]
      have hroom : ¬ (c.buffer.drop c.position).length < v.kind.width := by omega
      simp only [emit, pack, if_neg hin, Scalar.pack, if_neg hroom, Emit.bytes, Emit.width,
        List.drop_drop, List.append_assoc]
    · rw [if_neg (show ¬ (Emit.pack v).width ≤ c.buffer.length - c.position from hfit)]
      have hshort : c.buffer.length - c.position < v.kind.width := by omega
      simp only [emit, pack, if_neg hin, Scalar.pack, hleft, if_pos hshort, Emit.shortError]
  | write bytes =>
    -- inside the buffer, fitting after the position is fitting in what is left
    have hiff : c.position + bytes.length ≤ c.buffer.length ↔
        bytes.length ≤ c.buffer.length - c.position := by
      unfold InBounds at h
      omega
    by_cases hfit : bytes.length ≤ c.buffer.length - c.position
    · rw [if_pos (show (Emit.write bytes).width ≤ c.buffer.length - c.position from hfit)]
      simp only [emit, write, if_pos (hiff.2 hfit), Emit.width, Emit.bytes]
    · rw [if_neg (show ¬ (Emit.write bytes).width ≤ c.buffer.length - c.position from hfit)]
      simp only [emit, write, if_neg (mt hiff.1 hfit), Emit.shortError]

/-- An unpack succeeds exactly when the kind's width is left after the position: it reads the
little-endian number there and moves past it. Otherwise it reports the bytes left. -/
theorem unpack_eq (c : Cursor) (k : ScalarKind) :
    c.unpack k =
      if k.width ≤ c.buffer.length - c.position then
        .ok (k.ofPattern (ofLeBytes ((c.buffer.drop c.position).take k.width)),
          { c with position := c.position + k.width })
      else .error (.badSize (c.buffer.length - c.position) .tooFewBytes) := by
  simp only [unpack, read, List.length_drop]
  by_cases hfit : k.width ≤ c.buffer.length - c.position
  · rw [if_neg (Nat.not_lt.2 hfit), if_pos hfit]
  · rw [if_pos (Nat.lt_of_not_le hfit), if_neg hfit]

/-- A call from inside the buffer keeps its length and leaves the cursor inside it. -/
theorem emitting_inBounds {c : Cursor} (h : c.InBounds) (e : Emit) :
    (c.emitting e).buffer.length = c.buffer.length ∧ (c.emitting e).InBounds := by
  unfold emitting
  rw [emit_eq h e]
  by_cases hfit : e.width ≤ c.buffer.length - c.position
  · rw [if_pos hfit]
    dsimp only
    have hlen : (c.buffer.take c.position ++ e.bytes ++
        c.buffer.drop (c.position + e.width)).length = c.buffer.length := by
      simp only [List.length_append, List.length_take, Emit.length_bytes, List.length_drop]
      unfold InBounds at h
      omega
    refine ⟨hlen, ?_⟩
    unfold InBounds at h ⊢
    rw [hlen]
    show c.position + e.width ≤ c.buffer.length
    omega
  · rw [if_neg hfit]
    exact ⟨rfl, h⟩

/-- An unpack keeps the buffer and leaves a cursor inside it there. -/
theorem unpacking_inBounds {c : Cursor} (h : c.InBounds) (k : ScalarKind) :
    (c.unpacking k).buffer = c.buffer ∧ (c.unpacking k).InBounds := by
  unfold unpacking
  rw [unpack_eq c k]
  by_cases hfit : k.width ≤ c.buffer.length - c.position
  · rw [if_pos hfit]
    refine ⟨rfl, ?_⟩
    unfold InBounds at h ⊢
    dsimp only
    omega
  · rw [if_neg hfit]
    exact ⟨rfl, h⟩

/-! ## 2. Runs of calls -/

/-- Along a run of calls the buffer keeps its length and the cursor stays inside it. -/
theorem emitAll_inBounds {c : Cursor} (h : c.InBounds) (es : List Emit) :
    (c.emitAll es).buffer.length = c.buffer.length ∧ (c.emitAll es).InBounds := by
  induction es generalizing c with
  | nil => exact ⟨rfl, h⟩
  | cons e es ih =>
    obtain ⟨hlen, hin⟩ := emitting_inBounds h e
    obtain ⟨hlen', hin'⟩ := ih hin
    exact ⟨hlen'.trans hlen, hin'⟩

/-- Along a run of unpacks the buffer stays as it was and the cursor inside it. -/
theorem unpackEach_inBounds {c : Cursor} (h : c.InBounds) (ks : List ScalarKind) :
    (c.unpackEach ks).buffer = c.buffer ∧ (c.unpackEach ks).InBounds := by
  induction ks generalizing c with
  | nil => exact ⟨rfl, h⟩
  | cons k ks ih =>
    obtain ⟨hbuf, hin⟩ := unpacking_inBounds h k
    obtain ⟨hbuf', hin'⟩ := ih hin
    exact ⟨hbuf'.trans hbuf, hin'⟩

/-- A call that fits after `pre` lays its bytes right there. -/
theorem emit_at {pre rest : List UInt8} {e : Emit} (h : e.width ≤ rest.length) :
    (⟨pre ++ rest, pre.length⟩ : Cursor).emit e =
      .ok ⟨pre ++ e.bytes ++ rest.drop e.width, pre.length + e.width⟩ := by
  cases e with
  | pack v => exact pack_at h
  | write bytes => exact write_at h

/-- Calls that all fit after `pre` lay down their bytes there, end to end. -/
theorem emitAll_at (es : List Emit) {pre rest : List UInt8}
    (h : Emit.totalWidth es ≤ rest.length) :
    (⟨pre ++ rest, pre.length⟩ : Cursor).emitAll es =
      ⟨pre ++ es.flatMap Emit.bytes ++ rest.drop (Emit.totalWidth es),
        pre.length + Emit.totalWidth es⟩ := by
  induction es generalizing pre rest with
  | nil =>
    simp only [emitAll, List.foldl_nil, List.flatMap_nil, List.append_nil, Emit.totalWidth,
      List.drop_zero, Nat.add_zero]
  | cons e es ih =>
    simp only [Emit.totalWidth] at h ⊢
    have hroom : Emit.totalWidth es ≤ (rest.drop e.width).length := by
      simp only [List.length_drop]
      omega
    -- the first call's bytes join the front, and the other calls follow them
    have hfirst : (⟨pre ++ rest, pre.length⟩ : Cursor).emitting e =
        ⟨(pre ++ e.bytes) ++ rest.drop e.width, (pre ++ e.bytes).length⟩ := by
      unfold emitting
      rw [emit_at (by omega)]
      simp only [List.append_assoc, List.length_append, Emit.length_bytes]
    show es.foldl emitting ((⟨pre ++ rest, pre.length⟩ : Cursor).emitting e) = _
    rw [hfirst]
    refine (ih hroom).trans ?_
    simp only [List.append_assoc, List.drop_drop, List.length_append, Emit.length_bytes,
      Nat.add_assoc, List.flatMap_cons]

/-- A scalar whose bytes stand at the position unpacks as itself, and the cursor moves past
them. -/
theorem unpack_front {c : Cursor} {v : Scalar} {post : List UInt8}
    (h : c.buffer.drop c.position = v.bytes ++ post) :
    c.unpack v.kind = .ok (v, { c with position := c.position + v.kind.width }) := by
  obtain ⟨hread, -⟩ := read_front c.position v.kind.width h (Scalar.length_bytes v)
  rw [unpack, hread]
  simp

/-- Scalars whose bytes stand end to end at the position unpack as themselves, and the cursor
moves past all of them. -/
theorem unpackAll_front (vs : List Scalar) {c : Cursor} {post : List UInt8}
    (h : c.buffer.drop c.position = vs.flatMap Scalar.bytes ++ post) :
    c.unpackAll (vs.map Scalar.kind) =
      .ok (vs, { c with position := c.position + Emit.totalWidth (vs.map .pack) }) := by
  induction vs generalizing c with
  | nil => simp only [List.map_nil, unpackAll, Emit.totalWidth, Nat.add_zero]
  | cons v vs ih =>
    rw [List.flatMap_cons, List.append_assoc] at h
    -- past the first scalar the others stand at the new position
    have hnext : ({ c with position := c.position + v.kind.width } : Cursor).buffer.drop
        (c.position + v.kind.width) = vs.flatMap Scalar.bytes ++ post := by
      obtain ⟨-, hdrop⟩ := read_front c.position v.kind.width h (Scalar.length_bytes v)
      exact hdrop
    have hrest := ih (c := { c with position := c.position + v.kind.width }) hnext
    rw [List.map_cons, unpackAll, unpack_front h]
    dsimp only
    rw [hrest]
    simp only [Except.map, Nat.add_assoc, List.map_cons, Emit.totalWidth, Emit.width]

end Cursor

/-! ## 3. The contract of a cursor -/

open Cursor in
/-- For a buffer of any length: along every run of calls from a new cursor (scalars packed of any
of the ten kinds, the words as `u16`, and byte strings written, in any order and each failure
ignored), the buffer keeps its length and the position stays within it; the next call of width
`w` then succeeds exactly when `w` bytes are left, laying the value's little-endian bytes at the
position, keeping every other byte and moving the position by `w`, and otherwise changes nothing
and reports the bytes left for a scalar and the whole buffer for a byte string, never a cursor past
the end. The same holds of runs of unpacks, whose failure reports the bytes left. Scalars that fit
the buffer, packed one after the other, unpack in the same order of kinds as themselves, floats bit
for bit, and the two cursors end at the same place. -/
theorem cursor_call_sequences (buf : List UInt8) :
    (∀ es : List Emit,
      let c := ({ buffer := buf } : Cursor).emitAll es
      c.buffer.length = buf.length ∧ c.position ≤ buf.length ∧
      (∀ e, c.emit e =
        if e.width ≤ buf.length - c.position then
          .ok ⟨c.buffer.take c.position ++ e.bytes ++ c.buffer.drop (c.position + e.width),
            c.position + e.width⟩
        else .error (e.shortError buf.length c.position)) ∧
      ∀ e n, c.emit e ≠ .error (.badSize n .beyondEnd)) ∧
    (∀ ks : List ScalarKind,
      let c := ({ buffer := buf } : Cursor).unpackEach ks
      c.buffer = buf ∧ c.position ≤ buf.length ∧
      ∀ k, c.unpack k =
        if k.width ≤ buf.length - c.position then
          .ok (k.ofPattern (ofLeBytes ((buf.drop c.position).take k.width)),
            { c with position := c.position + k.width })
        else .error (.badSize (buf.length - c.position) .tooFewBytes)) ∧
    (∀ vs : List Scalar, Emit.totalWidth (vs.map .pack) ≤ buf.length →
      let c := ({ buffer := buf } : Cursor).emitAll (vs.map .pack)
      ({ buffer := c.buffer } : Cursor).unpackAll (vs.map Scalar.kind) = .ok (vs, c)) := by
  have hnew : ({ buffer := buf } : Cursor).InBounds := Nat.zero_le _
  refine ⟨fun es => ?_, fun ks => ?_, fun vs hfit => ?_⟩
  · obtain ⟨hlen, hin⟩ := emitAll_inBounds hnew es
    change _ = buf.length at hlen
    have hcall := emit_eq hin
    unfold InBounds at hin
    rw [hlen] at hcall hin
    refine ⟨hlen, hin, hcall, fun e n => ?_⟩
    rw [hcall e]
    split
    · intro hok
      cases hok
    · cases e <;> simp only [Emit.shortError, ne_eq, Except.error.injEq,
        PackingError.badSize.injEq, reduceCtorEq, and_false, not_false_eq_true]
  · obtain ⟨hbuf, hin⟩ := unpackEach_inBounds hnew ks
    change _ = buf at hbuf
    unfold InBounds at hin
    rw [hbuf] at hin
    refine ⟨hbuf, hin, fun k => ?_⟩
    rw [unpack_eq, hbuf]
  · -- the packs lay the scalars' bytes from the start, which is where the unpacks read them
    have hbytes : (vs.map Emit.pack).flatMap Emit.bytes = vs.flatMap Scalar.bytes := by
      simp only [List.flatMap_map, Emit.bytes]
    have hpack := @emitAll_at (vs.map Emit.pack) [] buf hfit
    simp only [List.nil_append, List.length_nil, Nat.zero_add, hbytes] at hpack
    have hread := unpackAll_front vs
      (c := { buffer := vs.flatMap Scalar.bytes ++ buf.drop (Emit.totalWidth (vs.map .pack)) })
      List.drop_zero
    dsimp only
    rw [hpack, hread, Nat.zero_add]

open Cursor in
/-- A status word and a position packed into a six-byte buffer, which just holds them, are read
back as they were packed. -/
theorem statusWord_and_position_read_back :
    Emit.totalWidth ([Scalar.u16 0x0237, .i32 (-5)].map .pack) ≤
      (List.replicate 6 (0 : UInt8)).length ∧
    let c := ({ buffer := List.replicate 6 0 } : Cursor).emitAll
      ([Scalar.u16 0x0237, .i32 (-5)].map .pack)
    ({ buffer := c.buffer } : Cursor).unpackAll ([Scalar.u16 0x0237, .i32 (-5)].map Scalar.kind) =
      .ok ([.u16 0x0237, .i32 (-5)], c) :=
  ⟨by decide, (cursor_call_sequences _).2.2 _ (by decide)⟩

end ServoDrive
