import ServoDrive.Proofs.Record.Packing

/-!
# Record formats

Each of the four process-data records has a fixed format: its size, and for every field the offset
it stands at, its scalar type, or a padding byte. This module writes each format down as a table
(`RxStandard.fields`, `RxCst.fields`, `TxStandard.fields`, `TxCst.fields`) and proves that the
record's packing and unpacking follow it (`FollowsLayout`):

* the fields stand end to end from offset `0` to the record's size;
* packing into a buffer with room writes each field's little-endian bytes at its offset and a zero
  for the padding byte, keeps what follows the record, and reads back as the record;
* every buffer with room reads as a record, whatever follows the record's bytes, and packing that
  record back changes only the padding byte, which becomes zero;
* a buffer too short fails at the field it ends in: packing reports the bytes left from that field's
  offset for a scalar and the whole buffer's length for the padding byte, unpacking the bytes left
  for either, as the padding byte is read as a `u8`.

Main statement: `records_follow_layouts`. The work is done once for slots placed end to end
(`Slot.placed`): where their bytes stand, where a short buffer stops them, and what a buffer looks
like once its fields are read and written again (`flatMap_bytes_append_drop`).
`FollowsLayout.of_slots` assembles the format from these and from four facts about each record's
reader, which follow its reads one by one.
-/

namespace ServoDrive

/-! ## 1. Slots placed end to end -/

namespace Slot

/-- Slots laid end to end from offset `o`, each with the offset it starts at. -/
def placed : Nat → List Slot → List (Nat × Slot)
  | _, [] => []
  | o, s :: rest => (o, s) :: placed (o + s.width) rest

/-- The error packing reports for a slot at offset `o` of a buffer of `len` bytes with no room for
it: a scalar reports the bytes left from `o`, a padding byte the length of the whole buffer. -/
def packError (s : Slot) (o len : Nat) : PackingError :=
  match s with
  | .value _ => .badSize (len - o) .noRoom
  | .padding => .badSize len .noRoomForSlice

theorem width_pos (s : Slot) : 0 < s.width := by
  cases s with
  | value v => cases v <;> simp [width, Scalar.kind, ScalarKind.width]
  | padding => simp [width]

theorem le_of_mem_placed {o : Nat} {slots : List Slot} {f : Nat × Slot}
    (h : f ∈ placed o slots) : o ≤ f.1 := by
  induction slots generalizing o with
  | nil => simp [placed] at h
  | cons s rest ih =>
    rcases List.mem_cons.1 h with rfl | h
    · exact Nat.le_refl _
    · exact Nat.le_trans (Nat.le_add_right _ _) (ih h)

/-- The bytes of slots laid down after `pre` stand at the offsets the slots are placed at. -/
theorem bytes_at_placed {slots : List Slot} {pre rest : List UInt8} {f : Nat × Slot}
    (hf : f ∈ placed pre.length slots) :
    ((pre ++ slots.flatMap bytes ++ rest).drop f.1).take f.2.width = f.2.bytes := by
  induction slots generalizing pre with
  | nil => simp [placed] at hf
  | cons s slots ih =>
    rcases List.mem_cons.1 hf with rfl | hf
    · rw [List.flatMap_cons, List.append_assoc, List.append_assoc, List.drop_left,
        List.take_left' (length_bytes s)]
    · -- past the first slot, its bytes join the ones in front
      have hpre : (pre ++ s.bytes).length = pre.length + s.width := by simp
      rw [← hpre] at hf
      have h := ih hf
      rwa [List.append_assoc pre, ← List.flatMap_cons] at h

end Slot

/-- Fields stand end to end from offset `o` up to offset `size`: each starts where the one before it
ends, and the last ends at `size`. -/
def EndToEnd : Nat → List (Nat × Slot) → Nat → Prop
  | o, [], size => o = size
  | o, f :: rest, size => f.1 = o ∧ EndToEnd (o + f.2.width) rest size

theorem endToEnd_placed (o : Nat) (slots : List Slot) :
    EndToEnd o (Slot.placed o slots) (o + Slot.totalWidth slots) := by
  induction slots generalizing o with
  | nil => rfl
  | cons s rest ih =>
    refine ⟨rfl, ?_⟩
    have h := ih (o + s.width)
    rwa [Nat.add_assoc] at h

/-- Fields standing end to end from `o` to `size` cover every offset between: a buffer ending
there ends inside one of them. -/
theorem EndToEnd.cover {o size len : Nat} {fields : List (Nat × Slot)}
    (h : EndToEnd o fields size) (hlo : o ≤ len) (hhi : len < size) :
    ∃ f ∈ fields, f.1 ≤ len ∧ len < f.1 + f.2.width := by
  induction fields generalizing o with
  | nil =>
    have : o = size := h
    omega
  | cons f rest ih =>
    obtain ⟨hf, hrest⟩ := h
    by_cases hin : len < o + f.2.width
    · exact ⟨f, List.mem_cons_self, by omega, by omega⟩
    · obtain ⟨g, hg, hg'⟩ := ih hrest (by omega)
      exact ⟨g, List.mem_cons_of_mem _ hg, hg'⟩

/-! ## 2. Short buffers -/

namespace Cursor

/-- A slot put where it does not fit fails with its error. -/
theorem put_short {pre rest : List UInt8} {s : Slot} (h : rest.length < s.width) :
    Cursor.put ⟨pre ++ rest, pre.length⟩ s =
      .error (s.packError pre.length (pre ++ rest).length) := by
  cases s with
  | value v =>
    have hpos : ¬ pre.length > (pre ++ rest).length := by simp
    have hshort : rest.length < v.kind.width := h
    rw [put, pack, if_neg hpos, List.drop_left, Scalar.pack, if_pos hshort]
    simp [Slot.packError]
  | padding =>
    have hroom : ¬ pre.length + [(0 : UInt8)].length ≤ (pre ++ rest).length := by
      have h1 : rest.length < 1 := h
      simp only [List.length_append, List.length_singleton]
      omega
    simp only [put, write, if_neg hroom, Slot.packError]

/-- Slots put from the position after `pre` that do not all fit fail at the slot the buffer ends
in, with that slot's error. -/
theorem putAll_short (slots : List Slot) {pre rest : List UInt8}
    (h : rest.length < Slot.totalWidth slots) :
    ∃ f ∈ Slot.placed pre.length slots, f.1 ≤ (pre ++ rest).length ∧
      (pre ++ rest).length < f.1 + f.2.width ∧
      Cursor.putAll ⟨pre ++ rest, pre.length⟩ slots =
        .error (f.2.packError f.1 (pre ++ rest).length) := by
  induction slots generalizing pre rest with
  | nil => simp [Slot.totalWidth] at h
  | cons s slots ih =>
    simp only [Slot.totalWidth] at h
    by_cases hfit : s.width ≤ rest.length
    · -- the slot fits: the others start after its bytes, in a buffer of the same length
      have hnext : (⟨pre ++ s.bytes ++ rest.drop s.width, pre.length + s.width⟩ : Cursor) =
          ⟨(pre ++ s.bytes) ++ rest.drop s.width, (pre ++ s.bytes).length⟩ := by simp
      have hrest : (rest.drop s.width).length < Slot.totalWidth slots := by simp; omega
      obtain ⟨f, hf, hlo, hhi, hput⟩ := @ih (pre ++ s.bytes) (rest.drop s.width) hrest
      have hlen : (pre ++ s.bytes ++ rest.drop s.width).length = (pre ++ rest).length := by
        simp; omega
      refine ⟨f, ?_, by rw [← hlen]; exact hlo, by rw [← hlen]; exact hhi, ?_⟩
      · rw [Slot.placed]
        exact List.mem_cons_of_mem _ (by simpa using hf)
      · rw [putAll, Cursor.put_at hfit, hnext]
        dsimp only
        rw [hput, hlen]
    · refine ⟨(pre.length, s), List.mem_cons_self, by simp, by simp; omega, ?_⟩
      rw [putAll, put_short (by omega)]

end Cursor

/-- Slots that do not fit in a buffer fail to pack at the slot the buffer ends in, with its
error. -/
theorem packSlots_short {slots : List Slot} {dst : List UInt8}
    (h : dst.length < Slot.totalWidth slots) :
    ∃ f ∈ Slot.placed 0 slots, f.1 ≤ dst.length ∧ dst.length < f.1 + f.2.width ∧
      packSlots slots dst = .error (f.2.packError f.1 dst.length) := by
  obtain ⟨f, hf, hlo, hhi, hput⟩ := @Cursor.putAll_short slots [] dst h
  simp only [List.nil_append, List.length_nil] at hf hlo hhi hput
  exact ⟨f, hf, hlo, hhi, by rw [packSlots, hput]; rfl⟩

/-! ## 3. Reading fields and writing them again -/

/-- The buffer with the byte of every padding field set to zero. -/
def clearPadding (fields : List (Nat × Slot)) (b : List UInt8) : List UInt8 :=
  fields.foldl (fun b f => if f.2 = .padding then b.set f.1 0 else b) b

/-- Clearing padding at offsets from `m` on keeps the first `m` bytes. -/
theorem take_clearPadding {fields : List (Nat × Slot)} {m : Nat} (h : ∀ f ∈ fields, m ≤ f.1)
    (b : List UInt8) : (clearPadding fields b).take m = b.take m := by
  induction fields generalizing b with
  | nil => rfl
  | cons f rest ih =>
    rw [clearPadding, List.foldl_cons, ← clearPadding,
      ih (fun g hg => h g (List.mem_cons_of_mem _ hg))]
    split
    · exact List.take_set_of_le (h f List.mem_cons_self)
    · rfl

/-- Slots whose scalars hold the bytes a buffer has at their places from `o` lay down that buffer
from `o` on, with each padding byte cleared. The induction is on the slots; the buffer the later
slots see is the one with the padding byte in front cleared, which agrees with `b` past it. -/
theorem flatMap_bytes_append_drop {slots : List Slot} {o : Nat} {b : List UInt8}
    (hlen : o + Slot.totalWidth slots ≤ b.length)
    (hval : ∀ f ∈ Slot.placed o slots, f.2 ≠ .padding →
      f.2.bytes = (b.drop f.1).take f.2.width) :
    slots.flatMap Slot.bytes ++ b.drop (o + Slot.totalWidth slots) =
      (clearPadding (Slot.placed o slots) b).drop o := by
  induction slots generalizing o b with
  | nil => simp [Slot.placed, Slot.totalWidth, clearPadding]
  | cons s rest ih =>
    simp only [Slot.totalWidth] at hlen ⊢
    have hw := s.width_pos
    obtain ⟨b₁, hb₁⟩ : ∃ b₁, b₁ = if s = .padding then b.set o 0 else b := ⟨_, rfl⟩
    have hlen₁ : b₁.length = b.length := by rw [hb₁]; split <;> simp
    have hdrop : ∀ p, o < p → b₁.drop p = b.drop p := by
      intro p hp
      rw [hb₁]
      split
      · exact List.drop_set_of_lt hp
      · rfl
    have hrest := ih (o := o + s.width) (b := b₁) (by omega)
      fun f hf hpad => by
        have hge := Slot.le_of_mem_placed hf
        rw [hdrop f.1 (by omega)]
        exact hval f (List.mem_cons_of_mem _ hf) hpad
    have hclear : clearPadding (Slot.placed o (s :: rest)) b =
        clearPadding (Slot.placed (o + s.width) rest) b₁ := by
      simp only [Slot.placed, clearPadding, List.foldl_cons, hb₁]
    -- what the slot in front lays down is what the cleared buffer holds at its place
    have hfront : ((clearPadding (Slot.placed (o + s.width) rest) b₁).drop o).take s.width =
        s.bytes := by
      rw [List.take_drop, take_clearPadding (fun f hf => Slot.le_of_mem_placed hf),
        ← List.take_drop, hb₁]
      cases s with
      | padding =>
        simp only [if_true, Slot.bytes, Slot.width] at hlen ⊢
        have ho : o < b.length := by omega
        rw [List.set_eq_take_append_cons_drop, if_pos ho,
          List.drop_left' (by rw [List.length_take]; omega)]
        rfl
      | value v =>
        simp only [reduceCtorEq, if_false]
        exact (hval _ List.mem_cons_self (by simp)).symm
    rw [hclear, List.flatMap_cons, List.append_assoc, ← Nat.add_assoc,
      (hdrop _ (by omega)).symm, hrest, ← hfront, ← List.drop_drop, List.take_append_drop]

/-! ## 4. Following a layout -/

/-- A record codec follows a layout of `size` bytes whose fields stand where `fields` says, each
field an offset and what stands there. -/
structure FollowsLayout {R : Type} (size : Nat) (fields : R → List (Nat × Slot))
    (pack : R → List UInt8 → Except PackingError (List UInt8))
    (unpack : List UInt8 → Except PackingError R) : Prop where
  /-- The fields tile the record: each starts where the one before it ends, the last at `size`. -/
  endToEnd : ∀ r, EndToEnd 0 (fields r) size
  /-- A buffer with room for the record takes each field's little-endian bytes, and a zero for
  padding, at the field's offset, keeps what follows the record, and reads back as the record. -/
  pack_of_le : ∀ r dst, size ≤ dst.length → ∃ out, pack r dst = .ok out ∧
    out.length = dst.length ∧ out.drop size = dst.drop size ∧
    (∀ f ∈ fields r, (out.drop f.1).take f.2.width = f.2.bytes) ∧ unpack out = .ok r
  /-- A buffer of at least `size` bytes reads as a record whatever follows its first `size` bytes,
  and packing that record back into it clears its padding and changes nothing else. -/
  unpack_of_le : ∀ b, size ≤ b.length → ∃ r, unpack b = .ok r ∧
    (∀ rest, unpack (b.take size ++ rest) = .ok r) ∧ pack r b = .ok (clearPadding (fields r) b)
  /-- Packing into a shorter buffer fails at the field the buffer ends in, with its error. -/
  pack_short : ∀ r dst, dst.length < size → ∃ f ∈ fields r, f.1 ≤ dst.length ∧
    dst.length < f.1 + f.2.width ∧ pack r dst = .error (f.2.packError f.1 dst.length)
  /-- Unpacking a shorter buffer fails at the field the buffer ends in (the offsets and widths are
  those of every record), reporting the bytes left from its offset. -/
  unpack_short : ∀ r b, b.length < size → ∃ f ∈ fields r, f.1 ≤ b.length ∧
    b.length < f.1 + f.2.width ∧ unpack b = .error (.badSize (b.length - f.1) .tooFewBytes)

/-- A codec that packs a record as its slots placed end to end follows the layout of those slots,
once its reader reads each field at its place, ignores what follows the record, reads the packed
slots back, and fails on a short buffer at the field the buffer ends in. -/
theorem FollowsLayout.of_slots {R : Type} {size : Nat} {fields : R → List (Nat × Slot)}
    {slots : R → List Slot} {pack : R → List UInt8 → Except PackingError (List UInt8)}
    {unpack : List UInt8 → Except PackingError R}
    (hfields : ∀ r, fields r = Slot.placed 0 (slots r))
    (hsize : ∀ r, Slot.totalWidth (slots r) = size)
    (hpack : ∀ r, pack r = packSlots (slots r))
    (hround : ∀ r rest, unpack ((slots r).flatMap Slot.bytes ++ rest) = .ok r)
    (hread : ∀ b, size ≤ b.length → ∃ r, unpack b = .ok r ∧
      ∀ f ∈ fields r, f.2 ≠ .padding → f.2.bytes = (b.drop f.1).take f.2.width)
    (happend : ∀ b rest, size ≤ b.length → unpack (b ++ rest) = unpack b)
    (hshort : ∀ r b, b.length < size → ∀ f ∈ fields r, f.1 ≤ b.length →
      b.length < f.1 + f.2.width → unpack b = .error (.badSize (b.length - f.1) .tooFewBytes)) :
    FollowsLayout size fields pack unpack where
  endToEnd r := by
    have h := endToEnd_placed 0 (slots r)
    rwa [Nat.zero_add, hsize, ← hfields] at h
  pack_of_le r dst h := by
    have hfit : Slot.totalWidth (slots r) ≤ dst.length := by rw [hsize]; exact h
    have hwidth : ((slots r).flatMap Slot.bytes).length = size := by
      rw [Slot.length_flatMap_bytes, hsize]
    refine ⟨_, by rw [hpack, packSlots_of_le hfit], ?_, ?_, fun f hf => ?_, by rw [hround]⟩
    · simp only [List.length_append, List.length_drop, hwidth, hsize]
      omega
    · rw [hsize, List.drop_left' hwidth]
    · rw [hfields] at hf
      have h := @Slot.bytes_at_placed (slots r) [] (dst.drop (Slot.totalWidth (slots r))) f
        (by simpa using hf)
      simpa using h
  unpack_of_le b h := by
    obtain ⟨r, hr, hval⟩ := hread b h
    have htake : size ≤ (b.take size).length := by simp; omega
    refine ⟨r, hr, fun rest => ?_, ?_⟩
    · -- reading the first `size` bytes with anything after them is reading `b`
      rw [happend _ rest htake, ← hr, ← happend _ (b.drop size) htake, List.take_append_drop]
    · have hfit : 0 + Slot.totalWidth (slots r) ≤ b.length := by rw [hsize]; omega
      rw [hfields] at hval ⊢
      have himage := flatMap_bytes_append_drop hfit hval
      rw [Nat.zero_add, List.drop_zero] at himage
      rw [hpack, packSlots_of_le (by omega), himage]
  pack_short r dst h := by
    obtain ⟨f, hf, hlo, hhi, hp⟩ := @packSlots_short (slots r) dst (by rw [hsize]; exact h)
    exact ⟨f, by rw [hfields]; exact hf, hlo, hhi, by rw [hpack]; exact hp⟩
  unpack_short r b h := by
    have hcover := @EndToEnd.cover 0 _ b.length _ (endToEnd_placed 0 (slots r)) (Nat.zero_le _)
      (by rw [Nat.zero_add, hsize]; exact h)
    rw [← hfields] at hcover
    obtain ⟨f, hf, hlo, hhi⟩ := hcover
    exact ⟨f, hf, hlo, hhi, hshort r b h f hf hlo hhi⟩

/-! ## 5. The four records

For each record: its table, and the four facts about its reader that `FollowsLayout.of_slots`
asks for. The reader's reads are opened one by one by `Cursor.read_of_le` and `Cursor.read_of_lt`;
a short buffer is split by the field it ends in. -/

namespace RxStandard

/-- The standard receive record: target position at 0, target velocity at 4, target torque at 8,
max torque at 10, controlword at 12, mode at 14, padding at 15, torque offset at 16. -/
def fields (r : RxStandard) : List (Nat × Slot) :=
  [(0, .value (.i32 r.targetPosition)), (4, .value (.i32 r.targetVelocity)),
   (8, .value (.i16 r.targetTorque)), (10, .value (.u16 r.maxTorque)),
   (12, .value (.u16 r.controlWord.raw)), (14, .value (.i8 r.mode)), (15, .padding),
   (16, .value (.i16 r.torqueOffset))]

theorem fields_eq (r : RxStandard) : fields r = Slot.placed 0 r.slots := rfl

theorem unpack_append {b : List UInt8} (rest : List UInt8) (h : 18 ≤ b.length) :
    unpack (b ++ rest) = unpack b := by
  have hlen : (b ++ rest).length = b.length + rest.length := List.length_append
  simp (disch := omega) only [unpack, Cursor.read_of_le, bind, Except.bind, take_drop_append]

theorem unpack_of_le {b : List UInt8} (h : 18 ≤ b.length) :
    ∃ r, unpack b = .ok r ∧
      ∀ f ∈ fields r, f.2 ≠ .padding → f.2.bytes = (b.drop f.1).take f.2.width := by
  simp (disch := omega) only [unpack, Cursor.read_of_le, bind, Except.bind, pure, Except.pure,
    Except.ok.injEq, exists_eq_left']
  -- each field, rebuilt from the bytes read at its offset, is written as those bytes
  simp (disch := (simp only [List.length_drop]; omega)) only [fields, List.forall_mem_cons,
    List.not_mem_nil, ne_eq, reduceCtorEq, not_false_eq_true, not_true_eq_false, forall_const,
    false_implies, implies_true, Slot.bytes, Slot.width, Scalar.kind, ScalarKind.width,
    Scalar.bytes_i32, Scalar.bytes_i16, Scalar.bytes_u16, Scalar.bytes_i8, leBytes_take_ofLeBytes,
    and_self]

theorem unpack_short {b : List UInt8} (h : b.length < 18) (r : RxStandard) :
    ∀ f ∈ fields r, f.1 ≤ b.length → b.length < f.1 + f.2.width →
      unpack b = .error (.badSize (b.length - f.1) .tooFewBytes) := by
  intro f hf hlo hhi
  simp only [fields, List.mem_cons, List.not_mem_nil, or_false] at hf
  -- the reads before the field fit, the field's own does not
  rcases hf with rfl | rfl | rfl | rfl | rfl | rfl | rfl | rfl <;>
    simp only [Slot.width, Scalar.kind, ScalarKind.width] at hlo hhi <;>
    simp (disch := omega) only [unpack, Cursor.read_of_le, Cursor.read_of_lt, bind, Except.bind]

theorem followsLayout : FollowsLayout 18 fields pack unpack :=
  .of_slots fields_eq (fun _ => rfl) (fun _ => rfl) unpack_pack
    (fun _ h => unpack_of_le h) (fun _ rest h => unpack_append rest h)
    (fun r _ h => unpack_short h r)

end RxStandard

namespace RxCst

/-- The cst receive record: target torque at 0, controlword at 2, mode at 4, padding at 5. -/
def fields (r : RxCst) : List (Nat × Slot) :=
  [(0, .value (.i16 r.targetTorque)), (2, .value (.u16 r.controlWord.raw)),
   (4, .value (.i8 r.mode)), (5, .padding)]

theorem fields_eq (r : RxCst) : fields r = Slot.placed 0 r.slots := rfl

theorem unpack_append {b : List UInt8} (rest : List UInt8) (h : 6 ≤ b.length) :
    unpack (b ++ rest) = unpack b := by
  have hlen : (b ++ rest).length = b.length + rest.length := List.length_append
  simp (disch := omega) only [unpack, Cursor.read_of_le, bind, Except.bind, take_drop_append]

theorem unpack_of_le {b : List UInt8} (h : 6 ≤ b.length) :
    ∃ r, unpack b = .ok r ∧
      ∀ f ∈ fields r, f.2 ≠ .padding → f.2.bytes = (b.drop f.1).take f.2.width := by
  simp (disch := omega) only [unpack, Cursor.read_of_le, bind, Except.bind, pure, Except.pure,
    Except.ok.injEq, exists_eq_left']
  simp (disch := (simp only [List.length_drop]; omega)) only [fields, List.forall_mem_cons,
    List.not_mem_nil, ne_eq, reduceCtorEq, not_false_eq_true, not_true_eq_false, forall_const,
    false_implies, implies_true, Slot.bytes, Slot.width, Scalar.kind, ScalarKind.width,
    Scalar.bytes_i16, Scalar.bytes_u16, Scalar.bytes_i8, leBytes_take_ofLeBytes, and_self]

theorem unpack_short {b : List UInt8} (h : b.length < 6) (r : RxCst) :
    ∀ f ∈ fields r, f.1 ≤ b.length → b.length < f.1 + f.2.width →
      unpack b = .error (.badSize (b.length - f.1) .tooFewBytes) := by
  intro f hf hlo hhi
  simp only [fields, List.mem_cons, List.not_mem_nil, or_false] at hf
  rcases hf with rfl | rfl | rfl | rfl <;>
    simp only [Slot.width, Scalar.kind, ScalarKind.width] at hlo hhi <;>
    simp (disch := omega) only [unpack, Cursor.read_of_le, Cursor.read_of_lt, bind, Except.bind]

theorem followsLayout : FollowsLayout 6 fields pack unpack :=
  .of_slots fields_eq (fun _ => rfl) (fun _ => rfl) unpack_pack
    (fun _ h => unpack_of_le h) (fun _ rest h => unpack_append rest h)
    (fun r _ h => unpack_short h r)

end RxCst

namespace TxStandard

/-- The standard transmit record: position at 0, digital inputs at 4, velocity at 8, statusword at
12, analog input at 14, current at 16, bus voltage at 18. -/
def fields (r : TxStandard) : List (Nat × Slot) :=
  [(0, .value (.i32 r.actualPosition)), (4, .value (.u32 r.digitalInputs)),
   (8, .value (.i32 r.actualVelocity)), (12, .value (.u16 r.statusWord.raw)),
   (14, .value (.i16 r.analogInput)), (16, .value (.i16 r.actualCurrent)),
   (18, .value (.u32 r.busVoltage))]

theorem fields_eq (r : TxStandard) : fields r = Slot.placed 0 r.slots := rfl

theorem unpack_append {b : List UInt8} (rest : List UInt8) (h : 22 ≤ b.length) :
    unpack (b ++ rest) = unpack b := by
  have hlen : (b ++ rest).length = b.length + rest.length := List.length_append
  simp (disch := omega) only [unpack, Cursor.read_of_le, bind, Except.bind, take_drop_append]

theorem unpack_of_le {b : List UInt8} (h : 22 ≤ b.length) :
    ∃ r, unpack b = .ok r ∧
      ∀ f ∈ fields r, f.2 ≠ .padding → f.2.bytes = (b.drop f.1).take f.2.width := by
  simp (disch := omega) only [unpack, Cursor.read_of_le, bind, Except.bind, pure, Except.pure,
    Except.ok.injEq, exists_eq_left']
  simp (disch := (simp only [List.length_drop]; omega)) only [fields, List.forall_mem_cons,
    List.not_mem_nil, ne_eq, reduceCtorEq, not_false_eq_true, forall_const, false_implies,
    implies_true, Slot.bytes, Slot.width, Scalar.kind, ScalarKind.width, Scalar.bytes_i32,
    Scalar.bytes_u32, Scalar.bytes_i16, Scalar.bytes_u16, leBytes_take_ofLeBytes, and_self]

theorem unpack_short {b : List UInt8} (h : b.length < 22) (r : TxStandard) :
    ∀ f ∈ fields r, f.1 ≤ b.length → b.length < f.1 + f.2.width →
      unpack b = .error (.badSize (b.length - f.1) .tooFewBytes) := by
  intro f hf hlo hhi
  simp only [fields, List.mem_cons, List.not_mem_nil, or_false] at hf
  rcases hf with rfl | rfl | rfl | rfl | rfl | rfl | rfl <;>
    simp only [Slot.width, Scalar.kind, ScalarKind.width] at hlo hhi <;>
    simp (disch := omega) only [unpack, Cursor.read_of_le, Cursor.read_of_lt, bind, Except.bind]

theorem followsLayout : FollowsLayout 22 fields pack unpack :=
  .of_slots fields_eq (fun _ => rfl) (fun _ => rfl) unpack_pack
    (fun _ h => unpack_of_le h) (fun _ rest h => unpack_append rest h)
    (fun r _ h => unpack_short h r)

end TxStandard

namespace TxCst

/-- The cst transmit record: position at 0, torque at 4, statusword at 6, mode display at 8,
padding at 9, velocity at 10. -/
def fields (r : TxCst) : List (Nat × Slot) :=
  [(0, .value (.i32 r.actualPosition)), (4, .value (.i16 r.actualTorque)),
   (6, .value (.u16 r.statusWord.raw)), (8, .value (.i8 r.modeDisplay)), (9, .padding),
   (10, .value (.i32 r.actualVelocity))]

theorem fields_eq (r : TxCst) : fields r = Slot.placed 0 r.slots := rfl

theorem unpack_append {b : List UInt8} (rest : List UInt8) (h : 14 ≤ b.length) :
    unpack (b ++ rest) = unpack b := by
  have hlen : (b ++ rest).length = b.length + rest.length := List.length_append
  simp (disch := omega) only [unpack, Cursor.read_of_le, bind, Except.bind, take_drop_append]

theorem unpack_of_le {b : List UInt8} (h : 14 ≤ b.length) :
    ∃ r, unpack b = .ok r ∧
      ∀ f ∈ fields r, f.2 ≠ .padding → f.2.bytes = (b.drop f.1).take f.2.width := by
  simp (disch := omega) only [unpack, Cursor.read_of_le, bind, Except.bind, pure, Except.pure,
    Except.ok.injEq, exists_eq_left']
  simp (disch := (simp only [List.length_drop]; omega)) only [fields, List.forall_mem_cons,
    List.not_mem_nil, ne_eq, reduceCtorEq, not_false_eq_true, not_true_eq_false, forall_const,
    false_implies, implies_true, Slot.bytes, Slot.width, Scalar.kind, ScalarKind.width,
    Scalar.bytes_i32, Scalar.bytes_i16, Scalar.bytes_u16, Scalar.bytes_i8, leBytes_take_ofLeBytes,
    and_self]

theorem unpack_short {b : List UInt8} (h : b.length < 14) (r : TxCst) :
    ∀ f ∈ fields r, f.1 ≤ b.length → b.length < f.1 + f.2.width →
      unpack b = .error (.badSize (b.length - f.1) .tooFewBytes) := by
  intro f hf hlo hhi
  simp only [fields, List.mem_cons, List.not_mem_nil, or_false] at hf
  rcases hf with rfl | rfl | rfl | rfl | rfl | rfl <;>
    simp only [Slot.width, Scalar.kind, ScalarKind.width] at hlo hhi <;>
    simp (disch := omega) only [unpack, Cursor.read_of_le, Cursor.read_of_lt, bind, Except.bind]

theorem followsLayout : FollowsLayout 14 fields pack unpack :=
  .of_slots fields_eq (fun _ => rfl) (fun _ => rfl) unpack_pack
    (fun _ h => unpack_of_le h) (fun _ rest h => unpack_append rest h)
    (fun r _ h => unpack_short h r)

end TxCst

/-- Each of the four records packs and unpacks as its table says: the standard receive record in
18 bytes, the cst receive record in 6, the standard transmit record in 22 and the cst transmit
record in 14. -/
theorem records_follow_layouts :
    FollowsLayout 18 RxStandard.fields RxStandard.pack RxStandard.unpack ∧
      FollowsLayout 6 RxCst.fields RxCst.pack RxCst.unpack ∧
      FollowsLayout 22 TxStandard.fields TxStandard.pack TxStandard.unpack ∧
      FollowsLayout 14 TxCst.fields TxCst.pack TxCst.unpack :=
  ⟨RxStandard.followsLayout, RxCst.followsLayout, TxStandard.followsLayout,
    TxCst.followsLayout⟩

end ServoDrive
