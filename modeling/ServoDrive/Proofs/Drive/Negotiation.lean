import ServoDrive.Proofs.Device.MailboxChange

/-!
# Negotiating the record layouts through the mailbox

Before the bus cycles, a controller negotiates the layout of each record with its drive: it assigns
the layout's PDOs to the side's sync manager through the mailbox, and selects the layout once the
drive holds the assignment. Every write of the negotiation is verified: the object is read back
and must hold the value written.

Main statements, for every bus, whatever it answers:

* `Drive.verifyWrite_eq`. A verified write makes one mailbox write and, only when that write
  succeeded, one read of the same object; it answers whether the value read back is the value
  written, and leaves the controller alone.
* `Drive.mapSide_run`. The negotiation of one side is what the bus sees in `Bus.negotiate`: no
  request at all for a layout with no assignment list (`na`), otherwise the verified writes of
  `SyncAssignment.writes` in order, the count cleared, each PDO index into its slot, the count set,
  every one attempted whatever the others gave. The side's layout is selected when all of them
  succeeded, and the side's mapping error is recorded otherwise (`Drive.negotiated`).
* `record_layout_negotiation`. Both sides, the receive side first, each as above and neither
  affecting the other; the answer is whether both succeeded, and the controller changes in its two
  layouts and its error history only.

The loops of the controller (`Drive.assignSlots`) are shown to be `List.mapM` over the writes, so
that "every write attempted" is the meaning of `mapM` in a state monad, and the bus's side is
stated without the controller.
-/

namespace ServoDrive

/-! ## 1. Running operations step by step -/

/-- In the bus's state monad, a bind runs its first part and then the rest from the state it
leaves. -/
theorem StateM.run_bind {σ α β : Type} (x : StateM σ α) (f : α → StateM σ β) (s : σ) :
    (x >>= f).run s = (f (x.run s).1).run (x.run s).2 :=
  rfl

theorem StateM.run_pure {σ α : Type} (a : α) (s : σ) : (pure a : StateM σ α).run s = (a, s) :=
  rfl

namespace DriveM

variable {σ : Type}

theorem run_bind {α β : Type} (x : DriveM σ α) (f : α → DriveM σ β) (d : Drive) (s : σ) :
    ((x >>= f).run d).run s =
      ((f ((x.run d).run s).1.1).run ((x.run d).run s).1.2).run ((x.run d).run s).2 :=
  rfl

theorem run_get (d : Drive) (s : σ) : ((get : DriveM σ Drive).run d).run s = ((d, d), s) := rfl

theorem run_pure {α : Type} (a : α) (d : Drive) (s : σ) :
    ((pure a : DriveM σ α).run d).run s = ((a, d), s) :=
  rfl

end DriveM

/-! ## 2. What the bus sees -/

/-- The verified writes that assign PDOs to a sync manager, in order: the count cleared, the index
of each PDO into its slot (the `i`-th into sub `i + 1`), then the count of the list. -/
def SyncAssignment.writes (a : SyncAssignment) (pdos : List UInt16) :
    List (MailboxObject × Scalar) :=
  (a.count, .u8 0) :: pdos.mapIdx (fun i index => (a.slot i, .u16 index)) ++
    [(a.count, .u8 pdos.length.toUInt8)]

/-- Every layout's PDO list fits the sync manager of either side, so each slot a negotiation
writes passes the capacity check of `SyncAssignment.slot?`; `Drive.assignSlots` writes
`SyncAssignment.slot` without making it. -/
theorem SyncAssignment.slot?_of_assigned {side : Side} {ty : RecordType} {pdos : List UInt16}
    (h : ty.assignment side = some pdos) {a : SyncAssignment} (ha : a = .rx ∨ a = .tx) {i : Nat}
    (hi : i < pdos.length) : a.slot? i = some (a.slot i) := by
  have hlen : pdos.length ≤ 4 := by
    cases side <;> cases ty <;> cases h <;> decide
  have hnum : a.num = 8 := by
    rcases ha with rfl | rfl <;> rfl
  rw [SyncAssignment.slot?, if_pos (by omega)]

namespace Bus

variable {σ : Type} (bus : Bus σ)

/-- Write a value to an object and, only when the write succeeded, read the object back: whether
it reads back the value written. -/
def writeReadBack (slave : UInt16) (o : MailboxObject) (v : Scalar) : StateM σ Bool := do
  match ← bus.writeValue slave o v with
  | .error _ => pure false
  | .ok () =>
    match ← bus.readValue slave o with
    | .ok back => pure (back.sameValue v)
    | .error _ => pure false

/-- The negotiation of one side's layout: no request for a layout with no assignment list, else
the verified writes assigning its PDOs, every one attempted; whether all succeeded. -/
def negotiate (slave : UInt16) (a : SyncAssignment) (side : Side) (ty : RecordType) :
    StateM σ Bool :=
  match ty.assignment side with
  | none => pure false
  | some pdos => do
    let oks ← (a.writes pdos).mapM fun w => bus.writeReadBack slave w.1 w.2
    pure (oks.all id)

end Bus

/-- The error a failed negotiation of a side records. -/
def Side.mappingError : Side → ErrorKind
  | .rx => .rxMapping
  | .tx => .txMapping

namespace Drive

/-- The controller with the layout of a side selected. -/
def withLayout (d : Drive) : Side → RecordType → Drive
  | .rx, ty => { d with rxType := ty }
  | .tx, ty => { d with txType := ty }

/-- The controller after negotiating the layout of a side: the layout selected if every write
succeeded, the side's mapping error recorded otherwise. -/
def negotiated (d : Drive) (side : Side) (ty : RecordType) (ok : Bool) : Drive :=
  if ok then d.withLayout side ty else d.record side.mappingError

@[simp] theorem address_negotiated (d : Drive) (side : Side) (ty : RecordType) (ok : Bool) :
    (d.negotiated side ty ok).address = d.address := by
  unfold negotiated withLayout
  split
  · split <;> rfl
  · rfl

/-- Both sides negotiated: each layout selected when its side succeeded, and the mapping error of
each side that failed recorded, the receive side's first; nothing else changes. -/
theorem negotiated_rx_tx (d : Drive) (rx tx : RecordType) (rxOk txOk : Bool) :
    (d.negotiated .rx rx rxOk).negotiated .tx tx txOk =
      { d with rxType := if rxOk then rx else d.rxType, txType := if txOk then tx else d.txType,
               reading := { d.reading with
                 errors := d.reading.errors.pushAll
                   ((if rxOk then [] else [.rxMapping]) ++ if txOk then [] else [.txMapping]) } } := by
  cases rxOk <;> cases txOk <;> rfl

theorem configureRx_of_ne {ty : RecordType} (h : ty ≠ .na) (d : Drive) :
    d.configureRx ty = (true, { d with rxType := ty }) := by
  simp [configureRx, h]

theorem configureTx_of_ne {ty : RecordType} (h : ty ≠ .na) (d : Drive) :
    d.configureTx ty = (true, { d with txType := ty }) := by
  simp [configureTx, h]

/-! ## 3. A verified write -/

variable {σ : Type} (bus : Bus σ)

/-- A verified write is the bus's write-and-read-back, at the controller's slave, and leaves the
controller alone. -/
theorem verifyWrite_run (o : MailboxObject) (v : Scalar) (d : Drive) (s : σ) :
    ((verifyWrite bus o v).run d).run s =
      ((((bus.writeReadBack d.address o v).run s).1, d),
        ((bus.writeReadBack d.address o v).run s).2) := by
  unfold verifyWrite Bus.writeReadBack
  simp only [DriveM.run_bind, DriveM.run_get, run_liftM, StateM.run_bind]
  -- the write's answer decides whether the object is read back
  rcases hw : (bus.writeValue d.address o v).run s with ⟨_ | ⟨⟨⟩⟩, s₁⟩
  · rfl
  · simp only [DriveM.run_bind, run_liftM, StateM.run_bind]
    rcases hr : (bus.readValue d.address o).run s₁ with ⟨_ | back, s₂⟩ <;> rfl

/-- One mailbox write and, exactly when it succeeded, one read of the same object; the answer is
whether both succeeded and the value read back is the value written. -/
theorem verifyWrite_eq (o : MailboxObject) (v : Scalar) (d : Drive) (s : σ) :
    ((verifyWrite bus o v).run d).run s =
      match (bus.writeValue d.address o v).run s with
      | (.error _, s₁) => ((false, d), s₁)
      | (.ok (), s₁) =>
        match (bus.readValue d.address o).run s₁ with
        | (.ok back, s₂) => ((back.sameValue v, d), s₂)
        | (.error _, s₂) => ((false, d), s₂) := by
  rw [verifyWrite_run]
  unfold Bus.writeReadBack
  simp only [StateM.run_bind]
  rcases hw : (bus.writeValue d.address o v).run s with ⟨_ | ⟨⟨⟩⟩, s₁⟩
  · rfl
  · simp only [StateM.run_bind]
    rcases hr : (bus.readValue d.address o).run s₁ with ⟨_ | back, s₂⟩ <;> rfl

/-- Verified writes one after the other, every one attempted: the bus's writes-and-read-backs,
and the controller left alone. -/
theorem mapM_verifyWrite_run (ws : List (MailboxObject × Scalar)) (d : Drive) (s : σ) :
    ((ws.mapM fun w => verifyWrite bus w.1 w.2).run d).run s =
      let r := (ws.mapM fun w => bus.writeReadBack d.address w.1 w.2).run s
      ((r.1, d), r.2) := by
  induction ws generalizing s with
  | nil => rfl
  | cons w rest ih =>
    simp only [List.mapM_cons, DriveM.run_bind, verifyWrite_run, ih, StateM.run_bind]
    rfl

/-! ## 4. One side -/

/-- The slots from `i` on take the indices in order, every write attempted. -/
theorem assignSlots_eq (a : SyncAssignment) (i : Nat) (pdos : List UInt16) :
    assignSlots bus a i pdos = (do
      let oks ← (pdos.mapIdx fun j index => (a.slot (i + j), Scalar.u16 index)).mapM
        fun w => verifyWrite bus w.1 w.2
      pure (oks.all id)) := by
  induction pdos generalizing i with
  | nil => simp [assignSlots]
  | cons index rest ih =>
    -- the rest of the list goes to the slots from `i + 1` on
    have hshift : (fun j index => (a.slot (i + 1 + j), Scalar.u16 index)) =
        fun j index => (a.slot (i + (j + 1)), Scalar.u16 index) := by
      funext j index
      rw [Nat.add_right_comm, Nat.add_assoc]
    rw [assignSlots, ih (i + 1), hshift]
    simp only [List.mapIdx_cons, List.mapM_cons, bind_assoc, pure_bind, List.all_cons,
      Nat.add_zero, id]

/-- Assigning PDOs to a sync manager is verifying its writes one after the other, every one
attempted; it succeeds when all did. -/
theorem assign_eq (a : SyncAssignment) (pdos : List UInt16) :
    assign bus a pdos = (do
      let oks ← (a.writes pdos).mapM fun w => verifyWrite bus w.1 w.2
      pure (oks.all id)) := by
  unfold assign
  rw [assignSlots_eq]
  simp only [SyncAssignment.writes, Nat.zero_add, List.cons_append, List.mapM_cons,
    List.mapM_append, bind_assoc, pure_bind, List.all_cons, List.all_append, List.mapM_nil,
    List.all_nil, Bool.and_true, Bool.and_assoc, id]

/-- The negotiation of one side: the bus sees `Bus.negotiate`, and the controller selects the
layout or records the side's mapping error as `negotiated` says. -/
theorem mapSide_run (a : SyncAssignment) (side : Side) (ty : RecordType) (d : Drive) (s : σ) :
    ((mapSide bus a side ty).run d).run s =
      let r := (bus.negotiate d.address a side ty).run s
      ((r.1, d.negotiated side ty r.1), r.2) := by
  cases h : ty.assignment side with
  | none =>
    unfold mapSide Bus.negotiate
    simp only [h]
    cases side <;> rfl
  | some pdos =>
    -- a layout with an assignment list is not `na`, so selecting it succeeds
    have hna : ty ≠ .na := by
      rintro rfl
      cases side <;> simp [RecordType.assignment] at h
    unfold mapSide Bus.negotiate
    simp only [h, DriveM.run_bind, assign_eq, mapM_verifyWrite_run, StateM.run_bind,
      DriveM.run_pure]
    generalize ((a.writes pdos).mapM fun w => bus.writeReadBack d.address w.1 w.2).run s = r
    obtain ⟨oks, s₁⟩ := r
    cases hall : oks.all id
    · cases side <;> rfl
    · cases side
      · show ((modifyGet (·.configureRx ty) >>= _ : DriveM σ Bool).run d).run s₁ = _
        simp only [DriveM.run_bind, configureRx_of_ne hna]
        rfl
      · show ((modifyGet (·.configureTx ty) >>= _ : DriveM σ Bool).run d).run s₁ = _
        simp only [DriveM.run_bind, configureTx_of_ne hna]
        rfl

/-- Both sides, the receive side first, each negotiated on its own. -/
theorem mapRecords_run (rx tx : RecordType) (d : Drive) (s : σ) :
    ((mapRecords bus rx tx).run d).run s =
      let r₁ := (bus.negotiate d.address .rx .rx rx).run s
      let r₂ := (bus.negotiate d.address .tx .tx tx).run r₁.2
      ((r₁.1 && r₂.1, (d.negotiated .rx rx r₁.1).negotiated .tx tx r₂.1), r₂.2) := by
  unfold mapRecords
  simp only [DriveM.run_bind, mapSide_run, address_negotiated, DriveM.run_pure]

end Drive

/-! ## 5. The negotiation as a whole -/

/-- For every bus, whatever it answers: a verified write makes one write and, exactly when it
succeeded, one read-back of the same object, answers whether the value read back is the value
written, and leaves the controller alone. Negotiating both layouts runs the receive side, then the
transmit side, each as `Bus.negotiate` says (no request for a layout with no assignment list, else
the verified writes clearing the count, filling the slots in order and setting the count, every
one attempted); a side's layout becomes the requested one exactly when all its writes succeeded,
its mapping error is recorded once exactly when it failed, nothing else changes, and the answer is
whether both sides succeeded. -/
theorem record_layout_negotiation {σ : Type} (bus : Bus σ) :
    (∀ (o : MailboxObject) (v : Scalar) (d : Drive) (s : σ),
      ((Drive.verifyWrite bus o v).run d).run s =
        match (bus.writeValue d.address o v).run s with
        | (.error _, s₁) => ((false, d), s₁)
        | (.ok (), s₁) =>
          match (bus.readValue d.address o).run s₁ with
          | (.ok back, s₂) => ((back.sameValue v, d), s₂)
          | (.error _, s₂) => ((false, d), s₂)) ∧
    ∀ (rx tx : RecordType) (d : Drive) (s : σ),
      ((Drive.mapRecords bus rx tx).run d).run s =
        let r₁ := (bus.negotiate d.address .rx .rx rx).run s
        let r₂ := (bus.negotiate d.address .tx .tx tx).run r₁.2
        ((r₁.1 && r₂.1,
          { d with rxType := if r₁.1 then rx else d.rxType,
                   txType := if r₂.1 then tx else d.txType,
                   reading := { d.reading with
                     errors := d.reading.errors.pushAll
                       ((if r₁.1 then [] else [.rxMapping]) ++
                         if r₂.1 then [] else [.txMapping]) } }),
          r₂.2) := by
  refine ⟨fun o v d s => Drive.verifyWrite_eq bus o v d s, fun rx tx d s => ?_⟩
  rw [Drive.mapRecords_run]
  simp only [Drive.negotiated_rx_tx]

end ServoDrive
