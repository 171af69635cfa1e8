import ServoDrive.Proofs.Drive.Changes
import ServoDrive.Proofs.Device.Answers

/-!
# What the write half sends

The write half of a bus cycle hands the bus one receive record, built from the controller as the
state-change engine leaves it. This module says what those bytes are, for every controller and
every bus.

* `rxBytes` gives the bytes of the receive record of a layout field after field: the standard
  layout carries the five setpoints, the cst layout the target torque only, and both the
  controlword, the code of the mode and a byte of padding, each field little endian. They are
  the bytes of the record the controller builds (`RxRecord.rxBytes_new`), which packing it into
  the zeroed record buffer leaves in the buffer's first bytes (`RxRecord.pack_buffer`), and they
  are as many as the layout's size (`length_rxBytes`).
* `Drive.outgoing` is what a write half sends and `Drive.afterWrite` the controller it leaves.
  Main statement: `Drive.updateWrite_eq`. Whatever the bus, the write half is that change of the
  controller and at most one send, of the outgoing bytes, so its failure to pack is never reached;
  without a mode of operation it sends nothing and records `modeOfOperation`, without a receive
  layout it runs the engine, sends nothing and records `rxRecordType`.
* The engine consumes the reading it runs on, so it runs at most once per reading
  (`engaged_engaged`) and two write halves in a row send the same bytes (`outgoing_afterWrite`).
-/

namespace ServoDrive

/-- The bytes of the receive record of a layout for setpoints, a controlword and a mode of
operation; layout `na` has none. -/
def rxBytes (st : Setpoints) (w : ControlWord) (m : OperationMode) :
    RecordType → Option (List UInt8)
  | .na => none
  | .standard => some ((Scalar.i32 st.targetPosition).bytes ++ (Scalar.i32 st.targetVelocity).bytes ++
      (Scalar.i16 st.targetTorque).bytes ++ (Scalar.u16 st.maxTorque).bytes ++
      (Scalar.u16 w.raw).bytes ++ (Scalar.i8 m.signedCode).bytes ++ [0] ++
      (Scalar.i16 st.torqueOffset).bytes)
  | .cst => some ((Scalar.i16 st.targetTorque).bytes ++ (Scalar.u16 w.raw).bytes ++
      (Scalar.i8 m.signedCode).bytes ++ [0])

/-- The bytes of a receive record are as many as its layout's size. -/
theorem length_rxBytes {st : Setpoints} {w : ControlWord} {m : OperationMode} {ty : RecordType}
    {bytes : List UInt8} (h : rxBytes st w m ty = some bytes) : ty.size .rx = some bytes.length := by
  cases ty with
  | na => cases h
  | standard =>
    cases h
    simp [RecordType.size, Scalar.kind, ScalarKind.width]
  | cst =>
    cases h
    simp [RecordType.size, Scalar.kind, ScalarKind.width]

/-- The record the controller builds for a negotiated layout has the bytes of that layout. -/
theorem RxRecord.rxBytes_new {ty : RecordType} {st : Setpoints} {w : ControlWord}
    {m : OperationMode} {r : RxRecord} (hr : RxRecord.new ty st w m = some r) :
    rxBytes st w m ty = some (r.slots.flatMap Slot.bytes) := by
  cases ty with
  | na => cases hr
  | standard =>
    cases hr
    simp [rxBytes, RxRecord.slots, RxStandard.slots, Slot.bytes]
  | cst =>
    cases hr
    simp [rxBytes, RxRecord.slots, RxCst.slots, Slot.bytes]

/-- Every layout but `na` has a receive record. -/
theorem rxBytes_isSome {st : Setpoints} {w : ControlWord} {m : OperationMode} {ty : RecordType}
    (h : ty ≠ .na) : ∃ bytes, rxBytes st w m ty = some bytes := by
  cases ty with
  | na => exact absurd rfl h
  | standard => exact ⟨_, rfl⟩
  | cst => exact ⟨_, rfl⟩

/-- Bytes of a layout are those of the record the controller builds for it. -/
theorem RxRecord.new_of_rxBytes {ty : RecordType} {st : Setpoints} {w : ControlWord}
    {m : OperationMode} {bytes : List UInt8} (h : rxBytes st w m ty = some bytes) :
    ∃ r, RxRecord.new ty st w m = some r ∧ r.slots.flatMap Slot.bytes = bytes := by
  obtain ⟨r, hr⟩ : ∃ r, RxRecord.new ty st w m = some r := by
    cases ty with
    | na => cases h
    | standard => exact ⟨_, rfl⟩
    | cst => exact ⟨_, rfl⟩
  rw [RxRecord.rxBytes_new hr, Option.some.injEq] at h
  exact ⟨r, hr, h⟩

namespace Drive

/-! ## 1. The controller the record is built from -/

/-- The controller the write half builds its record from: the engine run on a fresh reading of a
pending change. -/
def engaged (d : Drive) (now : Nat) : Drive :=
  if d.fresh && d.pending then d.engage now else d

section Engaged

variable (d : Drive) (now : Nat)

@[simp] theorem engage_rxType : (d.engage now).rxType = d.rxType := by
  obtain ⟨_, _, _, _, h⟩ := engage_eq d now
  rw [h]

@[simp] theorem engage_staged : (d.engage now).staged = d.staged := by
  obtain ⟨_, _, _, _, h⟩ := engage_eq d now
  rw [h]

@[simp] theorem engage_mode : (d.engage now).mode = d.mode := by
  obtain ⟨_, _, _, _, h⟩ := engage_eq d now
  rw [h]

@[simp] theorem engage_address : (d.engage now).address = d.address := by
  obtain ⟨_, _, _, _, h⟩ := engage_eq d now
  rw [h]

@[simp] theorem engaged_rxType : (d.engaged now).rxType = d.rxType := by
  unfold engaged
  split <;> simp

@[simp] theorem engaged_staged : (d.engaged now).staged = d.staged := by
  unfold engaged
  split <;> simp

@[simp] theorem engaged_mode : (d.engaged now).mode = d.mode := by
  unfold engaged
  split <;> simp

@[simp] theorem engaged_address : (d.engaged now).address = d.address := by
  unfold engaged
  split <;> simp

/-- The engine consumes the reading it ran on, so a second write half before the next reading
does not run it again. -/
theorem engaged_engaged (now' : Nat) : (d.engaged now).engaged now' = d.engaged now := by
  unfold engaged
  by_cases h : (d.fresh && d.pending) = true
  · simp [h]
  · rw [if_neg h, if_neg h]

end Engaged

/-! ## 2. The write half -/

/-- What the write half sends: the bytes of the receive record of the controller the engine
leaves; none without a mode of operation or a receive layout. -/
def outgoing (d : Drive) (now : Nat) : Option (List UInt8) :=
  d.mode.bind fun mode => rxBytes d.staged (d.engaged now).controlWord mode d.rxType

/-- The controller the write half leaves: the engine run, and an error recorded when there is
nothing to send. -/
def afterWrite (d : Drive) (now : Nat) : Drive :=
  match d.mode with
  | none => d.record .modeOfOperation
  | some _ => if d.rxType = .na then (d.engaged now).record .rxRecordType else d.engaged now

variable {σ : Type} (bus : Bus σ)

/-- Sending a record from a controller that has one: the bytes of its layout go to the bus and
the controller stays as it is. -/
theorem writeRecord_eq {mode : OperationMode} {d : Drive} {bytes : List UInt8}
    (h : rxBytes d.staged d.controlWord mode d.rxType = some bytes) (s : σ) :
    ((writeRecord bus mode).run d).run s =
      (((), d), ((bus.sendRecord d.address bytes).run s).2) := by
  obtain ⟨r, hr, hbytes⟩ := RxRecord.new_of_rxBytes h
  obtain ⟨packed, hpack, htake⟩ := r.pack_buffer
  rw [writeRecord_run bus hr hpack, htake, hbytes]

/-- A controller with no receive layout records `rxRecordType` and sends nothing. -/
theorem writeRecord_of_na {mode : OperationMode} {d : Drive} (h : d.rxType = .na) (s : σ) :
    ((writeRecord bus mode).run d).run s = (((), d.record .rxRecordType), s) := by
  unfold writeRecord
  simp only [StateT.run_bind, StateT.run_get, pure_bind, rxRecord, RxRecord.new, h]
  rfl

/-- Whatever the bus, the write half changes the controller as `afterWrite` says and hands the
bus the outgoing bytes, or nothing when there are none. -/
theorem updateWrite_eq (now : Nat) (d : Drive) (s : σ) :
    ((updateWrite bus now).run d).run s =
      (((), d.afterWrite now),
        match d.outgoing now with
        | none => s
        | some bytes => ((bus.sendRecord d.address bytes).run s).2) := by
  cases hm : d.mode with
  | none =>
    unfold updateWrite
    simp only [StateT.run_bind, StateT.run_get, pure_bind, hm]
    simp only [afterWrite, outgoing, hm, Option.bind_none]
    rfl
  | some mode =>
    rw [updateWrite_run bus hm]
    -- the engine has run; what follows depends on the layout only
    show ((writeRecord bus mode).run (d.engaged now)).run s = _
    by_cases hna : d.rxType = .na
    · rw [writeRecord_of_na bus (by simpa using hna)]
      simp [afterWrite, outgoing, hm, hna, rxBytes]
    · obtain ⟨bytes, hbytes⟩ :=
        @rxBytes_isSome d.staged (d.engaged now).controlWord mode d.rxType hna
      have hsend : rxBytes (d.engaged now).staged (d.engaged now).controlWord mode
          (d.engaged now).rxType = some bytes := by
        simpa using hbytes
      rw [writeRecord_eq bus hsend]
      simp [afterWrite, outgoing, hm, hna, hbytes]

/-- Two write halves in a row send the same bytes: the engine that may run in the first has
consumed the reading by the second, and nothing else the record is built from has changed. -/
theorem outgoing_afterWrite (d : Drive) (now now' : Nat) :
    (d.afterWrite now).outgoing now' = d.outgoing now := by
  unfold afterWrite
  cases hm : d.mode with
  | none => simp [outgoing, hm, record]
  | some mode =>
    by_cases hna : d.rxType = .na
    · simp [outgoing, hm, hna, record, rxBytes]
    · simp [outgoing, hm, hna, engaged_engaged]

end Drive

end ServoDrive
