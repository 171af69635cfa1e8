import ServoDrive.Proofs.Record.Packing
import ServoDrive.Bench
import ServoDrive.Proofs.Drive.Engine

/-!
# How the model device answers a cycle

The model device follows the profile's state machine and reports its state in every transmit
record. This module says what one bus cycle of a controller does against it when the device plays
along (`Device.Faithful`): it reports the canonical statusword of its state with the remote bit,
obeys every controlword, loses no record, and no hook is set or pending.

* The table and the device agree: a drive in a state that the table leads on from takes the
  transition's destination when it receives the transition's controlword, and a drive at a
  transition's destination stays there when it receives that controlword again
  (`Transition.applyControlWord_of_next`, `Transition.applyControlWord_destination`).
* The read half stores the device's record, whose statusword decodes to the device's state, and
  marks the reading fresh; only a device in fault is asked for its error code, which adds a fault or
  records `errorCodeRead` (`Bench.readHalf_run`). The device only logs.
* The write half runs the engine as always and sends the receive record of the held controlword,
  which the device finds at its place and applies (`Drive.updateWrite_device`).
-/

namespace ServoDrive

/-! ## 1. The table and the device's state machine -/

/-- The statusword the device reports, its state's canonical one with the remote bit, decodes to
its state. -/
@[simp] theorem DriveState.state_remote (s : DriveState) :
    (⟨s.statusWord.raw ||| 0x200⟩ : StatusWord).state = .ok s := by
  cases s <;> rfl

namespace Transition

/-- A drive in a state the table leads on from takes the transition's destination on its
controlword. -/
theorem applyControlWord_of_next {T c : DriveState} {tr : Transition} (h : next T c = .ok tr) :
    Device.applyControlWord c tr.controlWord.raw = tr.destination := by
  cases T <;> cases c <;> simp [next, toward] at h <;> subst h <;> rfl

/-- A drive at a transition's destination stays there on the transition's controlword. -/
theorem applyControlWord_destination (tr : Transition) :
    Device.applyControlWord tr.destination tr.controlWord.raw = tr.destination := by
  cases tr <;> rfl

end Transition

/-! ## 2. A device that plays along -/

/-- Whether the event is a receive record sent to the device. -/
def BusEvent.isRecordSent : BusEvent → Bool
  | .sendRecord _ => true
  | _ => false

namespace Device

/-- A device that plays along with a cyclic exchange: it reports the statusword of its state,
obeys every controlword, loses no record, and no hook is set or pending. -/
structure Faithful (dev : Device) : Prop where
  reportsState : dev.statusOverride = none
  obeys : dev.frozen = false
  keepsSent : dev.loseSent = false
  keepsFetched : dev.loseFetched = false
  noHook : dev.hook = none
  noRequest : dev.requested = none

variable {dev : Device} {c : DriveState}

theorem statusWord_of_state (hdev : dev.Faithful) (hc : dev.state = some c) :
    dev.statusWord = c.statusWord.raw ||| 0x200 := by
  simp [statusWord, hdev.reportsState, hc]

/-- The device has a record for the size of each negotiated transmit layout: one of that layout,
as wide, reporting its statusword. -/
theorem txRecord_of_size {ty : RecordType} {n : Nat} (hn : ty.size .tx = some n) :
    ∃ r : TxRecord, dev.txRecord? n = some r ∧ r.layout = ty ∧ Slot.totalWidth r.slots = n ∧
      r.statusWord = ⟨dev.statusWord⟩ := by
  cases ty with
  | na => cases hn
  | standard =>
    cases hn
    exact ⟨_, rfl, rfl, rfl, rfl⟩
  | cst =>
    cases hn
    exact ⟨_, rfl, rfl, rfl, rfl⟩

/-- The device fills a buffer with its record of the buffer's size, packed there. -/
theorem sample_val {buffer : List UInt8} {r : TxRecord}
    (hr : dev.txRecord? buffer.length = some r) :
    (dev.sample buffer).map Subtype.val = (r.pack buffer).mapError BusError.ofPacking := by
  unfold sample
  rw [hr]
  dsimp only
  split
  · rename_i bytes hpack
    show Except.ok bytes = _
    rw [hpack]
    rfl
  · rename_i e hpack
    show Except.error (BusError.ofPacking e) = _
    rw [hpack]
    rfl

/-- Into a zeroed buffer of a negotiated layout's size, the device samples the bytes of a record of
that layout reporting its statusword. -/
theorem sample_of_size {ty : RecordType} {n : Nat} (hn : ty.size .tx = some n) :
    ∃ r : TxRecord, r.layout = ty ∧ r.statusWord = ⟨dev.statusWord⟩ ∧
      (dev.sample (List.replicate n 0)).map Subtype.val = .ok (r.slots.flatMap Slot.bytes) := by
  obtain ⟨r, hr, hlayout, hwidth, hword⟩ := txRecord_of_size hn
  have hr' : dev.txRecord? (List.replicate n (0 : UInt8)).length = some r := by
    rw [List.length_replicate]
    exact hr
  refine ⟨r, hlayout, hword, ?_⟩
  rw [sample_val hr', ← hwidth, TxRecord.pack_zeros]
  rfl

/-- A device that plays along hands over, into a zeroed buffer of a negotiated layout's size, a
record of that layout whose statusword decodes to its state, and only logs the fetch. -/
theorem transmitRecord_faithful (hdev : dev.Faithful) (hc : dev.state = some c) {ty : RecordType}
    {n : Nat} (hn : ty.size .tx = some n) :
    ∃ r : TxRecord, r.layout = ty ∧ r.statusWord.state = .ok c ∧
      (dev.transmitRecord (List.replicate n 0)).1.map Subtype.val =
        .ok (r.slots.flatMap Slot.bytes) ∧
      (dev.transmitRecord (List.replicate n 0)).2 = dev.logged (.fetchRecord n) := by
  let logged := dev.logged (.fetchRecord n)
  obtain ⟨r, hlayout, hword, hsample⟩ := @sample_of_size logged _ _ hn
  have hlost : logged.loseFetched = false := hdev.keepsFetched
  have hfire : logged.fireHook = logged := by
    simp [logged, fireHook, Device.logged, hdev.noHook]
  have hstate : r.statusWord.state = .ok c := by
    rw [hword]
    show (⟨dev.statusWord⟩ : StatusWord).state = .ok c
    rw [statusWord_of_state hdev hc, DriveState.state_remote]
  -- the sample succeeds, so the fetch hands it over and fires no hook
  cases hs : logged.sample (List.replicate n 0) with
  | error e => rw [hs] at hsample; cases hsample
  | ok bytes =>
    rw [hs] at hsample
    have htr : dev.transmitRecord (List.replicate n 0) = (.ok bytes, logged) := by
      simp only [transmitRecord, List.length_replicate]
      rw [if_neg (by rw [hlost]; decide)]
      simp only [logged] at hs hfire
      rw [hs, hfire]
    rw [htr]
    exact ⟨r, hlayout, hstate, hsample, rfl⟩

/-- A device that plays along applies the controlword of a receive record it can place, keeps the
mode byte, and logs the record. -/
theorem receiveRecord_faithful (hdev : dev.Faithful) (hc : dev.state = some c)
    {bytes : List UInt8} {cw : UInt16} {mb : UInt8} (hf : controlFields bytes = some (cw, mb)) :
    dev.receiveRecord bytes =
      (.ok (), { dev with state := some (applyControlWord c cw),
                          objects := dev.objects.insert modeKey [mb],
                          log := .sendRecord bytes :: dev.log }) := by
  simp [receiveRecord, logged, hdev.keepsSent, hf, receiveControlWord, hdev.obeys, hc]

theorem run_fetchRecord (a : UInt16) (buffer : List UInt8) :
    (bus.fetchRecord a buffer).run dev = dev.transmitRecord buffer := rfl

theorem run_sendRecord (a : UInt16) (bytes : List UInt8) :
    (bus.sendRecord a bytes).run dev = dev.receiveRecord bytes := rfl

/-- A typed mailbox read only logs the read. -/
theorem readValue_log (a : UInt16) (o : MailboxObject) :
    ∃ e : BusEvent, ((bus.readValue a o).run dev).2 = dev.logged e ∧ e.isRecordSent = false :=
  ⟨_, rfl, rfl⟩

end Device

/-- The receive record of a negotiated layout, packed into the record buffer, has its controlword
where the device looks in the record's first bytes. -/
theorem RxRecord.controlFields_new {ty : RecordType} {st : Setpoints} {w : ControlWord}
    {m : OperationMode} {r : RxRecord} (hr : RxRecord.new ty st w m = some r) :
    ∃ packed mb, r.pack (List.replicate maxRecordSize 0) = .ok packed ∧
      Device.controlFields (packed.take r.size) = some (w.raw, mb) := by
  obtain ⟨packed, hpack, htake⟩ := r.pack_buffer
  refine ⟨packed, (packed.take r.size).getD (if r.size = 18 then 14 else 4) 0, hpack, ?_⟩
  rw [htake]
  cases ty with
  | na => cases hr
  | standard =>
    cases hr
    let x : RxStandard := ⟨st.targetPosition, st.targetVelocity, st.targetTorque, st.maxTorque, w,
      m.signedCode, st.torqueOffset⟩
    have hlen : (x.slots.flatMap Slot.bytes).length = 18 := Slot.length_flatMap_bytes _
    show Device.controlFields (x.slots.flatMap Slot.bytes) = _
    simp only [Device.controlFields, hlen, if_pos, RxStandard.controlWord_at,
      Scalar.ofLeBytes_bytes]
    simp [Scalar.pattern, x, RxRecord.size, RxRecord.slots]
  | cst =>
    cases hr
    let x : RxCst := ⟨st.targetTorque, w, m.signedCode⟩
    have hlen : (x.slots.flatMap Slot.bytes).length = 6 := Slot.length_flatMap_bytes _
    show Device.controlFields (x.slots.flatMap Slot.bytes) = _
    simp only [Device.controlFields, hlen, RxCst.controlWord_at, Scalar.ofLeBytes_bytes]
    simp [Scalar.pattern, x, RxRecord.size, RxRecord.slots]

/-! ## 3. The two halves of a cycle -/

namespace Drive

variable {σ : Type} (bus : Bus σ)

/-- A bus operation lifted into the controller's monad keeps the controller. -/
theorem run_liftM {α : Type} (m : StateM σ α) (d : Drive) (s : σ) :
    ((liftM m : DriveM σ α).run d).run s = (((m.run s).1, d), (m.run s).2) :=
  rfl

theorem driveState_storeRecord (d : Drive) (r : TxRecord) :
    (d.storeRecord r).reading.driveState = r.statusWord.state := by
  cases r <;> rfl

theorem errors_storeRecord (d : Drive) (r : TxRecord) :
    (d.storeRecord r).reading.errors = d.reading.errors := by
  cases r <;> rfl

/-- An exchange still current when it ends marks the reading fresh. -/
theorem markFresh_of_current {d : Drive} {x : Exchange} (h : d.request = x.request) :
    d.markFresh x = { d with fresh := true } := by
  simp [markFresh, h]

/-- The first bytes of the zeroed record buffer, as many as a record has, are that many zeros. -/
theorem take_recordBuffer {n : Nat} (h : n ≤ maxRecordSize) :
    (List.replicate maxRecordSize (0 : UInt8)).take n = List.replicate n 0 := by
  rw [List.take_replicate, Nat.min_eq_left h]

/-- The exchange hands the bus the first `x.size` bytes of the zeroed record buffer, and answers
what the bus leaves there. -/
theorem exchange_run (x : Exchange) (d : Drive) (s : σ) :
    ((exchange bus x).run d).run s =
      let fetched :=
        (bus.fetchRecord d.address ((List.replicate maxRecordSize 0).take x.size)).run s
      ((fetched.1.map Subtype.val, d), fetched.2) :=
  rfl

/-- The end of a read of a record that decodes: store it, mark the reading fresh if the exchange
is current, and read the error code if the stored statusword reports a fault. -/
theorem finishRead_run {x : Exchange} {bytes : List UInt8} {r : TxRecord}
    (hr : TxRecord.unpack x.layout bytes = .ok (some r)) (d : Drive) (s : σ) :
    ((finishRead bus x bytes).run d).run s =
      if names r.statusWord.state .fault then
        ((readFaultCode bus).run ((d.storeRecord r).markFresh x)).run s
      else (((), (d.storeRecord r).markFresh x), s) := by
  unfold finishRead
  simp only [hr, StateT.run_bind, StateT.run_modify, StateT.run_get, pure_bind]
  rw [driveState_storeRecord]
  split <;> rfl

/-- The error-code read adds the code read as a fault, or records `errorCodeRead`. -/
theorem readFaultCode_run (d : Drive) (s : σ) :
    (∃ code, ((readFaultCode bus).run d).run s =
      (((), { d with reading := d.reading.addFault code }),
        ((bus.readValue d.address .errorCode).run s).2)) ∨
    ((readFaultCode bus).run d).run s =
      (((), d.record .errorCodeRead), ((bus.readValue d.address .errorCode).run s).2) := by
  unfold readFaultCode
  simp only [StateT.run_bind, StateT.run_get, pure_bind, run_liftM]
  rcases (bus.readValue d.address .errorCode).run s with ⟨answer, s'⟩
  cases answer with
  | ok v => exact .inl ⟨_, rfl⟩
  | error e => exact .inr rfl

/-- With a mode of operation set, the write half runs the engine on a fresh reading of a pending
change and sends the record. -/
theorem updateWrite_run {mode : OperationMode} {d : Drive} (hm : d.mode = some mode) (now : Nat)
    (s : σ) :
    ((updateWrite bus now).run d).run s =
      ((writeRecord bus mode).run (if d.fresh && d.pending then d.engage now else d)).run s := by
  unfold updateWrite
  simp only [StateT.run_bind, StateT.run_get, pure_bind, hm]
  split <;> rfl

/-- A record that packs into the record buffer is sent, the buffer's first bytes as many as the
record has, and the controller stays as it was. -/
theorem writeRecord_run {mode : OperationMode} {d : Drive} {r : RxRecord} {packed : List UInt8}
    (hr : d.rxRecord mode = some r) (hp : r.pack (List.replicate maxRecordSize 0) = .ok packed)
    (s : σ) :
    ((writeRecord bus mode).run d).run s =
      (((), d), ((bus.sendRecord d.address (packed.take r.size)).run s).2) := by
  unfold writeRecord
  simp only [StateT.run_bind, StateT.run_get, pure_bind, hr, hp]
  rfl

/-- Against a device that plays along, the write half with a mode set and a negotiated receive
layout runs the engine as always, sends the record of the controlword it then holds, and the
device applies that controlword. -/
theorem updateWrite_device {mode : OperationMode} {d : Drive} {dev : Device} {c : DriveState}
    (hm : d.mode = some mode) (hrx : d.rxType ≠ .na) (hdev : dev.Faithful)
    (hc : dev.state = some c) (now : Nat) :
    let d' := if d.fresh && d.pending then d.engage now else d
    ∃ bytes mb, ((updateWrite Device.bus now).run d).run dev =
        (((), d'), { dev with state := some (Device.applyControlWord c d'.controlWord.raw),
                              objects := dev.objects.insert modeKey [mb],
                              log := .sendRecord bytes :: dev.log }) ∧
      Device.controlFields bytes = some (d'.controlWord.raw, mb) := by
  intro d'
  -- the engine keeps the negotiated layout, so there is a record to send
  have hrx' : d'.rxType ≠ .na := by
    by_cases he : (d.fresh && d.pending) = true
    · obtain ⟨_, _, _, _, h⟩ := engage_eq d now
      simp only [d', if_pos he, h]
      exact hrx
    · simp only [d', if_neg he]
      exact hrx
  obtain ⟨r, hr⟩ : ∃ r, d'.rxRecord mode = some r := by
    cases hty : d'.rxType with
    | na => exact absurd hty hrx'
    | standard =>
      rw [rxRecord, hty]
      exact ⟨_, rfl⟩
    | cst =>
      rw [rxRecord, hty]
      exact ⟨_, rfl⟩
  obtain ⟨packed, mb, hp, hf⟩ := RxRecord.controlFields_new hr
  refine ⟨packed.take r.size, mb, ?_, hf⟩
  rw [updateWrite_run Device.bus hm, writeRecord_run Device.bus hr hp]
  show (((), d'), (dev.receiveRecord (packed.take r.size)).2) = _
  rw [Device.receiveRecord_faithful hdev hc hf]

/-- Against the simulated device, the error-code read changes only the controller's error
history, by the code read or by `errorCodeRead`, and the device only logs the mailbox read. -/
theorem readFaultCode_device (d : Drive) (dev : Device) :
    ∃ reading e, ((readFaultCode Device.bus).run d).run dev =
        (((), { d with reading }), dev.logged e) ∧ e.isRecordSent = false ∧
      reading.driveState = d.reading.driveState ∧
      (reading.errors = d.reading.errors ∨ reading.errors = d.reading.errors.push .errorCodeRead) := by
  obtain ⟨e, he, hsent⟩ := @Device.readValue_log dev d.address .errorCode
  rcases readFaultCode_run Device.bus d dev with ⟨code, h⟩ | h
  · rw [h, he]
    exact ⟨d.reading.addFault code, e, rfl, hsent, rfl, .inl rfl⟩
  · rw [h, he]
    exact ⟨d.reading.addError .errorCodeRead, e, rfl, hsent, rfl, .inr rfl⟩

end Drive

namespace Bench

/-- With no state change requested by a hook, delivering one does nothing. -/
theorem deliverRequest_quiet (now : Nat) (d : Drive) {dev : Device} (h : dev.requested = none) :
    ((deliverRequest now).run d).run dev = (((), d), dev) := by
  simp only [deliverRequest, StateT.run_bind, StateT.run_monadLift, monadLift_self, bind_pure_comp,
    bind_map_left, StateT.run_modifyGet, Device.takeRequest, h, pure_bind, StateT.run_pure]
  rfl

/-- Against a device that plays along, the read half of a negotiated transmit layout stores the
device's record and marks the reading fresh; the reading then names the device's state, its error
history has at most `errorCodeRead` more, and the device only logs, sending no record. -/
theorem readHalf_run (now : Nat) {d : Drive} {dev : Device} {c : DriveState}
    (hdev : dev.Faithful) (hc : dev.state = some c) (htx : d.txType ≠ .na) :
    ∃ reading between, ((readHalf now).run d).run dev =
        (((), { d with reading, fresh := true }), { dev with log := between ++ dev.log }) ∧
      reading.driveState = .ok c ∧
      (reading.errors = d.reading.errors ∨ reading.errors = d.reading.errors.push .errorCodeRead) ∧
      ∀ e ∈ between, e.isRecordSent = false := by
  obtain ⟨n, hn⟩ : ∃ n, d.txType.size .tx = some n := by
    cases hty : d.txType with
    | na => exact absurd hty htx
    | standard => exact ⟨22, rfl⟩
    | cst => exact ⟨14, rfl⟩
  obtain ⟨r, hlayout, hstate, hbytes, hlogged⟩ := Device.transmitRecord_faithful hdev hc hn
  let x : Exchange := ⟨d.txType, n, d.request⟩
  have hbegin : d.beginRead = (some x, d) := by simp [Drive.beginRead, hn, x]
  have hunpack : TxRecord.unpack x.layout (r.slots.flatMap Slot.bytes) = .ok (some r) := by
    rw [← List.append_nil (r.slots.flatMap Slot.bytes)]
    show TxRecord.unpack d.txType _ = _
    rw [← hlayout]
    exact TxRecord.unpack_pack r []
  -- no hook asked for a state change, so nothing happens while the record is in flight
  have hreq : (dev.logged (.fetchRecord n)).requested = none := hdev.noRequest
  have hquiet := deliverRequest_quiet now d hreq
  have hfresh : (d.storeRecord r).markFresh x = { d with reading := d.reading.update r, fresh := true } :=
    Drive.markFresh_of_current rfl
  have hrun : ((readHalf now).run d).run dev =
      ((Drive.finishRead Device.bus x (r.slots.flatMap Slot.bytes)).run d).run
        (dev.logged (.fetchRecord n)) := by
    simp only [readHalf, Drive.updateReadWith, StateT.run_bind, StateT.run_modifyGet, hbegin,
      pure_bind, Drive.exchange_run, Device.run_fetchRecord]
    rw [show x.size = n from rfl, Drive.take_recordBuffer (RecordType.size_le_max hn), hbytes,
      hlogged]
    dsimp only [bind]
    rw [hquiet]
  have hupdate : (d.reading.update r).driveState = .ok c := by
    rw [← hstate]
    cases r <;> rfl
  have herrors : (d.reading.update r).errors = d.reading.errors := by
    cases r <;> rfl
  rw [hrun, Drive.finishRead_run Device.bus hunpack, hfresh, hstate]
  by_cases hf : c = .fault
  · -- a drive in fault is asked for its error code, through the mailbox
    subst hf
    have hnf : Drive.names (.ok .fault) .fault = true := rfl
    rw [hnf, if_pos rfl]
    obtain ⟨reading, e, h, hsent, hst, herr⟩ :=
      Drive.readFaultCode_device { d with reading := d.reading.update r, fresh := true }
        (dev.logged (.fetchRecord n))
    rw [h]
    refine ⟨reading, [e, .fetchRecord n], rfl, hst.trans hupdate, herrors ▸ herr, ?_⟩
    simp only [List.mem_cons, List.not_mem_nil, or_false, forall_eq_or_imp, forall_eq]
    exact ⟨hsent, rfl⟩
  · have hnf : Drive.names (.ok c) .fault = false := by simp [Drive.names, hf]
    rw [hnf, if_neg Bool.false_ne_true]
    refine ⟨d.reading.update r, [.fetchRecord n], rfl, hupdate, .inl herrors, ?_⟩
    simp [BusEvent.isRecordSent]

end Bench

end ServoDrive
