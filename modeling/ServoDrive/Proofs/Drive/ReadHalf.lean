import ServoDrive.Proofs.Drive.Negotiation
import ServoDrive.Proofs.Drive.Freshness
import ServoDrive.Proofs.Drive.ReceiveRecord

/-!
# The read half of a cycle

Every cycle the controller fetches the transmit record of its negotiated layout and stores it in
its reading. This module says what one read does, exit by exit, and how it decides whether the
record counts as fresh for the state-change engine when the application acts while it runs.

Main statements:

* `Drive.updateRead_eq`, for every bus. With layout `na` the read records `txRecordType` and does
  nothing else, not even a request to the bus. Otherwise the bus fills a zeroed buffer of the
  layout's size; when the fetch fails, nothing changes. Otherwise the
  record is stored in the reading (`Reading.update`: a cyclic synchronous torque record stores its
  torque as the current and keeps the digital inputs, the analog input and the bus voltage), the
  reading is marked received and fresh, and, exactly when the stored statusword decodes to
  `fault`, the error code is read through the mailbox once: its code is appended to the faults
  when the read succeeds, and `errorCodeRead` to the errors when it fails. The bus cannot resize
  the buffer, so whatever it answers decodes (`Drive.unpack_of_fetch`) and the exit for bytes that
  do not decode is never taken.
* `Shared.Reach.mark_eq`, in every interleaving of the two actors on a new controller. The piece of
  the read that settles freshness marks the reading fresh exactly when no state change was
  requested since the read began, and changes nothing else.

The second rests on the invariant of `Shared.Fresh`: a request during a read makes the reading
stale (`Fresh.stale_of_inFlight`), and the request number the read took moved on by exactly the
requests in flight, fewer than 2^64 of them, so it is back to the read's number only when there
were none.
-/

namespace ServoDrive

@[simp] theorem Reading.driveState_update (r : Reading) (t : TxRecord) :
    (r.update t).driveState = t.statusWord.state := by
  cases t <;> rfl

namespace Drive

variable {σ : Type} (bus : Bus σ)

/-! ## 1. One read on its own -/

/-- The error-code read: one mailbox read of `0x603f`, whose code is appended to the faults, or
`errorCodeRead` to the errors when it fails. -/
theorem readFaultCode_eq (d : Drive) (s : σ) :
    ((readFaultCode bus).run d).run s =
      match (bus.readValue d.address .errorCode).run s with
      | (.ok v, s₁) => (((), { d with reading := d.reading.addFault v.pattern.toUInt16 }), s₁)
      | (.error _, s₁) => (((), d.record .errorCodeRead), s₁) := by
  unfold readFaultCode
  simp only [DriveM.run_bind, DriveM.run_get, run_liftM]
  rcases h : (bus.readValue d.address .errorCode).run s with ⟨_ | v, s₁⟩ <;> rfl

/-- The read half, exit by exit: no layout, a failed fetch, a record stored and marked fresh with
the error code read when the drive reports a fault, or bytes that do not decode. -/
theorem updateRead_eq (d : Drive) (s : σ) :
    ((updateRead bus).run d).run s =
      match d.txType.size .tx with
      | none => (((), d.record .txRecordType), s)
      | some n =>
        match (bus.fetchRecord d.address (List.replicate n 0)).run s with
        | (.error _, s₁) => (((), d), s₁)
        | (.ok bytes, s₁) =>
          match TxRecord.unpack d.txType bytes.val with
          | .ok (some r) =>
            let d₁ := { d with reading := d.reading.update r, fresh := true }
            if names d₁.reading.driveState .fault then
              match (bus.readValue d.address .errorCode).run s₁ with
              | (.ok v, s₂) =>
                (((), { d₁ with reading := d₁.reading.addFault v.pattern.toUInt16 }), s₂)
              | (.error _, s₂) => (((), d₁.record .errorCodeRead), s₂)
            else (((), d₁), s₁)
          | _ => (((), d), s₁) := by
  unfold updateRead updateReadWith
  simp only [DriveM.run_bind, StateT.run_modifyGet]
  cases hn : d.txType.size .tx with
  | none =>
    have hb : d.beginRead = (none, d.record .txRecordType) := by simp [beginRead, hn]
    simp only [hb]
    rfl
  | some n =>
    have hb : d.beginRead = (some ⟨d.txType, n, d.request⟩, d) := by simp [beginRead, hn]
    simp only [hb, StateM.run_pure, DriveM.run_bind, exchange_run, DriveM.run_pure]
    rw [take_recordBuffer (RecordType.size_le_max hn)]
    rcases hf : (bus.fetchRecord d.address (List.replicate n 0)).run s with ⟨_ | bytes, s₁⟩
    · rfl
    · -- the bus's answer fills the read's buffer, which is what the read decodes
      rw [show (Except.ok bytes : Except BusError _).map Subtype.val = .ok bytes.val from rfl]
      dsimp only
      cases hr : TxRecord.unpack d.txType bytes.val with
      | error e =>
        unfold finishRead
        simp only [hr]
        rfl
      | ok record =>
        cases record with
        | none =>
          unfold finishRead
          simp only [hr]
          rfl
        | some r =>
          -- no request came during the read, so the record is fresh
          rw [finishRead_run bus hr, markFresh_of_current rfl]
          dsimp only
          rw [Reading.driveState_update]
          split
          · exact readFaultCode_eq bus _ s₁
          · rfl

/-- Whatever the bus answers, a record it fetches into the read's buffer decodes: the buffer has
the layout's size, and the bus cannot resize it. -/
theorem unpack_of_fetch {d : Drive} {n : Nat}
    {bytes : { b : List UInt8 // b.length = (List.replicate n (0 : UInt8)).length }}
    (hn : d.txType.size .tx = some n) : ∃ r, TxRecord.unpack d.txType bytes.val = .ok (some r) :=
  @TxRecord.unpack_of_sized ⟨d.txType, n, d.request⟩ bytes.val <| by
    show d.txType.size .tx = some bytes.val.length
    rw [bytes.property, List.length_replicate]
    exact hn

end Drive

/-! ## 2. Freshness when the application acts during a read -/

namespace Shared

open Event

variable {σ : Type} {bus : Bus σ}

/-- A request made while a read is in progress leaves the reading stale until the read's mark. -/
theorem Fresh.stale_of_inFlight {c : Shared σ} (h : Fresh c) {x : Exchange}
    {st : Except UndefinedState DriveState} (hp : c.phase = .stored x st)
    (hin : c.requestsInFlight ≠ 0) : c.drive.fresh = false := by
  have hinv := h.phase
  rw [hp] at hinv
  obtain ⟨-, rs, tail, hl, hrs, rs', rest, htail, hrs', -⟩ := hinv
  have hcount : c.requestsInFlight = rs.length + rs'.length := by
    rw [requestsInFlight_of_busy (by simp [hp]), hl, htail]
    exact countP_since_store st hrs hrs'
  cases hf : c.drive.fresh with
  | false => rfl
  | true =>
    -- a fresh reading is the newest store, with no request after its snapshot
    have hu := h.fresh hf
    rw [hl, htail] at hu
    cases rs with
    | cons e rs =>
      have he := hrs e (List.mem_cons_self ..)
      cases e <;> first | exact hu.elim | cases he
    | nil =>
      cases rs' with
      | nil => exact absurd hcount (by simpa using hin)
      | cons e rs' =>
        have he := hrs' e (List.mem_cons_self ..)
        cases e <;> first | exact hu.2.elim | cases he

/-- The mark of a read sets the fresh flag exactly when no state change was requested since the
read began, and changes nothing else. -/
theorem Reach.mark_eq {name : String} {address : UInt16} {s₀ : σ} {c : Shared σ}
    (hc : Reach bus (Shared.start (Drive.new name address) s₀) c) {x : Exchange}
    {st : Except UndefinedState DriveState} (hp : c.phase = .stored x st) :
    (c.step bus .mark).drive = { c.drive with fresh := c.requestsInFlight == 0 } := by
  have hf := hc.fresh bus
  have hinv := hf.phase
  rw [hp] at hinv
  obtain ⟨-, rs, tail, hl, hrs, rs', rest, htail, hrs', hr⟩ := hinv
  have hcount : c.requestsInFlight = rs.length + rs'.length := by
    rw [requestsInFlight_of_busy (by simp [hp]), hl, htail]
    exact countP_since_store st hrs hrs'
  have hmark : (c.step bus .mark).drive = c.drive.markFresh x := by
    rw [Shared.step, hp]
  rw [hmark]
  by_cases h0 : c.requestsInFlight = 0
  · have hrs0 : rs = [] := List.eq_nil_of_length_eq_zero (by omega)
    have hrs'0 : rs' = [] := List.eq_nil_of_length_eq_zero (by omega)
    subst hrs0 hrs'0
    have hreq : c.drive.request = x.request := by simpa using hr.symm
    rw [Drive.markFresh_of_current hreq, h0]
    rfl
  · -- the request number moved on, and fewer than 2^64 requests cannot bring it back
    have hlt : c.requestsInFlight < UInt64.size :=
      hc.requestsInFlight_lt bus (by rw [requestsInFlight_of_idle rfl]; decide)
    have hne : (c.drive.request == x.request) = false := by
      rw [beq_eq_false_iff_ne]
      intro heq
      have hx : x.request + (rs.length + rs'.length).toUInt64 = x.request := by
        rw [Nat.toUInt64_eq, UInt64.ofNat_add, ← UInt64.add_assoc, ← Nat.toUInt64_eq,
          ← Nat.toUInt64_eq, hr, heq]
      exact h0 (hcount.trans (eq_zero_of_add_toUInt64 (hcount ▸ hlt) hx))
    have hstale := hf.stale_of_inFlight hp h0
    unfold Drive.markFresh
    rw [if_neg (by simp [hne]), (beq_eq_false_iff_ne).2 h0, ← hstale]

end Shared

/-! ## 3. The read half as a whole -/

/-- For every layout and every bus: the read half records `txRecordType` and does nothing else
for layout `na`; changes nothing when the fetch fails; otherwise stores the record (a cyclic
synchronous torque record keeps the digital inputs, the analog input and the bus voltage and
stores its torque as the current), marks the reading received and fresh, and reads the error code
once exactly when the stored statusword decodes to `fault`, appending one fault with the code read
or one `errorCodeRead`; whatever the bus answers, a record it fetches into the read's buffer, of
the layout's size, decodes. In every interleaving with the application on a new controller, the
read marks its record fresh exactly when no state change was requested since the read began, and
the mark changes nothing else. -/
theorem read_half_contract {σ : Type} (bus : Bus σ) :
    (∀ (d : Drive) (s : σ), ((Drive.updateRead bus).run d).run s =
      match d.txType.size .tx with
      | none => (((), d.record .txRecordType), s)
      | some n =>
        match (bus.fetchRecord d.address (List.replicate n 0)).run s with
        | (.error _, s₁) => (((), d), s₁)
        | (.ok bytes, s₁) =>
          match TxRecord.unpack d.txType bytes.val with
          | .ok (some r) =>
            let d₁ := { d with reading := d.reading.update r, fresh := true }
            if Drive.names d₁.reading.driveState .fault then
              match (bus.readValue d.address .errorCode).run s₁ with
              | (.ok v, s₂) =>
                (((), { d₁ with reading := d₁.reading.addFault v.pattern.toUInt16 }), s₂)
              | (.error _, s₂) => (((), d₁.record .errorCodeRead), s₂)
            else (((), d₁), s₁)
          | _ => (((), d), s₁)) ∧
    (∀ (r : Reading) (t : TxCst), r.update (.cst t) =
      { r with actualPosition := t.actualPosition, actualVelocity := t.actualVelocity,
               actualCurrent := t.actualTorque, statusWord := t.statusWord, received := true }) ∧
    (∀ (r : Reading) (t : TxStandard), r.update (.standard t) =
      { r with actualPosition := t.actualPosition, actualVelocity := t.actualVelocity,
               actualCurrent := t.actualCurrent, statusWord := t.statusWord,
               digitalInputs := t.digitalInputs, analogInput := t.analogInput,
               busVoltage := t.busVoltage, received := true }) ∧
    (∀ (d : Drive) (s s₁ : σ) (n : Nat) bytes, d.txType.size .tx = some n →
      (bus.fetchRecord d.address (List.replicate n 0)).run s = (.ok bytes, s₁) →
      ∃ r, TxRecord.unpack d.txType bytes.val = .ok (some r)) ∧
    ∀ (name : String) (address : UInt16) (s₀ : σ) (c : Shared σ) (x : Exchange)
      (st : Except UndefinedState DriveState),
      Shared.Reach bus (Shared.start (Drive.new name address) s₀) c → c.phase = .stored x st →
      (c.step bus .mark).drive = { c.drive with fresh := c.requestsInFlight == 0 } :=
  ⟨fun d s => Drive.updateRead_eq bus d s, fun _ _ => rfl, fun _ _ => rfl,
    fun _ _ _ _ _ hn _ => Drive.unpack_of_fetch hn,
    fun _ _ _ _ _ _ hc hp => hc.mark_eq hp⟩

/-- A read of the standard layout on a new controller against the model device, with a state
change requested while the record is in flight. -/
def requestDuringRead : Shared Device :=
  ((Shared.start (Drive.new "servo" 1) {}).runOps Device.bus [.call (.selectTx .standard)]).run
    Device.bus [.begin, .fetch, .call (.requestState .operationEnabled 0), .store]

/-- The model device's record fetched into a buffer of the standard layout decodes, and the read
above, which stored its record after a request, marks its reading stale. -/
theorem requestDuringRead_marks_stale :
    (∃ bytes dev₁,
      (Device.bus.fetchRecord 1 (List.replicate 22 0)).run {} = (.ok bytes, dev₁) ∧
      ∃ r, TxRecord.unpack .standard bytes.val = .ok (some r)) ∧
    requestDuringRead.requestsInFlight = 1 ∧
    (requestDuringRead.step Device.bus .mark).drive =
      { requestDuringRead.drive with fresh := false } := by
  -- the read's pieces and the request, step by step from a run of whole operations
  have h₀ : Shared.Reach Device.bus (Shared.start (Drive.new "servo" 1) {})
      ((Shared.start (Drive.new "servo" 1) {}).runOps Device.bus [.call (.selectTx .standard)]) :=
    Shared.reach_runOps Device.bus rfl _
  have h₁ := h₀.step .begin (by decide)
  have h₂ := h₁.step .fetch (by decide)
  have h₃ := h₂.step (.call (.requestState .operationEnabled 0)) (by decide)
  have hreach : Shared.Reach Device.bus (Shared.start (Drive.new "servo" 1) {})
      requestDuringRead :=
    h₃.step .store (by decide)
  have hphase : requestDuringRead.phase =
      .stored ⟨.standard, 22, 0⟩ (.ok .switchOnDisabled) := rfl
  have hflight : requestDuringRead.requestsInFlight = 1 := rfl
  refine ⟨⟨_, _, rfl, (read_half_contract Device.bus).2.2.2.1
    { Drive.new "servo" 1 with txType := .standard } {} _ 22 _ rfl rfl⟩, hflight, ?_⟩
  rw [(read_half_contract Device.bus).2.2.2.2 "servo" 1 {} requestDuringRead _ _ hreach hphase,
    hflight]
  rfl

end ServoDrive
