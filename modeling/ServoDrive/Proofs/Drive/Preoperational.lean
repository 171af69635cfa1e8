import ServoDrive.Proofs.Drive.Negotiation
import ServoDrive.Device.Bus

/-!
# The mailbox configuration before the bus cycles

Before the bus cycles, a controller configures its drive through the mailbox in seven steps: it
reads the rated current when its configuration has none, brings the drive to `readyToSwitchOn`,
negotiates both record layouts, writes the mode of operation, takes the record sizes the master
negotiated, writes the rated current as rated current and rated torque, and writes the maximum
current. Each step is attempted whatever the earlier ones answered, and the answer is whether all
of them succeeded.

`Bus.preop` states what the bus sees: the steps as bus programs, one after the other, each
depending only on the slave and the configuration, but for the rated current written, which is
the configuration's or else the one read. `PreopAnswers` collects what the steps answered, and
`Drive.afterPreop` the controller they leave.

Main statement: `preop_configuration_best_effort`. For every bus and every controller, the run
of the configuration makes exactly the requests of `Bus.preop`; it answers whether every step
succeeded, a missing mode, a failed read and a reported zero counting as failures; it records the
state change's and the layouts' errors and `configuration` once exactly when it answers `false`;
it takes a rated current into the configuration, the command calibration and the reading
calibration exactly when the configuration had none and the drive reported one; and, with every
mailbox write logged (`Bus.logWrites`), it writes neither the rated current nor the rated torque
when the rated current stays unknown.

The proof runs the controller step by step (`Drive.runPreop_run`): each step's lemma gives the
controller's answer and change from the bus step's answer, so the run never unfolds into the
steps' bus programs.
-/

namespace ServoDrive

/-! ## 1. Running operations given the answers of their parts -/

theorem StateM.run_bind_of {σ α β : Type} {x : StateM σ α} {f : α → StateM σ β} {s s₁ : σ} {a : α}
    (h : x.run s = (a, s₁)) : (x >>= f).run s = (f a).run s₁ := by
  rw [StateM.run_bind, h]

theorem DriveM.run_bind_of {σ α β : Type} {x : DriveM σ α} {f : α → DriveM σ β} {d d₁ : Drive}
    {s s₁ : σ} {a : α} (h : (x.run d).run s = ((a, d₁), s₁)) :
    ((x >>= f).run d).run s = ((f a).run d₁).run s₁ := by
  rw [DriveM.run_bind, h]

/-! ## 2. The steps as the bus sees them -/

namespace Bus

variable {σ : Type} (bus : Bus σ)

/-- The rated current read from the drive for a configuration: nothing is read when the
configuration has one; a failed read or a reported zero gives none, a current in mA its value in
amperes. -/
def fetchRated (slave : UInt16) (c : Configuration) : StateM σ (Option Float) :=
  match c.motorRatedCurrent with
  | some _ => pure none
  | none => do
    match ← bus.readValue slave .motorRatedCurrent with
    | .ok v => pure (if v.pattern = 0 then none else some (v.pattern.toFloat / 1000))
    | .error _ => pure none

/-- A state change through the mailbox: whether it succeeded, and whether the controller records
`mailboxTransition` (a statusword naming no state, a state with no path, or a failed write). -/
def changeState (slave : UInt16) (target : DriveState) : StateM σ (Bool × Bool) := do
  match ← bus.readValue slave .statusWord with
  | .error _ => pure (false, false)
  | .ok v =>
    match (⟨v.pattern.toUInt16⟩ : StatusWord).pathTo target with
    | none => pure (false, true)
    | some path => do
      let ok ← bus.writeControlWords slave path
      pure (ok, !ok)

/-- The verified write of the mode of operation; with no mode it fails without a request. -/
def writeMode (slave : UInt16) : Option OperationMode → StateM σ Bool
  | some m => bus.writeReadBack slave .modeOfOperation (.i8 m.signedCode)
  | none => pure false

/-- The verified writes of a known rated current, in mA rounded to nearest, as the rated current
and the rated torque; nothing is written while it is unknown. -/
def writeRated (slave : UInt16) : Option Float → StateM σ Bool
  | some rated => do
    let milliamps := Scalar.u32 (IntRounding.nearestAway.toUInt32 (1000 * rated))
    let current ← bus.writeReadBack slave .motorRatedCurrent milliamps
    let torque ← bus.writeReadBack slave .motorRatedTorque milliamps
    pure (current && torque)
  | none => pure true

end Bus

/-- What the steps of the mailbox configuration answered. -/
structure PreopAnswers where
  /-- The rated current read from the drive (`Bus.fetchRated`). -/
  rated : Option Float
  /-- The drive reached `readyToSwitchOn`. -/
  ready : Bool
  /-- The state change records `mailboxTransition`. -/
  transitionFailed : Bool
  /-- The receive layout was assigned. -/
  rxOk : Bool
  /-- The transmit layout was assigned. -/
  txOk : Bool
  /-- The mode of operation was written. -/
  moded : Bool
  /-- The record sizes the master negotiated. -/
  sizes : RecordSizes
  /-- The rated current and torque were written, or there was none to write. -/
  ratedWritten : Bool
  /-- The maximum current was written. -/
  limited : Bool

namespace Bus

variable {σ : Type} (bus : Bus σ)

/-- The mailbox configuration as the bus sees it, for the controller at `slave` with configuration
`c`: every step in order, whatever the earlier ones answered. The rated current written is the
configuration's or, failing it, the one read; the maximum current is written in mA rounded down. -/
def preop (slave : UInt16) (c : Configuration) : StateM σ PreopAnswers := do
  let rated ← bus.fetchRated slave c
  let (ready, transitionFailed) ← bus.changeState slave .readyToSwitchOn
  let rxOk ← bus.negotiate slave .rx .rx c.rxType
  let txOk ← bus.negotiate slave .tx .tx c.txType
  let moded ← bus.writeMode slave c.mode
  let sizes ← bus.recordSizes slave
  let ratedWritten ← bus.writeRated slave (c.motorRatedCurrent <|> rated)
  let limited ← bus.writeReadBack slave .maxCurrent
    (.u16 (IntRounding.floor.toUInt16 (1000 * c.maxCurrent)))
  pure { rated, ready, transitionFailed, rxOk, txOk, moded, sizes, ratedWritten, limited }

/-- A rated current is read exactly when the configuration has none and the drive answers a
nonzero current, in mA. -/
theorem fetchRated_eq_some_iff {slave : UInt16} {c : Configuration} {s : σ} {rated : Float} :
    ((bus.fetchRated slave c).run s).1 = some rated ↔
      c.motorRatedCurrent = none ∧ ∃ v, ((bus.readValue slave .motorRatedCurrent).run s).1 = .ok v ∧
        v.pattern ≠ 0 ∧ rated = v.pattern.toFloat / 1000 := by
  unfold fetchRated
  cases c.motorRatedCurrent with
  | some x => simp
  | none =>
    rw [StateM.run_bind]
    -- the read's answer, then whether it is zero
    rcases (bus.readValue slave .motorRatedCurrent).run s with ⟨_ | v, s₁⟩
    · simp
    · by_cases h0 : v.pattern = 0
      · simp [h0]
      · show (if v.pattern = 0 then none else some (v.pattern.toFloat / 1000)) = some rated ↔ _
        simp only [h0, if_false, Option.some.injEq, ne_eq, not_false_eq_true, true_and,
          Except.ok.injEq, exists_eq_left']
        exact eq_comm

/-- A configured rated current is not read again. -/
theorem fetchRated_of_configured {slave : UInt16} {c : Configuration} {x : Float} (s : σ)
    (h : c.motorRatedCurrent = some x) : ((bus.fetchRated slave c).run s).1 = none := by
  unfold fetchRated
  rw [h]
  rfl

/-- With no mode configured, the mode's step fails. -/
theorem moded_preop_of_none {slave : UInt16} {c : Configuration} (s : σ) (h : c.mode = none) :
    ((bus.preop slave c).run s).1.moded = false := by
  unfold preop
  rw [h]
  rfl

end Bus

/-! ## 3. The verdict and the errors -/

namespace PreopAnswers

/-- Every step succeeded: a rated current is known, configured or read, the drive is ready, both
layouts, the mode, the rated current and torque and the maximum current are written. -/
def ok (a : PreopAnswers) (c : Configuration) : Bool :=
  (c.motorRatedCurrent <|> a.rated).isSome && a.ready && (a.rxOk && a.txOk) && a.moded &&
    a.ratedWritten && a.limited

/-- The errors the configuration records, in order: the state change's, the two sides' mapping
errors, and `configuration` when a step failed. -/
def errors (a : PreopAnswers) (c : Configuration) : List ErrorKind :=
  (if a.transitionFailed then [.mailboxTransition] else []) ++
    ((if a.rxOk then [] else [.rxMapping]) ++ if a.txOk then [] else [.txMapping]) ++
      if a.ok c then [] else [.configuration]

theorem ok_eq_true_iff (a : PreopAnswers) (c : Configuration) :
    a.ok c = true ↔ (c.motorRatedCurrent.isSome ∨ a.rated.isSome) ∧ a.ready ∧ a.rxOk ∧ a.txOk ∧
      a.moded ∧ a.ratedWritten ∧ a.limited := by
  unfold ok
  cases c.motorRatedCurrent <;> simp [Bool.and_assoc]

/-- `configuration` is recorded once when a step failed and never otherwise: no other error of
the configuration is `configuration`. -/
theorem count_configuration_errors (a : PreopAnswers) (c : Configuration) :
    (a.errors c).count .configuration = if a.ok c then 0 else 1 := by
  unfold errors
  cases a.transitionFailed <;> cases a.rxOk <;> cases a.txOk <;> cases a.ok c <;> rfl

end PreopAnswers

/-- The configuration succeeds exactly when every step does, a configured mode among them: with
none, the mode's step fails. -/
theorem Bus.ok_preop_iff {σ : Type} (bus : Bus σ) (slave : UInt16) (c : Configuration) (s : σ) :
    let a := ((bus.preop slave c).run s).1
    a.ok c = true ↔ (c.motorRatedCurrent.isSome ∨ a.rated.isSome) ∧ a.ready ∧ a.rxOk ∧ a.txOk ∧
      c.mode.isSome ∧ a.moded ∧ a.ratedWritten ∧ a.limited := by
  intro a
  have hmode : a.moded = true → c.mode.isSome = true := by
    intro hmoded
    cases hm : c.mode with
    | some m => rfl
    | none =>
      have hfail : a.moded = false := bus.moded_preop_of_none s hm
      rw [hfail] at hmoded
      cases hmoded
  rw [PreopAnswers.ok_eq_true_iff]
  constructor
  · rintro ⟨hrated, hready, hrx, htx, hmoded, hwritten, hlimited⟩
    exact ⟨hrated, hready, hrx, htx, hmode hmoded, hmoded, hwritten, hlimited⟩
  · rintro ⟨hrated, hready, hrx, htx, -, hmoded, hwritten, hlimited⟩
    exact ⟨hrated, hready, hrx, htx, hmoded, hwritten, hlimited⟩

/-! ## 4. The controller the configuration leaves -/

namespace History

variable {α : Type} {capacity : Nat}

theorem pushAll_append (h : History α capacity) (xs ys : List α) :
    (h.pushAll xs).pushAll ys = h.pushAll (xs ++ ys) :=
  (List.foldl_append ..).symm

end History

namespace Drive

/-- The controller with a rated current read from the drive taken in. -/
def backfill (d : Drive) : Option Float → Drive
  | some rated => d.setRatedCurrent rated
  | none => d

/-- The controller with an error recorded when `b` holds. -/
def recordIf (d : Drive) (b : Bool) (e : ErrorKind) : Drive :=
  bif b then d.record e else d

/-- The controller with the record sizes the master negotiated. -/
def withSizes (d : Drive) (sizes : RecordSizes) : Drive := { d with sizes }

/-- The controller after a mailbox configuration that answered `a`: the rated current read taken
in, the state change's error recorded, each side's layout selected or its error recorded, the
record sizes taken, and `configuration` recorded when a step failed. -/
def afterPreop (d : Drive) (a : PreopAnswers) : Drive :=
  let transitioned := (d.backfill a.rated).recordIf a.transitionFailed .mailboxTransition
  let negotiated := (transitioned.negotiated .rx d.config.rxType a.rxOk).negotiated .tx
    d.config.txType a.txOk
  (negotiated.withSizes a.sizes).recordIf (!a.ok d.config) .configuration

/-- What the configuration calibrates: the configuration, the command calibration and the reading
calibration. -/
def calibration (d : Drive) : Configuration × Factors × Factors :=
  (d.config, d.factors, d.reading.factors)

@[simp] theorem address_backfill (d : Drive) (rated : Option Float) :
    (d.backfill rated).address = d.address := by
  cases rated <;> rfl

@[simp] theorem address_recordIf (d : Drive) (b : Bool) (e : ErrorKind) :
    (d.recordIf b e).address = d.address := by
  cases b <;> rfl

@[simp] theorem address_withSizes (d : Drive) (sizes : RecordSizes) :
    (d.withSizes sizes).address = d.address :=
  rfl

@[simp] theorem calibration_recordIf (d : Drive) (b : Bool) (e : ErrorKind) :
    (d.recordIf b e).calibration = d.calibration := by
  cases b <;> rfl

@[simp] theorem calibration_withSizes (d : Drive) (sizes : RecordSizes) :
    (d.withSizes sizes).calibration = d.calibration :=
  rfl

@[simp] theorem calibration_negotiated (d : Drive) (side : Side) (ty : RecordType) (ok : Bool) :
    (d.negotiated side ty ok).calibration = d.calibration := by
  unfold negotiated withLayout
  split
  · split <;> rfl
  · rfl

@[simp] theorem config_recordIf (d : Drive) (b : Bool) (e : ErrorKind) :
    (d.recordIf b e).config = d.config := by
  cases b <;> rfl

@[simp] theorem config_withSizes (d : Drive) (sizes : RecordSizes) :
    (d.withSizes sizes).config = d.config :=
  rfl

@[simp] theorem config_negotiated (d : Drive) (side : Side) (ty : RecordType) (ok : Bool) :
    (d.negotiated side ty ok).config = d.config :=
  congrArg Prod.fst (calibration_negotiated d side ty ok)

@[simp] theorem maxCurrent_backfill (d : Drive) (rated : Option Float) :
    (d.backfill rated).config.maxCurrent = d.config.maxCurrent := by
  cases rated <;> rfl

@[simp] theorem errors_backfill (d : Drive) (rated : Option Float) :
    (d.backfill rated).reading.errors = d.reading.errors := by
  cases rated <;> rfl

@[simp] theorem errors_recordIf (d : Drive) (b : Bool) (e : ErrorKind) :
    (d.recordIf b e).reading.errors = d.reading.errors.pushAll (if b then [e] else []) := by
  cases b <;> rfl

@[simp] theorem errors_withSizes (d : Drive) (sizes : RecordSizes) :
    (d.withSizes sizes).reading.errors = d.reading.errors :=
  rfl

/-- Past the rated current, every step of the configuration leaves the calibration. -/
theorem calibration_afterPreop (d : Drive) (a : PreopAnswers) :
    (d.afterPreop a).calibration = (d.backfill a.rated).calibration := by
  simp only [afterPreop, calibration_recordIf, calibration_withSizes, calibration_negotiated]

/-- The errors of the configuration are recorded in order: each step's own errors, then the
verdict's. -/
theorem errors_afterPreop (d : Drive) (a : PreopAnswers) :
    (d.afterPreop a).reading.errors = d.reading.errors.pushAll (a.errors d.config) := by
  simp only [afterPreop, errors_recordIf, errors_withSizes, negotiated_rx_tx, errors_backfill,
    History.pushAll_append, PreopAnswers.errors]
  cases a.ok d.config <;> rfl

theorem config_afterPreop (d : Drive) (a : PreopAnswers) :
    (d.afterPreop a).config = (d.backfill a.rated).config :=
  congrArg Prod.fst (calibration_afterPreop d a)

theorem sizes_afterPreop (d : Drive) (a : PreopAnswers) : (d.afterPreop a).sizes = a.sizes := by
  unfold afterPreop recordIf
  cases !a.ok d.config <;> rfl

/-- A rated current read is taken into the configuration, the command calibration and the reading
calibration alike. -/
theorem calibration_backfill_some (d : Drive) (rated : Float) :
    (d.backfill (some rated)).calibration =
      let c := { d.config with motorRatedCurrent := some rated }
      (c, Factors.ofConfig c, Factors.ofConfig c) :=
  rfl

/-- Taking in a rated current read only when the configuration had none, the configuration's
comes first. -/
theorem motorRatedCurrent_backfill {d : Drive} {rated : Option Float}
    (h : ∀ x, d.config.motorRatedCurrent = some x → rated = none) :
    (d.backfill rated).config.motorRatedCurrent = (d.config.motorRatedCurrent <|> rated) := by
  cases hc : d.config.motorRatedCurrent with
  | some x =>
    rw [h x hc]
    exact hc
  | none =>
    cases rated with
    | some r => rfl
    | none => exact hc

/-- A rated current read is taken into the configuration, the command calibration and the reading
calibration. -/
theorem calibration_afterPreop_of_read {d : Drive} {a : PreopAnswers} {rated : Float}
    (hr : a.rated = some rated) :
    (d.afterPreop a).config = { d.config with motorRatedCurrent := some rated } ∧
      (d.afterPreop a).factors = Factors.ofConfig (d.afterPreop a).config ∧
      (d.afterPreop a).reading.factors = Factors.ofConfig (d.afterPreop a).config := by
  have hcal := calibration_afterPreop d a
  rw [hr, calibration_backfill_some] at hcal
  simp only [calibration, Prod.mk.injEq] at hcal
  obtain ⟨hconfig, hfactors, hreading⟩ := hcal
  rw [hconfig]
  exact ⟨rfl, hfactors, hreading⟩

/-- With no rated current read, the configuration and both calibrations stay. -/
theorem calibration_afterPreop_of_none {d : Drive} {a : PreopAnswers} (hr : a.rated = none) :
    (d.afterPreop a).config = d.config ∧ (d.afterPreop a).factors = d.factors ∧
      (d.afterPreop a).reading.factors = d.reading.factors := by
  have hcal := calibration_afterPreop d a
  rw [hr] at hcal
  simpa only [calibration, backfill, Prod.mk.injEq] using hcal

/-! ## 5. Each step of the controller, given the bus step's answer -/

variable {σ : Type} (bus : Bus σ)

theorem fetchRatedCurrent_eq (d : Drive) (s : σ) :
    ((fetchRatedCurrent bus).run d).run s =
      let r := (bus.fetchRated d.address d.config).run s
      (((d.config.motorRatedCurrent <|> r.1).isSome, d.backfill r.1), r.2) := by
  unfold fetchRatedCurrent Bus.fetchRated
  simp only [DriveM.run_bind, DriveM.run_get]
  cases hc : d.config.motorRatedCurrent with
  | some rated => rfl
  | none =>
    simp only [DriveM.run_bind, DriveM.run_get, run_liftM, StateM.run_bind]
    -- the read's answer, then whether it is zero
    rcases hr : (bus.readValue d.address .motorRatedCurrent).run s with ⟨_ | v, s₁⟩
    · rfl
    · dsimp only
      by_cases h0 : v.pattern = 0
      · simp only [h0, if_true]
        rfl
      · simp only [h0, if_false]
        rfl

theorem fetchRatedCurrent_run {d : Drive} {s s₁ : σ} {rated : Option Float}
    (h : (bus.fetchRated d.address d.config).run s = (rated, s₁)) :
    ((fetchRatedCurrent bus).run d).run s =
      (((d.config.motorRatedCurrent <|> rated).isSome, d.backfill rated), s₁) := by
  simpa only [h] using fetchRatedCurrent_eq bus d s

theorem setStateViaMailbox_run {target : DriveState} {d : Drive} {slave : UInt16} {s s₁ : σ}
    {ready failed : Bool} (ha : d.address = slave)
    (h : (bus.changeState slave target).run s = ((ready, failed), s₁)) :
    ((setStateViaMailbox bus target).run d).run s =
      ((ready, d.recordIf failed .mailboxTransition), s₁) := by
  subst ha
  rw [setStateViaMailbox_eq]
  unfold Bus.changeState at h
  simp only [StateM.run_bind] at h
  -- the statusword's answer, then the path it gives, then the writes along it
  split
  · rename_i e s₂ hread
    simp only [hread] at h
    cases h
    rfl
  · rename_i v s₂ hread
    simp only [hread] at h
    split
    · rename_i hpath
      simp only [hpath] at h
      cases h
      rfl
    · rename_i path hpath
      simp only [hpath, StateM.run_bind] at h
      split <;> rename_i hwrites <;> simp only [hwrites] at h <;> cases h <;> rfl

theorem mapRecords_run_of {rx tx : RecordType} {d : Drive} {slave : UInt16} {s s₁ s₂ : σ}
    {rxOk txOk : Bool} (ha : d.address = slave)
    (hrx : (bus.negotiate slave .rx .rx rx).run s = (rxOk, s₁))
    (htx : (bus.negotiate slave .tx .tx tx).run s₁ = (txOk, s₂)) :
    ((mapRecords bus rx tx).run d).run s =
      ((rxOk && txOk, (d.negotiated .rx rx rxOk).negotiated .tx tx txOk), s₂) := by
  subst ha
  simp only [mapRecords_run, hrx, htx]

theorem verifyWrite_run_of {o : MailboxObject} {v : Scalar} {d : Drive} {slave : UInt16}
    {s s₁ : σ} {ok : Bool} (ha : d.address = slave)
    (h : (bus.writeReadBack slave o v).run s = (ok, s₁)) :
    ((verifyWrite bus o v).run d).run s = ((ok, d), s₁) := by
  rw [verifyWrite_run, ha, h]

theorem refreshSizes_run {d : Drive} {slave : UInt16} {s s₁ : σ} {sizes : RecordSizes}
    (ha : d.address = slave) (h : (bus.recordSizes slave).run s = (sizes, s₁)) :
    ((refreshSizes bus).run d).run s = (((), d.withSizes sizes), s₁) := by
  subst ha
  show (((), d.withSizes ((bus.recordSizes d.address).run s).1),
    ((bus.recordSizes d.address).run s).2) = _
  rw [h]

theorem writeRatedCurrent_run {d : Drive} {slave : UInt16} {rated : Option Float} {s s₁ : σ}
    {ok : Bool} (ha : d.address = slave) (hc : d.config.motorRatedCurrent = rated)
    (h : (bus.writeRated slave rated).run s = (ok, s₁)) :
    ((writeRatedCurrent bus).run d).run s = ((ok, d), s₁) := by
  subst ha hc
  unfold writeRatedCurrent
  unfold Bus.writeRated at h
  simp only [DriveM.run_bind, DriveM.run_get]
  cases hc : d.config.motorRatedCurrent with
  | some rated =>
    simp only [hc, StateM.run_bind] at h
    simp only [DriveM.run_bind, verifyWrite_run]
    exact congrArg (fun r => ((r.1, d), r.2)) h
  | none =>
    simp only [hc] at h
    cases h
    rfl

/-- The verdict's step: `configuration` recorded unless every step succeeded. -/
theorem unless_note_run (ok : Bool) (e : ErrorKind) (d : Drive) (s : σ) :
    (((if ok = true then pure ok else note e >>= fun _ => pure ok) : DriveM σ Bool).run d).run s =
      ((ok, d.recordIf (!ok) e), s) := by
  cases ok <;> rfl

/-! ## 6. The run of the configuration -/

theorem runPreop_run {d : Drive} {s s' : σ} {a : PreopAnswers}
    (h : (bus.preop d.address d.config).run s = (a, s')) :
    ((runPreop bus).run d).run s = ((a.ok d.config, d.afterPreop a), s') := by
  unfold Bus.preop at h
  unfold runPreop
  rw [DriveM.run_bind_of (DriveM.run_get d s)]
  -- each step of the controller is its bus step: the bus steps' answers are named as they come
  rcases h₁ : (bus.fetchRated d.address d.config).run s with ⟨rated, s₁⟩
  have hknown : ∀ x, d.config.motorRatedCurrent = some x → rated = none := by
    intro x hx
    rw [← bus.fetchRated_of_configured s hx, h₁]
  rw [StateM.run_bind_of h₁] at h
  rw [DriveM.run_bind_of (fetchRatedCurrent_run bus h₁)]
  rcases h₂ : (bus.changeState d.address .readyToSwitchOn).run s₁ with ⟨⟨ready, failed⟩, s₂⟩
  rw [StateM.run_bind_of h₂] at h
  rw [DriveM.run_bind_of (setStateViaMailbox_run bus ?ha h₂)]
  case ha => simp
  rcases h₃ : (bus.negotiate d.address .rx .rx d.config.rxType).run s₂ with ⟨rxOk, s₃⟩
  rcases h₄ : (bus.negotiate d.address .tx .tx d.config.txType).run s₃ with ⟨txOk, s₄⟩
  rw [StateM.run_bind_of h₃, StateM.run_bind_of h₄] at h
  rw [DriveM.run_bind_of (mapRecords_run_of bus ?ha h₃ h₄)]
  case ha => simp
  rcases h₅ : (bus.writeMode d.address d.config.mode).run s₄ with ⟨moded, s₅⟩
  rcases h₆ : (bus.recordSizes d.address).run s₅ with ⟨sizes, s₆⟩
  rcases h₇ : (bus.writeRated d.address (d.config.motorRatedCurrent <|> rated)).run s₆ with
    ⟨written, s₇⟩
  rcases h₈ : (bus.writeReadBack d.address .maxCurrent
    (.u16 (IntRounding.floor.toUInt16 (1000 * d.config.maxCurrent)))).run s₇ with ⟨limited, s₈⟩
  rw [StateM.run_bind_of h₅, StateM.run_bind_of h₆, StateM.run_bind_of h₇,
    StateM.run_bind_of h₈] at h
  obtain ⟨rfl, rfl⟩ := Prod.mk.inj h
  -- the mode is written only when the configuration has one, as the bus step does
  split
  case' h_1 m hm =>
    rw [hm] at h₅
    rw [DriveM.run_bind_of (verifyWrite_run_of bus ?ha h₅)]
    case ha => simp
  case' h_2 hm =>
    rw [hm] at h₅
    obtain ⟨rfl, rfl⟩ := Prod.mk.inj h₅
    rw [DriveM.run_bind_of (DriveM.run_pure false _ _)]
  -- the rest is the same whatever the mode: sizes, rated current, maximum current, verdict
  all_goals
    dsimp only
    rw [DriveM.run_bind_of (refreshSizes_run bus ?ha h₆)]
    case ha => simp
    rw [DriveM.run_bind_of (writeRatedCurrent_run bus ?ha ?hc h₇)]
    case ha => simp
    case hc => simp [motorRatedCurrent_backfill hknown]
    rw [DriveM.run_bind_of (DriveM.run_get _ _)]
    simp only [config_withSizes, config_recordIf, config_negotiated, maxCurrent_backfill]
    rw [DriveM.run_bind_of (verifyWrite_run_of bus ?ha h₈)]
    case ha => simp
    rw [unless_note_run]
    rfl

/-- The configuration the run leaves has a rated current exactly when one was configured or
read. -/
theorem motorRatedCurrent_afterPreop (d : Drive) (s : σ) :
    let a := ((bus.preop d.address d.config).run s).1
    (d.afterPreop a).config.motorRatedCurrent = (d.config.motorRatedCurrent <|> a.rated) := by
  intro a
  rw [config_afterPreop]
  exact motorRatedCurrent_backfill fun x hx => bus.fetchRated_of_configured s hx

end Drive

/-! ## 7. The writes the bus sees -/

/-- Every entry of the list of writes of a sync manager names an object of that sync manager. -/
theorem SyncAssignment.index_of_mem_writes {a : SyncAssignment} {pdos : List UInt16}
    {w : MailboxObject × Scalar} (hw : w ∈ a.writes pdos) : w.1.index = a.index := by
  simp only [SyncAssignment.writes, List.cons_append, List.mem_cons, List.mem_append,
    List.mem_mapIdx, List.not_mem_nil, or_false] at hw
  rcases hw with rfl | ⟨i, hi, rfl⟩ | rfl <;> rfl

namespace Bus

variable {σ : Type} (bus : Bus σ)

/-- A bus operation run on the bus's part of a state that carries a log of writes, `new`
appended to the log. -/
def withLog {α : Type} (m : StateM σ α) (new : List (UInt16 × MailboxObject)) :
    StateM (σ × List (UInt16 × MailboxObject)) α :=
  fun x => let r := m.run x.1; pure (r.1, (r.2, x.2 ++ new))

/-- The bus with its mailbox writes logged, oldest first: every operation is the bus's own, and a
write of an object also appends the slave and the object to the log, whatever the write
answers. -/
def logWrites : Bus (σ × List (UInt16 × MailboxObject)) where
  setState slave st := withLog (bus.setState slave st) []
  sendRecord slave bytes := withLog (bus.sendRecord slave bytes) []
  fetchRecord slave n := withLog (bus.fetchRecord slave n) []
  readObject slave o := withLog (bus.readObject slave o) []
  writeObject slave o bytes := withLog (bus.writeObject slave o bytes) [(slave, o)]
  recordSizes slave := withLog (bus.recordSizes slave) []

end Bus

/-- A program over a state with a log of writes only appends to the log, and only entries
satisfying `P`. -/
def AppendsOnly {σ α : Type} (P : UInt16 × MailboxObject → Prop)
    (m : StateM (σ × List (UInt16 × MailboxObject)) α) : Prop :=
  ∀ x, ∃ new, (m.run x).2.2 = x.2 ++ new ∧ ∀ w ∈ new, P w

namespace AppendsOnly

variable {σ : Type} {P : UInt16 × MailboxObject → Prop}

theorem pure {α : Type} (a : α) : AppendsOnly (σ := σ) P (Pure.pure a) :=
  fun x => ⟨[], (List.append_nil x.2).symm, by simp⟩

theorem bind {α β : Type} {m : StateM (σ × List (UInt16 × MailboxObject)) α}
    {f : α → StateM (σ × List (UInt16 × MailboxObject)) β} (hm : AppendsOnly P m)
    (hf : ∀ a, AppendsOnly P (f a)) : AppendsOnly P (m >>= f) := by
  intro x
  obtain ⟨new₁, hlog₁, hP₁⟩ := hm x
  obtain ⟨new₂, hlog₂, hP₂⟩ := hf (m.run x).1 (m.run x).2
  refine ⟨new₁ ++ new₂, ?_, ?_⟩
  · rw [StateM.run_bind, hlog₂, hlog₁, List.append_assoc]
  · intro w hw
    rcases List.mem_append.1 hw with hw | hw
    · exact hP₁ w hw
    · exact hP₂ w hw

theorem withLog {α : Type} (m : StateM σ α) {new : List (UInt16 × MailboxObject)}
    (h : ∀ w ∈ new, P w) : AppendsOnly P (Bus.withLog m new) :=
  fun _ => ⟨new, rfl, h⟩

theorem mapM {α β : Type} {f : α → StateM (σ × List (UInt16 × MailboxObject)) β} :
    ∀ {ys : List α}, (∀ y ∈ ys, AppendsOnly P (f y)) → AppendsOnly P (ys.mapM f)
  | [], _ => pure _
  | y :: ys, h => by
    rw [List.mapM_cons]
    exact bind (h y List.mem_cons_self) fun _ =>
      bind (mapM fun y' hy' => h y' (List.mem_cons_of_mem y hy')) fun _ => pure _

/-- Runs from a log that already holds `new₁` beyond `log` keep holding entries of `P` only. -/
theorem extend {α : Type} {m : StateM (σ × List (UInt16 × MailboxObject)) α} (hm : AppendsOnly P m)
    {x : σ × List (UInt16 × MailboxObject)} {log new₁ : List (UInt16 × MailboxObject)}
    (hlog : x.2 = log ++ new₁) (hP : ∀ w ∈ new₁, P w) :
    ∃ new, (m.run x).2.2 = log ++ new ∧ ∀ w ∈ new, P w := by
  obtain ⟨new₂, hlog₂, hP₂⟩ := hm x
  refine ⟨new₁ ++ new₂, by rw [hlog₂, hlog, List.append_assoc], fun w hw => ?_⟩
  rcases List.mem_append.1 hw with hw | hw
  · exact hP w hw
  · exact hP₂ w hw

end AppendsOnly

namespace Bus

variable {σ : Type} (bus : Bus σ) {P : UInt16 × MailboxObject → Prop}

theorem appendsOnly_readValue (slave : UInt16) (o : MailboxObject) :
    AppendsOnly P (bus.logWrites.readValue slave o) :=
  .bind (.withLog _ (by simp)) fun _ => .pure _

theorem appendsOnly_writeReadBack {slave : UInt16} {o : MailboxObject} (v : Scalar)
    (h : P (slave, o)) : AppendsOnly P (bus.logWrites.writeReadBack slave o v) := by
  unfold writeReadBack
  refine .bind (.withLog _ (by simpa using h)) fun answer => ?_
  -- the object is read back only when the write succeeded
  cases answer with
  | error e => exact .pure _
  | ok u => exact .bind (bus.appendsOnly_readValue _ _) fun back => by cases back <;> exact .pure _

theorem appendsOnly_writeControlWords {slave : UInt16} (h : P (slave, .controlWord)) :
    ∀ path, AppendsOnly P (bus.logWrites.writeControlWords slave path)
  | [] => .pure _
  | t :: rest => by
    rw [writeControlWords]
    refine .bind (.withLog _ (by simpa using h)) fun answer => ?_
    cases answer with
    | ok u => exact appendsOnly_writeControlWords h rest
    | error e => exact .pure _

theorem appendsOnly_changeState {slave : UInt16} (target : DriveState)
    (h : P (slave, .controlWord)) : AppendsOnly P (bus.logWrites.changeState slave target) := by
  unfold changeState
  refine .bind (bus.appendsOnly_readValue _ _) fun answer => ?_
  -- the controlwords are written only along a path from the state read
  cases answer with
  | error e => exact .pure _
  | ok v =>
    dsimp only
    cases (⟨v.pattern.toUInt16⟩ : StatusWord).pathTo target with
    | none => exact .pure _
    | some path => exact .bind (bus.appendsOnly_writeControlWords h path) fun _ => .pure _

theorem appendsOnly_negotiate {slave : UInt16} {a : SyncAssignment} (side : Side)
    (ty : RecordType) (h : ∀ o : MailboxObject, o.index = a.index → P (slave, o)) :
    AppendsOnly P (bus.logWrites.negotiate slave a side ty) := by
  unfold negotiate
  cases ty.assignment side with
  | none => exact .pure _
  | some pdos =>
    exact .bind (.mapM fun w hw => bus.appendsOnly_writeReadBack _
      (h _ (SyncAssignment.index_of_mem_writes hw))) fun _ => .pure _

theorem appendsOnly_fetchRated (slave : UInt16) (c : Configuration) :
    AppendsOnly P (bus.logWrites.fetchRated slave c) := by
  unfold fetchRated
  cases c.motorRatedCurrent with
  | some _ => exact .pure _
  | none =>
    exact .bind (bus.appendsOnly_readValue _ _) fun answer => by cases answer <;> exact .pure _

theorem appendsOnly_writeMode {slave : UInt16} (mode : Option OperationMode)
    (h : P (slave, .modeOfOperation)) : AppendsOnly P (bus.logWrites.writeMode slave mode) := by
  cases mode with
  | some m => exact bus.appendsOnly_writeReadBack _ h
  | none => exact .pure _

/-- While the rated current is unknown, configured or read, the configuration writes neither the
rated current nor the rated torque: its other writes go to the controlword, the sync managers,
the mode and the maximum current. -/
theorem appendsOnly_preop {slave : UInt16} {c : Configuration}
    {x : σ × List (UInt16 × MailboxObject)}
    (hr : (c.motorRatedCurrent <|> ((bus.logWrites.fetchRated slave c).run x).1) = none) :
    ∃ new, ((bus.logWrites.preop slave c).run x).2.2 = x.2 ++ new ∧
      ∀ w ∈ new, w.2.index ≠ 0x6075 ∧ w.2.index ≠ 0x6076 := by
  have hsync : ∀ a : SyncAssignment, a.index ≠ 0x6075 ∧ a.index ≠ 0x6076 →
      ∀ o : MailboxObject, o.index = a.index → o.index ≠ 0x6075 ∧ o.index ≠ 0x6076 := by
    intro a ha o ho
    rw [ho]
    exact ha
  have hobj : ∀ o : MailboxObject, o.index ≠ 0x6075 ∧ o.index ≠ 0x6076 →
      (slave, o).2.index ≠ 0x6075 ∧ (slave, o).2.index ≠ 0x6076 :=
    fun _ h => h
  unfold preop
  rcases h₁ : (bus.logWrites.fetchRated slave c).run x with ⟨rated, x₁⟩
  rw [h₁] at hr
  obtain ⟨new₁, hlog₁, hP₁⟩ := bus.appendsOnly_fetchRated slave c x
  rw [h₁] at hlog₁
  rw [StateM.run_bind_of h₁, hr]
  -- past the rated current, every step appends only writes to other objects
  refine AppendsOnly.extend ?_ hlog₁ hP₁
  refine .bind (bus.appendsOnly_changeState _ (hobj _ (by decide))) fun ⟨ready, failed⟩ => ?_
  refine .bind (bus.appendsOnly_negotiate _ _ (hsync _ (by decide))) fun rxOk => ?_
  refine .bind (bus.appendsOnly_negotiate _ _ (hsync _ (by decide))) fun txOk => ?_
  refine .bind (bus.appendsOnly_writeMode _ (hobj _ (by decide))) fun moded => ?_
  refine .bind (.withLog _ (by simp)) fun sizes => ?_
  refine .bind (.pure true) fun ratedWritten => ?_
  exact .bind (bus.appendsOnly_writeReadBack _ (hobj _ (by decide))) fun _ => .pure _

end Bus

/-- With its writes logged, a run of the configuration that leaves the rated current unknown
writes neither the rated current (0x6075) nor the rated torque (0x6076). -/
theorem Drive.no_rated_writes_of_unknown {σ : Type} (bus : Bus σ) (d : Drive) (t : σ)
    (log : List (UInt16 × MailboxObject)) :
    let logged := ((Drive.runPreop bus.logWrites).run d).run (t, log)
    logged.1.2.config.motorRatedCurrent = none →
    ∃ new, logged.2.2 = log ++ new ∧ ∀ w ∈ new, w.2.index ≠ 0x6075 ∧ w.2.index ≠ 0x6076 := by
  intro logged hunknown
  -- the logged run is a run of the configuration like any other
  have hlogged : logged = ((((bus.logWrites.preop d.address d.config).run (t, log)).1.ok d.config,
      d.afterPreop ((bus.logWrites.preop d.address d.config).run (t, log)).1),
      ((bus.logWrites.preop d.address d.config).run (t, log)).2) :=
    Drive.runPreop_run bus.logWrites rfl
  rw [hlogged] at hunknown ⊢
  rw [Drive.motorRatedCurrent_afterPreop] at hunknown
  exact bus.appendsOnly_preop hunknown

/-! ## 8. The configuration as a whole -/

/-- For every bus, whatever it answers, and every controller: the mailbox configuration makes
exactly the requests of `Bus.preop`, every step in order whatever the earlier ones answered. It
answers `true` exactly when every step succeeded, a rated current known, configured or read, and
a mode configured. It records the state change's error, each failed side's mapping error and, once
exactly when it answers `false`, `configuration`; it takes the record sizes. A rated current is
read exactly when none is configured and the drive answers a nonzero current, and then it is taken
into the configuration, the command calibration and the reading calibration; otherwise all three
stay as they were. With the bus's writes logged, a run that leaves the rated current unknown
writes neither the rated current (0x6075) nor the rated torque (0x6076). -/
theorem preop_configuration_best_effort {σ : Type} (bus : Bus σ) (d : Drive) (s : σ) :
    let a := ((bus.preop d.address d.config).run s).1
    let out := ((Drive.runPreop bus).run d).run s
    out.2 = ((bus.preop d.address d.config).run s).2 ∧
    (out.1.1 = true ↔ (d.config.motorRatedCurrent.isSome ∨ a.rated.isSome) ∧ a.ready ∧ a.rxOk ∧
      a.txOk ∧ d.config.mode.isSome ∧ a.moded ∧ a.ratedWritten ∧ a.limited) ∧
    out.1.2.reading.errors = d.reading.errors.pushAll (a.errors d.config) ∧
    (a.errors d.config).count .configuration = (if out.1.1 then 0 else 1) ∧
    out.1.2.sizes = a.sizes ∧
    (∀ r, a.rated = some r ↔ d.config.motorRatedCurrent = none ∧
      ∃ v, ((bus.readValue d.address .motorRatedCurrent).run s).1 = .ok v ∧ v.pattern ≠ 0 ∧
        r = v.pattern.toFloat / 1000) ∧
    (∀ r, a.rated = some r →
      out.1.2.config = { d.config with motorRatedCurrent := some r } ∧
      out.1.2.factors = Factors.ofConfig out.1.2.config ∧
      out.1.2.reading.factors = Factors.ofConfig out.1.2.config) ∧
    (a.rated = none → out.1.2.config = d.config ∧ out.1.2.factors = d.factors ∧
      out.1.2.reading.factors = d.reading.factors) ∧
    ∀ (t : σ) (log : List (UInt16 × MailboxObject)),
      let logged := ((Drive.runPreop bus.logWrites).run d).run (t, log)
      logged.1.2.config.motorRatedCurrent = none →
      ∃ new, logged.2.2 = log ++ new ∧ ∀ w ∈ new, w.2.index ≠ 0x6075 ∧ w.2.index ≠ 0x6076 := by
  intro a out
  have hout : out = ((a.ok d.config, d.afterPreop a), ((bus.preop d.address d.config).run s).2) :=
    Drive.runPreop_run bus rfl
  rw [hout]
  exact ⟨rfl, bus.ok_preop_iff d.address d.config s, Drive.errors_afterPreop d a,
    a.count_configuration_errors d.config, Drive.sizes_afterPreop d a,
    fun r => bus.fetchRated_eq_some_iff, fun r hr => Drive.calibration_afterPreop_of_read hr,
    Drive.calibration_afterPreop_of_none, Drive.no_rated_writes_of_unknown bus d⟩

/-- A model device whose motor is rated 1000 mA. -/
def ratedDevice : Device := { objects := ⟨[((0x6075, 0), [0xe8, 0x03, 0x00, 0x00])]⟩ }

/-- A new controller takes the rated current that device reports into its configuration and both
calibrations; a device that reports none leaves them as they were, and then no rated value is
written. -/
theorem ratedDevice_preop_calibration :
    let d := Drive.new "servo" 1
    let out := ((Drive.runPreop Device.bus).run d).run ratedDevice
    let bare := ((Drive.runPreop Device.bus).run d).run ({} : Device)
    let logged := ((Drive.runPreop Device.bus.logWrites).run d).run (({} : Device), [])
    (∃ r, ((Device.bus.preop d.address d.config).run ratedDevice).1.rated = some r ∧
      out.1.2.config = { d.config with motorRatedCurrent := some r } ∧
      out.1.2.factors = Factors.ofConfig out.1.2.config ∧
      out.1.2.reading.factors = Factors.ofConfig out.1.2.config) ∧
    (((Device.bus.preop d.address d.config).run ({} : Device)).1.rated = none ∧
      bare.1.2.config = d.config ∧ bare.1.2.factors = d.factors ∧
      bare.1.2.reading.factors = d.reading.factors) ∧
    logged.1.2.config.motorRatedCurrent = none ∧
      ∃ new, logged.2.2 = [] ++ new ∧ ∀ w ∈ new, w.2.index ≠ 0x6075 ∧ w.2.index ≠ 0x6076 := by
  have hrated := (preop_configuration_best_effort Device.bus (Drive.new "servo" 1)
    ratedDevice).2.2.2.2.2.2.1 _ rfl
  have hbare := (preop_configuration_best_effort Device.bus (Drive.new "servo" 1)
    {}).2.2.2.2.2.2.2.1 rfl
  have hlogged := (preop_configuration_best_effort Device.bus (Drive.new "servo" 1)
    {}).2.2.2.2.2.2.2.2 {} [] rfl
  exact ⟨⟨_, rfl, hrated⟩, ⟨rfl, hbare⟩, rfl, hlogged⟩

end ServoDrive
