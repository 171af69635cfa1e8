import ServoDrive.Proofs.Drive.Frame

/-!
# The state-change engine and the two halves of a cycle

The engine `Drive.engage` runs in the write half of a cycle when a mode of operation is set, a
cyclic state change is pending and a fresh reading came in. This module says what one run of it
does to each field of the cycle state, and what each half of the cycle does to the cycle state as
a whole.

* The engine always consumes the fresh reading and never touches the request number, the
  statusword or the configuration (`engage_fresh`, `engage_request`, ...).
* On a pending change toward `T` with `n` successes (`engage_of_pending`, and field by field
  `engage_change`, `engage_succeeded`, `engage_controlWord`): a reading of `T` counts one more success and completes the change once
  the configured number is reached; any other reading resets the count, and once the dwell since
  the last controlword change has elapsed it steps the controlword toward `T` and restarts the
  dwell. Only that step assigns the controlword, and it assigns the controlword of the table's
  next transition from the state read, or nothing when the statusword names no state or the
  table has no way on (`stepToward_controlWord`, `stepToward_controlWord_of_next`).
* The write half moves the cycle state exactly as the engine does when the engine runs, and
  leaves it alone otherwise (`cycleState_updateWrite`); the read half never assigns the
  controlword (`keeps_updateRead_controlWord`).
-/

namespace ServoDrive

namespace Drive

/-- Whether a decoded statusword names a state is whether it decodes to that state. -/
theorem names_eq_true_iff (st : Except UndefinedState DriveState) (T : DriveState) :
    names st T = true ↔ st = .ok T := by
  cases st with
  | error e => simp [names]
  | ok s => simp [names]

theorem pending_eq_false_iff (d : Drive) : d.pending = false ↔ d.change = .idle := by
  simp [pending]

theorem pending_eq_true_iff (d : Drive) : d.pending = true ↔ d.change ≠ .idle := by
  simp [pending]

/-! ## 1. What a run of the engine may change -/

/-- A step toward a target changes the controlword and the error history at most. -/
theorem stepToward_eq (d : Drive) (T : DriveState) (st : Except UndefinedState DriveState) :
    ∃ cw errors, d.stepToward T st =
      { d with controlWord := cw, reading := { d.reading with errors := errors } } := by
  unfold stepToward
  split
  · split
    · exact ⟨_, d.reading.errors, rfl⟩
    · exact ⟨d.controlWord, _, rfl⟩
  · exact ⟨d.controlWord, _, rfl⟩

/-- A step from a state the table leads on from takes the controlword of its transition. -/
theorem stepToward_of_next (d : Drive) {T c : DriveState} {t : Transition}
    (ht : Transition.next T c = .ok t) :
    d.stepToward T (.ok c) = { d with controlWord := t.controlWord } := by
  unfold stepToward
  dsimp only
  rw [ht]

@[simp] theorem stepToward_succeeded (d : Drive) (T : DriveState)
    (st : Except UndefinedState DriveState) : (d.stepToward T st).succeeded = d.succeeded := by
  obtain ⟨cw, errors, h⟩ := stepToward_eq d T st
  rw [h]

/-- The controlword a step takes depends on the controller through its controlword only. -/
theorem stepToward_controlWord_congr {d d' : Drive} (h : d.controlWord = d'.controlWord)
    (T : DriveState) (st : Except UndefinedState DriveState) :
    (d.stepToward T st).controlWord = (d'.stepToward T st).controlWord := by
  unfold stepToward
  split
  · split
    · rfl
    · exact h
  · exact h

section Engine

variable (d : Drive) (now : Nat)

/-- With no change pending the engine only consumes the reading. -/
theorem engage_of_idle (h : d.change = .idle) : d.engage now = { d with fresh := false } := by
  unfold engage
  dsimp only
  rw [h]

/-- The engine on a pending change toward `T` with `n` successes consumes the reading. A reading
of `T` counts one more success and completes the change once the configured number is reached;
any other reading resets the count, and once the dwell since `since` has elapsed it steps toward
`T` and restarts the dwell at `now`. The later lemmas read the engine off this equation. -/
theorem engage_of_pending {T : DriveState} {since : Nat} {n : UInt32}
    (h : d.change = .pending T since n) :
    d.engage now =
      if names d.reading.driveState T then
        if d.config.minReadings ≤ n + 1 then
          { d with fresh := false, change := .idle, succeeded := true }
        else { d with fresh := false, change := .pending T since (n + 1) }
      else if d.config.minTimeout ≤ now - since then
        { ({ d with fresh := false } : Drive).stepToward T d.reading.driveState with
            change := .pending T now 0 }
      else { d with fresh := false, change := .pending T since 0 } := by
  unfold engage
  dsimp only
  rw [h]

/-- The engine consumes the fresh reading, and changes the progress of the state change, the
success flag, the controlword and the error history at most. -/
theorem engage_eq :
    ∃ change succeeded cw errors, d.engage now =
      { d with fresh := false, change, succeeded, controlWord := cw,
               reading := { d.reading with errors := errors } } := by
  cases hch : d.change with
  | idle =>
    rw [engage_of_idle d now hch]
    exact ⟨_, _, _, d.reading.errors, rfl⟩
  | pending T since n =>
    rw [engage_of_pending d now hch]
    split
    · split
      · exact ⟨_, _, _, d.reading.errors, rfl⟩
      · exact ⟨_, _, _, d.reading.errors, rfl⟩
    · split
      · -- only the step toward the target touches the controlword and the errors
        obtain ⟨cw, errors, h⟩ := stepToward_eq { d with fresh := false } T d.reading.driveState
        rw [h]
        exact ⟨_, _, cw, errors, rfl⟩
      · exact ⟨_, _, _, d.reading.errors, rfl⟩

@[simp] theorem engage_fresh : (d.engage now).fresh = false := by
  obtain ⟨_, _, _, _, h⟩ := engage_eq d now
  rw [h]

@[simp] theorem engage_request : (d.engage now).request = d.request := by
  obtain ⟨_, _, _, _, h⟩ := engage_eq d now
  rw [h]

@[simp] theorem engage_statusWord :
    (d.engage now).reading.statusWord = d.reading.statusWord := by
  obtain ⟨_, _, _, _, h⟩ := engage_eq d now
  rw [h]

@[simp] theorem engage_config : (d.engage now).config = d.config := by
  obtain ⟨_, _, _, _, h⟩ := engage_eq d now
  rw [h]

variable {d} {T : DriveState} {since : Nat} {n : UInt32}

theorem engage_change (h : d.change = .pending T since n) :
    (d.engage now).change =
      if names d.reading.driveState T then
        if d.config.minReadings ≤ n + 1 then .idle else .pending T since (n + 1)
      else .pending T (if d.config.minTimeout ≤ now - since then now else since) 0 := by
  rw [engage_of_pending d now h]
  by_cases hT : names d.reading.driveState T = true
  · rw [if_pos hT, if_pos hT]
    by_cases hm : d.config.minReadings ≤ n + 1
    · rw [if_pos hm, if_pos hm]
    · rw [if_neg hm, if_neg hm]
  · rw [if_neg hT, if_neg hT]
    by_cases hw : d.config.minTimeout ≤ now - since
    · rw [if_pos hw, if_pos hw]
    · rw [if_neg hw, if_neg hw]

theorem engage_succeeded (h : d.change = .pending T since n) :
    (d.engage now).succeeded =
      (d.succeeded || names d.reading.driveState T && decide (d.config.minReadings ≤ n + 1)) := by
  rw [engage_of_pending d now h]
  by_cases hT : names d.reading.driveState T = true
  · rw [if_pos hT, hT, Bool.true_and]
    by_cases hm : d.config.minReadings ≤ n + 1
    · rw [if_pos hm, decide_eq_true hm, Bool.or_true]
    · rw [if_neg hm, decide_eq_false hm, Bool.or_false]
  · rw [if_neg hT, Bool.eq_false_iff.mpr hT, Bool.false_and, Bool.or_false]
    by_cases hw : d.config.minTimeout ≤ now - since
    · rw [if_pos hw, stepToward_succeeded]
    · rw [if_neg hw]

/-- The engine assigns the controlword only when the reading is not the target's and the dwell
has elapsed, and then it takes the step toward the target. -/
theorem engage_controlWord (h : d.change = .pending T since n) :
    (d.engage now).controlWord =
      if names d.reading.driveState T = false ∧ d.config.minTimeout ≤ now - since then
        (d.stepToward T d.reading.driveState).controlWord
      else d.controlWord := by
  rw [engage_of_pending d now h]
  by_cases hT : names d.reading.driveState T = true
  · have hne : ¬ (names d.reading.driveState T = false ∧ d.config.minTimeout ≤ now - since) :=
      fun hc => by simp [hT] at hc
    rw [if_pos hT, if_neg hne]
    split <;> rfl
  · have hf : names d.reading.driveState T = false := Bool.eq_false_iff.mpr hT
    rw [if_neg hT]
    by_cases hw : d.config.minTimeout ≤ now - since
    · rw [if_pos hw, if_pos ⟨hf, hw⟩]
      -- the engine steps from the controller with the reading consumed: same controlword
      dsimp only
      refine stepToward_controlWord_congr ?_ T _
      rfl
    · rw [if_neg hw, if_neg (fun hc => hw hc.2)]

/-- A reading of a state other than the target, once the dwell has elapsed, steps the controlword
along the table's next transition and restarts the dwell and the count. -/
theorem engage_of_next {c : DriveState} {tr : Transition} (h : d.change = .pending T since n)
    (hc : d.reading.driveState = .ok c) (hcT : c ≠ T) (hwait : d.config.minTimeout ≤ now - since)
    (hnext : Transition.next T c = .ok tr) :
    d.engage now =
      { d with fresh := false, controlWord := tr.controlWord, change := .pending T now 0 } := by
  have hnames : names d.reading.driveState T = false := by
    rw [hc]
    simp [names, hcT]
  rw [engage_of_pending d now h, hnames, if_neg Bool.false_ne_true, if_pos hwait, hc,
    stepToward_of_next _ hnext]

/-- A reading of the target counts one success, and completes the change once the count reaches
the threshold. -/
theorem engage_of_target (h : d.change = .pending T since n) (hc : d.reading.driveState = .ok T) :
    d.engage now =
      if d.config.minReadings ≤ n + 1 then
        { d with fresh := false, change := .idle, succeeded := true }
      else { d with fresh := false, change := .pending T since (n + 1) } := by
  have hnames : names d.reading.driveState T = true := by
    rw [hc]
    simp [names]
  rw [engage_of_pending d now h, hnames, if_pos rfl]

end Engine

/-! ## 2. The step toward a target -/

/-- A step from a state the table leads on from takes the controlword of its transition. -/
theorem stepToward_controlWord_of_next (d : Drive) {T c : DriveState} {t : Transition}
    (hc : d.reading.driveState = .ok c) (ht : Transition.next T c = .ok t) :
    (d.stepToward T d.reading.driveState).controlWord = t.controlWord := by
  rw [hc, stepToward_of_next d ht]

/-- A step from a statusword naming no state, or from a state the table has no way on from,
keeps the controlword. -/
theorem stepToward_controlWord (d : Drive) (T : DriveState)
    (st : Except UndefinedState DriveState)
    (hnone : ∀ c t, st = .ok c → Transition.next T c ≠ .ok t) :
    (d.stepToward T st).controlWord = d.controlWord := by
  unfold stepToward
  split
  · rename_i c
    split
    · rename_i t ht
      exact absurd ht (hnone c t rfl)
    · rfl
  · rfl

/-! ## 3. The two halves of a cycle -/

variable {σ : Type} (bus : Bus σ)

theorem keeps_writeRecord (mode : OperationMode) : Keeps cycleState (writeRecord bus mode) := by
  refine keeps_bind keeps_get fun d => ?_
  split
  · exact keeps_note _
  · split
    · exact keeps_bind (keeps_lift _) fun _ => keeps_pure _
    · exact keeps_pure _

/-- The write half moves the cycle state as the engine does when the engine runs: a mode is set,
the reading is fresh and a change is pending. Otherwise it leaves the cycle state alone. -/
theorem cycleState_updateWrite (now : Nat) (d : Drive) (s : σ) :
    (((updateWrite bus now).run d).run s).1.2.cycleState =
      (if d.mode.isSome && d.fresh && d.pending then d.engage now else d).cycleState := by
  unfold updateWrite
  simp only [StateT.run_bind, StateT.run_get, pure_bind]
  split
  · rename_i hmode
    simp only [hmode, Option.isSome_none, Bool.false_and, Bool.false_eq_true, if_false]
    exact keeps_note _ d s
  · rename_i mode hmode
    simp only [StateT.run_bind, StateT.run_get, pure_bind, hmode, Option.isSome_some,
      Bool.true_and]
    split
    · exact keeps_writeRecord bus mode _ _
    · exact keeps_writeRecord bus mode _ _

@[simp] theorem controlWord_storeRecord (d : Drive) (r : TxRecord) :
    (d.storeRecord r).controlWord = d.controlWord := rfl

@[simp] theorem controlWord_markFresh (d : Drive) (x : Exchange) :
    (d.markFresh x).controlWord = d.controlWord := by
  unfold markFresh
  split <;> rfl

/-- The read half never assigns the controlword, whatever the bus answers and whatever another
party does while the record is in flight, as long as that keeps the controlword too. -/
theorem keeps_updateReadWith_controlWord {meanwhile : DriveM σ Unit}
    (h : Keeps controlWord meanwhile) : Keeps controlWord (updateReadWith bus meanwhile) := by
  have fault : Keeps controlWord (readFaultCode bus) := (keeps_readFaultCode bus).map CycleState.controlWord
  refine keeps_bind (keeps_modifyGet fun d => ?_) fun x? => ?_
  · exact congrArg CycleState.controlWord (cycleState_beginRead d)
  · split
    · exact keeps_pure _
    · refine keeps_bind (keeps_exchange bus _ _) fun answer => keeps_bind h fun _ => ?_
      split
      · unfold finishRead
        split
        · refine keeps_bind (keeps_modify fun d => controlWord_storeRecord d _) fun _ =>
            keeps_bind keeps_get fun _ =>
              keeps_bind (keeps_modify fun d => controlWord_markFresh d _) fun _ => ?_
          split
          · exact fault
          · exact keeps_pure _
        · exact keeps_pure _
      · exact keeps_pure _

theorem keeps_updateRead_controlWord : Keeps controlWord (updateRead bus) :=
  keeps_updateReadWith_controlWord bus (keeps_pure _)

end Drive

end ServoDrive
