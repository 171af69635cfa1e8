import ServoDrive.Proofs.Drive.Changes
import ServoDrive.Device.Bus

/-!
# The controlword the controller holds

Every receive record carries the controlword the controller holds. This module proves that only
the engine assigns it, in one branch: the write half runs with a mode of operation set, a change
toward `T` pending and a fresh reading of a state `c` other than `T`, the dwell since the last
controlword change has elapsed, and the table leads on from `c` toward `T` by a transition `tr`;
the held controlword then becomes `tr`'s (`StepsAlong`). Every other operation and every other
branch leaves it alone, the mailbox operations included, which write object `0x6040` through the
mailbox only. So the held controlword is always zero or the controlword of a transition: `0x0000`,
`0x0002`, `0x0006`, `0x0007`, `0x000f` or `0x0080`.
-/

namespace ServoDrive

namespace Transition

/-- The controlwords of the transitions. -/
theorem controlWord_raw_mem (tr : Transition) :
    tr.controlWord.raw ∈ [0x0000, 0x0002, 0x0006, 0x0007, 0x000f, 0x0080] := by
  cases tr <;> decide

end Transition

namespace Drive

/-- The write half at `now` steps the controlword along `tr`: a mode of operation is set, the
reading is fresh, a change toward `T` is pending, the reading decodes to a state `c` other than
`T`, the dwell since the last controlword change has elapsed, and the table's next transition from
`c` toward `T` is `tr`. -/
def StepsAlong (d : Drive) (now : Nat) (tr : Transition) : Prop :=
  d.mode.isSome = true ∧ d.fresh = true ∧
    ∃ T since n c, d.change = .pending T since n ∧ d.reading.driveState = .ok c ∧ c ≠ T ∧
      d.config.minTimeout ≤ now - since ∧ Transition.next T c = .ok tr

/-- The write half runs the engine on a fresh reading, with a mode of operation set, when a
change is pending. -/
theorem engineRuns_of_pending {d : Drive} {T : DriveState} {since : Nat} {n : UInt32}
    (hmode : d.mode.isSome = true) (hfresh : d.fresh = true)
    (hch : d.change = .pending T since n) : (d.mode.isSome && d.fresh && d.pending) = true := by
  have hpend : d.pending = true := (pending_eq_true_iff d).2 (by rw [hch]; simp)
  rw [hmode, hfresh, hpend]
  rfl

variable {σ : Type} (bus : Bus σ)

/-- When the write half steps along a transition, the held controlword becomes the transition's. -/
theorem controlWord_updateWrite_of_stepsAlong {d : Drive} {now : Nat} {tr : Transition}
    (h : StepsAlong d now tr) (s : σ) :
    (((updateWrite bus now).run d).run s).1.2.controlWord = tr.controlWord := by
  obtain ⟨hmode, hfresh, T, since, n, c, hch, hst, hcT, hwait, hnext⟩ := h
  have hd := congrArg CycleState.controlWord (cycleState_updateWrite bus now d s)
  rw [if_pos (engineRuns_of_pending hmode hfresh hch)] at hd
  -- the reading is not the target's, so the engine steps toward the target
  have hnames : names d.reading.driveState T = false := by
    rw [hst]
    simp [names, hcT]
  calc (((updateWrite bus now).run d).run s).1.2.controlWord
      = (d.engage now).controlWord := hd
    _ = (d.stepToward T d.reading.driveState).controlWord := by
        rw [engage_controlWord now hch, if_pos ⟨hnames, hwait⟩]
    _ = tr.controlWord := stepToward_controlWord_of_next d hst hnext

/-- When the write half steps along no transition, the held controlword stays: the engine does not
run, reads the target, waits for the dwell, or meets a statusword naming no state or a state the
table leads nowhere from. -/
theorem controlWord_updateWrite_of_not_stepsAlong {d : Drive} {now : Nat}
    (h : ∀ tr, ¬ StepsAlong d now tr) (s : σ) :
    (((updateWrite bus now).run d).run s).1.2.controlWord = d.controlWord := by
  have hd := congrArg CycleState.controlWord (cycleState_updateWrite bus now d s)
  refine hd.trans ?_
  split
  · rename_i hrun
    simp only [Bool.and_eq_true] at hrun
    obtain ⟨⟨hmode, hfresh⟩, hpend⟩ := hrun
    -- the engine runs on a pending change
    cases hch : d.change with
    | idle =>
      rw [pending_eq_true_iff, hch] at hpend
      exact absurd rfl hpend
    | pending T since n =>
      show (d.engage now).controlWord = d.controlWord
      rw [engage_controlWord now hch]
      split
      · rename_i hstep
        refine stepToward_controlWord d T _ fun c t hc ht => ?_
        have hcT : c ≠ T := by
          intro hcT
          have := hstep.1
          rw [hc, hcT] at this
          simp [names] at this
        exact h t ⟨hmode, hfresh, T, since, n, c, hch, hc, hcT, hstep.2, ht⟩
      · rfl
  · rfl

end Drive

namespace Op

variable {σ : Type} (bus : Bus σ)

/-- Every operation but the write half keeps the held controlword. -/
theorem keeps_controlWord {op : Op} (hop : ∀ now, op ≠ .updateWrite now) :
    Keeps Drive.controlWord (op.run bus) := by
  cases op with
  | call c =>
    by_cases hreq : ∃ T now, c = .requestState T now
    · obtain ⟨T, now, rfl⟩ := hreq
      exact keeps_modify fun d => rfl
    · exact (Call.keeps_cycleState bus c fun T now h => hreq ⟨T, now, h⟩).map
        CycleState.controlWord
  | updateRead => exact Drive.keeps_updateRead_controlWord bus
  | updateWrite now => exact absurd rfl (hop now)

/-- An operation leaves the held controlword alone or makes it a transition's. -/
theorem controlWord_run (op : Op) (d : Drive) (s : σ) :
    (((op.run bus).run d).run s).1.2.controlWord = d.controlWord ∨
      ∃ tr : Transition, (((op.run bus).run d).run s).1.2.controlWord = tr.controlWord := by
  by_cases hw : ∃ now, op = .updateWrite now
  · obtain ⟨now, rfl⟩ := hw
    by_cases hstep : ∃ tr, d.StepsAlong now tr
    · obtain ⟨tr, htr⟩ := hstep
      exact .inr ⟨tr, Drive.controlWord_updateWrite_of_stepsAlong bus htr s⟩
    · exact .inl (Drive.controlWord_updateWrite_of_not_stepsAlong bus
        (fun tr htr => hstep ⟨tr, htr⟩) s)
  · exact .inl (keeps_controlWord bus (fun now h => hw ⟨now, h⟩) d s)

/-- A run keeps the held controlword among zero and the transitions' controlwords. -/
theorem runAll_controlWord_mem (ops : List Op) (d : Drive) (s : σ)
    (hd : d.controlWord.raw ∈ [0x0000, 0x0002, 0x0006, 0x0007, 0x000f, 0x0080]) :
    (((runAll bus ops).run d).run s).1.2.controlWord.raw ∈
      [0x0000, 0x0002, 0x0006, 0x0007, 0x000f, 0x0080] := by
  induction ops generalizing d s with
  | nil => exact hd
  | cons op ops ih =>
    have hall : runAll bus (op :: ops) = op.run bus >>= fun _ => runAll bus ops := rfl
    rw [hall, StateT.run_bind, StateT.run_bind]
    apply ih
    rcases controlWord_run bus op d s with h | ⟨tr, h⟩
    · rw [h]
      exact hd
    · rw [h]
      exact tr.controlWord_raw_mem

end Op

/-- The held controlword changes in one branch only. An operation that is a write half stepping
along a transition `tr` makes it `tr`'s; every other operation, and every other branch of the
write half, leaves it alone. So in every run of a new controller, whatever the bus answers, it is
zero or the controlword of a transition. -/
theorem held_controlWord {σ : Type} (bus : Bus σ) :
    (∀ (op : Op) (d : Drive) (s : σ),
      (∀ now tr, op = .updateWrite now → d.StepsAlong now tr →
        (((op.run bus).run d).run s).1.2.controlWord = tr.controlWord) ∧
      ((∀ now tr, op = .updateWrite now → ¬ d.StepsAlong now tr) →
        (((op.run bus).run d).run s).1.2.controlWord = d.controlWord)) ∧
    ∀ (name : String) (address : UInt16) (s₀ : σ) (ops : List Op),
      (((Op.runAll bus ops).run (Drive.new name address)).run s₀).1.2.controlWord.raw ∈
        [0x0000, 0x0002, 0x0006, 0x0007, 0x000f, 0x0080] := by
  refine ⟨fun op d s => ⟨?_, fun hnot => ?_⟩, fun name address s₀ ops => ?_⟩
  · rintro now tr rfl hstep
    exact Drive.controlWord_updateWrite_of_stepsAlong bus hstep s
  · by_cases hw : ∃ now, op = .updateWrite now
    · obtain ⟨now, rfl⟩ := hw
      exact Drive.controlWord_updateWrite_of_not_stepsAlong bus (fun tr => hnot now tr rfl) s
    · exact Op.keeps_controlWord bus (fun now h => hw ⟨now, h⟩) d s
  · -- a new controller holds zero
    exact Op.runAll_controlWord_mem bus ops _ s₀ (List.mem_cons_self ..)

/-- A controller in position mode with a fresh reading of switch-on disabled and a change to
operation enabled pending since time zero. -/
def enablingDrive : Drive :=
  { Drive.new "servo" 1 with
    mode := some .synchronousPosition, fresh := true, change := .pending .operationEnabled 0 0,
    reading := { statusWord := ⟨0x0040⟩ } }

/-- Once the minimum time has passed, that controller's write half shuts the drive down, the
first step toward operation enabled; a new controller, with no mode, holds its controlword
through a write half. -/
theorem enablingDrive_shuts_down :
    enablingDrive.StepsAlong 1000 .shutdown ∧
      ((((Op.updateWrite 1000).run Device.bus).run enablingDrive).run {}).1.2.controlWord =
        Transition.shutdown.controlWord ∧
      (∀ now tr, Op.updateWrite 0 = .updateWrite now →
        ¬ (Drive.new "servo" 1).StepsAlong now tr) ∧
      ((((Op.updateWrite 0).run Device.bus).run (Drive.new "servo" 1)).run {}).1.2.controlWord =
        (Drive.new "servo" 1).controlWord := by
  have hsteps : enablingDrive.StepsAlong 1000 .shutdown :=
    ⟨rfl, rfl, .operationEnabled, 0, 0, .switchOnDisabled, rfl, rfl, by decide, by decide, rfl⟩
  have hnew : ∀ now tr, Op.updateWrite 0 = .updateWrite now →
      ¬ (Drive.new "servo" 1).StepsAlong now tr :=
    fun _ _ _ h => Bool.false_ne_true h.1
  exact ⟨hsteps, ((held_controlWord Device.bus).1 _ _ _).1 1000 _ rfl hsteps, hnew,
    ((held_controlWord Device.bus).1 _ _ _).2 hnew⟩

end ServoDrive
