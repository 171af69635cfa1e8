import ServoDrive.Proofs.Drive.Engine

/-!
# What one move of a shared controller does

Every statement about interleaved runs of the two actors is an invariant of `Shared.step`. This
module says once, for each kind of move, every way the move can go, so that the invariants are
proved by a case analysis over these lemmas and never by unfolding the step.

* A request arms the change and logs itself; every other call of the application keeps the cycle
  state, the read phase and the log (`step_requestState`, `step_call_of_not_request`).
* Each piece of the read half either is the cyclic actor's next one and does its work, or is not and
  changes nothing (`step_begin_cases`, ..., `step_finish_cases`): only `begin` and `store` log, only
  `store` and `mark` touch the cycle state, through the statusword and the fresh flag.
* The write half, between reads, moves the cycle state as the engine does when the engine runs and
  then logs the state the engine decoded (`step_write_cases`, `step_write_effect`).

Run whole and one after the other from between reads, the moves of the operations do what the
operations do (`runOps_eq`): the runs the log is kept for are runs of the controller.
-/

namespace ServoDrive

namespace Shared

variable {σ : Type} (bus : Bus σ) (c : Shared σ)

/-! ## 1. Running a controller operation on a configuration -/

@[simp] theorem exec_phase {α : Type} (act : DriveM σ α) : (c.exec act).2.phase = c.phase := rfl

@[simp] theorem exec_log {α : Type} (act : DriveM σ α) : (c.exec act).2.log = c.log := rfl

/-- Running an operation on a configuration is running it on its controller and bus. -/
theorem exec_eq {α : Type} (act : DriveM σ α) :
    c.exec act =
      (((act.run c.drive).run c.bus).1.1,
        { c with drive := ((act.run c.drive).run c.bus).1.2,
                 bus := ((act.run c.drive).run c.bus).2 }) :=
  rfl

/-- An operation that keeps the cycle state keeps it in the configuration. -/
theorem cycleState_exec {α : Type} {act : DriveM σ α} (h : Keeps Drive.cycleState act) :
    (c.exec act).2.drive.cycleState = c.drive.cycleState :=
  h c.drive c.bus

/-! ## 2. The application's calls -/

theorem step_requestState (T : DriveState) (now : Nat) :
    c.step bus (.call (.requestState T now)) =
      { c with drive := c.drive.requestStateChange T now, log := .request T :: c.log } := rfl

/-- Every call other than a request is run on the configuration and logs nothing. -/
theorem step_call_of_not_request (call : Call) (hc : ∀ T now, call ≠ .requestState T now) :
    c.step bus (.call call) = (c.exec (call.run bus)).2 := by
  cases call with
  | requestState T now => exact absurd rfl (hc T now)
  | _ => rfl

/-! ## 3. The pieces of the read half

Each lemma gives the move when it is the cyclic actor's next one, and says it changes nothing
otherwise. -/

theorem step_begin_cases :
    (c.phase = .idle ∧ c.step bus .begin =
      { c with drive := c.drive.beginRead.2, phase := (c.drive.beginRead.1.map .begun).getD .idle,
               log := .snapshot :: c.log }) ∨
    (c.phase ≠ .idle ∧ c.step bus .begin = c) := by
  rw [step]
  split
  · rename_i hp
    exact .inl ⟨hp, rfl⟩
  · rename_i hp
    exact .inr ⟨hp, rfl⟩

/-- The exchange a read starts carries the request number of its start. -/
theorem beginRead_request {d : Drive} {x : Exchange} (h : d.beginRead.1 = some x) :
    x.request = d.request := by
  unfold Drive.beginRead at h
  split at h
  · cases h
    rfl
  · cases h

theorem step_fetch_cases :
    (∃ x, c.phase = .begun x ∧ c.step bus .fetch =
      { c with bus := (c.exec (Drive.exchange bus x)).2.bus,
               phase := .fetched x (c.exec (Drive.exchange bus x)).1 }) ∨
    ((∀ x, c.phase ≠ .begun x) ∧ c.step bus .fetch = c) := by
  rw [step]
  split
  · rename_i x hp
    refine .inl ⟨x, hp, ?_⟩
    -- the exchange only moves the bus
    have hd : (c.exec (Drive.exchange bus x)).2.drive = c.drive :=
      Drive.keeps_exchange bus id x c.drive c.bus
    rw [← hd]
    rfl
  · rename_i hp
    exact .inr ⟨hp, rfl⟩

theorem step_store_cases :
    (∃ x bytes r, c.phase = .fetched x (.ok bytes) ∧ TxRecord.unpack x.layout bytes = .ok (some r) ∧
      c.step bus .store =
        { c with drive := c.drive.storeRecord r,
                 phase := .stored x (c.drive.storeRecord r).reading.driveState,
                 log := .store (c.drive.storeRecord r).reading.driveState :: c.log }) ∨
    (∃ x a, c.phase = .fetched x a ∧
      (∀ bytes r, a = .ok bytes → TxRecord.unpack x.layout bytes ≠ .ok (some r)) ∧
      c.step bus .store = { c with phase := .idle }) ∨
    ((∀ x a, c.phase ≠ .fetched x a) ∧ c.step bus .store = c) := by
  rw [step]
  split
  · rename_i x bytes hp
    split
    · rename_i r hr
      exact .inl ⟨x, bytes, r, hp, hr, rfl⟩
    · rename_i hr
      refine .inr (.inl ⟨x, _, hp, ?_, rfl⟩)
      rintro bytes' r ⟨⟩ hr'
      exact hr r hr'
  · rename_i x e hp
    exact .inr (.inl ⟨x, _, hp, (fun _ _ h => by cases h), rfl⟩)
  · rename_i hok herr
    refine .inr (.inr ⟨fun x a hp => ?_, rfl⟩)
    cases a with
    | ok bytes => exact hok x bytes hp
    | error e => exact herr x e hp

/-- Between reads, the pieces of the read half past its start change nothing. -/
theorem step_read_of_idle (hp : c.phase = .idle) :
    c.step bus .fetch = c ∧ c.step bus .store = c ∧ c.step bus .mark = c ∧
      c.step bus .finish = c := by
  refine ⟨?_, ?_, ?_, ?_⟩ <;> rw [step, hp]

theorem step_mark_cases :
    (∃ x st, c.phase = .stored x st ∧
      c.step bus .mark = { c with drive := c.drive.markFresh x, phase := .marked st }) ∨
    ((∀ x st, c.phase ≠ .stored x st) ∧ c.step bus .mark = c) := by
  rw [step]
  split
  · rename_i x st hp
    exact .inl ⟨x, st, hp, rfl⟩
  · rename_i hp
    exact .inr ⟨hp, rfl⟩

theorem step_finish_cases :
    (∃ st, c.phase = .marked st ∧ c.step bus .finish =
      if Drive.names st .fault then { (c.exec (Drive.readFaultCode bus)).2 with phase := .idle }
      else { c with phase := .idle }) ∨
    ((∀ st, c.phase ≠ .marked st) ∧ c.step bus .finish = c) := by
  rw [step]
  split
  · rename_i st hp
    refine .inl ⟨st, hp, ?_⟩
    dsimp only
    split <;> rfl
  · rename_i hp
    exact .inr ⟨hp, rfl⟩

/-! ## 4. The write half -/

theorem step_write_cases (now : Nat) :
    (c.phase = .idle ∧ c.step bus (.write now) =
      if c.drive.mode.isSome && c.drive.fresh && c.drive.pending then
        { (c.exec (Drive.updateWrite bus now)).2 with
            log := .evaluate c.drive.reading.driveState :: c.log }
      else (c.exec (Drive.updateWrite bus now)).2) ∨
    (c.phase ≠ .idle ∧ c.step bus (.write now) = c) := by
  rw [step]
  split
  · rename_i hp
    exact .inl ⟨hp, rfl⟩
  · rename_i hp
    exact .inr ⟨hp, rfl⟩

/-- A write half between reads moves the cycle state as the engine does when the engine runs, keeps
the phase, and logs the engine's evaluation. -/
theorem step_write_effect (now : Nat) (hp : c.phase = .idle) :
    (c.step bus (.write now)).drive.cycleState =
        (if c.drive.mode.isSome && c.drive.fresh && c.drive.pending then c.drive.engage now
          else c.drive).cycleState ∧
      (c.step bus (.write now)).phase = .idle ∧
      (c.step bus (.write now)).log =
        if c.drive.mode.isSome && c.drive.fresh && c.drive.pending then
          .evaluate c.drive.reading.driveState :: c.log
        else c.log := by
  rcases step_write_cases bus c now with ⟨-, h⟩ | ⟨hne, -⟩
  · have hd := Drive.cycleState_updateWrite bus now c.drive c.bus
    rw [h]
    refine ⟨?_, ?_, ?_⟩
    · -- whether or not the engine ran, the configuration carries what the write half left
      rw [← hd]
      split <;> rfl
    · split <;> exact hp
    · split <;> rfl
  · exact absurd hp hne

/-! ## 5. Whole operations

Run one after the other from between reads, the moves of whole operations do what the operations
do on the controller and the bus, and end between reads again. So the runs of `Shared.runOps` are
the runs of `Op.runAll`, with a log kept beside them. -/

/-- The last three pieces of a read whose exchange answered bytes do what the end of the read
half does. -/
theorem store_mark_finish_of_ok {x : Exchange} {bytes : List UInt8}
    (hp : c.phase = .fetched x (.ok bytes)) :
    (((c.step bus .store).step bus .mark).step bus .finish).drive =
        (((Drive.finishRead bus x bytes).run c.drive).run c.bus).1.2 ∧
      (((c.step bus .store).step bus .mark).step bus .finish).bus =
        (((Drive.finishRead bus x bytes).run c.drive).run c.bus).2 ∧
      (((c.step bus .store).step bus .mark).step bus .finish).phase = .idle := by
  rcases step_store_cases bus c with ⟨x', bytes', r, hp', hr, h₃⟩ | ⟨x', a, hp', hnone, h₃⟩ | ⟨hne, -⟩
  · rw [hp] at hp'
    cases hp'
    rw [h₃]
    simp only [step, Drive.finishRead, hr, StateT.run_bind, StateT.run_modify, StateT.run_get,
      pure_bind, and_true]
    by_cases hf : Drive.names (c.drive.storeRecord r).reading.driveState .fault = true
    · simp only [hf, if_true]
      exact ⟨rfl, rfl⟩
    · simp only [hf]
      exact ⟨rfl, rfl⟩
  · rw [hp] at hp'
    cases hp'
    have hidle : (c.step bus .store).phase = .idle := by rw [h₃]
    obtain ⟨-, -, hmark, hfinish⟩ := step_read_of_idle bus _ hidle
    rw [hmark, hfinish, h₃]
    have hnr : ∀ r, TxRecord.unpack x.layout bytes ≠ .ok (some r) := fun r => hnone bytes r rfl
    unfold Drive.finishRead
    split
    · rename_i r hr
      exact absurd hr (hnr r)
    · exact ⟨rfl, rfl, rfl⟩
  · exact absurd hp (hne x _)

/-- A read whose exchange failed stops there. -/
theorem store_mark_finish_of_error {x : Exchange} {e : BusError}
    (hp : c.phase = .fetched x (.error e)) :
    ((c.step bus .store).step bus .mark).step bus .finish = { c with phase := .idle } := by
  have h₃ : c.step bus .store = { c with phase := .idle } := by rw [step, hp]
  obtain ⟨-, -, hm, hfin⟩ := step_read_of_idle bus (c.step bus .store) (by rw [h₃])
  rw [hm, hfin, h₃]

/-- The five pieces of a read, run one after the other between reads, are the read half. -/
theorem perform_updateRead (hp : c.phase = .idle) :
    (c.perform bus .updateRead).drive = (((Drive.updateRead bus).run c.drive).run c.bus).1.2 ∧
      (c.perform bus .updateRead).bus = (((Drive.updateRead bus).run c.drive).run c.bus).2 ∧
      (c.perform bus .updateRead).phase = .idle := by
  have hrun : c.perform bus .updateRead =
      ((((c.step bus .begin).step bus .fetch).step bus .store).step bus .mark).step bus .finish :=
    rfl
  obtain ⟨-, h₁⟩ | ⟨hne, -⟩ := step_begin_cases bus c
  · rw [hrun, h₁]
    simp only [Drive.updateRead, Drive.updateReadWith, StateT.run_bind, StateT.run_modifyGet,
      pure_bind]
    rcases hb : c.drive.beginRead with ⟨_ | x, d₁⟩
    · -- no layout: the read stops at its start
      dsimp only [Option.map_none, Option.getD_none]
      obtain ⟨hf, hs, hm, hfin⟩ := step_read_of_idle bus
        ({ drive := d₁, bus := c.bus, log := .snapshot :: c.log } : Shared σ) rfl
      rw [hf, hs, hm, hfin]
      exact ⟨rfl, rfl, rfl⟩
    · dsimp only [Option.map_some, Option.getD_some]
      obtain ⟨x', hx', h₂⟩ | ⟨hne, -⟩ := step_fetch_cases bus
        ({ drive := d₁, bus := c.bus, phase := .begun x, log := .snapshot :: c.log } : Shared σ)
      · cases hx'
        rw [h₂, exec_eq]
        dsimp only
        have hd := Drive.keeps_exchange bus id x d₁ c.bus
        rcases he : ((Drive.exchange bus x).run d₁).run c.bus with ⟨⟨answer, d₂⟩, s₂⟩
        rw [he] at hd
        cases hd
        simp only [StateT.run_bind, he]
        cases answer with
        | ok bytes => exact store_mark_finish_of_ok bus _ rfl
        | error e =>
          rw [store_mark_finish_of_error bus _ rfl]
          exact ⟨rfl, rfl, rfl⟩
      · exact absurd rfl (hne x)
  · exact absurd hp hne

/-- An operation taken whole between reads is the operation. -/
theorem perform_eq (hp : c.phase = .idle) (op : Op) :
    (c.perform bus op).drive = (((op.run bus).run c.drive).run c.bus).1.2 ∧
      (c.perform bus op).bus = (((op.run bus).run c.drive).run c.bus).2 ∧
      (c.perform bus op).phase = .idle := by
  cases op with
  | call call =>
    by_cases hreq : ∃ T now, call = .requestState T now
    · obtain ⟨T, now, rfl⟩ := hreq
      exact ⟨rfl, rfl, hp⟩
    · have hc : ∀ T now, call ≠ .requestState T now := fun T now h => hreq ⟨T, now, h⟩
      have hrun : c.perform bus (.call call) = c.step bus (.call call) := rfl
      rw [hrun, step_call_of_not_request bus c call hc]
      exact ⟨rfl, rfl, hp⟩
  | updateRead => exact perform_updateRead bus c hp
  | updateWrite now =>
    have hrun : c.perform bus (.updateWrite now) = c.step bus (.write now) := rfl
    rw [hrun]
    obtain ⟨-, h⟩ | ⟨hne, -⟩ := step_write_cases bus c now
    · rw [h]
      split <;> exact ⟨rfl, rfl, hp⟩
    · exact absurd hp hne

/-- A run of whole operations from between reads is a run of the controller. -/
theorem runOps_eq (hp : c.phase = .idle) (ops : List Op) :
    (c.runOps bus ops).drive = (((Op.runAll bus ops).run c.drive).run c.bus).1.2 ∧
      (c.runOps bus ops).bus = (((Op.runAll bus ops).run c.drive).run c.bus).2 ∧
      (c.runOps bus ops).phase = .idle := by
  induction ops generalizing c with
  | nil => exact ⟨rfl, rfl, hp⟩
  | cons op ops ih =>
    obtain ⟨hd, hb, hp'⟩ := perform_eq bus c hp op
    obtain ⟨hd', hb', hp''⟩ := ih (c.perform bus op) hp'
    have hrun : c.runOps bus (op :: ops) = (c.perform bus op).runOps bus ops := rfl
    have hall : Op.runAll bus (op :: ops) = op.run bus >>= fun _ => Op.runAll bus ops := rfl
    rw [hrun, hall]
    simp only [StateT.run_bind]
    rw [hd', hb', hd, hb]
    exact ⟨rfl, rfl, hp''⟩

end Shared

end ServoDrive
