import ServoDrive.Proofs.Drive.Freshness

/-!
# The life of a cyclic state change

A request arms a change toward its target: pending, not succeeded. The change stays so until a
write half completes it, and a completed change stays completed until the next request. This
module proves it for every run of whole operations of a new controller, whatever the bus answers,
and says what a completion took: a fresh reading of the target, the last of as many consecutive
readings of the target since the request as the configuration asks for (at least one), each read
after the request and consumed once.

The argument is one invariant of the reachable configurations (`Progress`), read off the log:
before the first request no change is pending and none succeeded; after it, either the change
toward the last request's target is pending, not succeeded, with as many successes as the streak
of evaluations of the target since the request, or it completed. Only requests and write halves
touch the change (`step_quiet`), a pending change is the last request's (`Progress.of_pending`),
and the engine's one step is `engage_progress`.
-/

namespace ServoDrive

namespace Drive

@[simp] theorem change_markFresh (d : Drive) (x : Exchange) :
    (d.markFresh x).change = d.change := by
  unfold markFresh
  split <;> rfl

@[simp] theorem succeeded_markFresh (d : Drive) (x : Exchange) :
    (d.markFresh x).succeeded = d.succeeded := by
  unfold markFresh
  split <;> rfl

/-- One run of the engine on a pending change toward `T` that has not succeeded, with `n`
successes: either the change stays pending and unsucceeded, its successes counting one more
reading of `T` or back to none, or the reading is of `T` and completes it, `n + 1` reaching the
configured number. -/
theorem engage_progress {d : Drive} {T : DriveState} {since : Nat} {n : UInt32} (now : Nat)
    (hc : d.change = .pending T since n) (hs : d.succeeded = false)
    (hn : n.toNat + 1 < UInt32.size) :
    (∃ since' n', (d.engage now).change = .pending T since' n' ∧
        (d.engage now).succeeded = false ∧
        n'.toNat = (if names d.reading.driveState T then n.toNat + 1 else 0) ∧
        n'.toNat + 1 < UInt32.size) ∨
      ((d.engage now).change = .idle ∧ (d.engage now).succeeded = true ∧
        names d.reading.driveState T = true ∧ d.config.minReadings.toNat ≤ n.toNat + 1) := by
  have hchange := engage_change now hc
  have hsucc := engage_succeeded now hc
  rw [hs, Bool.false_or] at hsucc
  -- no success count ever wraps: it stays below the configured number
  have hsucc_n : (n + 1).toNat = n.toNat + 1 := by
    rw [UInt32.toNat_add, UInt32.toNat_one, Nat.mod_eq_of_lt hn]
  by_cases hT : names d.reading.driveState T = true
  · rw [if_pos hT] at hchange
    rw [hT, Bool.true_and] at hsucc
    by_cases hm : d.config.minReadings ≤ n + 1
    · rw [if_pos hm] at hchange
      rw [decide_eq_true hm] at hsucc
      refine .inr ⟨hchange, hsucc, hT, ?_⟩
      rw [← hsucc_n]
      exact UInt32.le_iff_toNat_le.1 hm
    · rw [if_neg hm] at hchange
      rw [decide_eq_false hm] at hsucc
      refine .inl ⟨since, n + 1, hchange, hsucc, by rw [if_pos hT, hsucc_n], ?_⟩
      have hlt : (n + 1).toNat < d.config.minReadings.toNat := by
        rw [UInt32.le_iff_toNat_le] at hm
        omega
      have hm' : d.config.minReadings.toNat < 2 ^ 32 := d.config.minReadings.toNat_lt
      show (n + 1).toNat + 1 < 2 ^ 32
      omega
  · rw [if_neg hT] at hchange
    rw [Bool.eq_false_iff.2 hT, Bool.false_and] at hsucc
    exact .inl ⟨_, 0, hchange, hsucc, by rw [if_neg hT]; rfl, by decide⟩

end Drive

namespace Shared

open Event

variable {σ : Type} (bus : Bus σ)

/-! ## 1. Moves that leave the state change alone -/

/-- Every move but a request and a write half keeps the change, the success flag, and the last
request and the streaks of the log. -/
theorem step_quiet (c : Shared σ) {m : Move} (hm : ∀ T now, m ≠ .call (.requestState T now))
    (hw : ∀ now, m ≠ .write now) :
    (c.step bus m).drive.change = c.drive.change ∧
      (c.step bus m).drive.succeeded = c.drive.succeeded ∧
      lastRequest (c.step bus m).log = lastRequest c.log ∧
      ∀ T, streak T (c.step bus m).log = streak T c.log := by
  -- a move that keeps the cycle state and the log keeps them all
  have frame : ∀ c' : Shared σ, c'.drive.cycleState = c.drive.cycleState → c'.log = c.log →
      c'.drive.change = c.drive.change ∧ c'.drive.succeeded = c.drive.succeeded ∧
        lastRequest c'.log = lastRequest c.log ∧ ∀ T, streak T c'.log = streak T c.log :=
    fun c' hd hl => by
      obtain ⟨hc, hs, -⟩ := Drive.cycleState_eq_iff.1 hd
      exact ⟨hc, hs, by rw [hl], fun T => by rw [hl]⟩
  cases m with
  | call call =>
    have hc : ∀ T now, call ≠ .requestState T now := fun T now hc => hm T now (by rw [hc])
    rw [step_call_of_not_request bus c call hc]
    exact frame _ (cycleState_exec c (Call.keeps_cycleState bus call hc)) rfl
  | begin =>
    obtain ⟨-, h₁⟩ | ⟨-, h₁⟩ := step_begin_cases bus c
    · rw [h₁]
      obtain ⟨hc, hs, -⟩ := Drive.cycleState_eq_iff.1 (Drive.cycleState_beginRead c.drive)
      exact ⟨hc, hs, rfl, fun T => rfl⟩
    · rw [h₁]
      exact frame c rfl rfl
  | fetch =>
    obtain ⟨x, -, h₁⟩ | ⟨-, h₁⟩ := step_fetch_cases bus c
    · rw [h₁]
      exact frame _ rfl rfl
    · rw [h₁]
      exact frame c rfl rfl
  | store =>
    obtain ⟨x, bytes, r, -, -, h₁⟩ | ⟨x, a, -, -, h₁⟩ | ⟨-, h₁⟩ := step_store_cases bus c
    · rw [h₁]
      exact ⟨rfl, rfl, rfl, fun T => rfl⟩
    · rw [h₁]
      exact frame _ rfl rfl
    · rw [h₁]
      exact frame c rfl rfl
  | mark =>
    obtain ⟨x, st, -, h₁⟩ | ⟨-, h₁⟩ := step_mark_cases bus c
    · rw [h₁]
      exact ⟨Drive.change_markFresh _ _, Drive.succeeded_markFresh _ _, rfl, fun T => rfl⟩
    · rw [h₁]
      exact frame c rfl rfl
  | finish =>
    obtain ⟨st, -, h₁⟩ | ⟨-, h₁⟩ := step_finish_cases bus c
    · rw [h₁]
      split
      · exact frame _ (cycleState_exec c (Drive.keeps_readFaultCode bus)) rfl
      · exact frame _ rfl rfl
    · rw [h₁]
      exact frame c rfl rfl
  | write now => exact absurd rfl (hw now)

/-! ## 2. The invariant -/

/-- The progress of the state change, read off the log. -/
def Progress (c : Shared σ) : Prop :=
  match lastRequest c.log with
  | none => c.drive.change = .idle ∧ c.drive.succeeded = false
  | some T =>
    (∃ since n, c.drive.change = .pending T since n ∧ c.drive.succeeded = false ∧
      n.toNat = streak T c.log ∧ n.toNat + 1 < UInt32.size) ∨
    (c.drive.change = .idle ∧ c.drive.succeeded = true)

section Step

variable {bus} {c : Shared σ}

/-- A pending change is the one toward the last request's target: not succeeded, with as many
successes as the streak of evaluations of the target since the request. -/
theorem Progress.of_pending (h : Progress c) (hpend : c.drive.change ≠ .idle) :
    ∃ T since n, lastRequest c.log = some T ∧ c.drive.change = .pending T since n ∧
      c.drive.succeeded = false ∧ n.toNat = streak T c.log ∧ n.toNat + 1 < UInt32.size := by
  unfold Progress at h
  split at h
  · -- before the first request no change is pending
    exact absurd h.1 hpend
  · rename_i T hT
    rcases h with ⟨since, n, hc, hs, hk, hn⟩ | ⟨hc, -⟩
    · exact ⟨T, since, n, hT, hc, hs, hk, hn⟩
    · exact absurd hc hpend

/-- A change is never pending and succeeded at once. -/
theorem Progress.not_pending_and_succeeded (h : Progress c) :
    ¬ (c.drive.pending = true ∧ c.drive.succeeded = true) := by
  rintro ⟨hp, hs⟩
  obtain ⟨-, -, -, -, -, hs', -⟩ := h.of_pending ((Drive.pending_eq_true_iff _).1 hp)
  rw [hs] at hs'
  cases hs'

theorem Progress.of_quiet {c' : Shared σ} (h : Progress c)
    (hq : c'.drive.change = c.drive.change ∧ c'.drive.succeeded = c.drive.succeeded ∧
      lastRequest c'.log = lastRequest c.log ∧ ∀ T, streak T c'.log = streak T c.log) :
    Progress c' := by
  obtain ⟨hc, hs, hl, hk⟩ := hq
  unfold Progress
  rw [hc, hs, hl]
  unfold Progress at h
  split at h
  · exact h
  · rename_i T _
    rw [hk T]
    exact h

/-- A request arms the change toward its target, whatever came before. -/
theorem progress_request (T : DriveState) (now : Nat) :
    Progress (c.step bus (.call (.requestState T now))) := by
  rw [step_requestState]
  unfold Progress
  exact .inl ⟨now, 0, rfl, rfl, rfl, by decide⟩

/-- The write half runs the engine on a pending change, or leaves the change alone. -/
theorem Progress.write (h : Progress c) (now : Nat) : Progress (c.step bus (.write now)) := by
  obtain ⟨hp, -⟩ | ⟨-, h₁⟩ := step_write_cases bus c now
  · obtain ⟨hd, -, hl⟩ := step_write_effect bus c now hp
    by_cases hrun : (c.drive.mode.isSome && c.drive.fresh && c.drive.pending) = true
    · rw [if_pos hrun] at hd hl
      have hpend : c.drive.change ≠ .idle := by
        simp only [Bool.and_eq_true] at hrun
        exact (Drive.pending_eq_true_iff _).1 hrun.2
      obtain ⟨T, since, n, hT, hc, hs, hk, hn⟩ := h.of_pending hpend
      obtain ⟨hchange, hsucc, -⟩ := Drive.cycleState_eq_iff.1 hd
      unfold Progress
      rw [hl, lastRequest_evaluate, hT, hchange, hsucc]
      rcases Drive.engage_progress now hc hs hn with
        ⟨since', n', hc', hs', hk', hn'⟩ | ⟨hc', hs', -, -⟩
      · refine .inl ⟨since', n', hc', hs', ?_, hn'⟩
        rw [hk', streak_evaluate, hk]
      · exact .inr ⟨hc', hs'⟩
    · rw [if_neg hrun] at hd hl
      obtain ⟨hchange, hsucc, -⟩ := Drive.cycleState_eq_iff.1 hd
      exact h.of_quiet ⟨hchange, hsucc, by rw [hl], fun T => by rw [hl]⟩
  · rw [h₁]
    exact h

theorem Progress.step (h : Progress c) (m : Move) : Progress (c.step bus m) := by
  by_cases hreq : ∃ T now, m = .call (.requestState T now)
  · obtain ⟨T, now, rfl⟩ := hreq
    exact progress_request T now
  · by_cases hw : ∃ now, m = .write now
    · obtain ⟨now, rfl⟩ := hw
      exact h.write now
    · exact h.of_quiet (step_quiet bus c (fun T now hm => hreq ⟨T, now, hm⟩)
        (fun now hm => hw ⟨now, hm⟩))

end Step

/-- Every configuration reachable from a new controller satisfies the invariant. -/
theorem Reach.progress {name : String} {address : UInt16} {s₀ : σ} {c : Shared σ}
    (hc : Reach bus (Shared.start (Drive.new name address) s₀) c) : Progress c := by
  induction hc with
  | start => exact ⟨rfl, rfl⟩
  | step m _ _ ih => exact ih.step m

/-! ## 3. Whole operations -/

/-- Moves that are neither requests nor write halves, one after the other, keep the change and
the success flag. -/
theorem run_quiet (c : Shared σ) (ms : List Move)
    (hms : ∀ m ∈ ms, (∀ T now, m ≠ .call (.requestState T now)) ∧ ∀ now, m ≠ .write now) :
    (c.run bus ms).drive.change = c.drive.change ∧
      (c.run bus ms).drive.succeeded = c.drive.succeeded := by
  induction ms generalizing c with
  | nil => exact ⟨rfl, rfl⟩
  | cons m ms ih =>
    obtain ⟨hm, hw⟩ := hms m (List.mem_cons_self ..)
    obtain ⟨hc, hs, -, -⟩ := step_quiet bus c hm hw
    obtain ⟨hc', hs'⟩ := ih (c.step bus m) fun m' h' => hms m' (List.mem_cons_of_mem _ h')
    exact ⟨hc'.trans hc, hs'.trans hs⟩

/-- Operations other than requests and write halves keep the change and the success flag. -/
theorem perform_quiet (c : Shared σ) {op : Op} (hop : op.isRequest = false)
    (hw : ∀ now, op ≠ .updateWrite now) :
    (c.perform bus op).drive.change = c.drive.change ∧
      (c.perform bus op).drive.succeeded = c.drive.succeeded := by
  refine run_quiet bus c op.moves fun m hm => ?_
  cases op with
  | call call =>
    rw [List.mem_singleton.1 hm]
    refine ⟨fun T now h => ?_, (fun now h => by cases h)⟩
    rw [Move.call.inj h] at hop
    cases hop
  | updateRead =>
    simp only [Op.moves, List.mem_cons, List.not_mem_nil, or_false] at hm
    rcases hm with rfl | rfl | rfl | rfl | rfl <;>
      exact ⟨(fun _ _ h => by cases h), (fun _ h => by cases h)⟩
  | updateWrite now => exact absurd rfl (hw now)

/-- What completing the change toward `T` took, in a write half from `c` to `c'`: its engine
consumed a fresh reading that decoded to `T`, the last of at least `max 1 m` consecutive
evaluations of `T` since the request, `m` the configured number of readings; and every evaluation
since the request consumed a record of its own, stored after the request by a read that began
after it. -/
structure Completion (T : DriveState) (c c' : Shared σ) : Prop where
  request : lastRequest c.log = some T
  fresh : c.drive.fresh = true
  evaluation : c'.log = .evaluate (.ok T) :: c.log
  consecutive : max 1 c.drive.config.minReadings.toNat ≤ streak T c'.log
  readAfter : ReadAfterRequest c'.log

/-- A request taken whole arms the change: pending, not succeeded. -/
theorem perform_request_arms (c : Shared σ) (T : DriveState) (now : Nat) :
    (c.perform bus (.call (.requestState T now))).drive.pending = true ∧
      (c.perform bus (.call (.requestState T now))).drive.succeeded = false :=
  ⟨(Drive.pending_eq_true_iff _).2 (by simp [step_requestState, perform, run, Op.moves,
    Drive.requestStateChange]), rfl⟩

/-- A completed change stays completed through every operation but a request. -/
theorem perform_keeps_completed {c : Shared σ} (hp : c.phase = .idle) {op : Op}
    (hop : op.isRequest = false) (hpend : c.drive.pending = false)
    (hsucc : c.drive.succeeded = true) :
    (c.perform bus op).drive.pending = false ∧ (c.perform bus op).drive.succeeded = true := by
  have hidle := (Drive.pending_eq_false_iff _).1 hpend
  by_cases hw : ∃ now, op = .updateWrite now
  · -- the engine runs on pending changes only, so the write half keeps the cycle state
    obtain ⟨now, rfl⟩ := hw
    obtain ⟨hd, -, -⟩ := step_write_effect bus c now hp
    have hrun : (c.drive.mode.isSome && c.drive.fresh && c.drive.pending) = false := by
      rw [hpend, Bool.and_false]
    rw [hrun] at hd
    have hd' : (c.perform bus (.updateWrite now)).drive.cycleState = c.drive.cycleState := hd
    obtain ⟨hc, hs, -⟩ := Drive.cycleState_eq_iff.1 hd'
    exact ⟨(Drive.pending_eq_false_iff _).2 (hc.trans hidle), hs.trans hsucc⟩
  · obtain ⟨hc, hs⟩ := perform_quiet bus c hop fun now h => hw ⟨now, h⟩
    exact ⟨(Drive.pending_eq_false_iff _).2 (hc.trans hidle), hs.trans hsucc⟩

/-- A pending change stays pending and unsucceeded through every operation but a request, unless
a write half completes it. -/
theorem perform_of_pending {name : String} {address : UInt16} {s₀ : σ} {c : Shared σ}
    (hc : Reach bus (Shared.start (Drive.new name address) s₀) c) (hp : c.phase = .idle)
    {op : Op} (hop : op.isRequest = false) (hpend : c.drive.pending = true) :
    ((c.perform bus op).drive.pending = true ∧ (c.perform bus op).drive.succeeded = false) ∨
      ((c.perform bus op).drive.pending = false ∧ (c.perform bus op).drive.succeeded = true ∧
        ∃ T now, op = .updateWrite now ∧ Completion T c (c.perform bus op)) := by
  have hchange : c.drive.change ≠ .idle := (Drive.pending_eq_true_iff _).1 hpend
  -- the invariant names the pending change: toward the last request's target
  obtain ⟨T, since, n, hT, hch, hsucc, hk, hn⟩ := (hc.progress bus).of_pending hchange
  by_cases hw : ∃ now, op = .updateWrite now
  · obtain ⟨now, rfl⟩ := hw
    have hreach' := reach_perform bus hc hp (.updateWrite now)
    have hrun : c.perform bus (.updateWrite now) = c.step bus (.write now) := rfl
    rw [hrun] at hreach' ⊢
    obtain ⟨hd, -, hl⟩ := step_write_effect bus c now hp
    by_cases hengine : (c.drive.mode.isSome && c.drive.fresh && c.drive.pending) = true
    · rw [if_pos hengine] at hd hl
      obtain ⟨hc', hs', -⟩ := Drive.cycleState_eq_iff.1 hd
      rw [Drive.pending_eq_true_iff, Drive.pending_eq_false_iff, hc', hs']
      rcases Drive.engage_progress now hch hsucc hn with
        ⟨since', n', he, hs'', -, -⟩ | ⟨he, hs'', hnames, hm⟩
      · left
        rw [he, hs'']
        exact ⟨(fun h => by cases h), rfl⟩
      · right
        refine ⟨he, hs'', T, now, rfl, hT, ?_, ?_, ?_, ?_⟩
        · simp only [Bool.and_eq_true] at hengine
          exact hengine.1.2
        · rw [hl, (Drive.names_eq_true_iff _ _).1 hnames]
        · rw [hl, streak_evaluate, if_pos hnames, ← hk]
          exact Nat.max_le.2 ⟨by omega, hm⟩
        · exact (hreach'.fresh bus).evaluations.readAfterRequest
    · rw [if_neg hengine] at hd
      left
      obtain ⟨hc', hs', -⟩ := Drive.cycleState_eq_iff.1 hd
      rw [Drive.pending_eq_true_iff, hc', hs']
      exact ⟨hchange, hsucc⟩
  · obtain ⟨hc', hs'⟩ := perform_quiet bus c hop fun now h => hw ⟨now, h⟩
    left
    rw [Drive.pending_eq_true_iff, hc', hs']
    exact ⟨hchange, hsucc⟩

/-! ## 4. Runs of a new controller -/

/-- In every run of whole operations of a new controller, whatever the bus answers: a change is
never pending and succeeded at once; a request arms its change, pending and not succeeded; a
completed change stays completed until the next request; and a pending change stays pending and
unsucceeded until a write half completes it, whose engine consumed a fresh reading of the target,
the last of at least `max 1 m` consecutive readings of it since the request (`m` the configured
number), each read after the request and consumed once. -/
theorem state_change_lifecycle (name : String) (address : UInt16) (s₀ : σ) (ops : List Op)
    (op : Op) :
    let c := (Shared.start (Drive.new name address) s₀).runOps bus ops
    let c' := c.perform bus op
    ¬ (c.drive.pending = true ∧ c.drive.succeeded = true) ∧
    (∀ T now, op = .call (.requestState T now) →
      c'.drive.pending = true ∧ c'.drive.succeeded = false) ∧
    (op.isRequest = false → c.drive.pending = false → c.drive.succeeded = true →
      c'.drive.pending = false ∧ c'.drive.succeeded = true) ∧
    (op.isRequest = false → c.drive.pending = true →
      (c'.drive.pending = true ∧ c'.drive.succeeded = false) ∨
      (c'.drive.pending = false ∧ c'.drive.succeeded = true ∧
        ∃ T now, op = .updateWrite now ∧ Completion T c c')) := by
  intro c c'
  have hc : Reach bus (Shared.start (Drive.new name address) s₀) c := reach_runOps bus rfl ops
  have hp : c.phase = .idle := (runOps_eq bus _ rfl ops).2.2
  refine ⟨(hc.progress bus).not_pending_and_succeeded, ?_, ?_, ?_⟩
  · rintro T now rfl
    exact perform_request_arms bus c T now
  · exact perform_keeps_completed bus hp
  · exact perform_of_pending bus hc hp

/-- Load a configuration of position mode that needs one reading of a target, select the standard
records, request the state the drive is in, read one record, and run the write half. -/
def settleOps : List Op :=
  [.call (.loadConfiguration { mode := some .synchronousPosition, minReadings := 1 }),
   .call (.selectRx .standard), .call (.selectTx .standard),
   .call (.requestState .switchOnDisabled 0), .updateRead, .updateWrite 0]

/-- On the model device, that run completes the change at its write half, after which a read keeps
it completed; before the write half the change is pending. -/
theorem settleOps_completes_change :
    let c := (Shared.start (Drive.new "servo" 1) ({} : Device)).runOps Device.bus settleOps
    let b := (Shared.start (Drive.new "servo" 1) ({} : Device)).runOps Device.bus
      (settleOps.take 5)
    let c' := c.perform Device.bus .updateRead
    let b' := b.perform Device.bus (.updateWrite 0)
    c.drive.pending = false ∧ c.drive.succeeded = true ∧
      (c'.drive.pending = false ∧ c'.drive.succeeded = true) ∧
    b.drive.pending = true ∧
      ((b'.drive.pending = true ∧ b'.drive.succeeded = false) ∨
        (b'.drive.pending = false ∧ b'.drive.succeeded = true ∧
          ∃ T now, Op.updateWrite 0 = .updateWrite now ∧ Completion T b b')) := by
  have hc : ((Shared.start (Drive.new "servo" 1) ({} : Device)).runOps Device.bus
      settleOps).drive.pending = false := by decide
  have hs : ((Shared.start (Drive.new "servo" 1) ({} : Device)).runOps Device.bus
      settleOps).drive.succeeded = true := by decide
  have hb : ((Shared.start (Drive.new "servo" 1) ({} : Device)).runOps Device.bus
      (settleOps.take 5)).drive.pending = true := by decide
  exact ⟨hc, hs, (state_change_lifecycle Device.bus "servo" 1 {} settleOps .updateRead).2.2.1
    rfl hc hs, hb, (state_change_lifecycle Device.bus "servo" 1 {} (settleOps.take 5)
    (.updateWrite 0)).2.2.2 rfl hb⟩
end Shared

end ServoDrive
