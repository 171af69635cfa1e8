import ServoDrive.Proofs.Drive.Changes
import ServoDrive.Proofs.Drive.Log
import ServoDrive.Device.Bus

/-!
# Every evaluation consumes a record read after the requests before it

The read half holds the controller only to start and to store. Between its snapshot of the request
number and its store, the application may request a new state change. The read marks the reading
fresh only if the request number is still the one it took, so a record whose exchange began before
a request never counts toward that request. This module proves it for every interleaving of the two
actors, as long as fewer than 2^64 requests are made during one read: the request number wraps, and
a read that saw a whole lap of it could not tell.

The argument is one invariant of the reachable configurations (`Fresh`):

* while a read is in progress, the log since its snapshot holds only requests, and the store once
  the record is stored; the request number is the one the read took, counted up once for each of
  those requests (`PhaseInv`);
* a fresh reading is the newest store of the log, no evaluation consumed it, and its read started
  after the last request before it (`Event.Unconsumed`);
* every evaluation in the log consumed such a reading (`Event.AllFresh`).

The first part is what lets the mark decide freshness from the request number alone; the last part
is the theorem (`evaluation_consumes_record_read_after_request`).

Runs of whole operations make no request during a read, so they are reachable (`reach_runOps`).
-/

namespace ServoDrive

namespace Shared

open Event

variable {σ : Type} (bus : Bus σ)

/-! ## 1. Reachable configurations -/

/-- The configurations that runs of moves reach from `c₀`, as long as fewer than 2^64
(`UInt64.size`) requests are made during any one read. -/
inductive Reach (c₀ : Shared σ) : Shared σ → Prop
  | start : Reach c₀ c₀
  | step {c : Shared σ} (m : Move) :
      Reach c₀ c → (c.step bus m).requestsInFlight < UInt64.size → Reach c₀ (c.step bus m)

theorem Reach.requestsInFlight_lt {c₀ c : Shared σ} (h₀ : c₀.requestsInFlight < UInt64.size)
    (h : Reach bus c₀ c) : c.requestsInFlight < UInt64.size := by
  cases h with
  | start => exact h₀
  | step m _ hm => exact hm

/-! ## 2. Requests in flight

The requests made since the snapshot of the read in progress are those the log holds before its
newest snapshot. -/

theorem requestsInFlight_of_idle {c : Shared σ} (hp : c.phase = .idle) :
    c.requestsInFlight = 0 := by
  unfold requestsInFlight
  rw [hp]

theorem requestsInFlight_of_busy {c : Shared σ} (hp : c.phase ≠ .idle) :
    c.requestsInFlight = (c.log.takeWhile (!·.isSnapshot)).countP isRequest := by
  unfold requestsInFlight
  split
  · rename_i h
    exact absurd h hp
  · rfl

/-- The requests since a snapshot, once a store came after it. -/
theorem countP_since_store {rs rs' rest : List Event} (st : Except UndefinedState DriveState)
    (hrs : ∀ e ∈ rs, e.isRequest = true) (hrs' : ∀ e ∈ rs', e.isRequest = true) :
    ((rs ++ .store st :: (rs' ++ .snapshot :: rest)).takeWhile (!·.isSnapshot)).countP isRequest =
      rs.length + rs'.length := by
  have hns : ∀ l : List Event, (∀ e ∈ l, e.isRequest = true) → ∀ e ∈ l, (!e.isSnapshot) = true :=
    fun l hl e he => by
      have := hl e he
      cases e <;> simp_all [isRequest, isSnapshot]
  rw [List.takeWhile_append_of_pos (hns rs hrs), List.takeWhile_cons_of_pos (by rfl),
    List.takeWhile_append_of_pos (hns rs' hrs'), List.takeWhile_cons_of_neg (by simp [isSnapshot]),
    List.append_nil, List.countP_append, List.countP_cons_of_neg (by simp [isRequest]),
    List.countP_eq_length.2 hrs, List.countP_eq_length.2 hrs']

/-- While a read is in progress, the requests in flight depend on the log only. -/
theorem requestsInFlight_eq_of_busy {c c' : Shared σ} (hp : c.phase ≠ .idle)
    (hp' : c'.phase ≠ .idle) (hl : c'.log = c.log) :
    c'.requestsInFlight = c.requestsInFlight := by
  rw [requestsInFlight_of_busy hp, requestsInFlight_of_busy hp', hl]

/-- A read that just started has no request in flight. -/
theorem requestsInFlight_of_snapshot {c : Shared σ} {l : List Event}
    (hl : c.log = .snapshot :: l) : c.requestsInFlight = 0 := by
  unfold requestsInFlight
  split
  · rfl
  · rw [hl]
    rfl

/-- Moves other than requests make no request during a read. -/
theorem requestsInFlight_step {c : Shared σ} (h : c.requestsInFlight = 0) (m : Move)
    (hm : ∀ T now, m ≠ .call (.requestState T now)) : (c.step bus m).requestsInFlight = 0 := by
  cases m with
  | call call =>
    have hc : ∀ T now, call ≠ .requestState T now := fun T now hc => hm T now (by rw [hc])
    rw [step_call_of_not_request bus c call hc, ← h]
    unfold requestsInFlight
    rfl
  | begin =>
    obtain ⟨-, h₁⟩ | ⟨-, h₁⟩ := step_begin_cases bus c
    · rw [h₁]
      exact requestsInFlight_of_snapshot rfl
    · rw [h₁, h]
  | fetch =>
    obtain ⟨x, hp, h₁⟩ | ⟨-, h₁⟩ := step_fetch_cases bus c
    · rw [h₁, ← h]
      exact requestsInFlight_eq_of_busy (by simp [hp]) (by simp) rfl
    · rw [h₁, h]
  | store =>
    obtain ⟨x, bytes, r, hp, -, h₁⟩ | ⟨x, a, hp, -, h₁⟩ | ⟨-, h₁⟩ := step_store_cases bus c
    · -- the store is no request and no snapshot: the count runs on past it
      rw [h₁, requestsInFlight_of_busy (by simp), ← h, requestsInFlight_of_busy (by simp [hp]),
        List.takeWhile_cons_of_pos (by rfl), List.countP_cons_of_neg (by simp [isRequest])]
    · exact requestsInFlight_of_idle (by rw [h₁])
    · rw [h₁, h]
  | mark =>
    obtain ⟨x, st, hp, h₁⟩ | ⟨-, h₁⟩ := step_mark_cases bus c
    · rw [h₁, ← h]
      exact requestsInFlight_eq_of_busy (by simp [hp]) (by simp) rfl
    · rw [h₁, h]
  | finish =>
    obtain ⟨st, -, h₁⟩ | ⟨-, h₁⟩ := step_finish_cases bus c
    · refine requestsInFlight_of_idle ?_
      rw [h₁]
      split <;> rfl
    · rw [h₁, h]
  | write now =>
    obtain ⟨hp, -⟩ | ⟨-, h₁⟩ := step_write_cases bus c now
    · exact requestsInFlight_of_idle (step_write_effect bus c now hp).2.1
    · rw [h₁, h]

/-- Moves other than requests, from a configuration with no request in flight, reach
configurations with none. -/
theorem reach_run_of_no_request {c₀ c : Shared σ} (hc : Reach bus c₀ c)
    (h : c.requestsInFlight = 0) (ms : List Move)
    (hms : ∀ m ∈ ms, ∀ T now, m ≠ .call (.requestState T now)) :
    Reach bus c₀ (c.run bus ms) ∧ (c.run bus ms).requestsInFlight = 0 := by
  induction ms generalizing c with
  | nil => exact ⟨hc, h⟩
  | cons m ms ih =>
    have hm := hms m (List.mem_cons_self ..)
    have h' := requestsInFlight_step bus h m hm
    exact ih (Reach.step m hc (by rw [h']; decide)) h' fun m' hm' => hms m' (List.mem_cons_of_mem _ hm')

/-- An operation taken whole between reads makes no request during a read. -/
theorem reach_perform {c₀ c : Shared σ} (hc : Reach bus c₀ c) (hp : c.phase = .idle) (op : Op) :
    Reach bus c₀ (c.perform bus op) := by
  have h0 := requestsInFlight_of_idle hp
  cases op with
  | call call =>
    by_cases hreq : ∃ T now, call = .requestState T now
    · -- a request between reads leaves no read in progress
      obtain ⟨T, now, rfl⟩ := hreq
      have hidle : (c.step bus (.call (.requestState T now))).phase = .idle := by
        rw [step_requestState]
        exact hp
      exact Reach.step _ hc (by rw [requestsInFlight_of_idle hidle]; decide)
    · refine (reach_run_of_no_request bus hc h0 [.call call] ?_).1
      intro m hm T now hmT
      rw [List.mem_singleton.1 hm] at hmT
      exact hreq ⟨T, now, Move.call.inj hmT⟩
  | updateRead =>
    refine (reach_run_of_no_request bus hc h0 _ ?_).1
    intro m hm T now hmT
    simp only [Op.moves, List.mem_cons, List.not_mem_nil, or_false] at hm
    rcases hm with rfl | rfl | rfl | rfl | rfl <;> cases hmT
  | updateWrite now =>
    refine (reach_run_of_no_request bus hc h0 [.write now] ?_).1
    intro m hm T now' hmT
    rw [List.mem_singleton.1 hm] at hmT
    cases hmT

/-- Runs of whole operations from between reads are reachable. -/
theorem reach_runOps {c : Shared σ} (hp : c.phase = .idle) (ops : List Op) :
    Reach bus c (c.runOps bus ops) := by
  -- the runs stay between reads, so each operation starts where `reach_perform` applies
  suffices h : ∀ c', Reach bus c c' → c'.phase = .idle → Reach bus c (c'.runOps bus ops) from
    h c .start hp
  induction ops with
  | nil => exact fun c' hc' _ => hc'
  | cons op ops ih =>
    intro c' hc' hp'
    exact ih (c'.perform bus op) (reach_perform bus hc' hp' op) (perform_eq bus c' hp' op).2.2

/-! ## 3. The invariant -/

/-- Since its newest snapshot the log holds requests only, and the request number `r₀` that the
snapshot took, counted up once for each, is `r`. -/
def RequestsSince (r₀ r : UInt64) (log : List Event) : Prop :=
  ∃ rs rest, log = rs ++ .snapshot :: rest ∧ (∀ e ∈ rs, e.isRequest = true) ∧
    r₀ + rs.length.toUInt64 = r

/-- What the read in progress says of the controller and the log. -/
def PhaseInv (d : Drive) (log : List Event) : ReadPhase → Prop
  | .idle => True
  | .begun x => RequestsSince x.request d.request log
  | .fetched x _ => RequestsSince x.request d.request log
  | .stored x st => st = d.reading.driveState ∧
      ∃ rs tail, log = rs ++ .store st :: tail ∧ (∀ e ∈ rs, e.isRequest = true) ∧
        RequestsSince (x.request + rs.length.toUInt64) d.request tail
  | .marked _ => True

/-- The invariant of reachable configurations: a fresh reading is unconsumed and read after the
last request, and so was every reading an evaluation consumed. -/
structure Fresh (c : Shared σ) : Prop where
  phase : PhaseInv c.drive c.log c.phase
  fresh : c.drive.fresh = true → Unconsumed c.drive.reading.driveState c.log
  evaluations : AllFresh c.log

/-! ### Counting requests with a wrapping number -/

theorem toUInt64_succ (n : Nat) : (n + 1).toUInt64 = n.toUInt64 + 1 := by
  simp only [Nat.toUInt64_eq, UInt64.ofNat_add]
  rfl

/-- Fewer than 2^64 steps of one never bring a wrapping number back to where it was. -/
theorem eq_zero_of_add_toUInt64 {x : UInt64} {n : Nat} (hn : n < UInt64.size)
    (h : x + n.toUInt64 = x) : n = 0 := by
  have h0 : n.toUInt64 = 0 := by simpa using h
  have hn' : n.toUInt64.toNat = n := by
    simp
    omega
  rw [h0] at hn'
  simpa using hn'.symm

theorem requestsSince_snapshot (r : UInt64) (log : List Event) :
    RequestsSince r r (.snapshot :: log) :=
  ⟨[], log, rfl, by simp, by simp⟩

theorem RequestsSince.request {r₀ r : UInt64} {log : List Event} (h : RequestsSince r₀ r log)
    (T : DriveState) : RequestsSince r₀ (r + 1) (.request T :: log) := by
  obtain ⟨rs, rest, rfl, hrs, hr⟩ := h
  refine ⟨.request T :: rs, rest, rfl, ?_, ?_⟩
  · intro e he
    rcases List.mem_cons.1 he with rfl | he
    · rfl
    · exact hrs e he
  · rw [List.length_cons, toUInt64_succ, ← UInt64.add_assoc, hr]

theorem RequestsSince.shift {r₀ r : UInt64} {log : List Event} (h : RequestsSince r₀ r log) :
    RequestsSince (r₀ + 1) (r + 1) log := by
  obtain ⟨rs, rest, rfl, hrs, hr⟩ := h
  refine ⟨rs, rest, rfl, hrs, ?_⟩
  rw [← hr, UInt64.add_assoc, UInt64.add_comm 1, ← UInt64.add_assoc]

/-- A fresh reading and a read in progress: no request came since the read's snapshot. -/
theorem RequestsSince.begunAfterRequest {r₀ r : UInt64} {log : List Event}
    {st : Except UndefinedState DriveState} (h : RequestsSince r₀ r log)
    (hu : Unconsumed st log) : BegunAfterRequest log := by
  obtain ⟨rs, rest, rfl, hrs, -⟩ := h
  cases rs with
  | nil => trivial
  | cons e rs =>
    -- a request stands at the head of the log, where nothing unconsumed can be
    have he := hrs e (List.mem_cons_self ..)
    cases e with
    | request T => exact hu.elim
    | snapshot => cases he
    | store st' => cases he
    | evaluate st' => cases he

/-! ### The invariant depends on the cycle state only -/

theorem PhaseInv.of_cycleState {d d' : Drive} {log : List Event} {p : ReadPhase}
    (h : d'.cycleState = d.cycleState) (hinv : PhaseInv d log p) : PhaseInv d' log p := by
  obtain ⟨-, -, -, hr, -, -⟩ := Drive.cycleState_eq_iff.1 h
  have hs := Drive.driveState_eq_of_cycleState h
  cases p with
  | idle => trivial
  | begun x =>
    show RequestsSince x.request d'.request log
    rw [hr]
    exact hinv
  | fetched x a =>
    show RequestsSince x.request d'.request log
    rw [hr]
    exact hinv
  | stored x st =>
    show st = d'.reading.driveState ∧ _
    rw [hr, hs]
    exact hinv
  | marked st => trivial

/-- A move that keeps the cycle state and the log keeps the invariant, given what the new phase
says. -/
theorem Fresh.of_frame {c c' : Shared σ} (h : Fresh c)
    (hd : c'.drive.cycleState = c.drive.cycleState) (hl : c'.log = c.log)
    (hp : PhaseInv c'.drive c'.log c'.phase) : Fresh c' := by
  obtain ⟨-, -, hf, -, -, -⟩ := Drive.cycleState_eq_iff.1 hd
  have hs := Drive.driveState_eq_of_cycleState hd
  refine ⟨hp, ?_, hl ▸ h.evaluations⟩
  rw [hf, hs, hl]
  exact h.fresh

/-! ## 4. Each move keeps the invariant -/

section Step

variable {bus} {c : Shared σ}

/-- A request makes the reading stale and counts one more request into the read in progress. -/
theorem Fresh.request (h : Fresh c) (T : DriveState) (now : Nat) :
    Fresh (c.step bus (.call (.requestState T now))) := by
  rw [step_requestState]
  refine ⟨?_, (fun hf => by cases hf), h.evaluations⟩
  have hinv := h.phase
  show PhaseInv (c.drive.requestStateChange T now) (.request T :: c.log) c.phase
  cases hp : c.phase with
  | idle => trivial
  | begun x =>
    rw [hp] at hinv
    exact RequestsSince.request hinv T
  | fetched x a =>
    rw [hp] at hinv
    exact RequestsSince.request hinv T
  | stored x st =>
    rw [hp] at hinv
    obtain ⟨hst, rs, tail, hl, hrs, hsince⟩ := hinv
    refine ⟨hst, .request T :: rs, tail, by rw [hl]; rfl, ?_, ?_⟩
    · intro e he
      rcases List.mem_cons.1 he with rfl | he
      · rfl
      · exact hrs e he
    · rw [List.length_cons, toUInt64_succ, ← UInt64.add_assoc]
      exact hsince.shift
  | marked st => trivial

theorem Fresh.call (h : Fresh c) (call : Call) : Fresh (c.step bus (.call call)) := by
  by_cases hreq : ∃ T now, call = .requestState T now
  · obtain ⟨T, now, rfl⟩ := hreq
    exact h.request T now
  · have hc : ∀ T now, call ≠ .requestState T now := fun T now hc => hreq ⟨T, now, hc⟩
    rw [step_call_of_not_request bus c call hc]
    have hd := cycleState_exec c (Call.keeps_cycleState bus call hc)
    exact h.of_frame hd rfl (PhaseInv.of_cycleState hd h.phase)

/-- A read starts with the request number of its snapshot. -/
theorem Fresh.begin (h : Fresh c) : Fresh (c.step bus .begin) := by
  obtain ⟨-, h₁⟩ | ⟨-, h₁⟩ := step_begin_cases bus c
  · rw [h₁]
    have hd := Drive.cycleState_beginRead c.drive
    obtain ⟨-, -, hf, hr, -, -⟩ := Drive.cycleState_eq_iff.1 hd
    have hs := Drive.driveState_eq_of_cycleState hd
    refine ⟨?_, ?_, h.evaluations⟩
    · show PhaseInv _ _ ((c.drive.beginRead.1.map .begun).getD .idle)
      cases hx : c.drive.beginRead.1 with
      | none => trivial
      | some x =>
        show RequestsSince x.request c.drive.beginRead.2.request (.snapshot :: c.log)
        rw [hr, beginRead_request hx]
        exact requestsSince_snapshot _ _
    · show c.drive.beginRead.2.fresh = true →
        Unconsumed c.drive.beginRead.2.reading.driveState (.snapshot :: c.log)
      rw [hf, hs]
      exact h.fresh
  · rw [h₁]
    exact h

theorem Fresh.fetch (h : Fresh c) : Fresh (c.step bus .fetch) := by
  obtain ⟨x, hp, h₁⟩ | ⟨-, h₁⟩ := step_fetch_cases bus c
  · rw [h₁]
    have hinv := h.phase
    rw [hp] at hinv
    exact ⟨hinv, h.fresh, h.evaluations⟩
  · rw [h₁]
    exact h

/-- A stored record is the newest store, and a fresh one was read after the last request. -/
theorem Fresh.store (h : Fresh c) : Fresh (c.step bus .store) := by
  obtain ⟨x, bytes, r, hp, -, h₁⟩ | ⟨x, a, hp, -, h₁⟩ | ⟨-, h₁⟩ := step_store_cases bus c
  · rw [h₁]
    have hinv : RequestsSince x.request c.drive.request c.log := by
      have := h.phase
      rw [hp] at this
      exact this
    refine ⟨⟨rfl, [], c.log, rfl, by simp, ?_⟩, ?_, h.evaluations⟩
    · show RequestsSince (x.request + ([] : List Event).length.toUInt64) c.drive.request c.log
      simpa using hinv
    · intro hf
      exact ⟨rfl, hinv.begunAfterRequest (h.fresh hf)⟩
  · rw [h₁]
    exact h.of_frame rfl rfl trivial
  · rw [h₁]
    exact h

/-- The mark: with fewer than 2^64 requests in flight, the request number is the snapshot's only
if no request came since the snapshot, and then the stored record is fresh. -/
theorem Fresh.mark (h : Fresh c) (hin : c.requestsInFlight < UInt64.size) :
    Fresh (c.step bus .mark) := by
  obtain ⟨x, st, hp, h₁⟩ | ⟨-, h₁⟩ := step_mark_cases bus c
  · rw [h₁]
    refine ⟨trivial, ?_, h.evaluations⟩
    show (c.drive.markFresh x).fresh = true → Unconsumed (c.drive.markFresh x).reading.driveState c.log
    unfold Drive.markFresh
    split
    · rename_i heq
      intro _
      have hinv := h.phase
      rw [hp] at hinv
      obtain ⟨hst, rs, tail, hl, hrs, rs', rest, htail, hrs', hr⟩ := hinv
      -- the requests since the snapshot are all in flight, and the number came back to the snapshot's
      have hcount : c.requestsInFlight = rs.length + rs'.length := by
        rw [requestsInFlight_of_busy (by simp [hp]), hl, htail]
        exact countP_since_store st hrs hrs'
      have hx : x.request + (rs.length + rs'.length).toUInt64 = x.request := by
        rw [Nat.toUInt64_eq, UInt64.ofNat_add, ← UInt64.add_assoc, ← Nat.toUInt64_eq,
          ← Nat.toUInt64_eq, hr]
        exact beq_iff_eq.1 heq
      have hzero := eq_zero_of_add_toUInt64 (hcount ▸ hin) hx
      have hrs0 : rs = [] := List.eq_nil_of_length_eq_zero (by omega)
      have hrs'0 : rs' = [] := List.eq_nil_of_length_eq_zero (by omega)
      rw [hl, htail, hrs0, hrs'0, ← hst]
      exact ⟨rfl, trivial⟩
    · exact h.fresh
  · rw [h₁]
    exact h

theorem Fresh.finish (h : Fresh c) : Fresh (c.step bus .finish) := by
  obtain ⟨st, -, h₁⟩ | ⟨-, h₁⟩ := step_finish_cases bus c
  · rw [h₁]
    split
    · exact h.of_frame (cycleState_exec c (Drive.keeps_readFaultCode bus)) rfl trivial
    · exact h.of_frame rfl rfl trivial
  · rw [h₁]
    exact h

/-- An evaluation consumes the fresh reading. -/
theorem Fresh.write (h : Fresh c) (now : Nat) : Fresh (c.step bus (.write now)) := by
  obtain ⟨hp, -⟩ | ⟨-, h₁⟩ := step_write_cases bus c now
  · obtain ⟨hd, hp', hl⟩ := step_write_effect bus c now hp
    by_cases hrun : (c.drive.mode.isSome && c.drive.fresh && c.drive.pending) = true
    · rw [if_pos hrun] at hd hl
      have hfresh : c.drive.fresh = true := by
        simp only [Bool.and_eq_true] at hrun
        exact hrun.1.2
      refine ⟨by rw [hp']; trivial, fun hf => ?_, ?_⟩
      · obtain ⟨-, -, hf', -⟩ := Drive.cycleState_eq_iff.1 hd
        rw [hf', Drive.engage_fresh] at hf
        cases hf
      · rw [hl]
        exact ⟨h.fresh hfresh, h.evaluations⟩
    · rw [if_neg hrun] at hd hl
      exact h.of_frame hd hl (by rw [hp']; trivial)
  · rw [h₁]
    exact h

theorem Fresh.step (h : Fresh c) (hin : c.requestsInFlight < UInt64.size) (m : Move) :
    Fresh (c.step bus m) := by
  cases m with
  | call call => exact h.call call
  | begin => exact h.begin
  | fetch => exact h.fetch
  | store => exact h.store
  | mark => exact h.mark hin
  | finish => exact h.finish
  | write now => exact h.write now

end Step

/-- Every configuration reachable from a new controller satisfies the invariant. -/
theorem Reach.fresh {name : String} {address : UInt16} {s₀ : σ} {c : Shared σ}
    (hc : Reach bus (Shared.start (Drive.new name address) s₀) c) : Fresh c := by
  have h₀ : (Shared.start (Drive.new name address) s₀).requestsInFlight < UInt64.size := by
    rw [requestsInFlight_of_idle rfl]
    decide
  induction hc with
  | start => exact ⟨trivial, (fun hf => by cases hf), trivial⟩
  | step m hreach _ ih =>
    exact ih.step (hreach.requestsInFlight_lt bus h₀) m

/-! ## 5. Evaluations consume records read after the requests -/

/-- In every interleaving of the two actors on a new controller, with fewer than 2^64 requests
during any one read, each evaluation of the engine consumed the record of the newest store before
it, with only snapshots between them; and the read that stored it took its snapshot after every
request before the store. So every request made before an evaluation was made before the snapshot
of the record it consumed. -/
theorem evaluation_consumes_record_read_after_request {name : String} {address : UInt16} {s₀ : σ}
    {c : Shared σ} (hc : Reach bus (start (Drive.new name address) s₀) c)
    {newer older : List Event} {st : Except UndefinedState DriveState}
    (hlog : c.log = newer ++ .evaluate st :: older) :
    ∃ a b₁ b₂, older = a ++ .store st :: (b₁ ++ .snapshot :: b₂) ∧
      (∀ e ∈ a, e = .snapshot) ∧ ∀ e ∈ b₁, e.isSnapshot = false ∧ e.isRequest = false :=
  (unconsumed_iff st older).1 ((allFresh_iff c.log).1 (hc.fresh bus).evaluations newer st older hlog)

/-- A new controller on the model device: the standard transmit layout and a mode are set, a
change to `operationEnabled` is requested, and one bus cycle runs. -/
def requestThenCycle : Shared Device :=
  (Shared.start (Drive.new "servo" 1) {}).runOps Device.bus
    [.call (.selectTx .standard), .call (.loadConfiguration { mode := some .synchronousPosition }),
     .call (.requestState .operationEnabled 0), .updateRead, .updateWrite 0]

/-- In that run the engine evaluates once, on the record the cycle's read stored after the
request. -/
theorem requestThenCycle_evaluates_record_read_after_request :
    Reach Device.bus (Shared.start (Drive.new "servo" 1) {}) requestThenCycle ∧
      requestThenCycle.log = [] ++ .evaluate (.ok .switchOnDisabled) ::
        [.store (.ok .switchOnDisabled), .snapshot, .request .operationEnabled] ∧
      ∃ a b₁ b₂, [Event.store (.ok .switchOnDisabled), .snapshot, .request .operationEnabled] =
          a ++ .store (.ok .switchOnDisabled) :: (b₁ ++ .snapshot :: b₂) ∧
        (∀ e ∈ a, e = .snapshot) ∧ ∀ e ∈ b₁, e.isSnapshot = false ∧ e.isRequest = false :=
  have hreach : Reach Device.bus (Shared.start (Drive.new "servo" 1) {}) requestThenCycle :=
    reach_runOps Device.bus rfl _
  have hlog : requestThenCycle.log = [] ++ .evaluate (.ok .switchOnDisabled) ::
      [.store (.ok .switchOnDisabled), .snapshot, .request .operationEnabled] := rfl
  ⟨hreach, hlog, evaluation_consumes_record_read_after_request Device.bus hreach hlog⟩

end Shared

end ServoDrive
