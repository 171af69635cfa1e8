import ServoDrive.Proofs.Drive.StateChange
import ServoDrive.Proofs.Drive.ControlWord

/-!
# The dwell between controlword changes

The engine changes the held controlword only once the dwell has elapsed: the configured minimum
time since the change's dwell start, which the request sets and every evaluation after the dwell
restarts, whether it assigns a controlword or meets a statusword naming no state or a state the
table leads nowhere from. Before the dwell has elapsed an evaluation of a reading other than the
target only clears the count of successes.

Two moves read the clock: a request and a write half (`Move.clock`). The statement is about every
run of moves whose clock readings never go back, from any configuration and whatever the bus
answers:

* `DwellFrom t`: every pending change started its dwell at `t` or later. A request at `t` or an
  assigning write half at `t` establishes it (`dwellFrom_of_startsDwell`), and every move reading
  the clock at `t` or later keeps it (`dwellFrom_step`), since the engine only keeps the start or
  restarts it at its own reading. Only requests and write halves touch the change at all.
* So a write half that assigns the controlword at `now` after a dwell started at `t` has
  `t + minTimeout ≤ now`, with the minimum time of the configuration in force at the assignment
  (`dwell_precedes_assignment`): two assignments, and a request and the next assignment, are
  that far apart.
-/

namespace ServoDrive

/-- The clock reading a move takes: a request's and a write half's. The other moves read no
clock. -/
def Move.clock : Move → Option Nat
  | .call (.requestState _ now) => some now
  | .write now => some now
  | _ => none

namespace Drive

/-- Every pending change started its dwell at `t` or later. -/
def DwellFrom (t : Nat) (d : Drive) : Prop :=
  ∀ T since n, d.change = .pending T since n → t ≤ since

theorem DwellFrom.of_change {t : Nat} {d d' : Drive} (h : d.DwellFrom t)
    (hc : d'.change = d.change) : d'.DwellFrom t := by
  intro T since n hp
  exact h T since n (hc ▸ hp)

/-- The engine keeps the dwell start or restarts it at its own reading. -/
theorem DwellFrom.engage {t now : Nat} {d : Drive} (h : d.DwellFrom t) (ht : t ≤ now) :
    (d.engage now).DwellFrom t := by
  intro T' since' n' hp
  cases hch : d.change with
  | idle =>
    rw [engage_of_idle d now hch, hch] at hp
    cases hp
  | pending T since n =>
    have hs := h T since n hch
    rw [engage_change now hch] at hp
    -- a reading of the target keeps the start; any other reading keeps it or restarts it at `now`
    split at hp
    · split at hp
      · cases hp
      · cases hp
        exact hs
    · cases hp
      split <;> omega

end Drive

namespace Shared

variable {σ : Type} (bus : Bus σ)

/-- The write half at `now` assigns the held controlword: no read is in progress and the engine
steps along a transition. -/
def Assigns (c : Shared σ) (now : Nat) : Prop :=
  c.phase = .idle ∧ ∃ tr, c.drive.StepsAlong now tr

/-- The move starts a dwell at `t`: a request at `t`, or a write half at `t` that assigns the
controlword. -/
def StartsDwell (c : Shared σ) (m : Move) (t : Nat) : Prop :=
  (∃ T, m = .call (.requestState T t)) ∨ (m = .write t ∧ c.Assigns t)

variable {c : Shared σ}

/-- An assigning write half steps the controlword along its transition and restarts the dwell at
its reading. -/
theorem step_write_of_stepsAlong {now : Nat} {tr : Transition} (hp : c.phase = .idle)
    (h : c.drive.StepsAlong now tr) :
    ∃ T, (c.step bus (.write now)).drive.change = .pending T now 0 ∧
      (c.step bus (.write now)).drive.controlWord = tr.controlWord := by
  obtain ⟨hmode, hfresh, T, since, n, s, hch, hst, hsT, hwait, hnext⟩ := h
  obtain ⟨hd, -, -⟩ := step_write_effect bus c now hp
  rw [if_pos (Drive.engineRuns_of_pending hmode hfresh hch),
    Drive.engage_of_next now hch hst hsT hwait hnext] at hd
  obtain ⟨hc, -, -, -, hw, -⟩ := Drive.cycleState_eq_iff.1 hd
  exact ⟨T, hc, hw⟩

/-- A write half that evaluates a reading other than the target before the dwell has elapsed
clears the count of successes and keeps the controlword and the dwell start. -/
theorem step_write_waits {now since : Nat} {T : DriveState} {n : UInt32} (hp : c.phase = .idle)
    (hmode : c.drive.mode.isSome = true) (hfresh : c.drive.fresh = true)
    (hch : c.drive.change = .pending T since n)
    (hT : Drive.names c.drive.reading.driveState T = false)
    (hwait : now - since < c.drive.config.minTimeout) :
    (c.step bus (.write now)).drive.change = .pending T since 0 ∧
      (c.step bus (.write now)).drive.controlWord = c.drive.controlWord := by
  have hearly : ¬ c.drive.config.minTimeout ≤ now - since := by omega
  obtain ⟨hd, -, -⟩ := step_write_effect bus c now hp
  rw [if_pos (Drive.engineRuns_of_pending hmode hfresh hch)] at hd
  obtain ⟨hc, -, -, -, hw, -⟩ := Drive.cycleState_eq_iff.1 hd
  refine ⟨?_, ?_⟩
  · rw [hc, Drive.engage_change now hch, hT, if_neg Bool.false_ne_true, if_neg hearly]
  · rw [hw, Drive.engage_controlWord now hch, if_neg fun h => hearly h.2]

/-- The move that starts a dwell at `t` leaves every pending change with its dwell from `t`. -/
theorem dwellFrom_of_startsDwell {m : Move} {t : Nat} (h : c.StartsDwell m t) :
    (c.step bus m).drive.DwellFrom t := by
  rcases h with ⟨T, rfl⟩ | ⟨rfl, hp, tr, htr⟩
  · intro T' since n hch
    rw [step_requestState] at hch
    cases hch
    exact Nat.le_refl t
  · obtain ⟨T, hch, -⟩ := step_write_of_stepsAlong bus hp htr
    intro T' since n hch'
    rw [hch] at hch'
    cases hch'
    exact Nat.le_refl t

/-- A move that reads the clock at `t` or later, or not at all, keeps the dwell from `t`. -/
theorem dwellFrom_step {m : Move} {t : Nat} (h : c.drive.DwellFrom t)
    (hm : ∀ r ∈ m.clock, t ≤ r) : (c.step bus m).drive.DwellFrom t := by
  by_cases hr : ∃ T now, m = .call (.requestState T now)
  · obtain ⟨T, now, rfl⟩ := hr
    have ht : t ≤ now := hm now rfl
    intro T' since n hch
    rw [step_requestState] at hch
    cases hch
    exact ht
  by_cases hw : ∃ now, m = .write now
  · obtain ⟨now, rfl⟩ := hw
    have ht : t ≤ now := hm now rfl
    rcases step_write_cases bus c now with ⟨hp, -⟩ | ⟨-, hs⟩
    · -- between reads the write half leaves the change as the engine does, or alone
      obtain ⟨hd, -, -⟩ := step_write_effect bus c now hp
      obtain ⟨hc, -⟩ := Drive.cycleState_eq_iff.1 hd
      split at hc
      · exact (h.engage ht).of_change hc
      · exact h.of_change hc
    · rwa [hs]
  · have hr' : ∀ T now, m ≠ .call (.requestState T now) := fun T now he => hr ⟨T, now, he⟩
    have hw' : ∀ now, m ≠ .write now := fun now he => hw ⟨now, he⟩
    exact h.of_change (step_quiet bus c hr' hw').1

/-- A run whose moves read the clock at `t` or later keeps the dwell from `t`. -/
theorem dwellFrom_run {t : Nat} (moves : List Move) (h : c.drive.DwellFrom t)
    (hm : ∀ m ∈ moves, ∀ r ∈ m.clock, t ≤ r) : (c.run bus moves).drive.DwellFrom t := by
  induction moves generalizing c with
  | nil => exact h
  | cons m moves ih =>
    exact ih (dwellFrom_step bus h (hm m (List.mem_cons_self ..)))
      fun m' hm' => hm m' (List.mem_cons_of_mem _ hm')

/-- Readings that never go back after a reading `t`: every later move reads `t` or later. -/
theorem le_of_clock_pairwise {m : Move} {t : Nat} (hm : m.clock = some t) (moves : List Move)
    (h : ((m :: moves).filterMap Move.clock).Pairwise (· ≤ ·)) :
    ∀ m' ∈ moves, ∀ r ∈ m'.clock, t ≤ r := by
  rw [List.filterMap_cons, hm, List.pairwise_cons] at h
  intro m' hm' r hr
  exact h.1 r (List.mem_filterMap.2 ⟨m', hm', hr⟩)

/-- For every run whose clock readings never go back, from any configuration and whatever the bus
answers: a write half that assigns the controlword at `now` after a request or an assignment at
`t` has `t + minTimeout ≤ now`, with the minimum time of the configuration in force at the
assignment, whatever readings, undefined statuswords and table misses came between; and a write
half that evaluates a reading other than the target before the dwell has elapsed clears the count
of successes and keeps the controlword and the dwell start. -/
theorem dwell_precedes_assignment :
    (∀ (c : Shared σ) (m : Move) (t : Nat) (mid : List Move) (now : Nat),
      c.StartsDwell m t →
      ((m :: (mid ++ [Move.write now])).filterMap Move.clock).Pairwise (· ≤ ·) →
      (c.run bus (m :: mid)).Assigns now →
      t + (c.run bus (m :: mid)).drive.config.minTimeout ≤ now) ∧
    ∀ (c : Shared σ) (now since : Nat) (T : DriveState) (n : UInt32),
      c.phase = .idle → c.drive.mode.isSome = true → c.drive.fresh = true →
      c.drive.change = .pending T since n → Drive.names c.drive.reading.driveState T = false →
      now - since < c.drive.config.minTimeout →
      (c.step bus (.write now)).drive.change = .pending T since 0 ∧
        (c.step bus (.write now)).drive.controlWord = c.drive.controlWord := by
  refine ⟨fun c m t mid now hstart hclock hassign => ?_,
    fun c now since T n hp hmode hfresh hch hT hwait =>
      step_write_waits bus hp hmode hfresh hch hT hwait⟩
  have hm : m.clock = some t := by
    rcases hstart with ⟨T, rfl⟩ | ⟨rfl, -⟩ <;> rfl
  have hlater := le_of_clock_pairwise hm (mid ++ [.write now]) hclock
  -- the dwell from `t` holds after the starting move and through the moves between
  have hdwell : (c.run bus (m :: mid)).drive.DwellFrom t :=
    dwellFrom_run bus mid (dwellFrom_of_startsDwell bus hstart)
      fun m' hm' => hlater m' (List.mem_append_left _ hm')
  have hnow : t ≤ now := hlater (Move.write now) (by simp) now rfl
  obtain ⟨-, tr, -, -, T, since, n, -, hch, -, -, hwait, -⟩ := hassign
  have hsince := hdwell T since n hch
  omega

/-- A new controller on the model device, with the standard transmit layout and a mode set. -/
def dwellStart : Shared Device :=
  (Shared.start (Drive.new "servo" 1) {}).runOps Device.bus
    [.call (.selectTx .standard), .call (.loadConfiguration { mode := some .synchronousPosition })]

/-- The same controller after a request of `operationEnabled` at 0 and one read. -/
def dwellBench : Shared Device :=
  dwellStart.run Device.bus (.call (.requestState .operationEnabled 0) :: Op.updateRead.moves)

/-- After the request and the read, a write half at 1000, the default dwell, assigns the
controlword, and one at 0 waits: it keeps the dwell start and the controlword. -/
theorem dwellBench_waits_then_assigns :
    dwellBench.Assigns 1000 ∧ 0 + dwellBench.drive.config.minTimeout ≤ 1000 ∧
      (dwellBench.step Device.bus (.write 0)).drive.change = .pending .operationEnabled 0 0 ∧
      (dwellBench.step Device.bus (.write 0)).drive.controlWord = dwellBench.drive.controlWord := by
  have hassign : dwellBench.Assigns 1000 :=
    ⟨rfl, .shutdown, rfl, rfl, .operationEnabled, 0, 0, .switchOnDisabled, rfl, rfl, by decide,
      by decide, rfl⟩
  refine ⟨hassign, ?_, ?_⟩
  · exact (dwell_precedes_assignment Device.bus).1 dwellStart _ 0 Op.updateRead.moves 1000
      (.inl ⟨.operationEnabled, rfl⟩) (by decide) hassign
  · exact (dwell_precedes_assignment Device.bus).2 dwellBench 0 0 .operationEnabled 0 rfl rfl rfl
      rfl rfl (by decide)

end Shared

end ServoDrive
