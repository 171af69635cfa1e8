import ServoDrive.Proofs.Device.Answers

/-!
# A cyclic state change against the model device

A controller asked for a state change on the cyclic path walks the drive along the table's path
one transition per cycle and then counts readings of the target. This module proves it against
the model device on a bench, when the device plays along (`Device.Faithful`), the controller has
negotiated both record layouts, a mode of operation is set, the dwell is zero and the success
threshold `m` is at least one.

From a stable state `s` toward a stable target `t` other than `fault`, the table's path from `s` to
`t` exists and is not empty (`Transition.path_ok_of_stable`). Every cycle sends exactly one record;
the record of cycle `j + 1` carries the controlword of the path's transition `j`, or of its last
one once the path is done. The device is in `t` after `|path|` cycles and stays there, the
controller records no `cyclicTransition` (at most `errorCodeRead`, for a device read in fault), and
the change succeeds exactly at the end of cycle `|path| + m` (`cyclic_change_follows_path`).

The proof follows the run. A path is a list of transitions that `Leads` the drive from state to
state, and `walk` gives the state after `j` of them. The invariant `Bench.OnTrack` says where the
device and the controller stand after `j` cycles; one cycle keeps it (`Bench.OnTrack.cycle`), in
three phases: stepping along the path, counting readings of the target, and done.
-/

namespace ServoDrive

/-! ## 1. Paths -/

namespace Transition

/-- A list of transitions leads a drive in `c` to `T`: each is the table's next step toward `T`
from the state the ones before lead to, and the last one reaches `T`. -/
def Leads (T : DriveState) : DriveState → List Transition → Prop
  | c, [] => c = T
  | c, tr :: path => c ≠ T ∧ next T c = .ok tr ∧ Leads T tr.destination path

/-- The state a drive in `c` reaches after following `j` transitions of a path, or all of them if
the path is shorter. -/
def walk : DriveState → List Transition → Nat → DriveState
  | c, [], _ => c
  | c, _ :: _, 0 => c
  | _, tr :: path, j + 1 => walk tr.destination path j

@[simp] theorem walk_zero (c : DriveState) (path : List Transition) : walk c path 0 = c := by
  cases path <;> rfl

/-- The transitions the table selects lead to the requested state. The induction follows
`pathWithin`: a path is found only where the target is reached or the table's next step leads on
to a path from its destination. -/
theorem leads_pathWithin {T : DriveState} {room : Nat} {c : DriveState} {path : List Transition}
    (h : pathWithin T room c = .ok path) : Leads T c path := by
  fun_induction pathWithin T room c generalizing path with
  | case1 =>
    cases h
    rfl
  | case2 | case3 =>
    -- no step toward the target, or no room left for one
    cases h
  | case4 c hTc tr room hn ih =>
    cases hrest : pathWithin T room tr.destination with
    | error e =>
      rw [hrest] at h
      cases h
    | ok rest =>
      rw [hrest] at h
      cases h
      exact ⟨fun h => hTc h.symm, hn, ih hrest⟩

/-- Between stable states, toward any target but `fault`, the table finds a path. -/
theorem path_ok_of_stable {s t : DriveState} (hs : s.isStable = true) (ht : t.isStable = true)
    (htf : t ≠ .fault) : ∃ path, Transition.path t s = .ok path := by
  -- the six stable states, checked pair by pair
  have hall : ∀ s ∈ DriveState.stable, ∀ t ∈ DriveState.stable, t ≠ .fault →
      (Transition.path t s).isOk = true := by
    decide
  have hok := hall s ((DriveState.isStable_iff_mem_stable s).1 hs) t
    ((DriveState.isStable_iff_mem_stable t).1 ht) htf
  cases hp : Transition.path t s with
  | ok path => exact ⟨path, rfl⟩
  | error e =>
    rw [hp] at hok
    cases hok

namespace Leads

variable {T c : DriveState} {path : List Transition}

/-- A path out of a state other than the target has a transition. -/
theorem ne_nil (h : Leads T c path) (hcT : c ≠ T) : path ≠ [] := by
  rintro rfl
  exact hcT h

/-- Once the whole path is followed, the drive is in the target. -/
theorem walk_of_le (h : Leads T c path) {j : Nat} (hj : path.length ≤ j) : walk c path j = T := by
  induction path generalizing c j with
  | nil => exact h
  | cons tr path ih =>
    obtain ⟨j, rfl⟩ : ∃ j', j = j' + 1 := ⟨j - 1, by simp at hj; omega⟩
    exact ih h.2.2 (by simpa using hj)

/-- Before the path is done, the drive is not in the target, the table's next step is the path's
next transition, and following it reaches that transition's destination. -/
theorem step (h : Leads T c path) {j : Nat} (hj : j < path.length) :
    walk c path j ≠ T ∧ next T (walk c path j) = .ok (path.getD j default) ∧
      walk c path (j + 1) = (path.getD j default).destination := by
  induction path generalizing c j with
  | nil => cases hj
  | cons tr path ih =>
    cases j with
    | zero => exact ⟨h.1, h.2.1, by simp [walk]⟩
    | succ j => exact ih h.2.2 (by simpa using hj)

/-- The last transition of a path reaches the target. -/
theorem last_destination (h : Leads T c path) (hne : path ≠ []) :
    (path.getD (path.length - 1) default).destination = T := by
  have hlen : 0 < path.length := List.length_pos_iff.2 hne
  have hlast := (h.step (j := path.length - 1) (by omega)).2.2
  rw [Nat.sub_add_cancel hlen, h.walk_of_le (Nat.le_refl _)] at hlast
  exact hlast.symm

end Leads

end Transition

open Transition

/-! ## 2. Where a change stands after `j` cycles -/

/-- A count below the threshold does not wrap: the threshold is reached at the next reading
exactly when the count plus one reaches it. -/
theorem threshold_le_succ_iff {k : Nat} {w : UInt32} (hk : k < w.toNat) :
    w ≤ k.toUInt32 + 1 ↔ w.toNat ≤ k + 1 := by
  have hw := w.toNat_lt
  rw [UInt32.le_iff_toNat_le, UInt32.toNat_add, UInt32.toNat_one]
  simp only [Nat.toUInt32, UInt32.toNat_ofNat', Nat.reducePow]
  have hk' : k < 4294967296 := by omega
  have hk'' : k + 1 < 4294967296 := by omega
  rw [Nat.mod_eq_of_lt hk', Nat.mod_eq_of_lt hk'']

variable {T s : DriveState} {path : List Transition} {m : Nat}

/-- The controller `j` cycles into a change toward `T` along `path`, with success threshold `m`:
negotiated layouts, a mode, no dwell; the change pending with `j - |path|` successes counted
until cycle `|path| + m` and complete from then on; and, after the first cycle, the controlword
of the path's transition `j - 1`, or of its last one. -/
structure Drive.OnTrack (T : DriveState) (path : List Transition) (m j : Nat) (d : Drive) :
    Prop where
  rx : d.rxType ≠ .na
  tx : d.txType ≠ .na
  mode : d.mode.isSome = true
  dwell : d.config.minTimeout = 0
  threshold : d.config.minReadings.toNat = m
  counting : j < path.length + m → ∃ t₀, d.change = .pending T t₀ (j - path.length).toUInt32
  done : path.length + m ≤ j → d.change = .idle
  succeeded : d.succeeded = decide (path.length + m ≤ j)
  controlWord : 0 < j →
    d.controlWord = (path.getD (min (j - 1) (path.length - 1)) default).controlWord

/-- Away from the cycle that completes the change, the success flag is what it was. -/
theorem Drive.OnTrack.succeeded_of_ne {d : Drive} {j : Nat} (h : d.OnTrack T path m j)
    (hj : path.length + m ≠ j + 1) : d.succeeded = decide (path.length + m ≤ j + 1) := by
  rw [h.succeeded]
  simp only [decide_eq_decide]
  omega

/-- Past the path, the controller holds the last transition's controlword, which keeps the device
in the target. -/
theorem Drive.OnTrack.past_path {d : Drive} {j : Nat} (h : d.OnTrack T path m j)
    (hpath : Leads T s path) (hne : path ≠ []) (hj : path.length ≤ j) :
    d.controlWord = (path.getD (min j (path.length - 1)) default).controlWord ∧
      Device.applyControlWord (walk s path j) d.controlWord.raw = walk s path (j + 1) := by
  have hlen : 0 < path.length := List.length_pos_iff.2 hne
  have hlast : d.controlWord = (path.getD (path.length - 1) default).controlWord := by
    rw [h.controlWord (by omega), Nat.min_eq_right (by omega)]
  refine ⟨by rw [hlast, Nat.min_eq_right (by omega)], ?_⟩
  -- the last transition leads to the target, and its controlword keeps a drive there
  rw [hpath.walk_of_le hj, hpath.walk_of_le (by omega), hlast]
  conv => rhs; rw [← hpath.last_destination hne]
  rw [← applyControlWord_destination, hpath.last_destination hne]

/-! The engine's turn in cycle `j + 1`, on a reading of the state the device is in that the read
half stored and marked fresh, in each of the three phases of the change. -/

section Engage

variable {d : Drive} {reading : Reading} {j : Nat}

/-- Stepping along the path (`j < |path|`): the engine takes the path's transition `j` and starts
the change over, pending with no success counted. -/
theorem Drive.OnTrack.engage_of_lt (h : d.OnTrack T path m j) (hpath : Leads T s path)
    (hj : j < path.length) (hst : reading.driveState = .ok (walk s path j)) (now : Nat) :
    let d₁ : Drive := { d with reading, fresh := true }
    (if d₁.pending then d₁.engage now else d₁) =
      { d₁ with fresh := false, controlWord := (path.getD j default).controlWord,
                change := .pending T now 0 } := by
  intro d₁
  obtain ⟨t₀, hch⟩ := h.counting (by omega)
  obtain ⟨hcT, hnext, -⟩ := hpath.step hj
  have hch₁ : d₁.change = .pending T t₀ 0 := by
    show d.change = _
    rw [hch, Nat.sub_eq_zero_of_le (Nat.le_of_lt hj)]
    rfl
  have hwait : d₁.config.minTimeout ≤ now - t₀ := by
    show d.config.minTimeout ≤ _
    rw [h.dwell]
    exact Nat.zero_le _
  have hp : d₁.pending = true := by simp [Drive.pending, hch₁]
  rw [if_pos hp]
  exact Drive.engage_of_next now hch₁ hst hcT hwait hnext

/-- Counting readings of the target (`|path| ≤ j < |path| + m`): the engine counts this one, and
the change completes exactly when it is the `m`-th. -/
theorem Drive.OnTrack.engage_of_counting (h : d.OnTrack T path m j) (hpath : Leads T s path)
    (hj : path.length ≤ j) (hj' : j < path.length + m)
    (hst : reading.driveState = .ok (walk s path j)) (now : Nat) :
    let d₁ : Drive := { d with reading, fresh := true }
    ∃ t₀, (if d₁.pending then d₁.engage now else d₁) =
      if path.length + m = j + 1 then { d₁ with fresh := false, change := .idle, succeeded := true }
      else { d₁ with fresh := false, change := .pending T t₀ ((j - path.length).toUInt32 + 1) } := by
  intro d₁
  obtain ⟨t₀, hch⟩ := h.counting hj'
  have hk : j - path.length < d.config.minReadings.toNat := by
    rw [h.threshold]
    omega
  -- the count stays below the threshold, so it does not wrap when this reading is added
  have hreach : d.config.minReadings ≤ (j - path.length).toUInt32 + 1 ↔
      path.length + m = j + 1 := by
    rw [threshold_le_succ_iff hk, h.threshold]
    omega
  have hch₁ : d₁.change = .pending T t₀ (j - path.length).toUInt32 := hch
  have hst₁ : d₁.reading.driveState = .ok T := hpath.walk_of_le hj ▸ hst
  have hp : d₁.pending = true := by simp [Drive.pending, hch₁]
  refine ⟨t₀, ?_⟩
  rw [if_pos hp, Drive.engage_of_target now hch₁ hst₁]
  exact ite_congr (propext hreach) (fun _ => rfl) (fun _ => rfl)

/-- Done (`|path| + m ≤ j`): no change is pending, and the engine no longer runs. -/
theorem Drive.OnTrack.engage_of_done (h : d.OnTrack T path m j) (hj : path.length + m ≤ j)
    (now : Nat) :
    let d₁ : Drive := { d with reading, fresh := true }
    (if d₁.pending then d₁.engage now else d₁) = d₁ := by
  intro d₁
  have hp : d₁.pending = false := by simp [Drive.pending, d₁, h.done hj]
  rw [hp, if_neg Bool.false_ne_true]

/-- The engine in cycle `j + 1`, on a fresh reading of the state the device is in, keeps the
controller on track, keeps the error history, and sends a controlword that brings the device to
its next state along the path. -/
theorem Drive.OnTrack.engage (h : d.OnTrack T path m j) (hpath : Leads T s path)
    (hne : path ≠ []) (hm : 1 ≤ m) (hst : reading.driveState = .ok (walk s path j)) (now : Nat) :
    let d₁ : Drive := { d with reading, fresh := true }
    let d₂ := if d₁.pending then d₁.engage now else d₁
    d₂.OnTrack T path m (j + 1) ∧ d₂.reading.errors = reading.errors ∧
      Device.applyControlWord (walk s path j) d₂.controlWord.raw = walk s path (j + 1) := by
  intro d₁ d₂
  rcases Nat.lt_or_ge j path.length with hj | hj
  · -- stepping along the path: the engine takes the path's transition `j`
    have hd₂ : d₂ =
        { d₁ with fresh := false, controlWord := (path.getD j default).controlWord,
                  change := .pending T now 0 } :=
      h.engage_of_lt hpath hj hst now
    obtain ⟨-, hnext, hwalk⟩ := hpath.step hj
    rw [hd₂]
    refine ⟨⟨h.rx, h.tx, h.mode, h.dwell, h.threshold, fun _ => ⟨now, ?_⟩,
      fun hle => absurd hle (by omega), h.succeeded_of_ne (by omega), fun _ => ?_⟩, rfl, ?_⟩
    · rw [Nat.sub_eq_zero_of_le hj]
      rfl
    · show (path.getD j default).controlWord = _
      rw [Nat.add_sub_cancel, Nat.min_eq_left (by omega)]
    · show Device.applyControlWord _ (path.getD j default).controlWord.raw = _
      rw [hwalk]
      exact applyControlWord_of_next hnext
  · -- past the path the controlword stays the last one, which keeps the device in the target
    obtain ⟨hcw, hstay⟩ := h.past_path hpath hne hj
    rcases Nat.lt_or_ge j (path.length + m) with hj' | hj'
    · obtain ⟨t₀, hd₂⟩ : ∃ t₀, d₂ = if path.length + m = j + 1 then
            { d₁ with fresh := false, change := .idle, succeeded := true }
          else { d₁ with fresh := false,
                         change := .pending T t₀ ((j - path.length).toUInt32 + 1) } :=
        h.engage_of_counting hpath hj hj' hst now
      by_cases hfin : path.length + m = j + 1
      · rw [hd₂, if_pos hfin]
        exact ⟨⟨h.rx, h.tx, h.mode, h.dwell, h.threshold, fun hlt => absurd hlt (by omega),
          fun _ => rfl, (decide_eq_true (by omega)).symm, fun _ => hcw⟩, rfl, hstay⟩
      · rw [hd₂, if_neg hfin]
        refine ⟨⟨h.rx, h.tx, h.mode, h.dwell, h.threshold, fun _ => ⟨t₀, ?_⟩,
          fun hle => absurd hle (by omega), h.succeeded_of_ne hfin, fun _ => hcw⟩, rfl, hstay⟩
        show StateChange.pending T t₀ _ = _
        rw [Nat.sub_add_comm hj]
        simp
    · have hd₂ : d₂ = d₁ := h.engage_of_done hj' now
      rw [hd₂]
      exact ⟨⟨h.rx, h.tx, h.mode, h.dwell, h.threshold, fun hlt => absurd hlt (by omega),
        fun _ => h.done hj', h.succeeded_of_ne (by omega), fun _ => hcw⟩, rfl, hstay⟩

end Engage

/-! ## 3. Cycles on the bench -/

namespace Bench

/-- One bus cycle on the bench: the read half, hook requests delivered, then the write half. -/
def cycle (now : Nat) : DriveM Device Unit := do
  readHalf now
  Drive.updateWrite Device.bus now

/-- Running `n + 1` cycles is running `n` cycles and then one more. -/
theorem cycles_succ (now n : Nat) : cycles now (n + 1) = (do cycles now n; cycle now) := by
  induction n with
  | zero => simp [cycles, cycle]
  | succ n ih =>
    -- unfold the first cycle on both sides and reassociate
    conv => lhs; rw [cycles, ih]
    rw [cycles]
    simp only [bind_assoc]

theorem run_snd {α : Type} (b : Bench) (act : DriveM Device α) :
    (b.run act).2 = { b with drive := ((act.run b.drive).run b.device).1.2,
                             device := ((act.run b.drive).run b.device).2 } :=
  rfl

/-- The bench after `n + 1` cycles is the bench after `n` cycles, one cycle on. -/
theorem run_cycles_succ (b : Bench) (now n : Nat) :
    (b.run (cycles now (n + 1))).2 = ((b.run (cycles now n)).2.run (cycle now)).2 := by
  rw [cycles_succ]
  rfl

/-- One cycle against a device that plays along: the read half stores a reading of the device's
state and marks it fresh, the write half runs the engine on it as always and sends the record of
the controlword then held, which the device applies. -/
theorem run_cycle {b : Bench} {c : DriveState} {mode : OperationMode} (hdev : b.device.Faithful)
    (hc : b.device.state = some c) (htx : b.drive.txType ≠ .na) (hrx : b.drive.rxType ≠ .na)
    (hm : b.drive.mode = some mode) (now : Nat) :
    ∃ reading between bytes mb,
      reading.driveState = .ok c ∧
      (reading.errors = b.drive.reading.errors ∨
        reading.errors = b.drive.reading.errors.push .errorCodeRead) ∧
      (∀ e ∈ between, e.isRecordSent = false) ∧
      let d₁ : Drive := { b.drive with reading, fresh := true }
      let d₂ := if d₁.pending then d₁.engage now else d₁
      (b.run (cycle now)).2 =
        { b with drive := d₂,
                 device := { b.device with
                   state := some (Device.applyControlWord c d₂.controlWord.raw),
                   objects := b.device.objects.insert modeKey [mb],
                   log := .sendRecord bytes :: (between ++ b.device.log) } } ∧
      Device.controlFields bytes = some (d₂.controlWord.raw, mb) := by
  obtain ⟨reading, between, hread, hst, herr, hsent⟩ := readHalf_run now hdev hc htx
  let d₁ : Drive := { b.drive with reading, fresh := true }
  let dev₁ : Device := { b.device with log := between ++ b.device.log }
  have hdev₁ : dev₁.Faithful :=
    ⟨hdev.reportsState, hdev.obeys, hdev.keepsSent, hdev.keepsFetched, hdev.noHook, hdev.noRequest⟩
  obtain ⟨bytes, mb, hwrite, hf⟩ :=
    @Drive.updateWrite_device mode d₁ dev₁ c hm hrx hdev₁ hc now
  -- the reading is fresh, so the engine runs exactly when a change is pending
  have hfresh : (d₁.fresh && d₁.pending) = d₁.pending := Bool.true_and _
  rw [hfresh] at hwrite hf
  refine ⟨reading, between, bytes, mb, hst, herr, hsent, ?_, hf⟩
  rw [run_snd]
  simp only [cycle, StateT.run_bind, hread]
  dsimp only [bind]
  rw [hwrite]

/-! ## 4. The run -/

/-- The bench `j` cycles into a change toward `T` along `path` from `s`: the controller on track,
and the device playing along in the state the first `j` transitions of the path lead to. -/
structure OnTrack (T s : DriveState) (path : List Transition) (m j : Nat) (b : Bench) : Prop where
  drive : b.drive.OnTrack T path m j
  faithful : b.device.Faithful
  device : b.device.state = some (walk s path j)

/-- One cycle keeps the bench on track, sends exactly one record, carrying the controlword of the
path's transition `j` or of its last one, and records at most `errorCodeRead`. -/
theorem OnTrack.cycle {j : Nat} {b : Bench} (h : b.OnTrack T s path m j)
    (hpath : Leads T s path) (hne : path ≠ []) (hm : 1 ≤ m) (now : Nat) :
    (b.run (cycle now)).2.OnTrack T s path m (j + 1) ∧
      (∃ bytes between,
        (b.run (cycle now)).2.device.log = .sendRecord bytes :: (between ++ b.device.log) ∧
        (∀ e ∈ between, e.isRecordSent = false) ∧
        (Device.controlFields bytes).map Prod.fst =
          some (path.getD (min j (path.length - 1)) default).controlWord.raw) ∧
      ((b.run (cycle now)).2.drive.reading.errors = b.drive.reading.errors ∨
        (b.run (cycle now)).2.drive.reading.errors = b.drive.reading.errors.push .errorCodeRead) := by
  obtain ⟨mode, hmode⟩ := Option.isSome_iff_exists.1 h.drive.mode
  obtain ⟨reading, between, bytes, mb, hst, herr, hsent, hrun, hf⟩ :=
    run_cycle h.faithful h.device h.drive.tx h.drive.rx hmode now
  obtain ⟨hon, hkeep, happly⟩ := h.drive.engage hpath hne hm hst now
  rw [hrun]
  refine ⟨⟨hon, ⟨h.faithful.reportsState, h.faithful.obeys, h.faithful.keepsSent,
    h.faithful.keepsFetched, h.faithful.noHook, h.faithful.noRequest⟩, ?_⟩,
    ⟨bytes, between, rfl, hsent, ?_⟩, ?_⟩
  · show some (Device.applyControlWord _ _) = _
    rw [happly]
  · -- the record carries the controlword held after the write half
    rw [hf, hon.controlWord (Nat.succ_pos j), Nat.add_sub_cancel]
    rfl
  · show (Drive.reading (if _ then _ else _)).errors = _ ∨ _
    rw [hkeep]
    exact herr

/-- A request arms the change: the bench is on track before the first cycle. -/
theorem onTrack_request {b : Bench} (t : DriveState) (hne : path ≠ [])
    (hrx : b.drive.rxType ≠ .na) (htx : b.drive.txType ≠ .na) (hmode : b.drive.mode.isSome = true)
    (hwait : b.drive.config.minTimeout = 0) (hdev : b.device.Faithful)
    (hs : b.device.state = some s) :
    (b.requestState t false).2.OnTrack t s path b.drive.config.minReadings.toNat 0 := by
  have hlen : 0 < path.length := List.length_pos_iff.2 hne
  refine ⟨⟨hrx, htx, hmode, hwait, rfl, fun _ => ⟨b.clock, ?_⟩, fun hle => absurd hle (by omega),
    ?_, fun h0 => absurd h0 (Nat.lt_irrefl 0)⟩, hdev, ?_⟩
  · show StateChange.pending t b.clock 0 = _
    rw [Nat.zero_sub]
    rfl
  · show false = _
    exact (decide_eq_false (by omega)).symm
  · rw [walk_zero]
    exact hs

/-- Every cycle keeps the bench on track. -/
theorem OnTrack.cycles {b : Bench} (h : b.OnTrack T s path m 0) (hpath : Leads T s path)
    (hne : path ≠ []) (hm : 1 ≤ m) (now : Nat) :
    ∀ j, (b.run (cycles now j)).2.OnTrack T s path m j := by
  intro j
  induction j with
  | zero => exact h
  | succ j ih =>
    rw [run_cycles_succ]
    exact (ih.cycle hpath hne hm now).1

end Bench

/-! ## 5. The change -/

/-- A change requested on the cyclic path against the model device. Let the device play along
(it reports the canonical statusword of its state with the remote bit, obeys every controlword,
loses no record, and no hook is set), let the controller have negotiated both record layouts and
set a mode of operation, with no dwell and a success threshold `m` of at least one. From a stable
state `s`, toward a stable target `t` other than `fault` and other than `s`, the table's path from
`s` to `t` is not empty, and after the request, cycle after cycle at any clock reading:

* every cycle `j + 1` sends exactly one record, carrying the controlword of the path's transition
  `j`, or of its last one once the path is done;
* the device is in `t` from cycle `|path|` on;
* no cycle records anything but `errorCodeRead` (no `cyclicTransition`);
* the change has succeeded after cycle `j` exactly when `|path| + m ≤ j`. -/
theorem cyclic_change_follows_path (b : Bench) {s t : DriveState} (now : Nat)
    (hrx : b.drive.rxType ≠ .na) (htx : b.drive.txType ≠ .na) (hmode : b.drive.mode.isSome = true)
    (hwait : b.drive.config.minTimeout = 0) (hm : 1 ≤ b.drive.config.minReadings.toNat)
    (hdev : b.device.Faithful) (hs : b.device.state = some s) (hstable : s.isStable = true)
    (ht : t.isStable = true) (htf : t ≠ .fault) (hst : s ≠ t) :
    ∃ path, Transition.path t s = .ok path ∧ path ≠ [] ∧
      let after := fun j => ((b.requestState t false).2.run (Bench.cycles now j)).2
      (∀ j, (after j).drive.succeeded = decide (path.length + b.drive.config.minReadings.toNat ≤ j)) ∧
      (∀ j, path.length ≤ j → (after j).device.state = some t) ∧
      ∀ j,
        (∃ bytes between,
          (after (j + 1)).device.log = .sendRecord bytes :: (between ++ (after j).device.log) ∧
          (∀ e ∈ between, e.isRecordSent = false) ∧
          (Device.controlFields bytes).map Prod.fst =
            some (path.getD (min j (path.length - 1)) default).controlWord.raw) ∧
        ((after (j + 1)).drive.reading.errors = (after j).drive.reading.errors ∨
          (after (j + 1)).drive.reading.errors =
            (after j).drive.reading.errors.push .errorCodeRead) := by
  obtain ⟨path, hp⟩ := path_ok_of_stable hstable ht htf
  have hpath : Leads t s path := leads_pathWithin hp
  have hne : path ≠ [] := hpath.ne_nil hst
  have h₀ := Bench.onTrack_request t hne hrx htx hmode hwait hdev hs
  have hrun := h₀.cycles hpath hne hm now
  refine ⟨path, hp, hne, fun j => ?_, fun j hj => ?_, fun j => ?_⟩
  · exact (hrun j).drive.succeeded
  · rw [(hrun j).device, hpath.walk_of_le hj]
  · obtain ⟨-, hrecord, herrors⟩ := (hrun j).cycle hpath hne hm now
    dsimp only
    rw [Bench.run_cycles_succ]
    exact ⟨hrecord, herrors⟩

/-- A bench whose controller negotiated standard records, runs in cyclic synchronous position mode,
steps without dwell and wants two readings of the target; its device is a new one, switched on
and disabled. -/
def positionBench : Bench where
  drive := { Drive.new "servo" 1 with
    rxType := .standard, txType := .standard, mode := some .synchronousPosition,
    config := { minTimeout := 0, minReadings := 2 } }

/-- Enabling operation of a new device on that bench follows the table's path from switch-on
disabled: the hypotheses of the general theorem hold there, and so does its conclusion. -/
theorem positionBench_enables_operation :
    positionBench.drive.rxType ≠ .na ∧ positionBench.drive.txType ≠ .na ∧
    positionBench.drive.mode.isSome = true ∧ positionBench.drive.config.minTimeout = 0 ∧
    1 ≤ positionBench.drive.config.minReadings.toNat ∧ positionBench.device.Faithful ∧
    positionBench.device.state = some .switchOnDisabled ∧ DriveState.switchOnDisabled.isStable = true ∧
    DriveState.operationEnabled.isStable = true ∧ DriveState.operationEnabled ≠ .fault ∧
    DriveState.switchOnDisabled ≠ .operationEnabled ∧
    ∃ path, Transition.path .operationEnabled .switchOnDisabled = .ok path ∧ path ≠ [] ∧
      let after := fun j =>
        ((positionBench.requestState .operationEnabled false).2.run (Bench.cycles 0 j)).2
      (∀ j, (after j).drive.succeeded =
        decide (path.length + positionBench.drive.config.minReadings.toNat ≤ j)) ∧
      (∀ j, path.length ≤ j → (after j).device.state = some .operationEnabled) ∧
      ∀ j,
        (∃ bytes between,
          (after (j + 1)).device.log = .sendRecord bytes :: (between ++ (after j).device.log) ∧
          (∀ e ∈ between, e.isRecordSent = false) ∧
          (Device.controlFields bytes).map Prod.fst =
            some (path.getD (min j (path.length - 1)) default).controlWord.raw) ∧
        ((after (j + 1)).drive.reading.errors = (after j).drive.reading.errors ∨
          (after (j + 1)).drive.reading.errors =
            (after j).drive.reading.errors.push .errorCodeRead) :=
  ⟨by decide, by decide, rfl, rfl, by decide, ⟨rfl, rfl, rfl, rfl, rfl, rfl⟩, rfl, rfl, rfl,
    by decide, by decide,
    cyclic_change_follows_path positionBench 0 (by decide) (by decide) rfl rfl (by decide)
      ⟨rfl, rfl, rfl, rfl, rfl, rfl⟩ rfl rfl rfl (by decide) (by decide)⟩

end ServoDrive
