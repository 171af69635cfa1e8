import ServoDrive.Reading

/-!
# Histories keep the most recent entries

Main statement: `entries_are_last_pushed`. A history of capacity `N ≥ 1`, run from empty through
any pushes and clears, holds the last `min N k` of the `k` values pushed since the last clear,
oldest first, and its newest entry is the last value pushed. The error and fault histories of a
reading have capacity 32, so after any requests a reading holds the last 32 errors and faults
recorded since they were last cleared, `hasError` asks whether an error is among them, and
`lastError?` and `lastFault?` give the most recent.

The argument is the closed form `History.entries_applyAll`: a run keeps the window of the values in
play, because a push into a history within its capacity keeps the window of its entries and the
value (`History.entries_push`), and a window of a window is a window
(`History.window_window_append`). What a reading's histories hold then follows from
`History.window`.
With capacity zero a history stays empty, so its newest entry is not the last value pushed: the
capacity must be positive.
-/

namespace ServoDrive

namespace History

variable {α : Type} {capacity : Nat}

/-- From empty, a run holds the window of the values pushed since the last clear. -/
theorem entries_applyAll_empty (ops : List (Op α)) :
    (({} : History α capacity).applyAll ops).entries = window capacity (Op.sinceClear ops) :=
  entries_applyAll {} [] (by simp) ops

/-- A history holding the window of a list holds its last `min capacity k` values, oldest first,
and for a positive capacity its newest entry is the list's last value. -/
theorem recent_of_window {h : History α capacity} {xs : List α} (hcap : 0 < capacity)
    (hh : h.entries = window capacity xs) :
    List.IsSuffix h.entries xs ∧ h.entries.length = min capacity xs.length ∧
      h.last? = xs.getLast? := by
  refine ⟨hh ▸ window_suffix _ _, hh ▸ length_window _ _, ?_⟩
  rw [last?, hh, getLast?_window hcap]

end History

theorem entries_are_last_pushed {α : Type} {N : Nat} (hN : 0 < N) (ops : List (History.Op α))
    (reqs : List Reading.Request) :
    (List.IsSuffix (({} : History α N).applyAll ops).entries (History.Op.sinceClear ops) ∧
      (({} : History α N).applyAll ops).entries.length = min N (History.Op.sinceClear ops).length ∧
      (({} : History α N).applyAll ops).last? = (History.Op.sinceClear ops).getLast?) ∧
    (List.IsSuffix (({} : Reading).run reqs).errors.entries
        (History.Op.sinceClear (reqs.filterMap Reading.Request.errorOp?)) ∧
      (({} : Reading).run reqs).errors.entries.length =
        min historyLength (History.Op.sinceClear (reqs.filterMap Reading.Request.errorOp?)).length ∧
      (∀ e, (({} : Reading).run reqs).hasError e = true ↔
        e ∈ (({} : Reading).run reqs).errors.entries) ∧
      (({} : Reading).run reqs).lastError? =
        (History.Op.sinceClear (reqs.filterMap Reading.Request.errorOp?)).getLast?) ∧
    (List.IsSuffix (({} : Reading).run reqs).faults.entries
        (History.Op.sinceClear (reqs.filterMap Reading.Request.faultOp?)) ∧
      (({} : Reading).run reqs).faults.entries.length =
        min historyLength (History.Op.sinceClear (reqs.filterMap Reading.Request.faultOp?)).length ∧
      (({} : Reading).run reqs).lastFault? =
        (History.Op.sinceClear (reqs.filterMap Reading.Request.faultOp?)).getLast?) := by
  have hlen : 0 < historyLength := by decide
  have errors := History.recent_of_window hlen
    ((congrArg History.entries (Reading.errors_run {} reqs)).trans
      (History.entries_applyAll_empty _))
  have faults := History.recent_of_window hlen
    ((congrArg History.entries (Reading.faults_run {} reqs)).trans
      (History.entries_applyAll_empty _))
  exact ⟨History.recent_of_window hN (History.entries_applyAll_empty ops),
    ⟨errors.1, errors.2.1, fun e => Reading.hasError_iff _ e, errors.2.2⟩, faults⟩

theorem last_three_of_five_pushes :
    0 < 3 ∧
    ((List.IsSuffix (({} : History Nat 3).applyAll
          [.push 1, .push 2, .clear, .push 3, .push 4, .push 5, .push 6]).entries
        (History.Op.sinceClear [.push 1, .push 2, .clear, .push 3, .push 4, .push 5, .push 6]) ∧
      (({} : History Nat 3).applyAll
          [.push 1, .push 2, .clear, .push 3, .push 4, .push 5, .push 6]).entries.length =
        min 3 (History.Op.sinceClear
          [.push 1, .push 2, .clear, .push 3, .push 4, .push 5, .push 6]).length ∧
      (({} : History Nat 3).applyAll
          [.push 1, .push 2, .clear, .push 3, .push 4, .push 5, .push 6]).last? =
        (History.Op.sinceClear
          [.push 1, .push 2, .clear, .push 3, .push 4, .push 5, .push 6]).getLast?) ∧
    (List.IsSuffix (({} : Reading).run [.addError .configuration, .addFault 7]).errors.entries
        (History.Op.sinceClear ([Reading.Request.addError .configuration, .addFault 7].filterMap
          Reading.Request.errorOp?)) ∧
      (({} : Reading).run [.addError .configuration, .addFault 7]).errors.entries.length =
        min historyLength (History.Op.sinceClear ([Reading.Request.addError .configuration,
          .addFault 7].filterMap Reading.Request.errorOp?)).length ∧
      (∀ e, (({} : Reading).run [.addError .configuration, .addFault 7]).hasError e = true ↔
        e ∈ (({} : Reading).run [.addError .configuration, .addFault 7]).errors.entries) ∧
      (({} : Reading).run [.addError .configuration, .addFault 7]).lastError? =
        (History.Op.sinceClear ([Reading.Request.addError .configuration, .addFault 7].filterMap
          Reading.Request.errorOp?)).getLast?) ∧
    (List.IsSuffix (({} : Reading).run [.addError .configuration, .addFault 7]).faults.entries
        (History.Op.sinceClear ([Reading.Request.addError .configuration, .addFault 7].filterMap
          Reading.Request.faultOp?)) ∧
      (({} : Reading).run [.addError .configuration, .addFault 7]).faults.entries.length =
        min historyLength (History.Op.sinceClear ([Reading.Request.addError .configuration,
          .addFault 7].filterMap Reading.Request.faultOp?)).length ∧
      (({} : Reading).run [.addError .configuration, .addFault 7]).lastFault? =
        (History.Op.sinceClear ([Reading.Request.addError .configuration, .addFault 7].filterMap
          Reading.Request.faultOp?)).getLast?)) :=
  ⟨by decide, entries_are_last_pushed (by decide)
    [.push 1, .push 2, .clear, .push 3, .push 4, .push 5, .push 6]
    [.addError .configuration, .addFault 7]⟩

end ServoDrive
