import ServoDrive.Proofs.Drive.Changes
import ServoDrive.Device.Bus

/-!
# The count of target readings never wraps

The engine keeps, in a `UInt32`, the number of consecutive readings of the target of a pending
state change, and adds one at each reading of the target. A request starts the count at zero, and
so does every reading of another state; the count the engine keeps after an increment is below the
configured number of readings, since reaching that number completes the change.

The configured number can change at any moment, in the middle of a change too and to any value,
because loading a configuration does not validate it: "the count is below the configured number"
is no invariant, since lowering the number breaks it. The invariant that survives is weaker: a
pending change counts fewer readings than the largest `UInt32` (`Drive.CountBelowMax`). Every
count the engine keeps is zero or below a configured number, which is a `UInt32` itself
(`countBelowMax_engage`), and no other change of the controller sets a count but a request, which
sets it to zero.

Main statement: `success_count_never_wraps`. In every run of a new controller, in any interleaving
of the two actors, whatever the bus answers and whatever configurations are loaded, a pending
change counts fewer readings than the largest `UInt32`, so the engine's increment is exact.
-/

namespace ServoDrive

namespace Drive

/-- A pending state change counts fewer readings of its target than the largest `UInt32`. -/
def CountBelowMax (d : Drive) : Prop :=
  ∀ T since n, d.change = .pending T since n → n.toNat < UInt32.size - 1

/-- Below the largest `UInt32`, adding one does not wrap. -/
theorem toNat_add_one_of_lt {n : UInt32} (h : n.toNat < UInt32.size - 1) :
    (n + 1).toNat = n.toNat + 1 := by
  have hsize : UInt32.size = 2 ^ 32 := rfl
  rw [UInt32.toNat_add, UInt32.toNat_one]
  exact Nat.mod_eq_of_lt (by omega)

theorem CountBelowMax.of_change {d d' : Drive} (h : d.CountBelowMax)
    (hc : d'.change = d.change) : d'.CountBelowMax := by
  intro T since n hn
  exact h T since n (hc ▸ hn)

theorem countBelowMax_requestStateChange (d : Drive) (T : DriveState) (now : Nat) :
    (d.requestStateChange T now).CountBelowMax := by
  rintro T' since n ⟨⟩
  decide

/-- Whatever it started from, the engine leaves a count below the largest `UInt32`: a count it
increments is kept only below the configured number, and every other count it keeps is zero. -/
theorem countBelowMax_engage (d : Drive) (now : Nat) : (d.engage now).CountBelowMax := by
  intro T since n hn
  cases hc : d.change with
  | idle =>
    rw [engage_of_idle d now hc] at hn
    cases hc.symm.trans hn
  | pending T₀ since₀ n₀ =>
    rw [engage_change now hc] at hn
    split at hn
    · split at hn
      · cases hn
      · -- the change goes on only while the incremented count is below the configured number
        rename_i hbelow
        cases hn
        have hlt : (n₀ + 1).toNat < d.config.minReadings.toNat := by
          rw [← UInt32.lt_iff_toNat_lt]
          exact UInt32.not_le.mp hbelow
        have hmax := d.config.minReadings.toNat_lt
        have hsize : UInt32.size = 2 ^ 32 := rfl
        omega
    · cases hn
      decide

end Drive

open Drive in
/-- A count below the largest `UInt32` is carried across every elementary change a controller's
operations make. -/
theorem spans_countBelowMax : Spans fun d d' => d.CountBelowMax → d'.CountBelowMax where
  toChains := chains_invariant _
  record _ _ h := h.of_change rfl
  configureRx d ty h := by
    unfold configureRx
    split
    · exact h.of_change rfl
    · exact h.of_change rfl
  configureTx d ty h := by
    unfold configureTx
    split
    · exact h.of_change rfl
    · exact h.of_change rfl
  sizes _ _ h := h.of_change rfl
  setRatedCurrent _ _ h := h.of_change rfl
  loadConfiguration _ _ h := h.of_change rfl
  stageCommand _ _ h := h.of_change rfl
  requestStateChange d T now _ := countBelowMax_requestStateChange d T now
  storeRecord _ _ h := h.of_change rfl
  markFresh d x h := by
    unfold markFresh
    split
    · exact h.of_change rfl
    · exact h
  addFault _ _ h := h.of_change rfl
  engage d now _ := countBelowMax_engage d now

/-- In every run of a new controller, in any interleaving of the two actors, whatever the bus
answers and whatever configurations are loaded on the way (their number of readings unchecked,
zero and the largest `UInt32` included), a pending state change counts fewer readings of its
target than the largest `UInt32`, so the engine's next increment of the count is exact. -/
theorem success_count_never_wraps {σ : Type} (bus : Bus σ) (name : String) (address : UInt16)
    (s₀ : σ) (moves : List Move) :
    let d := ((Shared.start (Drive.new name address) s₀).run bus moves).drive
    ∀ T since n, d.change = .pending T since n →
      n.toNat < UInt32.size - 1 ∧ (n + 1).toNat = n.toNat + 1 := by
  intro d T since n hn
  have hnew : (Drive.new name address).CountBelowMax := by
    rintro T' since' n' ⟨⟩
  have hd : d.CountBelowMax := Shared.run_within bus spans_countBelowMax _ moves hnew
  have hlt := hd T since n hn
  exact ⟨hlt, Drive.toNat_add_one_of_lt hlt⟩

/-- A request starts the count of a change at zero, where the increment is exact. -/
theorem requested_change_counts_from_zero :
    let d := ((Shared.start (Drive.new "servo" 1) {}).run Device.bus
      [.call (.requestState .operationEnabled 5)]).drive
    d.change = .pending .operationEnabled 5 0 ∧
      (0 : UInt32).toNat < UInt32.size - 1 ∧ ((0 : UInt32) + 1).toNat = (0 : UInt32).toNat + 1 :=
  ⟨rfl, success_count_never_wraps Device.bus "servo" 1 {}
    [.call (.requestState .operationEnabled 5)] .operationEnabled 5 0 rfl⟩

end ServoDrive
