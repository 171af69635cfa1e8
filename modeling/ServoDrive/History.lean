/-!
# Bounded histories

A history keeps the most recent entries pushed into it, at most `capacity` of them, oldest first:
a push into a full history drops the oldest entry. Its entries are therefore the last
`min capacity k` of the `k` values pushed since it was last cleared.
-/

namespace ServoDrive

structure History (α : Type) (capacity : Nat) where
  entries : List α := []
  deriving DecidableEq, Repr

namespace History

variable {α : Type} {capacity : Nat}

/-- The history with `a` as its newest entry, the oldest dropped if it was full. -/
def push (h : History α capacity) (a : α) : History α capacity :=
  if h.entries.length < capacity then ⟨h.entries ++ [a]⟩ else ⟨(h.entries ++ [a]).drop 1⟩

/-- The empty history. -/
def clear (_ : History α capacity) : History α capacity := ⟨[]⟩

/-- The newest entry. -/
def last? (h : History α capacity) : Option α := h.entries.getLast?

/-- Whether a value is among the entries. -/
def contains [BEq α] (h : History α capacity) (a : α) : Bool := h.entries.contains a

/-- The history after pushing `xs` in order. -/
def pushAll (h : History α capacity) (xs : List α) : History α capacity := xs.foldl push h

@[simp] theorem entries_clear (h : History α capacity) : h.clear.entries = [] := rfl

/-! ## Runs of operations -/

/-- An operation on a history. -/
inductive Op (α : Type) where
  | push (a : α)
  | clear
  deriving DecidableEq, Repr

/-- The history after an operation. -/
def apply (h : History α capacity) : Op α → History α capacity
  | .push a => h.push a
  | .clear => h.clear

/-- The history after operations in order. -/
def applyAll (h : History α capacity) (ops : List (Op α)) : History α capacity :=
  ops.foldl apply h

/-- The values in play after operations, starting from `acc`: a push appends its value, a clear
forgets all. -/
def Op.replay (acc : List α) : List (Op α) → List α
  | [] => acc
  | .push a :: rest => Op.replay (acc ++ [a]) rest
  | .clear :: rest => Op.replay [] rest

/-- The values pushed since the last clear of a sequence (since its start if it has none), in
order. -/
def Op.sinceClear (ops : List (Op α)) : List α := Op.replay [] ops

/-- The last `capacity` values of a list, oldest first. -/
def window (capacity : Nat) (xs : List α) : List α := xs.drop (xs.length - capacity)

theorem length_window (n : Nat) (xs : List α) : (window n xs).length = min n xs.length := by
  simp only [window, List.length_drop]
  omega

theorem window_suffix (n : Nat) (xs : List α) : List.IsSuffix (window n xs) xs :=
  List.drop_suffix _ xs

theorem getLast?_window {n : Nat} (hn : 0 < n) (xs : List α) :
    (window n xs).getLast? = xs.getLast? := by
  rw [window, List.getLast?_drop]
  cases xs with
  | nil => simp
  | cons x rest =>
    have : ¬ (x :: rest).length ≤ (x :: rest).length - n := by simp only [List.length_cons]; omega
    simp only [this, if_false]

@[simp] theorem window_nil (n : Nat) : window n ([] : List α) = [] := by simp [window]

/-- Taking a window first changes nothing about the window of a longer list. -/
theorem window_window_append (n : Nat) (xs ys : List α) :
    window n (window n xs ++ ys) = window n (xs ++ ys) := by
  simp only [window, List.length_append, List.length_drop]
  rw [← List.drop_append_of_le_length (Nat.sub_le xs.length n), List.drop_drop]
  congr 1
  omega

/-- A push into a history within its capacity keeps the window of the entries and the value. -/
theorem entries_push (h : History α capacity) (a : α) (hh : h.entries.length ≤ capacity) :
    (h.push a).entries = window capacity (h.entries ++ [a]) := by
  unfold push window
  split
  · rename_i hlt
    simp only [List.length_append, List.length_singleton]
    rw [Nat.sub_eq_zero_of_le (by omega), List.drop_zero]
  · simp only [List.length_append, List.length_singleton]
    congr 1
    omega

/-- A run from a history holding the window of `acc` holds the window of what the run leaves in
play. -/
theorem entries_applyAll (h : History α capacity) (acc : List α)
    (hh : h.entries = window capacity acc) (ops : List (Op α)) :
    (h.applyAll ops).entries = window capacity (Op.replay acc ops) := by
  induction ops generalizing h acc with
  | nil => exact hh
  | cons op rest ih =>
    cases op with
    | push a =>
      apply ih
      have hlen : h.entries.length ≤ capacity := by
        rw [hh, length_window]
        exact Nat.min_le_left _ _
      rw [apply, entries_push h a hlen, hh, window_window_append]
    | clear => exact ih h.clear [] (by simp)

end History

end ServoDrive
