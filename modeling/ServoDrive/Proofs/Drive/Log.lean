import ServoDrive.Drive.Shared

/-!
# Reading the log of a shared controller

Statements about the cyclic state change are stated over the log a run of the shared controller
leaves, newest event first. This module gives the readings of a log those statements use.

* `Event.BegunAfterRequest log`: the newest snapshot of the log comes before any request, so the
  read that took it started after the last request.
* `Event.Unconsumed st log`: the newest store of the log recorded a record decoding to `st`, no
  evaluation consumed it and no request came after it, and its read started after every request
  before it.
* `Event.AllFresh log`: every evaluation of the log decoded a record that was unconsumed when the
  evaluation ran.
* `Event.streak T log`: how many evaluations in a row, back from the newest and not past the last
  request, decoded a statusword naming `T`.
* `Event.ReadAfterRequest log`: every evaluation since the last request consumed a record of its
  own, stored after the request by a read whose snapshot came after it.

Each is a structural recursion on the log, so adding one event changes it by one of its cases;
`unconsumed_iff` and `allFresh_iff` say the same with the log cut at the events concerned, and
`AllFresh.readAfterRequest` reads the freshness of every evaluation back to the last request.
-/

namespace ServoDrive

namespace Event

/-- The newest snapshot comes before any request. -/
def BegunAfterRequest : List Event → Prop
  | [] => False
  | .snapshot :: _ => True
  | .request _ :: _ => False
  | .store _ :: rest => BegunAfterRequest rest
  | .evaluate _ :: rest => BegunAfterRequest rest

/-- The newest store recorded `st`; since then the log holds snapshots only, and the store's read
started after the last request before it. -/
def Unconsumed (st : Except UndefinedState DriveState) : List Event → Prop
  | [] => False
  | .snapshot :: rest => Unconsumed st rest
  | .store st' :: rest => st' = st ∧ BegunAfterRequest rest
  | .request _ :: _ => False
  | .evaluate _ :: _ => False

/-- Every evaluation decoded a record unconsumed when it ran. -/
def AllFresh : List Event → Prop
  | [] => True
  | .evaluate st :: rest => Unconsumed st rest ∧ AllFresh rest
  | _ :: rest => AllFresh rest

/-- The evaluations in a row, back from the newest and not past the last request, that decoded a
statusword naming `T`. -/
def streak (T : DriveState) : List Event → Nat
  | [] => 0
  | .request _ :: _ => 0
  | .evaluate st :: rest => if Drive.names st T then streak T rest + 1 else 0
  | _ :: rest => streak T rest

/-- The target of the last request, if any. -/
def lastRequest : List Event → Option DriveState
  | [] => none
  | .request T :: _ => some T
  | _ :: rest => lastRequest rest

/-- Every evaluation since the last request consumed a record stored after that request by a read
whose snapshot came after it too, with only snapshots between the store and the evaluation; so no
two of them consumed the same record. -/
def ReadAfterRequest (log : List Event) : Prop :=
  ∀ recent T older, log = recent ++ .request T :: older → (∀ e ∈ recent, e.isRequest = false) →
    ∀ newer st rest, recent = newer ++ .evaluate st :: rest →
      ∃ a b₁ b₂, rest = a ++ .store st :: (b₁ ++ .snapshot :: b₂) ∧ (∀ e ∈ a, e = .snapshot) ∧
        ∀ e ∈ b₁, e.isSnapshot = false ∧ e.isRequest = false

/-! ## 1. One event more -/

@[simp] theorem lastRequest_request (T : DriveState) (l : List Event) :
    lastRequest (.request T :: l) = some T := rfl

@[simp] theorem lastRequest_snapshot (l : List Event) :
    lastRequest (.snapshot :: l) = lastRequest l := rfl

@[simp] theorem lastRequest_store (st : Except UndefinedState DriveState) (l : List Event) :
    lastRequest (.store st :: l) = lastRequest l := rfl

@[simp] theorem lastRequest_evaluate (st : Except UndefinedState DriveState) (l : List Event) :
    lastRequest (.evaluate st :: l) = lastRequest l := rfl

@[simp] theorem streak_request (T T' : DriveState) (l : List Event) :
    streak T (.request T' :: l) = 0 := rfl

@[simp] theorem streak_snapshot (T : DriveState) (l : List Event) :
    streak T (.snapshot :: l) = streak T l := rfl

@[simp] theorem streak_store (T : DriveState) (st : Except UndefinedState DriveState)
    (l : List Event) : streak T (.store st :: l) = streak T l := rfl

theorem streak_evaluate (T : DriveState) (st : Except UndefinedState DriveState) (l : List Event) :
    streak T (.evaluate st :: l) = if Drive.names st T then streak T l + 1 else 0 := rfl

/-! ## 2. The readings, cut at their events -/

theorem begunAfterRequest_append {b₁ : List Event}
    (hb₁ : ∀ e ∈ b₁, e.isSnapshot = false ∧ e.isRequest = false) (b₂ : List Event) :
    BegunAfterRequest (b₁ ++ .snapshot :: b₂) := by
  induction b₁ with
  | nil => trivial
  | cons e b₁ ih =>
    have he := hb₁ e (List.mem_cons_self ..)
    have hrest := ih fun e' h' => hb₁ e' (List.mem_cons_of_mem _ h')
    cases e with
    | request T => simp [isRequest] at he
    | snapshot => simp [isSnapshot] at he
    | store st => exact hrest
    | evaluate st => exact hrest

theorem begunAfterRequest_iff (l : List Event) :
    BegunAfterRequest l ↔ ∃ b₁ b₂, l = b₁ ++ .snapshot :: b₂ ∧
      ∀ e ∈ b₁, e.isSnapshot = false ∧ e.isRequest = false := by
  refine ⟨fun h => ?_, fun ⟨b₁, b₂, hl, hb₁⟩ => hl ▸ begunAfterRequest_append hb₁ b₂⟩
  induction l with
  | nil => exact h.elim
  | cons e rest ih =>
    cases e with
    | request T => exact h.elim
    | snapshot => exact ⟨[], rest, rfl, by simp⟩
    | store st =>
      obtain ⟨b₁, b₂, hl, hb₁⟩ := ih h
      refine ⟨.store st :: b₁, b₂, by rw [hl]; rfl, ?_⟩
      simpa [isSnapshot, isRequest] using hb₁
    | evaluate st =>
      obtain ⟨b₁, b₂, hl, hb₁⟩ := ih h
      refine ⟨.evaluate st :: b₁, b₂, by rw [hl]; rfl, ?_⟩
      simpa [isSnapshot, isRequest] using hb₁

theorem unconsumed_iff (st : Except UndefinedState DriveState) (l : List Event) :
    Unconsumed st l ↔ ∃ a b₁ b₂, l = a ++ .store st :: (b₁ ++ .snapshot :: b₂) ∧
      (∀ e ∈ a, e = .snapshot) ∧ ∀ e ∈ b₁, e.isSnapshot = false ∧ e.isRequest = false := by
  constructor
  · intro h
    induction l with
    | nil => exact h.elim
    | cons e rest ih =>
      cases e with
      | request T => exact h.elim
      | evaluate st' => exact h.elim
      | snapshot =>
        obtain ⟨a, b₁, b₂, hl, ha, hb₁⟩ := ih h
        refine ⟨.snapshot :: a, b₁, b₂, by rw [hl]; rfl, ?_, hb₁⟩
        simpa using ha
      | store st' =>
        obtain ⟨rfl, hbegun⟩ := h
        obtain ⟨b₁, b₂, hl, hb₁⟩ := (begunAfterRequest_iff rest).1 hbegun
        exact ⟨[], b₁, b₂, by rw [hl]; rfl, by simp, hb₁⟩
  · rintro ⟨a, b₁, b₂, rfl, ha, hb₁⟩
    induction a with
    | nil => exact ⟨rfl, begunAfterRequest_append hb₁ b₂⟩
    | cons e a ih =>
      rw [ha e (List.mem_cons_self ..)]
      exact ih fun e' h' => ha e' (List.mem_cons_of_mem _ h')

theorem AllFresh.tail {e : Event} {l : List Event} (h : AllFresh (e :: l)) : AllFresh l := by
  cases e with
  | evaluate st => exact h.2
  | request T => exact h
  | snapshot => exact h
  | store st => exact h

theorem allFresh_iff (l : List Event) :
    AllFresh l ↔ ∀ newer st older, l = newer ++ .evaluate st :: older → Unconsumed st older := by
  constructor
  · intro h newer st older hl
    subst hl
    induction newer with
    | nil => exact h.1
    | cons e newer ih => exact ih h.tail
  · intro h
    induction l with
    | nil => trivial
    | cons e rest ih =>
      -- an evaluation at the head is the cut with nothing newer; the rest shifts by one
      have hrest : AllFresh rest :=
        ih fun newer st older hl => h (e :: newer) st older (by rw [hl]; rfl)
      cases e with
      | evaluate st => exact ⟨h [] st rest rfl, hrest⟩
      | request T => exact hrest
      | snapshot => exact hrest
      | store st => exact hrest

/-- A cut of a log at a request, against a cut whose front holds no request: the front lies before
the request. -/
theorem prefix_of_no_request {l₁ l₂ m₁ m₂ : List Event} {T : DriveState}
    (h : l₁ ++ .request T :: l₂ = m₁ ++ m₂) (hm : ∀ e ∈ m₁, e.isRequest = false) :
    ∃ t, l₁ = m₁ ++ t := by
  rcases List.append_eq_append_iff.1 h with ⟨a', hm₁, ha'⟩ | ⟨c', hl₁, -⟩
  · cases a' with
    | nil => exact ⟨[], by simpa using hm₁.symm⟩
    | cons e a' =>
      -- the request would stand in the front
      have he : e = .request T := (List.cons.inj ha').1.symm
      have hmem : e ∈ m₁ := by
        rw [hm₁]
        exact List.mem_append_right _ (List.mem_cons_self ..)
      have := hm e hmem
      rw [he] at this
      cases this
  · exact ⟨c', hl₁⟩

/-- Fresh evaluations all through the log read after the requests before them. -/
theorem AllFresh.readAfterRequest {log : List Event} (h : AllFresh log) : ReadAfterRequest log := by
  intro recent T older hlog hrecent newer st rest hcut
  have hu : Unconsumed st (rest ++ .request T :: older) :=
    (allFresh_iff log).1 h newer st _ (by rw [hlog, hcut]; simp)
  obtain ⟨a, b₁, b₂, hrest, ha, hb₁⟩ := (unconsumed_iff st _).1 hu
  -- the store and the snapshot come before the request, so they lie in `rest`
  have hfront : ∀ e ∈ a ++ .store st :: (b₁ ++ [.snapshot]), e.isRequest = false := by
    intro e he
    simp only [List.mem_append, List.mem_cons, List.not_mem_nil, or_false] at he
    rcases he with he | rfl | he | rfl
    · rw [ha e he]
      rfl
    · rfl
    · exact (hb₁ e he).2
    · rfl
  have hsplit : rest ++ .request T :: older = (a ++ .store st :: (b₁ ++ [.snapshot])) ++ b₂ := by
    rw [hrest]
    simp
  obtain ⟨t, ht⟩ := prefix_of_no_request hsplit hfront
  refine ⟨a, b₁, t, ?_, ha, hb₁⟩
  rw [ht]
  simp

end Event

end ServoDrive
