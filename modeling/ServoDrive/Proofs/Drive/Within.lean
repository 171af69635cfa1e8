import ServoDrive.Drive.Shared

/-!
# Relating the controller before and after an operation

Every operation of a controller is built from a dozen elementary changes of the controller:
recording an error, selecting a layout, taking the record sizes, taking a rated current, loading a
configuration, staging a command, requesting a state change, storing a record, marking the reading
fresh, adding a fault code, and running the state-change engine. Everything else an operation does
is talk to the bus.

The judgment `Within R act` says that running `act` relates the controller before to the
controller after by `R`, whatever the controller and the bus. For a relation that holds of no
change and chains (`Chains`), it has a rule for each way an operation is built (`pure`, `bind`,
`get`, `modify`, `modifyGet`, and a bus operation lifted into the controller's monad), so each
operation's lemma follows its do-block, never unfolds the monad, and assumes only that `R` holds
across the elementary changes that operation makes.

Two kinds of relation are used: a view of the controller kept (`d'.mode = d.mode`), and an
invariant carried along (`P d → P d'`).
-/

namespace ServoDrive

/-- `R` holds of no change and chains: what a relation between the controller before and after
some changes needs for a sequence of them. -/
structure Chains (R : Drive → Drive → Prop) : Prop where
  refl : ∀ d, R d d
  trans : ∀ {d₁ d₂ d₃}, R d₁ d₂ → R d₂ d₃ → R d₁ d₃

/-- A view kept is a relation that chains. -/
theorem chains_view {β : Type} (view : Drive → β) : Chains fun d d' => view d' = view d :=
  ⟨fun _ => rfl, fun h₁ h₂ => h₂.trans h₁⟩

/-- An invariant carried along is a relation that chains. -/
theorem chains_invariant (P : Drive → Prop) : Chains fun d d' => P d → P d' :=
  ⟨fun _ h => h, fun h₁ h₂ h => h₂ (h₁ h)⟩

/-! ## 1. The judgment and its rules -/

/-- Running `act` relates the controller before it to the controller after it by `R`, whatever the
controller and the bus. -/
def Within {σ α : Type} (R : Drive → Drive → Prop) (act : DriveM σ α) : Prop :=
  ∀ d s, R d (((act.run d).run s).1.2)

section Rules

variable {σ α γ : Type} {R : Drive → Drive → Prop} (hR : Chains R)
include hR

theorem within_pure (a : α) : Within (σ := σ) R (pure a) := fun d _ => hR.refl d

theorem within_bind {x : DriveM σ α} {f : α → DriveM σ γ} (hx : Within R x)
    (hf : ∀ a, Within R (f a)) : Within R (x >>= f) :=
  fun d s => hR.trans (hx d s) (hf _ _ _)

theorem within_get : Within (σ := σ) R get := fun d _ => hR.refl d

/-- A bus operation does not touch the controller. -/
theorem within_lift (m : StateM σ α) : Within R (liftM m : DriveM σ α) := fun d _ => hR.refl d

end Rules

section Elementary

variable {σ α : Type} {R : Drive → Drive → Prop}

theorem within_modify {f : Drive → Drive} (h : ∀ d, R d (f d)) : Within (σ := σ) R (modify f) :=
  fun d _ => h d

theorem within_modifyGet {f : Drive → α × Drive} (h : ∀ d, R d (f d).2) :
    Within (σ := σ) R (modifyGet f) :=
  fun d _ => h d

end Elementary

/-! ## 2. The mailbox operations

Each lemma assumes `R` across the elementary changes the operation makes, and nothing else. -/

namespace Drive

variable {σ : Type} (bus : Bus σ) {R : Drive → Drive → Prop}

theorem within_note (hrecord : ∀ d e, R d (d.record e)) (e : ErrorKind) :
    Within (σ := σ) R (note e) :=
  within_modify fun d => hrecord d e

theorem within_selectRx (hrx : ∀ d ty, R d (d.configureRx ty).2) (ty : RecordType) :
    Within (σ := σ) R (selectRx ty) :=
  within_modifyGet fun d => hrx d ty

theorem within_selectTx (htx : ∀ d ty, R d (d.configureTx ty).2) (ty : RecordType) :
    Within (σ := σ) R (selectTx ty) :=
  within_modifyGet fun d => htx d ty

variable (hR : Chains R)
include hR

theorem within_startup (hrx : ∀ d ty, R d (d.configureRx ty).2)
    (htx : ∀ d ty, R d (d.configureTx ty).2) : Within (σ := σ) R startup := by
  refine within_bind hR (within_get hR) fun d =>
    within_bind hR (within_selectRx hrx _) fun ok => ?_
  split
  · exact within_selectTx htx _
  · exact within_pure hR _

theorem within_shutdown : Within R (shutdown bus) :=
  within_bind hR (within_get hR) fun _ =>
    within_bind hR (within_lift hR _) fun _ => within_pure hR _

theorem within_refreshSizes (hsizes : ∀ d (sizes : RecordSizes), R d { d with sizes }) :
    Within R (refreshSizes bus) :=
  within_bind hR (within_get hR) fun _ =>
    within_bind hR (within_lift hR _) fun sizes => within_modify fun d => hsizes d sizes

theorem within_verifyWrite (o : MailboxObject) (v : Scalar) : Within R (verifyWrite bus o v) := by
  refine within_bind hR (within_get hR) fun d => within_bind hR (within_lift hR _) fun written => ?_
  split
  · exact within_pure hR _
  · refine within_bind hR (within_lift hR _) fun back => ?_
    split <;> exact within_pure hR _

theorem within_assignSlots (a : SyncAssignment) (i : Nat) (pdos : List UInt16) :
    Within R (assignSlots bus a i pdos) := by
  induction pdos generalizing i with
  | nil => exact within_pure hR _
  | cons index rest ih =>
    exact within_bind hR (within_verifyWrite bus hR _ _) fun _ =>
      within_bind hR (ih (i + 1)) fun _ => within_pure hR _

theorem within_assign (a : SyncAssignment) (pdos : List UInt16) : Within R (assign bus a pdos) :=
  within_bind hR (within_verifyWrite bus hR _ _) fun _ =>
    within_bind hR (within_assignSlots bus hR a 0 pdos) fun _ =>
      within_bind hR (within_verifyWrite bus hR _ _) fun _ => within_pure hR _

/-- The verdict that ends a configuration step: an error recorded unless the step succeeded. -/
theorem within_unless_note (hrecord : ∀ d e, R d (d.record e)) (ok : Bool) (e : ErrorKind) :
    Within (σ := σ) R (if ok = true then pure ok else do note e; pure ok) := by
  split
  · exact within_pure hR _
  · exact within_bind hR (within_note hrecord e) fun _ => within_pure hR _

theorem within_mapSide (hrecord : ∀ d e, R d (d.record e))
    (hrx : ∀ d ty, R d (d.configureRx ty).2) (htx : ∀ d ty, R d (d.configureTx ty).2)
    (a : SyncAssignment) (side : Side) (ty : RecordType) : Within R (mapSide bus a side ty) := by
  -- the join point, the side's verdict, ends every branch once inlined
  unfold mapSide
  dsimp only
  split
  · refine within_bind hR (within_assign bus hR a _) fun assigned => ?_
    split
    · split
      · exact within_bind hR (within_selectRx hrx ty) fun ok =>
          within_unless_note hR hrecord ok _
      · exact within_bind hR (within_selectTx htx ty) fun ok =>
          within_unless_note hR hrecord ok _
    · exact within_bind hR (within_pure hR _) fun ok => within_unless_note hR hrecord ok _
  · exact within_bind hR (within_pure hR _) fun ok => within_unless_note hR hrecord ok _

theorem within_mapRecords (hrecord : ∀ d e, R d (d.record e))
    (hrx : ∀ d ty, R d (d.configureRx ty).2) (htx : ∀ d ty, R d (d.configureTx ty).2)
    (rx tx : RecordType) : Within R (mapRecords bus rx tx) :=
  within_bind hR (within_mapSide bus hR hrecord hrx htx _ _ _) fun _ =>
    within_bind hR (within_mapSide bus hR hrecord hrx htx _ _ _) fun _ => within_pure hR _

theorem within_readStatusWord : Within R (readStatusWord bus) :=
  within_bind hR (within_get hR) fun _ =>
    within_bind hR (within_lift hR _) fun _ => within_pure hR _

theorem within_writeControlWord (w : ControlWord) : Within R (writeControlWord bus w) :=
  within_bind hR (within_get hR) fun _ => within_lift hR _

theorem within_transitionViaMailbox (hrecord : ∀ d e, R d (d.record e)) (t : Transition) :
    Within R (transitionViaMailbox bus t) := by
  refine within_bind hR (within_writeControlWord bus hR _) fun written => ?_
  split
  · exact within_pure hR _
  · exact within_bind hR (within_note hrecord _) fun _ => within_pure hR _

/-- A chain of mailbox transitions, stopped at the first that fails. -/
theorem within_allM_transitionViaMailbox (hrecord : ∀ d e, R d (d.record e))
    (path : List Transition) : Within R (path.allM (transitionViaMailbox bus)) := by
  induction path with
  | nil => exact within_pure hR _
  | cons t rest ih =>
    refine within_bind hR (within_transitionViaMailbox bus hR hrecord t) fun ok => ?_
    split
    · exact ih
    · exact within_pure hR _

theorem within_setStateViaMailbox (hrecord : ∀ d e, R d (d.record e)) (target : DriveState) :
    Within R (setStateViaMailbox bus target) := by
  refine within_bind hR (within_readStatusWord bus hR) fun answer => ?_
  split
  · exact within_pure hR _
  · split
    · exact within_bind hR (within_note hrecord _) fun _ => within_pure hR _
    · split
      · exact within_bind hR (within_note hrecord _) fun _ => within_pure hR _
      · exact within_allM_transitionViaMailbox bus hR hrecord _

theorem within_fetchRatedCurrent (hrated : ∀ d rated, R d (d.setRatedCurrent rated)) :
    Within R (fetchRatedCurrent bus) := by
  refine within_bind hR (within_get hR) fun d => ?_
  split
  · exact within_pure hR _
  · refine within_bind hR (within_get hR) fun _ =>
      within_bind hR (within_lift hR _) fun answer => ?_
    split
    · split
      · exact within_pure hR _
      · exact within_bind hR (within_modify fun d => hrated d _) fun _ => within_pure hR _
    · exact within_pure hR _

theorem within_writeRatedCurrent : Within R (writeRatedCurrent bus) := by
  refine within_bind hR (within_get hR) fun d => ?_
  split
  · exact within_bind hR (within_verifyWrite bus hR _ _) fun _ =>
      within_bind hR (within_verifyWrite bus hR _ _) fun _ => within_pure hR _
  · exact within_pure hR _

theorem within_runPreop (hrecord : ∀ d e, R d (d.record e))
    (hrx : ∀ d ty, R d (d.configureRx ty).2) (htx : ∀ d ty, R d (d.configureTx ty).2)
    (hsizes : ∀ d (sizes : RecordSizes), R d { d with sizes })
    (hrated : ∀ d rated, R d (d.setRatedCurrent rated)) : Within R (runPreop bus) := by
  refine within_bind hR (within_get hR) fun d =>
    within_bind hR (within_fetchRatedCurrent bus hR hrated) fun _ =>
      within_bind hR (within_setStateViaMailbox bus hR hrecord _) fun _ =>
        within_bind hR (within_mapRecords bus hR hrecord hrx htx _ _) fun _ => ?_
  -- the join point after the mode's write: sizes, rated current, maximum current, the verdict
  dsimp only
  split <;> refine within_bind hR ?_ fun _ => within_bind hR (within_refreshSizes bus hR hsizes)
    fun _ => within_bind hR (within_writeRatedCurrent bus hR) fun _ =>
      within_bind hR (within_get hR) fun _ =>
        within_bind hR (within_verifyWrite bus hR _ _) fun _ => within_unless_note hR hrecord _ _
  · exact within_verifyWrite bus hR _ _
  · exact within_pure hR _

/-! ## 3. The two halves of a cycle -/

theorem within_readFaultCode (hrecord : ∀ d e, R d (d.record e))
    (hfault : ∀ d code, R d { d with reading := d.reading.addFault code }) :
    Within R (readFaultCode bus) := by
  refine within_bind hR (within_get hR) fun _ => within_bind hR (within_lift hR _) fun answer => ?_
  split
  · exact within_modify fun d => hfault d _
  · exact within_note hrecord _

theorem within_exchange (x : Exchange) : Within R (exchange bus x) :=
  within_bind hR (within_get hR) fun _ =>
    within_bind hR (within_lift hR _) fun _ => within_pure hR _

theorem within_updateRead (hrecord : ∀ d e, R d (d.record e))
    (hstore : ∀ d r, R d (d.storeRecord r)) (hmark : ∀ d x, R d (d.markFresh x))
    (hfault : ∀ d code, R d { d with reading := d.reading.addFault code }) :
    Within R (updateRead bus) := by
  have hbegin : ∀ d, R d d.beginRead.2 := by
    intro d
    unfold beginRead
    split
    · exact hR.refl d
    · exact hrecord d _
  refine within_bind hR (within_modifyGet hbegin) fun x? => ?_
  split
  · exact within_pure hR _
  · refine within_bind hR (within_exchange bus hR _) fun answer =>
      within_bind hR (within_pure hR _) fun _ => ?_
    split
    · unfold finishRead
      split
      · refine within_bind hR (within_modify fun d => hstore d _) fun _ =>
          within_bind hR (within_get hR) fun _ =>
            within_bind hR (within_modify fun d => hmark d _) fun _ => ?_
        split
        · exact within_readFaultCode bus hR hrecord hfault
        · exact within_pure hR _
      · exact within_pure hR _
    · exact within_pure hR _

theorem within_writeRecord (hrecord : ∀ d e, R d (d.record e)) (mode : OperationMode) :
    Within R (writeRecord bus mode) := by
  refine within_bind hR (within_get hR) fun d => ?_
  split
  · exact within_note hrecord _
  · split
    · exact within_bind hR (within_lift hR _) fun _ => within_pure hR _
    · exact within_pure hR _

/-- The write half runs the engine on the controller it finds, so its rule is not a chain of the
others: the engine's change is taken from the controller before. -/
theorem within_updateWrite (hrecord : ∀ d e, R d (d.record e))
    (hengage : ∀ d now, R d (d.engage now)) (now : Nat) : Within R (updateWrite bus now) := by
  intro d s
  unfold updateWrite
  simp only [StateT.run_bind, StateT.run_get, pure_bind]
  split
  · exact within_note hrecord _ d s
  · rename_i mode _
    simp only [StateT.run_bind, StateT.run_get, pure_bind]
    split
    · exact hR.trans (hengage d now) (within_writeRecord bus hR hrecord mode _ _)
    · exact within_writeRecord bus hR hrecord mode d s

end Drive

end ServoDrive
