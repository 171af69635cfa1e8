import ServoDrive.Proofs.Drive.Moves

/-!
# What each move of the two actors changes

The operations' lemmas of `Within` assume a relation across the elementary changes each makes.
This module says once which elementary changes each move of the two actors can make
(`Move.Makes`), so that a relation holding across those holds across the move
(`Shared.step_within_of_makes`): a view that only some moves touch is kept by all the others, as
the cycle state is by every call but a request (`Call.keeps_cycleState`). A relation across all
of them (`Spans`) holds across every move and every run of moves, in any interleaving
(`Shared.run_within`).
-/

namespace ServoDrive

/-! ## 1. The elementary changes of each move -/

/-- `R` holds across each elementary change the operations make to a controller. -/
structure Spans (R : Drive → Drive → Prop) : Prop extends Chains R where
  record : ∀ d e, R d (d.record e)
  configureRx : ∀ d ty, R d (d.configureRx ty).2
  configureTx : ∀ d ty, R d (d.configureTx ty).2
  sizes : ∀ d (sizes : RecordSizes), R d { d with sizes }
  setRatedCurrent : ∀ d rated, R d (d.setRatedCurrent rated)
  loadConfiguration : ∀ d c, R d (d.loadConfiguration c)
  stageCommand : ∀ d cmd, R d (d.stageCommand cmd)
  requestStateChange : ∀ d T now, R d (d.requestStateChange T now)
  storeRecord : ∀ d r, R d (d.storeRecord r)
  markFresh : ∀ d x, R d (d.markFresh x)
  addFault : ∀ d code, R d { d with reading := d.reading.addFault code }
  engage : ∀ d now, R d (d.engage now)

/-- `R` holds across each elementary change the move can make: a call's own changes, the start
of a read recording a missing layout, the store, the mark, the error-code read of a fault, and
the write half's engine and records. -/
def Move.Makes (R : Drive → Drive → Prop) : Move → Prop
  | .call (.requestState target now) => ∀ d, R d (d.requestStateChange target now)
  | .call (.stageCommand cmd) => ∀ d, R d (d.stageCommand cmd)
  | .call (.loadConfiguration c) => ∀ d, R d (d.loadConfiguration c)
  | .call (.loadConfigText text) =>
    ∀ c, Configuration.ofToml text = .ok c → ∀ d, R d (d.loadConfiguration c)
  | .call (.selectRx ty) => ∀ d, R d (d.configureRx ty).2
  | .call (.selectTx ty) => ∀ d, R d (d.configureTx ty).2
  | .call .startup => (∀ d ty, R d (d.configureRx ty).2) ∧ ∀ d ty, R d (d.configureTx ty).2
  | .call .refreshSizes => ∀ d (sizes : RecordSizes), R d { d with sizes }
  | .call (.mapRecords _ _) =>
    (∀ d e, R d (d.record e)) ∧ (∀ d ty, R d (d.configureRx ty).2) ∧
      ∀ d ty, R d (d.configureTx ty).2
  | .call (.transitionViaMailbox _) => ∀ d e, R d (d.record e)
  | .call (.setStateViaMailbox _) => ∀ d e, R d (d.record e)
  | .call .runPreop =>
    (∀ d e, R d (d.record e)) ∧ (∀ d ty, R d (d.configureRx ty).2) ∧
      (∀ d ty, R d (d.configureTx ty).2) ∧ (∀ d (sizes : RecordSizes), R d { d with sizes }) ∧
      ∀ d rated, R d (d.setRatedCurrent rated)
  | .call _ => True
  | .begin => ∀ d e, R d (d.record e)
  | .fetch => True
  | .store => ∀ d r, R d (d.storeRecord r)
  | .mark => ∀ d x, R d (d.markFresh x)
  | .finish => (∀ d e, R d (d.record e)) ∧ ∀ d code, R d { d with reading := d.reading.addFault code }
  | .write _ => (∀ d e, R d (d.record e)) ∧ ∀ d now, R d (d.engage now)

/-- A relation across every elementary change is across those of each move. -/
theorem Spans.makes {R : Drive → Drive → Prop} (hR : Spans R) : ∀ m : Move, m.Makes R
  | .call (.requestState _ _) => fun d => hR.requestStateChange d _ _
  | .call (.stageCommand _) => fun d => hR.stageCommand d _
  | .call (.loadConfiguration _) => fun d => hR.loadConfiguration d _
  | .call (.loadConfigText _) => fun _ _ d => hR.loadConfiguration d _
  | .call (.selectRx _) => fun d => hR.configureRx d _
  | .call (.selectTx _) => fun d => hR.configureTx d _
  | .call .startup => ⟨hR.configureRx, hR.configureTx⟩
  | .call .refreshSizes => hR.sizes
  | .call (.mapRecords _ _) => ⟨hR.record, hR.configureRx, hR.configureTx⟩
  | .call (.transitionViaMailbox _) => hR.record
  | .call (.setStateViaMailbox _) => hR.record
  | .call .runPreop => ⟨hR.record, hR.configureRx, hR.configureTx, hR.sizes, hR.setRatedCurrent⟩
  | .call .shutdown | .call (.verifyWrite _ _) | .call .readStatusWord
  | .call (.writeControlWord _) => trivial
  | .begin => hR.record
  | .fetch => trivial
  | .store => hR.storeRecord
  | .mark => hR.markFresh
  | .finish => ⟨hR.record, hR.addFault⟩
  | .write _ => ⟨hR.record, hR.engage⟩

/-! ## 2. Every move and every run -/

variable {σ : Type} (bus : Bus σ)

/-- A call's move changes the controller as the call does. -/
theorem Shared.step_call_drive (c : Shared σ) (call : Call) :
    (c.step bus (.call call)).drive = (c.exec (call.run bus)).2.drive := by
  cases call <;> rfl

section Makes

variable {R : Drive → Drive → Prop} (hC : Chains R)
include hC

theorem Call.within_of_makes (c : Call) (h : (Move.call c).Makes R) : Within R (c.run bus) := by
  cases c with
  | requestState target now => exact within_modify h
  | stageCommand cmd => exact within_modify h
  | loadConfiguration cfg => exact within_modify h
  | loadConfigText text =>
    dsimp only [Call.run]
    split
    · rename_i cfg hcfg
      exact within_modify (h cfg hcfg)
    · exact within_pure hC _
  | selectRx ty => exact within_bind hC (within_modifyGet h) fun _ => within_pure hC _
  | selectTx ty => exact within_bind hC (within_modifyGet h) fun _ => within_pure hC _
  | startup => exact within_bind hC (Drive.within_startup hC h.1 h.2) fun _ => within_pure hC _
  | shutdown => exact Drive.within_shutdown bus hC
  | refreshSizes => exact Drive.within_refreshSizes bus hC h
  | mapRecords rx tx =>
    exact within_bind hC (Drive.within_mapRecords bus hC h.1 h.2.1 h.2.2 rx tx) fun _ =>
      within_pure hC _
  | verifyWrite o v =>
    exact within_bind hC (Drive.within_verifyWrite bus hC o v) fun _ => within_pure hC _
  | readStatusWord =>
    exact within_bind hC (Drive.within_readStatusWord bus hC) fun _ => within_pure hC _
  | writeControlWord w =>
    exact within_bind hC (Drive.within_writeControlWord bus hC w) fun _ => within_pure hC _
  | transitionViaMailbox t =>
    exact within_bind hC (Drive.within_transitionViaMailbox bus hC h t) fun _ => within_pure hC _
  | setStateViaMailbox target =>
    exact within_bind hC (Drive.within_setStateViaMailbox bus hC h target) fun _ =>
      within_pure hC _
  | runPreop =>
    obtain ⟨hrecord, hrx, htx, hsizes, hrated⟩ := h
    exact within_bind hC (Drive.within_runPreop bus hC hrecord hrx htx hsizes hrated) fun _ =>
      within_pure hC _

/-- A move relates the controller before to the controller after by any relation that chains
and holds across the elementary changes that move can make. -/
theorem Shared.step_within_of_makes (c : Shared σ) (m : Move) (h : m.Makes R) :
    R c.drive (c.step bus m).drive := by
  cases m with
  | call call =>
    rw [Shared.step_call_drive]
    exact Call.within_of_makes bus hC call h c.drive c.bus
  | begin =>
    rcases Shared.step_begin_cases bus c with ⟨-, hs⟩ | ⟨-, hs⟩
    · rw [hs]
      show R c.drive c.drive.beginRead.2
      unfold Drive.beginRead
      split
      · exact hC.refl _
      · exact h _ _
    · rw [hs]; exact hC.refl _
  | fetch =>
    rcases Shared.step_fetch_cases bus c with ⟨x, -, hs⟩ | ⟨-, hs⟩
    · rw [hs]; exact hC.refl _
    · rw [hs]; exact hC.refl _
  | store =>
    rcases Shared.step_store_cases bus c with ⟨x, bytes, r, -, -, hs⟩ | ⟨x, a, -, -, hs⟩ | ⟨-, hs⟩
    · rw [hs]; exact h _ _
    · rw [hs]; exact hC.refl _
    · rw [hs]; exact hC.refl _
  | mark =>
    rcases Shared.step_mark_cases bus c with ⟨x, st, -, hs⟩ | ⟨-, hs⟩
    · rw [hs]; exact h _ _
    · rw [hs]; exact hC.refl _
  | finish =>
    rcases Shared.step_finish_cases bus c with ⟨st, -, hs⟩ | ⟨-, hs⟩
    · rw [hs]
      split
      · exact Drive.within_readFaultCode bus hC h.1 h.2 c.drive c.bus
      · exact hC.refl _
    · rw [hs]; exact hC.refl _
  | write now =>
    rcases Shared.step_write_cases bus c now with ⟨-, hs⟩ | ⟨-, hs⟩
    · rw [hs]
      split
      · exact Drive.within_updateWrite bus hC h.1 h.2 now c.drive c.bus
      · exact Drive.within_updateWrite bus hC h.1 h.2 now c.drive c.bus
    · rw [hs]; exact hC.refl _

end Makes

/-- The elementary changes of every call but a request keep the cycle state. -/
theorem Move.makes_cycleState (c : Call) (hc : ∀ target now, c ≠ .requestState target now) :
    (Move.call c).Makes fun d d' => d'.cycleState = d.cycleState := by
  cases c with
  | requestState target now => exact absurd rfl (hc target now)
  | stageCommand cmd => exact fun d => Drive.cycleState_stageCommand d cmd
  | loadConfiguration cfg => exact fun d => Drive.cycleState_loadConfiguration d cfg
  | loadConfigText text => exact fun cfg _ d => Drive.cycleState_loadConfiguration d cfg
  | selectRx ty => exact fun d => Drive.cycleState_configureRx d ty
  | selectTx ty => exact fun d => Drive.cycleState_configureTx d ty
  | startup => exact ⟨Drive.cycleState_configureRx, Drive.cycleState_configureTx⟩
  | refreshSizes => exact fun _ _ => rfl
  | mapRecords rx tx =>
    exact ⟨Drive.cycleState_record, Drive.cycleState_configureRx, Drive.cycleState_configureTx⟩
  | transitionViaMailbox t => exact Drive.cycleState_record
  | setStateViaMailbox target => exact Drive.cycleState_record
  | runPreop =>
    exact ⟨Drive.cycleState_record, Drive.cycleState_configureRx, Drive.cycleState_configureTx,
      fun _ _ => rfl, Drive.cycleState_setRatedCurrent⟩
  | shutdown | verifyWrite o v | readStatusWord | writeControlWord w => trivial

/-- Every call of the application but a request of a cyclic state change leaves the cycle state
alone, whatever the bus answers. -/
theorem Call.keeps_cycleState (c : Call) (hc : ∀ target now, c ≠ .requestState target now) :
    Keeps Drive.cycleState (c.run bus) :=
  .of_within (Call.within_of_makes bus (chains_view _) c (Move.makes_cycleState c hc))

variable {R : Drive → Drive → Prop} (hR : Spans R)
include hR

theorem Call.within_run (c : Call) : Within R (c.run bus) :=
  Call.within_of_makes bus hR.toChains c (hR.makes _)

theorem Op.within_run (op : Op) : Within R (op.run bus) := by
  cases op with
  | call c => exact Call.within_run bus hR c
  | updateRead =>
    exact Drive.within_updateRead bus hR.toChains hR.record hR.storeRecord hR.markFresh hR.addFault
  | updateWrite now => exact Drive.within_updateWrite bus hR.toChains hR.record hR.engage now

namespace Shared

/-- Every move of either actor relates the controller before to the controller after by `R`. -/
theorem step_within (c : Shared σ) (m : Move) : R c.drive (c.step bus m).drive :=
  step_within_of_makes bus hR.toChains c m (hR.makes m)

/-- A run of moves, in any interleaving of the two actors, relates the controller before to the
controller after by `R`. -/
theorem run_within (c : Shared σ) (moves : List Move) : R c.drive (c.run bus moves).drive := by
  induction moves generalizing c with
  | nil => exact hR.refl _
  | cons m moves ih =>
    have hrun : c.run bus (m :: moves) = (c.step bus m).run bus moves := rfl
    rw [hrun]
    exact hR.trans (step_within bus hR c m) (ih _)

end Shared

end ServoDrive
