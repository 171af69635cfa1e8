import ServoDrive.Proofs.Drive.Within

/-!
# What the controller's operations leave alone

The cyclic state change lives in a few fields of the controller: the change in progress, the
success flag, the fresh flag, the request number, the held controlword, and the statusword of the
last reading, which is what the engine decodes. `Drive.cycleState` collects them.

The elementary changes that the application's calls make, but a request, leave those fields as
they were (`Drive.cycleState_record`, ...): the mailbox operations write only the reading's
histories, the negotiated layouts, the record sizes and the rated current; loading a configuration
or staging a command changes the configuration, the setpoints and the mode. Which elementary
changes each call makes is said once, in `Move.Makes`, and so every call of the application other
than a request keeps the cycle state (`Call.keeps_cycleState`, beside it).

The tool is the judgment `Keeps view act`: whatever the controller and the bus, running `act`
leaves `view` of the controller unchanged. It is `Within` for the relation of a view kept, so each
of its rules is that of `Within`. The judgment is stated for any view because the held controlword
alone is also kept by the read half, which changes the rest of the cycle state; of the read half,
the exchange touches only the bus (`keeps_exchange`) and the error-code read of a drive in fault
keeps the cycle state (`keeps_readFaultCode`).
-/

namespace ServoDrive

/-- The fields of a controller that the cyclic state change reads and writes. -/
structure CycleState where
  change : StateChange
  succeeded : Bool
  fresh : Bool
  request : UInt64
  controlWord : ControlWord
  statusWord : StatusWord

/-- The cycle state of a controller. -/
def Drive.cycleState (d : Drive) : CycleState :=
  ⟨d.change, d.succeeded, d.fresh, d.request, d.controlWord, d.reading.statusWord⟩

namespace Drive

/-- Two controllers have the same cycle state when they agree on each of its fields. -/
theorem cycleState_eq_iff {d d' : Drive} :
    d'.cycleState = d.cycleState ↔
      d'.change = d.change ∧ d'.succeeded = d.succeeded ∧ d'.fresh = d.fresh ∧
        d'.request = d.request ∧ d'.controlWord = d.controlWord ∧
        d'.reading.statusWord = d.reading.statusWord := by
  simp only [cycleState, CycleState.mk.injEq]

theorem driveState_eq_of_cycleState {d d' : Drive} (h : d'.cycleState = d.cycleState) :
    d'.reading.driveState = d.reading.driveState :=
  congrArg StatusWord.state (cycleState_eq_iff.1 h).2.2.2.2.2

@[simp] theorem cycleState_record (d : Drive) (e : ErrorKind) :
    (d.record e).cycleState = d.cycleState := rfl

@[simp] theorem cycleState_loadConfiguration (d : Drive) (c : Configuration) :
    (d.loadConfiguration c).cycleState = d.cycleState := rfl

@[simp] theorem cycleState_setRatedCurrent (d : Drive) (rated : Float) :
    (d.setRatedCurrent rated).cycleState = d.cycleState := rfl

@[simp] theorem cycleState_stageCommand (d : Drive) (cmd : Command) :
    (d.stageCommand cmd).cycleState = d.cycleState := rfl

@[simp] theorem cycleState_configureRx (d : Drive) (ty : RecordType) :
    (d.configureRx ty).2.cycleState = d.cycleState := by
  unfold configureRx
  split <;> rfl

@[simp] theorem cycleState_configureTx (d : Drive) (ty : RecordType) :
    (d.configureTx ty).2.cycleState = d.cycleState := by
  unfold configureTx
  split <;> rfl

@[simp] theorem cycleState_beginRead (d : Drive) : d.beginRead.2.cycleState = d.cycleState := by
  unfold beginRead
  split <;> rfl

end Drive

/-! ## 1. The judgment and its rules

Running an operation keeps a view exactly when it relates the controllers before and after by
the view's equality, so every rule is the rule of `Within` for that relation. -/

section Rules

variable {σ β α γ : Type} {view : Drive → β}

/-- Running `act` leaves `view` of the controller unchanged, whatever the controller and the
bus. -/
def Keeps (view : Drive → β) (act : DriveM σ α) : Prop :=
  ∀ d s, view (((act.run d).run s).1.2) = view d

/-- Keeping a view is relating the controllers before and after by the view's equality. -/
theorem Keeps.of_within {act : DriveM σ α} (h : Within (fun d d' => view d' = view d) act) :
    Keeps view act :=
  h

theorem keeps_pure (a : α) : Keeps (σ := σ) view (pure a) := within_pure (chains_view view) a

theorem keeps_bind {x : DriveM σ α} {f : α → DriveM σ γ} (hx : Keeps view x)
    (hf : ∀ a, Keeps view (f a)) : Keeps view (x >>= f) :=
  within_bind (chains_view view) hx hf

theorem keeps_get : Keeps (σ := σ) view get := within_get (chains_view view)

theorem keeps_modify {f : Drive → Drive} (h : ∀ d, view (f d) = view d) :
    Keeps (σ := σ) view (modify f) :=
  .of_within (within_modify h)

theorem keeps_modifyGet {f : Drive → α × Drive} (h : ∀ d, view (f d).2 = view d) :
    Keeps (σ := σ) view (modifyGet f) :=
  .of_within (within_modifyGet h)

/-- A bus operation does not touch the controller. -/
theorem keeps_lift (m : StateM σ α) : Keeps view (liftM m : DriveM σ α) :=
  within_lift (chains_view view) m

/-- A view kept entire keeps every part of it. -/
theorem Keeps.map {act : DriveM σ α} (h : Keeps view act) {δ : Type} (g : β → δ) :
    Keeps (g ∘ view) act :=
  fun d s => congrArg g (h d s)

end Rules

/-! ## 2. Recording an error, and the bus operations of the read half -/

namespace Drive

variable {σ : Type} (bus : Bus σ)

theorem keeps_note (e : ErrorKind) : Keeps (σ := σ) cycleState (note e) :=
  .of_within (within_note (fun d e => cycleState_record d e) e)

/-- The error-code read of a drive in fault adds a fault or records an error, nothing else. -/
theorem keeps_readFaultCode : Keeps cycleState (readFaultCode bus) :=
  within_readFaultCode bus (chains_view cycleState) (fun d e => cycleState_record d e)
    (fun _ _ => rfl)

/-- Fetching a record touches only the bus. -/
theorem keeps_exchange {β : Type} (view : Drive → β) (x : Exchange) :
    Keeps view (exchange bus x) :=
  within_exchange bus (chains_view view) x

end Drive

end ServoDrive
