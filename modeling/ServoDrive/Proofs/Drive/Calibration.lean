import ServoDrive.Proofs.Drive.Changes

/-!
# The calibration follows the configuration

A controller keeps its calibration in two places, the factors it converts commands with and the
factors of its reading, and keeps whether commands may change the mode of operation. Three
operations set them: a new controller, loading a configuration, and taking a rated current the
drive reported while configuring it through the mailbox.

Main statement: `calibration_follows_configuration`. In every run of a new controller, whatever
the two actors do in whatever order and whatever the bus answers, both copies are the calibration
of the configuration in force and mode changes are allowed exactly as that configuration says; so
staging a command converts it with that calibration, a rated current taken from the drive
included.

The invariant is `Drive.Calibrated`. A new controller satisfies it, loading a configuration
restores it whatever came before, taking a rated current keeps it because that changes no setting
that decides mode changes, and every other elementary change leaves the configuration and the
copies alone (`spans_calibrated`); `Shared.run_within` carries it through the run.
-/

namespace ServoDrive

namespace Drive

/-- The calibration a controller keeps agrees with its configuration: the factors commands are
converted with and the reading's factors are the configuration's, and commands may change the
mode exactly when the configuration allows it. -/
structure Calibrated (d : Drive) : Prop where
  factors : d.factors = Factors.ofConfig d.config
  reading : d.reading.factors = Factors.ofConfig d.config
  modeChange : d.allowModeChange = d.config.allowsModeChange

theorem calibrated_new (name : String) (address : UInt16) : (Drive.new name address).Calibrated :=
  ⟨rfl, rfl, rfl⟩

/-- Loading a configuration calibrates the controller whatever it held before. -/
theorem calibrated_loadConfiguration (d : Drive) (c : Configuration) :
    (d.loadConfiguration c).Calibrated :=
  ⟨rfl, rfl, rfl⟩

/-- Taking a rated current recalibrates both copies, and leaves every setting that decides mode
changes as it was. -/
theorem Calibrated.setRatedCurrent {d : Drive} (h : d.Calibrated) (rated : Float) :
    (d.setRatedCurrent rated).Calibrated :=
  ⟨rfl, rfl, h.modeChange⟩

/-- A change that keeps the configuration and the three copies keeps the controller calibrated. -/
theorem Calibrated.of_eq {d d' : Drive} (h : d.Calibrated) (hc : d'.config = d.config)
    (hf : d'.factors = d.factors) (hm : d'.allowModeChange = d.allowModeChange)
    (hr : d'.reading.factors = d.reading.factors) : d'.Calibrated :=
  ⟨by rw [hf, hc, h.factors], by rw [hr, hc, h.reading], by rw [hm, hc, h.modeChange]⟩

end Drive

open Drive in
/-- Being calibrated is carried across every elementary change a controller's operations make. -/
theorem spans_calibrated : Spans fun d d' => d.Calibrated → d'.Calibrated where
  toChains := chains_invariant _
  record _ _ h := h.of_eq rfl rfl rfl rfl
  configureRx d ty h := by
    unfold configureRx
    split
    · exact h.of_eq rfl rfl rfl rfl
    · exact h.of_eq rfl rfl rfl rfl
  configureTx d ty h := by
    unfold configureTx
    split
    · exact h.of_eq rfl rfl rfl rfl
    · exact h.of_eq rfl rfl rfl rfl
  sizes _ _ h := h.of_eq rfl rfl rfl rfl
  setRatedCurrent _ rated h := h.setRatedCurrent rated
  loadConfiguration d c _ := calibrated_loadConfiguration d c
  stageCommand _ _ h := h.of_eq rfl rfl rfl rfl
  requestStateChange _ _ _ h := h.of_eq rfl rfl rfl rfl
  storeRecord _ r h := by
    cases r with
    | standard t => exact h.of_eq rfl rfl rfl rfl
    | cst t => exact h.of_eq rfl rfl rfl rfl
  markFresh d x h := by
    unfold markFresh
    split
    · exact h.of_eq rfl rfl rfl rfl
    · exact h
  addFault _ _ h := h.of_eq rfl rfl rfl rfl
  engage d now h := by
    -- the engine changes the state change, the flags, the controlword and the errors only
    obtain ⟨change, succeeded, cw, errors, he⟩ := engage_eq d now
    rw [he]
    exact h.of_eq rfl rfl rfl rfl

/-- In every run of a new controller, whatever the two actors do in whatever order and whatever the
bus answers, the factors commands are converted with and the reading's factors are the
calibration of the configuration in force, commands may change the mode exactly as that
configuration allows, and so staging a command converts it with that calibration (unit factors
for raw commands) and follows its mode only where the configuration allows mode changes. -/
theorem calibration_follows_configuration {σ : Type} (bus : Bus σ) (name : String)
    (address : UInt16) (s₀ : σ) (moves : List Move) :
    let d := ((Shared.start (Drive.new name address) s₀).run bus moves).drive
    d.factors = Factors.ofConfig d.config ∧ d.reading.factors = Factors.ofConfig d.config ∧
      d.allowModeChange = d.config.allowsModeChange ∧
      ∀ cmd : Command,
        (d.stageCommand cmd).staged =
          cmd.toSetpoints (if d.config.rawCommands then Factors.unit else Factors.ofConfig d.config)
            d.config.maxTorque ∧
        (d.stageCommand cmd).mode =
          match cmd.mode with
          | some m => if d.config.allowsModeChange then some m else d.mode
          | none => d.mode := by
  intro d
  have hcal : d.Calibrated :=
    Shared.run_within bus spans_calibrated _ moves (Drive.calibrated_new name address)
  refine ⟨hcal.factors, hcal.reading, hcal.modeChange, fun cmd => ⟨?_, ?_⟩⟩
  · simp only [Drive.stageCommand, hcal.factors]
  · cases hm : cmd.mode <;> simp only [Drive.stageCommand, hm, hcal.modeChange]

end ServoDrive
