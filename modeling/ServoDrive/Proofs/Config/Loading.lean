import ServoDrive.Config.Document

/-!
# Loading a configuration file

A configuration file becomes a configuration in two stages, and every check of either stage is
made in a fixed order, the first that fails giving the error:

1. the fields (`ConfigFile.fieldChecks`): the required fields are taken in the order the loader
   takes them, the mode of operation first and the two record types last, then the mode code must
   name a mode, then the durations and the number of readings must be present;
2. the values (`Configuration.checks`), as `Configuration.validate` checks them on the
   configuration the fields give.

A file whose fields all pass gives exactly one configuration (`ConfigFile.Describes`): the file's
values, the durations in microseconds as written, the mode the code names, and a rated current of
zero taken as unknown. The loading then succeeds exactly when that configuration passes
`validate`, whose checks amount to `Configuration.Valid`: positive calibration values, a maximum
dwell not below the minimum, at least one reading of a target state.

Main statement: `configuration_file_loading`, for the values of every configuration file,
whatever text they were read from: loading a text (`Configuration.ofToml`) reads its file's values
and loads them with `Configuration.ofFile`, so the statement holds of every text that reads as a
file.
-/

namespace ServoDrive

/-- The error of the first check that fails, in order; each check is whether it passes and the
error it reports when it does not. -/
def firstFailure : List (Bool × ConfigError) → Option ConfigError
  | [] => none
  | (ok, e) :: rest => if ok then firstFailure rest else some e

@[simp] theorem firstFailure_nil : firstFailure [] = none :=
  rfl

@[simp] theorem firstFailure_cons_true (e : ConfigError) (rest : List (Bool × ConfigError)) :
    firstFailure ((true, e) :: rest) = firstFailure rest :=
  rfl

@[simp] theorem firstFailure_cons_false (e : ConfigError) (rest : List (Bool × ConfigError)) :
    firstFailure ((false, e) :: rest) = some e :=
  rfl

/-- No check fails exactly when every check passes. -/
theorem firstFailure_eq_none_iff (l : List (Bool × ConfigError)) :
    firstFailure l = none ↔ ∀ p ∈ l, p.1 = true := by
  induction l with
  | nil => simp [firstFailure]
  | cons p rest ih =>
    obtain ⟨ok, e⟩ := p
    cases ok <;> simp [ih]

namespace OperationMode

/-- A code names the mode whose code it is, and no other. -/
theorem ofCode?_eq_some_iff {code : UInt8} {m : OperationMode} :
    ofCode? code = some m ↔ m.code = code := by
  constructor
  · intro h
    have hfound := List.find?_some h
    simpa using hfound
  · rintro rfl
    exact ofCode?_code m

end OperationMode

namespace Configuration

/-- The values a configuration needs for the unit conversions and the state-change engine. -/
structure Valid (c : Configuration) : Prop where
  ratedPositive : ∀ r, c.motorRatedCurrent = some r → 0 < r
  maxCurrentPositive : 0 < c.maxCurrent
  motorConstantPositive : 0 < c.motorConstant
  gearRatioPositive : 0 < c.gearRatio
  resolutionPositive : 0 < c.encoderResolution
  timeoutsOrdered : c.minTimeout ≤ c.maxTimeout
  readingsPositive : 0 < c.minReadings

/-- The checks of a configuration's values, in the order `validate` makes them. -/
def checks (c : Configuration) : List (Bool × ConfigError) :=
  [(c.motorRatedCurrent.all fun r => decide (0 < r), .invalid .motorRatedCurrent .notPositive),
   (decide (0 < c.maxCurrent), .invalid .maxCurrent .notPositive),
   (decide (0 < c.motorConstant), .invalid .motorConstant .notPositive),
   (decide (0 < c.gearRatio), .invalid .gearRatio .notPositive),
   (decide (0 < c.encoderResolution), .invalid .encoderResolution .notPositive),
   (decide (c.minTimeout ≤ c.maxTimeout), .invalid .maxTimeout .belowMinimum),
   (decide (0 < c.minReadings), .invalid .minReadings .noReading)]

/-- Past the rated current, `validate` reports the first of the other checks that fails. -/
theorem validate_rest_eq (c : Configuration) :
    validate.rest c = match firstFailure c.checks.tail with
      | none => .ok ()
      | some e => .error e := by
  have hres := @UInt32.pos_iff_ne_zero c.encoderResolution
  have hreadings := @UInt32.pos_iff_ne_zero c.minReadings
  -- one `if` for each check, in the order of the list
  simp only [validate.rest, checks, List.tail_cons]
  by_cases h₁ : 0 < c.maxCurrent <;> simp [h₁]
  by_cases h₂ : 0 < c.motorConstant <;> simp [h₂]
  by_cases h₃ : 0 < c.gearRatio <;> simp [h₃]
  by_cases h₄ : c.encoderResolution = 0 <;> simp [h₄, hres]
  by_cases h₅ : c.maxTimeout < c.minTimeout <;> simp [h₅, Nat.not_le.2, Nat.le_of_not_lt]
  by_cases h₆ : c.minReadings = 0 <;> simp [h₆, hreadings]

/-- `validate` reports the first of its checks that fails. -/
theorem validate_eq (c : Configuration) :
    c.validate = match firstFailure c.checks with
      | none => .ok ()
      | some e => .error e := by
  have hchecks : c.checks = (c.motorRatedCurrent.all fun r => decide (0 < r),
      .invalid .motorRatedCurrent .notPositive) :: c.checks.tail := rfl
  rw [hchecks]
  -- the rated current is checked first, and only when it is known
  cases hr : c.motorRatedCurrent with
  | none =>
    simp only [validate, hr, Option.all_none, firstFailure_cons_true]
    exact validate_rest_eq c
  | some r =>
    by_cases h₀ : 0 < r
    · simp only [validate, hr, Option.all_some, h₀, decide_true, Bool.not_true,
        firstFailure_cons_true, Bool.false_eq_true, ↓reduceIte]
      exact validate_rest_eq c
    · simp [validate, hr, h₀]

/-- Every check of `validate` passes exactly when the configuration holds its values. -/
theorem firstFailure_checks_eq_none_iff (c : Configuration) :
    firstFailure c.checks = none ↔ c.Valid := by
  rw [firstFailure_eq_none_iff]
  constructor
  · intro h
    have hall := fun p hp => h p hp
    simp only [checks, List.mem_cons, List.not_mem_nil, or_false, forall_eq_or_imp,
      forall_eq, decide_eq_true_eq, Option.all_eq_true] at hall
    obtain ⟨hr, hmax, hconst, hgear, hres, hto, hread⟩ := hall
    exact ⟨fun r h => by simpa using hr r h, hmax, hconst, hgear, hres, hto, hread⟩
  · intro hv
    simp only [checks, List.mem_cons, List.not_mem_nil, or_false, forall_eq_or_imp,
      forall_eq, decide_eq_true_eq, Option.all_eq_true]
    exact ⟨fun r h => by simpa using hv.ratedPositive r h, hv.maxCurrentPositive,
      hv.motorConstantPositive, hv.gearRatioPositive, hv.resolutionPositive, hv.timeoutsOrdered,
      hv.readingsPositive⟩

/-- A configuration passes `validate` exactly when it holds the values it needs. -/
theorem validate_eq_ok_iff (c : Configuration) : c.validate = .ok () ↔ c.Valid := by
  rw [validate_eq, ← firstFailure_checks_eq_none_iff]
  cases firstFailure c.checks <;> simp

end Configuration

namespace ConfigFile

/-- The checks of a file's fields, in the order the loader makes them: the mode of operation
present, the calibration values and the record types present, the mode code naming a mode, the
durations and the number of readings present. -/
def fieldChecks (f : ConfigFile) : List (Bool × ConfigError) :=
  [(f.modeCode.isSome, .missing .mode),
   (f.maxCurrent.isSome, .missing .maxCurrent),
   (f.motorConstant.isSome, .missing .motorConstant),
   (f.gearRatio.isSome, .missing .gearRatio),
   (f.encoderResolution.isSome, .missing .encoderResolution),
   (f.rxType.isSome, .missing .rxType),
   (f.txType.isSome, .missing .txType),
   (f.modeCode.all fun code => (OperationMode.ofCode? code).isSome, .invalid .mode .unknownMode),
   (f.verifyTimeout.isSome, .missing .verifyTimeout),
   (f.minTimeout.isSome, .missing .minTimeout),
   (f.maxTimeout.isSome, .missing .maxTimeout),
   (f.minReadings.isSome, .missing .minReadings)]

/-- The configuration carries the file's values: every required field as written, durations in
microseconds, the mode its code names, the flags, and the rated current unless it is zero. -/
structure Describes (f : ConfigFile) (c : Configuration) : Prop where
  motorRatedCurrent : c.motorRatedCurrent = f.motorRatedCurrent.filter (· != 0)
  maxCurrent : f.maxCurrent = some c.maxCurrent
  motorConstant : f.motorConstant = some c.motorConstant
  gearRatio : f.gearRatio = some c.gearRatio
  encoderResolution : f.encoderResolution = some c.encoderResolution
  rawCommands : c.rawCommands = f.rawCommands
  rxType : f.rxType = some c.rxType
  txType : f.txType = some c.txType
  mode : ∃ m, c.mode = some m ∧ f.modeCode = some m.code
  verifyTimeout : f.verifyTimeout = some c.verifyTimeout
  minTimeout : f.minTimeout = some c.minTimeout
  maxTimeout : f.maxTimeout = some c.maxTimeout
  minReadings : f.minReadings = some c.minReadings
  multipleModes : c.multipleModes = f.multipleModes

/-- A file describes at most one configuration. -/
theorem Describes.unique {f : ConfigFile} {c c' : Configuration} (h : f.Describes c)
    (h' : f.Describes c') : c = c' := by
  obtain ⟨m, hm, hcode⟩ := h.mode
  obtain ⟨m', hm', hcode'⟩ := h'.mode
  -- two modes with the same code are the same mode
  have hsame : m.code = m'.code := Option.some.inj (hcode.symm.trans hcode')
  have hmode : c.mode = c'.mode := by
    rw [hm, hm', ← OperationMode.ofCode?_code m, ← OperationMode.ofCode?_code m', hsame]
  cases c
  cases c'
  simp only [Configuration.mk.injEq]
  refine ⟨h.motorRatedCurrent.trans h'.motorRatedCurrent.symm, ?_, ?_, ?_, ?_,
    h.rawCommands.trans h'.rawCommands.symm, ?_, ?_, hmode, ?_, ?_, ?_, ?_,
    h.multipleModes.trans h'.multipleModes.symm⟩
  · exact Option.some.inj (h.maxCurrent.symm.trans h'.maxCurrent)
  · exact Option.some.inj (h.motorConstant.symm.trans h'.motorConstant)
  · exact Option.some.inj (h.gearRatio.symm.trans h'.gearRatio)
  · exact Option.some.inj (h.encoderResolution.symm.trans h'.encoderResolution)
  · exact Option.some.inj (h.rxType.symm.trans h'.rxType)
  · exact Option.some.inj (h.txType.symm.trans h'.txType)
  · exact Option.some.inj (h.verifyTimeout.symm.trans h'.verifyTimeout)
  · exact Option.some.inj (h.minTimeout.symm.trans h'.minTimeout)
  · exact Option.some.inj (h.maxTimeout.symm.trans h'.maxTimeout)
  · exact Option.some.inj (h.minReadings.symm.trans h'.minReadings)

/-- A file that describes a configuration passes every field check. -/
theorem Describes.fieldChecks {f : ConfigFile} {c : Configuration} (h : f.Describes c) :
    firstFailure f.fieldChecks = none := by
  obtain ⟨m, -, hcode⟩ := h.mode
  simp [ConfigFile.fieldChecks, hcode, h.maxCurrent, h.motorConstant, h.gearRatio,
    h.encoderResolution, h.rxType, h.txType, h.verifyTimeout, h.minTimeout, h.maxTimeout,
    h.minReadings]

end ConfigFile

namespace Configuration

/-- The loading of a file's values either stops at the first field check that fails, or, all of
them passing, checks the one configuration the file describes. -/
theorem ofFile_cases (f : ConfigFile) :
    (∃ e, firstFailure f.fieldChecks = some e ∧ ofFile f = .error e) ∨
    ∃ c, f.Describes c ∧ ofFile f = (do c.validate; pure c) := by
  obtain ⟨rated, maxC, mc, gr, res, raw, rx, tx, code, vt, lo, hi, mr, mm⟩ := f
  -- the required fields in the loader's order: the first one absent is its answer
  rcases code with _ | code
  · exact .inl ⟨_, rfl, rfl⟩
  rcases maxC with _ | maxC
  · exact .inl ⟨_, rfl, rfl⟩
  rcases mc with _ | mc
  · exact .inl ⟨_, rfl, rfl⟩
  rcases gr with _ | gr
  · exact .inl ⟨_, rfl, rfl⟩
  rcases res with _ | res
  · exact .inl ⟨_, rfl, rfl⟩
  rcases rx with _ | rx
  · exact .inl ⟨_, rfl, rfl⟩
  rcases tx with _ | tx
  · exact .inl ⟨_, rfl, rfl⟩
  -- the record types known, the mode code must name a mode; past it, the later fields in order
  cases hm : OperationMode.ofCode? code with
  | none =>
    refine .inl ⟨.invalid .mode .unknownMode, by simp [ConfigFile.fieldChecks, hm], ?_⟩
    simp only [ofFile, required, bind, Except.bind, hm]
    rfl
  | some m =>
    rcases vt with _ | vt
    · refine .inl ⟨.missing .verifyTimeout, by simp [ConfigFile.fieldChecks, hm], ?_⟩
      simp only [ofFile, required, bind, Except.bind, hm]
      rfl
    rcases lo with _ | lo
    · refine .inl ⟨.missing .minTimeout, by simp [ConfigFile.fieldChecks, hm], ?_⟩
      simp only [ofFile, required, bind, Except.bind, hm]
      rfl
    rcases hi with _ | hi
    · refine .inl ⟨.missing .maxTimeout, by simp [ConfigFile.fieldChecks, hm], ?_⟩
      simp only [ofFile, required, bind, Except.bind, hm]
      rfl
    rcases mr with _ | mr
    · refine .inl ⟨.missing .minReadings, by simp [ConfigFile.fieldChecks, hm], ?_⟩
      simp only [ofFile, required, bind, Except.bind, hm]
      rfl
    have hcode : some code = some m.code := by rw [OperationMode.ofCode?_eq_some_iff.1 hm]
    refine .inr ⟨⟨rated.filter (· != 0), maxC, mc, gr, res, raw, rx, tx, some m, vt, lo, hi, mr,
      mm⟩, ⟨rfl, rfl, rfl, rfl, rfl, rfl, rfl, rfl, ⟨m, rfl, hcode⟩, rfl, rfl, rfl, rfl, rfl⟩, ?_⟩
    simp only [ofFile, required, bind, Except.bind, hm]
    rfl

end Configuration

/-- For the values of every configuration file: loading them succeeds with `c` exactly when `c`
carries the file's values (each of the eleven required fields present, the mode code naming a mode
of operation, the durations in microseconds, a rated current of zero taken as unknown) and holds
the values a configuration needs (at least one reading of a target state, a maximum dwell not
below the minimum, positive calibration values), which is what `validate` accepts; and it fails
with `e` exactly when `e` is the error of the first check that fails, the field checks in the
loader's order and then, all of them passing, the checks of `validate` in order. -/
theorem configuration_file_loading (f : ConfigFile) :
    (∀ c, Configuration.ofFile f = .ok c ↔ f.Describes c ∧ c.Valid) ∧
    ∀ e, Configuration.ofFile f = .error e ↔
      firstFailure f.fieldChecks = some e ∨
        firstFailure f.fieldChecks = none ∧ ∃ c, f.Describes c ∧ firstFailure c.checks = some e := by
  rcases Configuration.ofFile_cases f with ⟨e₀, hfail, hfile⟩ | ⟨c₀, hc₀, hfile⟩
  · -- a field check fails: no configuration is described, and its error is the answer
    have hnone : ∀ c, ¬ f.Describes c := fun c hc => by
      rw [hc.fieldChecks] at hfail
      cases hfail
    refine ⟨fun c => ?_, fun e => ?_⟩
    · rw [hfile]
      simp only [reduceCtorEq, false_iff, not_and]
      exact fun hc => absurd hc (hnone c)
    · rw [hfile, hfail]
      simp
  · -- the fields give `c₀`: the answer is `validate`'s on it
    have hpass := hc₀.fieldChecks
    rw [hfile, Configuration.validate_eq]
    refine ⟨fun c => ?_, fun e => ?_⟩
    · constructor
      · intro hok
        cases hv : firstFailure c₀.checks with
        | none =>
          rw [hv] at hok
          cases hok
          exact ⟨hc₀, (Configuration.firstFailure_checks_eq_none_iff c₀).1 hv⟩
        | some e =>
          rw [hv] at hok
          cases hok
      · rintro ⟨hc, hvalid⟩
        obtain rfl := hc₀.unique hc
        rw [(Configuration.firstFailure_checks_eq_none_iff c₀).2 hvalid]
        rfl
    · constructor
      · intro herr
        cases hv : firstFailure c₀.checks with
        | none =>
          rw [hv] at herr
          cases herr
        | some e' =>
          rw [hv] at herr
          cases herr
          exact .inr ⟨hpass, c₀, hc₀, hv⟩
      · rintro (hfail | ⟨-, c, hc, hv⟩)
        · rw [hpass] at hfail
          cases hfail
        · obtain rfl := hc₀.unique hc
          rw [hv]
          rfl

/-- A file with no field fails first for the missing mode of operation. -/
theorem empty_configuration_lacks_mode : Configuration.ofFile {} = .error (.missing .mode) :=
  ((configuration_file_loading {}).2 _).2 (.inl rfl)

end ServoDrive
