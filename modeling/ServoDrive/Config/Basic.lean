import ServoDrive.Profile
import ServoDrive.Record.Layout

/-!
# Drive configuration

The calibration and behaviour settings of one drive: motor data for the unit conversions, the
record layouts to negotiate, the mode of operation, and the timing of state changes. Durations are
kept in microseconds.

`Configuration.validate` checks the values a configuration file must satisfy, in a fixed order,
and reports the first that fails: calibration values must be positive (a NaN is not), the maximum
dwell must not be below the minimum, and at least one reading of a target state is needed.
-/

namespace ServoDrive

/-- The settings of a drive. -/
structure Configuration where
  /-- Rated current of the motor in A; unknown until configured or read from the drive. -/
  motorRatedCurrent : Option Float := none
  /-- Maximum current in A. -/
  maxCurrent : Float := 0
  /-- Torque per current of the motor, in N·m/A. -/
  motorConstant : Float := 1
  gearRatio : Float := 1
  /-- Encoder counts per turn. -/
  encoderResolution : UInt32 := 1
  /-- Commands are given in drive units and not converted. -/
  rawCommands : Bool := false
  rxType : RecordType := .na
  txType : RecordType := .na
  mode : Option OperationMode := none
  /-- Pause before reading back a written object, in µs. -/
  verifyTimeout : Nat := 20000
  /-- Least time between two controlword changes of a cyclic state change, in µs. -/
  minTimeout : Nat := 1000
  /-- Longest wait for a cyclic state change, in µs. -/
  maxTimeout : Nat := 300000
  /-- Consecutive readings of the target state that complete a cyclic state change. -/
  minReadings : UInt32 := 10
  /-- The mode of operation may change with each command. -/
  multipleModes : Bool := false
  deriving Inhabited

/-- The settings a configuration file names. -/
inductive ConfigField where
  | motorRatedCurrent
  | maxCurrent
  | motorConstant
  | gearRatio
  | encoderResolution
  | rawCommands
  | rxType
  | txType
  | mode
  | verifyTimeout
  | minTimeout
  | maxTimeout
  | minReadings
  | multipleModes
  deriving DecidableEq, Repr

namespace ConfigField

def all : List ConfigField :=
  [motorRatedCurrent, maxCurrent, motorConstant, gearRatio, encoderResolution, rawCommands,
   rxType, txType, mode, verifyTimeout, minTimeout, maxTimeout, minReadings, multipleModes]

/-- The field's key in a configuration file. -/
def key : ConfigField → String
  | motorRatedCurrent => "motor_rated_current_a"
  | maxCurrent => "max_current_a"
  | motorConstant => "motor_constant"
  | gearRatio => "gear_ratio"
  | encoderResolution => "position_encoder_resolution"
  | rawCommands => "use_raw_commands"
  | rxType => "rx_pdo_type"
  | txType => "tx_pdo_type"
  | mode => "mode_of_operation"
  | verifyTimeout => "config_run_sdo_verify_timeout_us"
  | minTimeout => "drive_state_change_min_timeout_us"
  | maxTimeout => "drive_state_change_max_timeout_us"
  | minReadings => "min_number_of_successful_target_state_readings"
  | multipleModes => "use_multiple_modes_of_operation"

def ofKey? (k : String) : Option ConfigField := all.find? (·.key == k)

end ConfigField

/-- Why a value is refused. -/
inductive Refusal where
  | notPositive
  | belowMinimum
  | noReading
  | unknownMode
  deriving DecidableEq, Repr

def Refusal.text : Refusal → String
  | .notPositive => "must be positive"
  | .belowMinimum => "must not be below the minimum timeout"
  | .noReading => "must be at least 1"
  | .unknownMode => "not a CiA 402 mode of operation"

/-- Why a configuration cannot be loaded. -/
inductive ConfigError where
  /-- The text is no configuration file: bad syntax, an unknown key or a value of a wrong type. -/
  | parse
  /-- A required field is absent. -/
  | missing (field : ConfigField)
  /-- A field has a refused value. -/
  | invalid (field : ConfigField) (refusal : Refusal)
  deriving DecidableEq, Repr

namespace ConfigError

def kind : ConfigError → String
  | parse => "Parse"
  | missing _ => "Missing"
  | invalid _ _ => "Invalid"

/-- The text of an error; a syntax error has none. -/
def message? : ConfigError → Option String
  | parse => none
  | missing f => some ("missing configuration field " ++ "`" ++ f.key ++ "`")
  | invalid f r => some ("invalid configuration field " ++ "`" ++ f.key ++ "`: " ++ r.text)

end ConfigError

namespace Configuration

/-- The first refused value, in the order rated current, maximum current, motor constant, gear
ratio, encoder resolution, dwell bounds, reading count. -/
def validate (c : Configuration) : Except ConfigError Unit :=
  let refuse (f : ConfigField) (r : Refusal) : Except ConfigError Unit := .error (.invalid f r)
  match c.motorRatedCurrent with
  | some rated =>
    if !(0 < rated) then refuse .motorRatedCurrent .notPositive else rest
  | none => rest
where
  rest : Except ConfigError Unit :=
    if !(0 < c.maxCurrent) then .error (.invalid .maxCurrent .notPositive)
    else if !(0 < c.motorConstant) then .error (.invalid .motorConstant .notPositive)
    else if !(0 < c.gearRatio) then .error (.invalid .gearRatio .notPositive)
    else if c.encoderResolution = 0 then .error (.invalid .encoderResolution .notPositive)
    else if c.maxTimeout < c.minTimeout then .error (.invalid .maxTimeout .belowMinimum)
    else if c.minReadings = 0 then .error (.invalid .minReadings .noReading)
    else .ok ()

/-- The largest torque the drive may produce, in N·m at the gearbox output. -/
def maxTorque (c : Configuration) : Float := c.maxCurrent * c.motorConstant * c.gearRatio

/-- Commands may change the mode of operation: asked for, and both records carry the mode. -/
def allowsModeChange (c : Configuration) : Bool :=
  c.multipleModes && c.rxType == .standard && c.txType == .standard

end Configuration

end ServoDrive
