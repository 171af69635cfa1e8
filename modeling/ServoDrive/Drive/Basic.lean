import ServoDrive.Reading
import ServoDrive.Units
import ServoDrive.Profile
import ServoDrive.Bus
import ServoDrive.Text.Basic

/-!
# Drive controllers

A `Drive` is the controller of one CiA 402 servo drive: its configuration, the controlword and the
setpoints it sends every cycle, the record layouts it negotiated, the progress of a state change
requested on the cyclic path, and the last reading.

This module holds the controller's state and the operations that need no bus. Two of them carry
the state-change logic:

* `requestStateChange` arms a change toward a target: not succeeded, no fresh reading, a new
  request number, and a pending change with no success yet;
* `engage` is the engine the write half of every cycle runs on a fresh reading: a reading of the
  target counts one success and the change completes at the configured number of them; otherwise,
  once the dwell since the last controlword change has elapsed, the controlword becomes that of the
  next transition toward the target (a statusword naming no state, or a state from which the
  table has no way, records `cyclicTransition` and leaves the controlword alone).

Time is a clock reading in microseconds, passed to the operations that consult the clock. The
calibration is kept twice, as the controller's factors for commands and as the reading's factors
for its physical values, and whether commands may change the mode once more; the operations that
change the configuration refresh the copies they concern.
-/

namespace ServoDrive

/-- The progress of a state change requested on the cyclic path. -/
inductive StateChange where
  | idle
  /-- Toward `target`; `since` is the clock reading of the request or of the last controlword
  change, `successes` the number of consecutive readings of the target. -/
  | pending (target : DriveState) (since : Nat) (successes : UInt32)
  deriving DecidableEq, Repr

/-- The controller of one drive. -/
structure Drive where
  name : String
  /-- The drive's slave address on the bus. -/
  address : UInt16
  config : Configuration := {}
  /-- The calibration commands are converted with. -/
  factors : Factors := Factors.ofConfig {}
  /-- Commands may change the mode of operation. -/
  allowModeChange : Bool := Configuration.allowsModeChange {}
  /-- The controlword every receive record carries. -/
  controlWord : ControlWord := ⟨0⟩
  /-- The setpoints of the next receive records, in drive units. -/
  staged : Setpoints := {}
  mode : Option OperationMode := none
  rxType : RecordType := .na
  txType : RecordType := .na
  sizes : RecordSizes := {}
  change : StateChange := .idle
  /-- The last requested cyclic state change completed. -/
  succeeded : Bool := false
  /-- A record was read since the engine last ran. -/
  fresh : Bool := false
  /-- Counts the cyclic state change requests, wrapping. -/
  request : UInt64 := 0
  reading : Reading := {}

namespace Drive

/-- An unconfigured controller for the drive at a slave address: the default configuration with
its calibration, no mode, no negotiated layout, controlword zero. -/
def new (name : String) (address : UInt16) : Drive :=
  let c : Configuration := {}
  { name, address, config := c, factors := Factors.ofConfig c,
    allowModeChange := c.allowsModeChange, reading := ({} : Reading).configure c }

/-- A cyclic state change is in progress. -/
def pending (d : Drive) : Bool := d.change != .idle

/-- The controller with an error recorded in its reading. -/
def record (d : Drive) (e : ErrorKind) : Drive := { d with reading := d.reading.addError e }

/-- Replace the configuration: the calibration, whether commands may change the mode and the mode
of operation become the configuration's, and the reading is recalibrated. -/
def loadConfiguration (d : Drive) (c : Configuration) : Drive :=
  { d with config := c, factors := Factors.ofConfig c, allowModeChange := c.allowsModeChange,
           mode := c.mode, reading := d.reading.configure c }

/-- Take a rated current reported by the drive into the configuration, recalibrating the controller
and the reading. -/
def setRatedCurrent (d : Drive) (rated : Float) : Drive :=
  let c := { d.config with motorRatedCurrent := some rated }
  { d with config := c, factors := Factors.ofConfig c, reading := d.reading.configure c }

/-- Select the receive layout; `na` is refused and recorded. -/
def configureRx (d : Drive) (ty : RecordType) : Bool × Drive :=
  if ty = .na then (false, d.record .rxRecordType) else (true, { d with rxType := ty })

/-- Select the transmit layout; `na` is refused and recorded. -/
def configureTx (d : Drive) (ty : RecordType) : Bool × Drive :=
  if ty = .na then (false, d.record .txRecordType) else (true, { d with txType := ty })

/-- Stage a command for the next receive records: converted through the calibration (through unit
factors when commands are raw), limited by the configured maximum torque when it names no limit.
Its mode of operation is followed only where the controller allows mode changes. -/
def stageCommand (d : Drive) (cmd : Command) : Drive :=
  let f := if d.config.rawCommands then Factors.unit else d.factors
  let mode := match cmd.mode with
    | some m => if d.allowModeChange then some m else d.mode
    | none => d.mode
  { d with staged := cmd.toSetpoints f d.config.maxTorque, mode }

/-- Arm a cyclic state change toward `target` at clock reading `now`. -/
def requestStateChange (d : Drive) (target : DriveState) (now : Nat) : Drive :=
  { d with succeeded := false, fresh := false, request := d.request + 1,
           change := .pending target now 0 }

/-- Whether a decoded statusword names the given state. -/
def names (state : Except UndefinedState DriveState) (s : DriveState) : Bool :=
  match state with
  | .ok t => t == s
  | .error _ => false

/-- The controller after one step toward a state from a decoded statusword: the controlword of
the next transition, or the error recorded when there is none. -/
def stepToward (d : Drive) (target : DriveState) (state : Except UndefinedState DriveState) :
    Drive :=
  match state with
  | .ok current =>
    match Transition.next target current with
    | .ok t => { d with controlWord := t.controlWord }
    | .error _ => d.record .cyclicTransition
  | .error _ => d.record .cyclicTransition

/-- The state-change engine, run on a fresh reading at clock reading `now`. -/
def engage (d : Drive) (now : Nat) : Drive :=
  let d := { d with fresh := false }
  match d.change with
  | .idle => d
  | .pending target since successes =>
    let state := d.reading.driveState
    if names state target then
      let successes := successes + 1
      if d.config.minReadings ≤ successes then { d with change := .idle, succeeded := true }
      else { d with change := .pending target since successes }
    else if d.config.minTimeout ≤ now - since then
      { d.stepToward target state with change := .pending target now 0 }
    else { d with change := .pending target since 0 }

/-- How a wait for a cyclic state change requested at `start` stands at `now`: `some true` once it
succeeded, `some false` once the wait is longer than the maximum time-out, `none` before. -/
def poll (d : Drive) (start now : Nat) : Option Bool :=
  if d.succeeded then some true
  else if d.config.maxTimeout < now - start then some false
  else none

/-- The controller's description: its name, quoted, and its address. -/
def describe (d : Drive) : String :=
  "Drive \x7b name: " ++ Quoted.quote d.name ++ ", address: " ++ toString d.address.toNat ++
    ", .. \x7d"

end Drive

end ServoDrive
