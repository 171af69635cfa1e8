import ServoDrive.History
import ServoDrive.Units
import ServoDrive.Record.Tx
import ServoDrive.Profile

/-!
# Readings and controller errors

The last values a controller read from its drive, with the history of the errors it recorded and
of the faults the drive reported.
-/

/-!
## Error kinds

The failures a drive controller records in its reading instead of interrupting its caller: the
cyclic path keeps running and the configuration path folds them into a boolean.
-/

namespace ServoDrive

inductive ErrorKind where
  /-- A record was to be sent before a mode of operation was set. -/
  | modeOfOperation
  /-- The receive record type is not negotiated. -/
  | rxRecordType
  /-- The transmit record type is not negotiated. -/
  | txRecordType
  /-- Assigning the receive record's PDOs failed. -/
  | rxMapping
  /-- Assigning the transmit record's PDOs failed. -/
  | txMapping
  /-- A state change through the mailbox failed. -/
  | mailboxTransition
  /-- A state change through process data found no way on. -/
  | cyclicTransition
  /-- The mailbox configuration of the drive failed. -/
  | configuration
  /-- The error code of a fault could not be read. -/
  | errorCodeRead
  deriving DecidableEq, Repr

namespace ErrorKind

def all : List ErrorKind :=
  [modeOfOperation, rxRecordType, txRecordType, rxMapping, txMapping, mailboxTransition,
   cyclicTransition, configuration, errorCodeRead]

/-- The name the error is reported by. -/
def name : ErrorKind → String
  | modeOfOperation => "ModeOfOperationError"
  | rxRecordType => "RxPdoTypeError"
  | txRecordType => "TxPdoTypeError"
  | rxMapping => "PdoMappingError"
  | txMapping => "TxPdoMappingError"
  | mailboxTransition => "SdoStateTransitionError"
  | cyclicTransition => "PdoStateTransitionError"
  | configuration => "ConfigurationError"
  | errorCodeRead => "ErrorReadingError"

def ofName? (s : String) : Option ErrorKind := all.find? (·.name == s)

def message : ErrorKind → String
  | modeOfOperation => "mode of operation has not been set"
  | rxRecordType => "unsupported rx pdo type"
  | txRecordType => "unsupported tx pdo type"
  | rxMapping => "rx pdo mapping failed"
  | txMapping => "tx pdo mapping failed"
  | mailboxTransition => "state transition via sdo failed"
  | cyclicTransition => "state transition via pdo failed"
  | configuration => "hardware configuration failed"
  | errorCodeRead => "error code could not be read"

end ErrorKind

end ServoDrive

/-!
## Readings

The last transmit record received from a drive, with the calibration that expresses it in
physical units and the histories of what went wrong: the error kinds the controller recorded and
the fault codes the drive reported, the last 32 of each.

A standard record replaces every value. A cyclic synchronous torque record carries no digital
inputs, analog input or bus voltage, so those keep their values, and its torque is stored where a
standard record's current goes.
-/

namespace ServoDrive

/-- How many errors and faults a reading keeps. -/
def historyLength : Nat := 32

structure Reading where
  actualPosition : Int32 := 0
  actualVelocity : Int32 := 0
  actualCurrent : Int16 := 0
  statusWord : StatusWord := ⟨0⟩
  digitalInputs : UInt32 := 0
  analogInput : Int16 := 0
  busVoltage : UInt32 := 0
  /-- A record has been received. -/
  received : Bool := false
  factors : Factors := Factors.zero
  errors : History ErrorKind historyLength := {}
  faults : History UInt16 historyLength := {}
  deriving Inhabited

namespace Reading

/-- The reading with the calibration of a configuration. -/
def configure (r : Reading) (c : Configuration) : Reading := { r with factors := Factors.ofConfig c }

/-- The reading with the values of a received record. -/
def update (r : Reading) : TxRecord → Reading
  | .standard t =>
    { r with actualPosition := t.actualPosition, digitalInputs := t.digitalInputs,
             actualVelocity := t.actualVelocity, statusWord := t.statusWord,
             analogInput := t.analogInput, actualCurrent := t.actualCurrent,
             busVoltage := t.busVoltage, received := true }
  | .cst t =>
    { r with actualPosition := t.actualPosition, actualCurrent := t.actualTorque,
             statusWord := t.statusWord, actualVelocity := t.actualVelocity, received := true }

def addError (r : Reading) (e : ErrorKind) : Reading := { r with errors := r.errors.push e }
def addFault (r : Reading) (code : UInt16) : Reading := { r with faults := r.faults.push code }
def clearErrors (r : Reading) : Reading := { r with errors := r.errors.clear }
def clearFaults (r : Reading) : Reading := { r with faults := r.faults.clear }

def hasError (r : Reading) (e : ErrorKind) : Bool := r.errors.contains e
def lastError? (r : Reading) : Option ErrorKind := r.errors.last?
def lastFault? (r : Reading) : Option UInt16 := r.faults.last?

/-- The drive state the statusword reports. -/
def driveState (r : Reading) : Except UndefinedState DriveState := r.statusWord.state

/-- Digital input `i`; inputs past the 32nd are off. -/
def digitalInput (r : Reading) (i : Nat) : Bool := i < 32 && r.digitalInputs.toNat.testBit i

def position (r : Reading) : Float := fromRaw (Float.ofInt r.actualPosition.toInt) r.factors.position
def velocity (r : Reading) : Float := fromRaw (Float.ofInt r.actualVelocity.toInt) r.factors.velocity
def current (r : Reading) : Float := fromRaw (Float.ofInt r.actualCurrent.toInt) r.factors.current
/-- The torque, from the current through the torque factor. -/
def torque (r : Reading) : Float := fromRaw (Float.ofInt r.actualCurrent.toInt) r.factors.torque
def analog (r : Reading) : Float := fromRaw (Float.ofInt r.analogInput.toInt) r.factors.voltage
def voltage (r : Reading) : Float := fromRaw r.busVoltage.toNat.toFloat r.factors.voltage

/-- An operation on a reading. -/
inductive Request where
  | configure (c : Configuration)
  | update (record : TxRecord)
  | addError (e : ErrorKind)
  | addFault (code : UInt16)
  | clearErrors
  | clearFaults
  | digitalInput (i : Nat)
  | hasError (e : ErrorKind)

/-- The reading after a request, and the answer of a request that asks a question. -/
def apply (r : Reading) : Request → Reading × Option Bool
  | .configure c => (r.configure c, none)
  | .update t => (r.update t, none)
  | .addError e => (r.addError e, none)
  | .addFault code => (r.addFault code, none)
  | .clearErrors => (r.clearErrors, none)
  | .clearFaults => (r.clearFaults, none)
  | .digitalInput i => (r, some (r.digitalInput i))
  | .hasError e => (r, some (r.hasError e))

/-- The reading after requests in order. -/
def run (r : Reading) (reqs : List Request) : Reading := reqs.foldl (fun r q => (r.apply q).1) r

/-- What a request does to the error history. -/
def Request.errorOp? : Request → Option (History.Op ErrorKind)
  | .addError e => some (.push e)
  | .clearErrors => some .clear
  | _ => none

/-- What a request does to the fault history. -/
def Request.faultOp? : Request → Option (History.Op UInt16)
  | .addFault code => some (.push code)
  | .clearFaults => some .clear
  | _ => none

/-- One request does to the error history what its error operation does, if it has one. -/
theorem errors_apply (r : Reading) (q : Request) :
    (r.apply q).1.errors = ((q.errorOp?).map r.errors.apply).getD r.errors := by
  cases q with
  | update t => cases t <;> rfl
  | _ => rfl

/-- One request does to the fault history what its fault operation does, if it has one. -/
theorem faults_apply (r : Reading) (q : Request) :
    (r.apply q).1.faults = ((q.faultOp?).map r.faults.apply).getD r.faults := by
  cases q with
  | update t => cases t <;> rfl
  | _ => rfl

/-- The error history after requests is the history run through their error operations. -/
theorem errors_run (r : Reading) (reqs : List Request) :
    (r.run reqs).errors = r.errors.applyAll (reqs.filterMap Request.errorOp?) := by
  induction reqs generalizing r with
  | nil => rfl
  | cons q rest ih =>
    show ((r.apply q).1.run rest).errors = _
    rw [ih, errors_apply, List.filterMap_cons]
    cases q.errorOp? <;> rfl

/-- The fault history after requests is the history run through their fault operations. -/
theorem faults_run (r : Reading) (reqs : List Request) :
    (r.run reqs).faults = r.faults.applyAll (reqs.filterMap Request.faultOp?) := by
  induction reqs generalizing r with
  | nil => rfl
  | cons q rest ih =>
    show ((r.apply q).1.run rest).faults = _
    rw [ih, faults_apply, List.filterMap_cons]
    cases q.faultOp? <;> rfl

theorem hasError_iff (r : Reading) (e : ErrorKind) : r.hasError e = true ↔ e ∈ r.errors.entries :=
  List.contains_iff_mem

end Reading

end ServoDrive
