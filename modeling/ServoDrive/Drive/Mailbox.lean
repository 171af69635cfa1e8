import ServoDrive.Drive.Basic

/-!
# Configuring a drive through the mailbox

The operations a controller performs through the mailbox while the bus is not yet cycling. They
run in `DriveM σ`: the controller's state over the bus's state `σ`. None of them raises: each
failure is recorded in the reading or folded into the boolean it returns.

* `verifyWrite` writes an object and reads it back; it succeeds only when the value read back is
  the value written.
* `mapRecords` negotiates both record layouts: for each side, the sync manager's assignment is
  cleared, the layout's PDOs are written slot by slot and the count is set, every write verified
  and every write attempted; the layout is selected only if all of them succeeded.
* `setStateViaMailbox` reads the statusword and writes the controlwords of the whole path to the
  requested state, stopping at the first failed write.
* `runPreop` performs the whole mailbox configuration, every step attempted whatever the earlier
  ones gave.
-/

namespace ServoDrive

/-- A controller's operations over a bus state `σ`. -/
abbrev DriveM (σ : Type) := StateT Drive (StateM σ)

namespace Drive

variable {σ : Type} (bus : Bus σ)

/-- Record an error in the reading. -/
def note (e : ErrorKind) : DriveM σ Unit := modify (·.record e)

/-- Select the receive layout. -/
def selectRx (ty : RecordType) : DriveM σ Bool := modifyGet (·.configureRx ty)

/-- Select the transmit layout. -/
def selectTx (ty : RecordType) : DriveM σ Bool := modifyGet (·.configureTx ty)

/-- Select both configured layouts, the transmit one only if the receive one was accepted. -/
def startup : DriveM σ Bool := do
  let c := (← get).config
  if ← selectRx c.rxType then selectTx c.txType else pure false

/-- Bring the slave back to `init`; a refusal changes nothing. -/
def shutdown : DriveM σ Unit := do
  let _ ← (bus.setState (← get).address .init : StateM σ _)

/-- Take the record sizes the master negotiated. -/
def refreshSizes : DriveM σ Unit := do
  let sizes ← (bus.recordSizes (← get).address : StateM σ _)
  modify ({ · with sizes })

/-- Write a value to an object and check that it reads back the same. -/
def verifyWrite (o : MailboxObject) (v : Scalar) : DriveM σ Bool := do
  let slave := (← get).address
  match ← (bus.writeValue slave o v : StateM σ _) with
  | .error _ => pure false
  | .ok () =>
    match ← (bus.readValue slave o : StateM σ _) with
    | .ok back => pure (back.sameValue v)
    | .error _ => pure false

/-- Verify-write the PDO indices into consecutive slots from slot `i`, every write attempted. -/
def assignSlots (a : SyncAssignment) : Nat → List UInt16 → DriveM σ Bool
  | _, [] => pure true
  | i, index :: rest => do
    let ok ← verifyWrite bus (a.slot i) (.u16 index)
    let others ← assignSlots a (i + 1) rest
    pure (ok && others)

/-- Assign PDOs to a sync manager: count zero, the slots in order, then the count, every write
attempted. -/
def assign (a : SyncAssignment) (list : List UInt16) : DriveM σ Bool := do
  let cleared ← verifyWrite bus a.count (.u8 0)
  let slots ← assignSlots bus a 0 list
  let counted ← verifyWrite bus a.count (.u8 list.length.toUInt8)
  pure (cleared && slots && counted)

/-- Negotiate the layout of one side: assign its PDOs and, if that succeeded, select it; a side of
layout `na` fails without a request. A failure records the side's mapping error. -/
def mapSide (a : SyncAssignment) (side : Side) (ty : RecordType) : DriveM σ Bool := do
  let ok ← match ty.assignment side with
    | some list => do
      if ← assign bus a list then
        match side with
        | .rx => selectRx ty
        | .tx => selectTx ty
      else pure false
    | none => pure false
  unless ok do
    note (match side with | .rx => .rxMapping | .tx => .txMapping)
  pure ok

/-- Negotiate both layouts, the receive side first; both sides are attempted. -/
def mapRecords (rx tx : RecordType) : DriveM σ Bool := do
  let rxOk ← mapSide bus .rx .rx rx
  let txOk ← mapSide bus .tx .tx tx
  pure (rxOk && txOk)

/-- Read the statusword through the mailbox. -/
def readStatusWord : DriveM σ (Except BusError StatusWord) := do
  let answer ← (bus.readValue (← get).address .statusWord : StateM σ _)
  pure (answer.map fun v => ⟨v.pattern.toUInt16⟩)

/-- Write the controlword through the mailbox. -/
def writeControlWord (w : ControlWord) : DriveM σ (Except BusError Unit) := do
  (bus.writeValue (← get).address .controlWord (.u16 w.raw) : StateM σ _)

/-- Perform one transition through the mailbox; a failed write records `mailboxTransition`. -/
def transitionViaMailbox (t : Transition) : DriveM σ Bool := do
  match ← writeControlWord bus t.controlWord with
  | .ok () => pure true
  | .error _ => do note .mailboxTransition; pure false

/-- Bring the drive to a state through the mailbox. A statusword that cannot be read fails without
a record; one naming no state, or a state with no path to the target, records
`mailboxTransition`; otherwise the path's transitions run until one fails. -/
def setStateViaMailbox (target : DriveState) : DriveM σ Bool := do
  match ← readStatusWord bus with
  | .error _ => pure false
  | .ok w =>
    match w.state with
    | .error _ => do note .mailboxTransition; pure false
    | .ok current =>
      match Transition.path target current with
      | .error _ => do note .mailboxTransition; pure false
      | .ok path => path.allM (transitionViaMailbox bus)

/-- Read the rated current from the drive when the configuration has none: a reported zero or a
failed read fails, a current in mA is taken into the configuration. -/
def fetchRatedCurrent : DriveM σ Bool := do
  match (← get).config.motorRatedCurrent with
  | some _ => pure true
  | none =>
    match ← (bus.readValue (← get).address .motorRatedCurrent : StateM σ _) with
    | .ok v =>
      if v.pattern = 0 then pure false
      else do modify (·.setRatedCurrent (v.pattern.toFloat / 1000)); pure true
    | .error _ => pure false

/-- Write the rated current, in mA rounded to nearest, as both rated current and rated torque
(the drive reckons torques in currents); nothing to write while it is unknown. -/
def writeRatedCurrent : DriveM σ Bool := do
  match (← get).config.motorRatedCurrent with
  | some rated => do
    let milliamps := Scalar.u32 (IntRounding.nearestAway.toUInt32 (1000 * rated))
    let current ← verifyWrite bus .motorRatedCurrent milliamps
    let torque ← verifyWrite bus .motorRatedTorque milliamps
    pure (current && torque)
  | none => pure true

/-- Configure the drive through the mailbox: the rated current, the state `readyToSwitchOn`, both
layouts, the mode of operation, the record sizes, the rated current and torque, the maximum current
(in mA, rounded down). Every step is attempted; a failure of any records `configuration`. -/
def runPreop : DriveM σ Bool := do
  let c := (← get).config
  let rated ← fetchRatedCurrent bus
  let ready ← setStateViaMailbox bus .readyToSwitchOn
  let mapped ← mapRecords bus c.rxType c.txType
  let moded ← match c.mode with
    | some m => verifyWrite bus .modeOfOperation (.i8 m.signedCode)
    | none => pure false
  refreshSizes bus
  let written ← writeRatedCurrent bus
  let maxCurrent := (← get).config.maxCurrent
  let limited ← verifyWrite bus .maxCurrent (.u16 (IntRounding.floor.toUInt16 (1000 * maxCurrent)))
  let ok := rated && ready && mapped && moded && written && limited
  unless ok do note .configuration
  pure ok

end Drive

end ServoDrive
