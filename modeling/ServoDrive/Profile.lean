import ServoDrive.Text.Basic

/-!
# The CiA 402 device profile

What a drive controller knows of the profile: the statusword it reads and the controlword it
writes, the modes of operation, the states of the drive state machine and the transitions between
them.
-/

/-!
## Status and control words

The CiA 402 device profile exchanges two 16-bit words with a drive: the statusword it reports and
the controlword it obeys. Both are kept as their raw value; every named field is a view of bits of
that value, so two words with the same raw value agree on every field.

A word's text lists its flags in a fixed order: a blank, then the flag's mark when it is set or as
many blanks as the mark has letters when it is clear. The text of a word therefore has the same
length whatever its value.
-/

namespace ServoDrive

/-- The value of the `width` bits of `raw` starting at bit `low`. -/
def bitField (raw : UInt16) (low width : Nat) : Nat :=
  raw.toNat / Nat.pow 2 low % Nat.pow 2 width

/-- Bit `i` of `raw`. -/
def bitSet (raw : UInt16) (i : Nat) : Bool :=
  raw.toNat.testBit i

/-- The text of a flag word: its title, then each flag as a blank followed by its mark, or by
blanks of the mark's length when the flag is clear, in braces. -/
def flagText (title : String) (flags : List (Bool × String)) : String :=
  let item : Bool × String → String := fun f =>
    " " ++ if f.1 then f.2 else String.ofList (List.replicate f.2.length ' ')
  title ++ "\x7b" ++ String.join (flags.map item) ++ "\x7d"

/-- The word a drive reports about its state. -/
structure StatusWord where
  raw : UInt16
  deriving DecidableEq, Repr, Inhabited

namespace StatusWord

def readySwitchOn (w : StatusWord) : Bool := bitSet w.raw 0
def switchedOn (w : StatusWord) : Bool := bitSet w.raw 1
def operationEnabled (w : StatusWord) : Bool := bitSet w.raw 2
def fault (w : StatusWord) : Bool := bitSet w.raw 3
def voltageEnabled (w : StatusWord) : Bool := bitSet w.raw 4
def quickStop (w : StatusWord) : Bool := bitSet w.raw 5
def switchOnDisabled (w : StatusWord) : Bool := bitSet w.raw 6
def warning (w : StatusWord) : Bool := bitSet w.raw 7
/-- Bit 8, left to the manufacturer. -/
def manufacturer (w : StatusWord) : Nat := bitField w.raw 8 1
def remote (w : StatusWord) : Bool := bitSet w.raw 9
def targetReached (w : StatusWord) : Bool := bitSet w.raw 10
def limitActive (w : StatusWord) : Bool := bitSet w.raw 11
/-- Bits 12 and 13, whose meaning depends on the mode of operation. -/
def modeSpecific (w : StatusWord) : Nat := bitField w.raw 12 2
/-- Bits 14 and 15, left to the manufacturer. -/
def manufacturerHigh (w : StatusWord) : Nat := bitField w.raw 14 2

/-- The flags of a statusword with their marks, in bit order. -/
def flags (w : StatusWord) : List (Bool × String) :=
  [(w.readySwitchOn, "rtso"), (w.switchedOn, "so"), (w.operationEnabled, "oe"), (w.fault, "f"),
   (w.voltageEnabled, "ve"), (w.quickStop, "qs"), (w.switchOnDisabled, "sod"),
   (w.warning, "w"), (w.remote, "r"), (w.limitActive, "la")]

/-- The text of a statusword, e.g. `StatusWord{ rtso ...}`. -/
def text (w : StatusWord) : String := flagText "StatusWord" w.flags

end StatusWord

/-- The word a drive obeys: enable bits, fault reset, halt and mode-specific bits. -/
structure ControlWord where
  raw : UInt16
  deriving DecidableEq, Repr, Inhabited

namespace ControlWord

def switchOn (w : ControlWord) : Bool := bitSet w.raw 0
def enableVoltage (w : ControlWord) : Bool := bitSet w.raw 1
def quickStop (w : ControlWord) : Bool := bitSet w.raw 2
def enableOperation (w : ControlWord) : Bool := bitSet w.raw 3
/-- Bits 4 to 6, whose meaning depends on the mode of operation. -/
def modeSpecific (w : ControlWord) : Nat := bitField w.raw 4 3
def resetFault (w : ControlWord) : Bool := bitSet w.raw 7
def halt (w : ControlWord) : Bool := bitSet w.raw 8
def specific (w : ControlWord) : Bool := bitSet w.raw 9
/-- Bits 11 to 15, left to the manufacturer. -/
def manufacturer (w : ControlWord) : Nat := bitField w.raw 11 5

/-- The flags of a controlword with their marks, in bit order. -/
def flags (w : ControlWord) : List (Bool × String) :=
  [(w.switchOn, "so"), (w.enableVoltage, "ev"), (w.quickStop, "qs"),
   (w.enableOperation, "eo"), (w.resetFault, "rf"), (w.halt, "h")]

/-- The text of a controlword, e.g. `ControlWord{ so ev qs ...}`. -/
def text (w : ControlWord) : String := flagText "ControlWord" w.flags

end ControlWord

end ServoDrive

/-!
## Modes of operation

The control loop a drive runs, as numbered by object `0x6060` of the profile. Codes 1 to 4 and 6
to 11 name a mode; every other code, 5 and 0 included, names none.
-/

namespace ServoDrive

inductive OperationMode where
  | profilePosition
  | velocity
  | profileVelocity
  | profileTorque
  | homing
  | interpolatedPosition
  | synchronousPosition
  | synchronousVelocity
  | synchronousTorque
  | synchronousTorqueCommutation
  deriving DecidableEq, Repr, Inhabited

namespace OperationMode

def all : List OperationMode :=
  [profilePosition, velocity, profileVelocity, profileTorque, homing, interpolatedPosition,
   synchronousPosition, synchronousVelocity, synchronousTorque, synchronousTorqueCommutation]

/-- The mode's code in object `0x6060`. -/
def code : OperationMode → UInt8
  | profilePosition => 1
  | velocity => 2
  | profileVelocity => 3
  | profileTorque => 4
  | homing => 6
  | interpolatedPosition => 7
  | synchronousPosition => 8
  | synchronousVelocity => 9
  | synchronousTorque => 10
  | synchronousTorqueCommutation => 11

/-- The code as the signed byte that records and object `0x6060` carry. -/
def signedCode (m : OperationMode) : Int8 := m.code.toInt8

/-- The mode of a code, if the code names one. -/
def ofCode? (c : UInt8) : Option OperationMode := all.find? (·.code == c)

/-- The mode's name as the profile spells it. -/
def name : OperationMode → String
  | profilePosition => "ProfilePosition"
  | velocity => "Velocity"
  | profileVelocity => "ProfileVelocity"
  | profileTorque => "ProfileTorque"
  | homing => "Homing"
  | interpolatedPosition => "InterpolatedPosition"
  | synchronousPosition => "SynchronousPosition"
  | synchronousVelocity => "SynchronousVelocity"
  | synchronousTorque => "SynchronousTorque"
  | synchronousTorqueCommutation => "SynchronousTorqueCommutation"

/-- Reading the code of a mode gives the mode back. -/
@[simp] theorem ofCode?_code (m : OperationMode) : ofCode? m.code = some m := by
  cases m <;> decide

end OperationMode

end ServoDrive

/-!
## Drive states

The eight states of the CiA 402 drive state machine and how a statusword names one of them.
Decoding tests eight bit patterns in a fixed order, the first that matches wins; a statusword
matching none is an `UndefinedState`. Each state has a canonical statusword, which decodes back to
it (`state_statusWord`).

Six states are *stable*: a drive stays in them until told otherwise. The two others,
`notReadyToSwitchOn` and `faultReactionActive`, are left by the drive on its own.
-/

namespace ServoDrive

inductive DriveState where
  | notReadyToSwitchOn
  | switchOnDisabled
  | readyToSwitchOn
  | switchedOn
  | operationEnabled
  | quickStopActive
  | faultReactionActive
  | fault
  deriving DecidableEq, Repr, Inhabited

namespace DriveState

/-- Every state, in the profile's order. -/
def all : List DriveState :=
  [notReadyToSwitchOn, switchOnDisabled, readyToSwitchOn, switchedOn, operationEnabled,
   quickStopActive, faultReactionActive, fault]

/-- The stable states, in the order of the transition table. -/
def stable : List DriveState :=
  [switchOnDisabled, readyToSwitchOn, switchedOn, operationEnabled, quickStopActive, fault]

/-- Whether the drive stays in the state until told otherwise. -/
def isStable : DriveState → Bool
  | notReadyToSwitchOn | faultReactionActive => false
  | _ => true

/-- The state's name as the profile spells it. -/
def name : DriveState → String
  | notReadyToSwitchOn => "NotReadyToSwitchOn"
  | switchOnDisabled => "SwitchOnDisabled"
  | readyToSwitchOn => "ReadyToSwitchOn"
  | switchedOn => "SwitchedOn"
  | operationEnabled => "OperationEnabled"
  | quickStopActive => "QuickStopActive"
  | faultReactionActive => "FaultReactionActive"
  | fault => "Fault"

/-- The state of a given name. -/
def ofName? (s : String) : Option DriveState := all.find? (·.name == s)

/-- The canonical statusword of a state: only the bits that decoding tests. -/
def statusWord : DriveState → StatusWord
  | notReadyToSwitchOn => ⟨0x00⟩
  | switchOnDisabled => ⟨0x40⟩
  | readyToSwitchOn => ⟨0x21⟩
  | switchedOn => ⟨0x23⟩
  | operationEnabled => ⟨0x27⟩
  | quickStopActive => ⟨0x07⟩
  | faultReactionActive => ⟨0x0f⟩
  | fault => ⟨0x08⟩

theorem isStable_iff_mem_stable (s : DriveState) : s.isStable = true ↔ s ∈ stable := by
  cases s <;> decide

end DriveState

/-- A statusword that matches no drive state. -/
structure UndefinedState where
  raw : UInt16
  deriving DecidableEq, Repr

/-- The text of an undefined state, with the word in four padded hexadecimal digits. -/
def UndefinedState.message (e : UndefinedState) : String :=
  "undefined drive state for statusword 0x" ++ Hex.padded 4 e.raw.toNat

namespace StatusWord

/-- The drive state a statusword reports: patterns over bits 0 to 3 and 6 (mask `0x4f`) or bits
0 to 3, 5 and 6 (mask `0x6f`), tested in the profile's order. -/
def state (w : StatusWord) : Except UndefinedState DriveState :=
  let narrow := w.raw &&& 0x4f
  let wide := w.raw &&& 0x6f
  if narrow = 0x00 then .ok .notReadyToSwitchOn
  else if narrow = 0x40 then .ok .switchOnDisabled
  else if wide = 0x21 then .ok .readyToSwitchOn
  else if wide = 0x23 then .ok .switchedOn
  else if wide = 0x27 then .ok .operationEnabled
  else if wide = 0x07 then .ok .quickStopActive
  else if narrow = 0x0f then .ok .faultReactionActive
  else if narrow = 0x08 then .ok .fault
  else .error ⟨w.raw⟩

end StatusWord

/-- Every canonical statusword decodes to its state. -/
@[simp] theorem DriveState.state_statusWord (s : DriveState) : s.statusWord.state = .ok s := by
  cases s <;> rfl

end ServoDrive

/-!
## Transitions of the drive state machine

The numbered transitions of the CiA 402 state machine, the controlword that triggers each one
and the state it leads to. `Transition.next requested current` selects the transition that brings
a drive one step closer to `requested`; `Transition.path` repeats that step until the requested
state is reached.

The table has entries only between stable states and none toward `fault`; it never loops, so a
path has at most five transitions (from `fault` to `quickStopActive`). A path is built with room
for six, the longest a table of six states could ask for.
-/

namespace ServoDrive

/-- The transitions of the state machine, named by what they do; `number` gives the profile's
numbering. -/
inductive Transition where
  /-- 2: from switch-on-disabled to ready-to-switch-on. -/
  | shutdown
  /-- 3: from ready-to-switch-on to switched-on. -/
  | switchOn
  /-- 4: from switched-on to operation-enabled. -/
  | enableOperation
  /-- 5: from operation-enabled back to switched-on. -/
  | disableOperation
  /-- 6: from switched-on back to ready-to-switch-on. -/
  | shutdownSwitchedOn
  /-- 7: from ready-to-switch-on to switch-on-disabled. -/
  | disableVoltageReady
  /-- 8: from operation-enabled back to ready-to-switch-on. -/
  | shutdownEnabled
  /-- 9: from operation-enabled to switch-on-disabled. -/
  | disableVoltageEnabled
  /-- 10: from switched-on to switch-on-disabled. -/
  | disableVoltageSwitchedOn
  /-- 11: from operation-enabled to quick-stop-active. -/
  | quickStop
  /-- 12: from quick-stop-active to switch-on-disabled. -/
  | disableVoltageQuickStop
  /-- 15: from fault to switch-on-disabled. -/
  | faultReset
  deriving DecidableEq, Repr, Inhabited

namespace Transition

def all : List Transition :=
  [shutdown, switchOn, enableOperation, disableOperation, shutdownSwitchedOn,
   disableVoltageReady, shutdownEnabled, disableVoltageEnabled, disableVoltageSwitchedOn,
   quickStop, disableVoltageQuickStop, faultReset]

/-- The transition's number in the profile. -/
def number : Transition → Nat
  | shutdown => 2
  | switchOn => 3
  | enableOperation => 4
  | disableOperation => 5
  | shutdownSwitchedOn => 6
  | disableVoltageReady => 7
  | shutdownEnabled => 8
  | disableVoltageEnabled => 9
  | disableVoltageSwitchedOn => 10
  | quickStop => 11
  | disableVoltageQuickStop => 12
  | faultReset => 15

/-- The transition of a given number. -/
def ofNumber? (n : Nat) : Option Transition := all.find? (·.number == n)

/-- The state the transition leads to. -/
def destination : Transition → DriveState
  | shutdown | shutdownSwitchedOn | shutdownEnabled => .readyToSwitchOn
  | switchOn | disableOperation => .switchedOn
  | enableOperation => .operationEnabled
  | quickStop => .quickStopActive
  | disableVoltageReady | disableVoltageEnabled | disableVoltageSwitchedOn
  | disableVoltageQuickStop | faultReset => .switchOnDisabled

/-- The controlword that triggers the transition: enable voltage and quick stop (bits 1, 2) to
shut down, with switch on (bit 0) to switch on, with enable operation (bit 3) to enable; nothing
to disable the voltage; enable voltage alone for a quick stop; fault reset (bit 7) alone. -/
def controlWord : Transition → ControlWord
  | shutdown | shutdownSwitchedOn | shutdownEnabled => ⟨0x06⟩
  | switchOn | disableOperation => ⟨0x07⟩
  | enableOperation => ⟨0x0f⟩
  | disableVoltageReady | disableVoltageEnabled | disableVoltageSwitchedOn
  | disableVoltageQuickStop => ⟨0x00⟩
  | quickStop => ⟨0x02⟩
  | faultReset => ⟨0x80⟩

/-- The transition's text, e.g. `transition 2`. -/
def text (t : Transition) : String := "transition " ++ toString t.number

/-- The table of the state machine: the transition that moves a drive in `current` one step
toward `requested`. It has entries between two different stable states only, and none toward a
fault: from quick-stop-active every way leads through switch-on-disabled (12), from fault through
a fault reset (15). -/
def toward (requested current : DriveState) : Option Transition :=
  match requested, current with
  | .switchOnDisabled, .readyToSwitchOn => some disableVoltageReady
  | .switchOnDisabled, .switchedOn => some disableVoltageSwitchedOn
  | .switchOnDisabled, .operationEnabled => some disableVoltageEnabled
  | .readyToSwitchOn, .switchOnDisabled => some shutdown
  | .readyToSwitchOn, .switchedOn => some shutdownSwitchedOn
  | .readyToSwitchOn, .operationEnabled => some shutdownEnabled
  | .switchedOn, .switchOnDisabled => some shutdown
  | .switchedOn, .readyToSwitchOn => some switchOn
  | .switchedOn, .operationEnabled => some disableOperation
  | .operationEnabled, .switchOnDisabled => some shutdown
  | .operationEnabled, .readyToSwitchOn => some switchOn
  | .operationEnabled, .switchedOn => some enableOperation
  | .quickStopActive, .switchOnDisabled => some shutdown
  | .quickStopActive, .readyToSwitchOn => some switchOn
  | .quickStopActive, .switchedOn => some enableOperation
  | .quickStopActive, .operationEnabled => some quickStop
  | .switchOnDisabled, .quickStopActive | .readyToSwitchOn, .quickStopActive
  | .switchedOn, .quickStopActive | .operationEnabled, .quickStopActive =>
    some disableVoltageQuickStop
  | .switchOnDisabled, .fault | .readyToSwitchOn, .fault | .switchedOn, .fault
  | .operationEnabled, .fault | .quickStopActive, .fault => some faultReset
  | _, _ => none

end Transition

/-- Why no transition is selected for a pair of states. -/
inductive TransitionError where
  /-- The requested state is the current one. -/
  | alreadyReached (state : DriveState)
  /-- The table has no transition from `current` toward `requested`. -/
  | unreachable (requested current : DriveState)
  deriving DecidableEq, Repr

/-- The text of a transition error. -/
def TransitionError.message : TransitionError → String
  | .alreadyReached s => "drive state " ++ s.name ++ " has already been reached"
  | .unreachable r c => "no transition toward " ++ r.name ++ " from " ++ c.name

namespace Transition

/-- The transition that brings a drive in `current` one step closer to `requested`; a drive
already in the requested state is reported first, whatever the state. -/
def next (requested current : DriveState) : Except TransitionError Transition :=
  if requested = current then .error (.alreadyReached current)
  else match toward requested current with
    | some t => .ok t
    | none => .error (.unreachable requested current)

/-- The transitions from `current` to `requested`, with room for `room` of them: each step is
`next` from the state the previous transition leads to. -/
def pathWithin (requested : DriveState) : Nat → DriveState → Except TransitionError (List Transition)
  | room, current =>
    if requested = current then .ok []
    else match next requested current, room with
      | .error e, _ => .error e
      | .ok _, 0 => .error (.unreachable requested current)
      | .ok t, room + 1 => (t :: ·) <$> pathWithin requested room t.destination

/-- The complete sequence of transitions from `current` to `requested`, empty when the state is
already reached. -/
def path (requested current : DriveState) : Except TransitionError (List Transition) :=
  pathWithin requested 6 current

end Transition

end ServoDrive
