import ServoDrive.Bus
import ServoDrive.Profile

/-!
# A model CiA 402 device

A servo drive as the only slave of a bus, reduced to what a controller can observe: the state of
its CiA 402 state machine, the objects of its dictionary, its actual values, and switches that
make it fail on purpose.

The device reports the canonical statusword of its state with the remote bit (`0x0200`) set, or
`0x0244` with no state at all, unless a statusword is imposed. A controlword received, through a
receive record or the mailbox, moves it as the profile's state machine does (`applyControlWord`),
the first matching rule winning:

1. a fault is reset (`0x80`) to `switchOnDisabled`;
2. `fault`, `notReadyToSwitchOn` and `faultReactionActive` ignore every other controlword;
3. without "enable voltage" (`0x02`) the drive goes to `switchOnDisabled`;
4. without "quick stop" (`0x04`) an enabled or quick-stopped drive goes to `quickStopActive`, any
   other to `switchOnDisabled`;
5. "shutdown" (`cw & 7 = 6`) brings `switchOnDisabled`, `switchedOn` and `operationEnabled` to
   `readyToSwitchOn`;
6. "switch on" (`cw & 0xf = 7`) brings `readyToSwitchOn` and `operationEnabled` to `switchedOn`;
7. "enable operation" (`cw & 0xf = 0xf`) brings `switchedOn` and `quickStopActive` to
   `operationEnabled`;
8. otherwise the state stays.

A frozen device, or one with no state, ignores controlwords.
-/

namespace ServoDrive

/-- The address of an object: its index and sub-index. -/
abbrev ObjectKey := UInt16 × UInt8

/-- The values of dictionary objects, at most one per address. -/
structure Dictionary where
  entries : List (ObjectKey × List UInt8) := []
  deriving DecidableEq, Repr

namespace Dictionary

/-- The value at an address. -/
def get? (t : Dictionary) (key : ObjectKey) : Option (List UInt8) :=
  (t.entries.find? (·.1 == key)).map (·.2)

/-- The dictionary without a value at an address. -/
def erase (t : Dictionary) (key : ObjectKey) : Dictionary := ⟨t.entries.filter (·.1 != key)⟩

/-- The dictionary with a value at an address, replacing the one there. -/
def insert (t : Dictionary) (key : ObjectKey) (v : List UInt8) : Dictionary :=
  ⟨(key, v) :: (t.erase key).entries⟩

theorem get?_erase_self (t : Dictionary) (key : ObjectKey) : (t.erase key).get? key = none := by
  simp [get?, erase, List.find?_filter]

theorem get?_insert_self (t : Dictionary) (key : ObjectKey) (v : List UInt8) :
    (t.insert key v).get? key = some v := by
  simp [get?, insert]

end Dictionary

/-- What a device does once it has sampled its next transmit record. -/
structure Hook where
  /-- The state the device takes, if given; `some none` leaves it with no state. -/
  state : Option (Option DriveState) := none
  /-- The state change the application then requests on the cyclic path, if any. -/
  request : Option DriveState := none
  deriving DecidableEq, Repr

/-- A bus operation as the device saw it. -/
inductive BusEvent where
  | setState (s : BusState)
  | sendRecord (bytes : List UInt8)
  | fetchRecord (size : Nat)
  /-- A mailbox read and the bytes answered, or the abort. -/
  | readObject (key : ObjectKey) (answer : Except AbortCode (List UInt8))
  /-- A mailbox write and the abort it met, if any. -/
  | writeObject (key : ObjectKey) (bytes : List UInt8) (abort : Option AbortCode)
  | recordSizes (sizes : RecordSizes)
  /-- The application's state change request, made while a transmit record was in flight. -/
  | hookRequest (s : DriveState)
  deriving Repr

namespace BusEvent

/-- An object's address as `iiii:ss` in lowercase hexadecimal. -/
def keyText (key : ObjectKey) : String :=
  Hex.padded 4 key.1.toNat ++ ":" ++ Hex.padded 2 key.2.toNat

/-- The event's line in a log. -/
def text : BusEvent → String
  | setState s => "set_state " ++ s.name
  | sendRecord bytes => "rx " ++ Hex.ofBytes bytes
  | fetchRecord n => "tx " ++ toString n
  | readObject key (.ok bytes) => "sdo_read " ++ keyText key ++ " -> " ++ Hex.ofBytes bytes
  | readObject key (.error a) => "sdo_read " ++ keyText key ++ " -> abort " ++ a.name
  | writeObject key bytes none => "sdo_write " ++ keyText key ++ " " ++ Hex.ofBytes bytes
  | writeObject key bytes (some a) =>
    "sdo_write " ++ keyText key ++ " " ++ Hex.ofBytes bytes ++ " -> abort " ++ a.name
  | recordSizes s => "pdo_sizes -> " ++ toString s.rx.toNat ++ " " ++ toString s.tx.toNat
  | hookRequest s => "hook request " ++ s.name

end BusEvent

/-- The model device. -/
structure Device where
  state : Option DriveState := some .switchOnDisabled
  /-- A statusword reported whatever the state. -/
  statusOverride : Option UInt16 := none
  /-- Controlwords are ignored and the state never changes by itself. -/
  frozen : Bool := false
  objects : Dictionary := {}
  /-- Values the device keeps whatever is written to them. -/
  clamped : Dictionary := {}
  failingReads : List ObjectKey := []
  failingWrites : List ObjectKey := []
  /-- Receive records are lost. -/
  loseSent : Bool := false
  /-- Transmit records are lost. -/
  loseFetched : Bool := false
  /-- Communication state changes are refused. -/
  refuseState : Bool := false
  hook : Option Hook := none
  actualPosition : Int32 := 0
  actualVelocity : Int32 := 0
  actualCurrent : Int16 := 0
  analogInput : Int16 := 0
  digitalInputs : UInt32 := 0
  busVoltage : UInt32 := 0
  modeDisplay : Int8 := 10
  busState : Option BusState := none
  /-- The bus operations seen, newest first. -/
  log : List BusEvent := []
  /-- A state change the hook requested of the application, not yet delivered. -/
  requested : Option DriveState := none
  deriving Repr

/-- The statusword's object, `0x6041:00`. -/
def statusWordKey : ObjectKey := (0x6041, 0)
/-- The controlword's object, `0x6040:00`. -/
def controlWordKey : ObjectKey := (0x6040, 0)
/-- The mode of operation's object, `0x6060:00`. -/
def modeKey : ObjectKey := (0x6060, 0)

namespace Device

/-- The device with one more event in its log. -/
def logged (dev : Device) (e : BusEvent) : Device := { dev with log := e :: dev.log }

/-- The bus operations seen, oldest first. -/
def events (dev : Device) : List BusEvent := dev.log.reverse

/-- The statusword the device reports. -/
def statusWord (dev : Device) : UInt16 :=
  match dev.statusOverride with
  | some w => w
  | none => (dev.state.map (·.statusWord.raw)).getD 0x0044 ||| 0x0200

/-- The state a controlword brings a state to. -/
def applyControlWord (s : DriveState) (cw : UInt16) : DriveState :=
  if s = .fault && cw &&& 0x80 != 0 then .switchOnDisabled
  else if s = .fault || s = .notReadyToSwitchOn || s = .faultReactionActive then s
  else if cw &&& 0x02 == 0 then .switchOnDisabled
  else if cw &&& 0x04 == 0 then
    if s = .operationEnabled || s = .quickStopActive then .quickStopActive else .switchOnDisabled
  else if (s = .switchOnDisabled || s = .switchedOn || s = .operationEnabled) && cw &&& 0x07 == 0x06
    then .readyToSwitchOn
  else if (s = .readyToSwitchOn || s = .operationEnabled) && cw &&& 0x0f == 0x07 then .switchedOn
  else if (s = .switchedOn || s = .quickStopActive) && cw &&& 0x0f == 0x0f then .operationEnabled
  else s

/-- The device after receiving a controlword. -/
def receiveControlWord (dev : Device) (cw : UInt16) : Device :=
  if dev.frozen then dev
  else { dev with state := dev.state.map (applyControlWord · cw) }

/-- A change of the device's settings. -/
inductive Setting where
  | state (s : Option DriveState)
  | statusOverride (w : Option UInt16)
  | frozen (b : Bool)
  | loseSent (b : Bool)
  | loseFetched (b : Bool)
  | refuseState (b : Bool)
  | objects (entries : List (ObjectKey × List UInt8))
  | clamped (entries : List (ObjectKey × List UInt8))
  | removeObjects (keys : List ObjectKey)
  | clearClamped
  | failingReads (keys : List ObjectKey)
  | failingWrites (keys : List ObjectKey)
  | clearFailing
  | actualPosition (v : Int32)
  | actualVelocity (v : Int32)
  | actualCurrent (v : Int16)
  | analogInput (v : Int16)
  | digitalInputs (v : UInt32)
  | busVoltage (v : UInt32)
  | modeDisplay (v : Int8)
  | hook (h : Option Hook)
  deriving Repr

/-- The device with a setting applied. -/
def adjust (dev : Device) : Setting → Device
  | .state s => { dev with state := s }
  | .statusOverride w => { dev with statusOverride := w }
  | .frozen b => { dev with frozen := b }
  | .loseSent b => { dev with loseSent := b }
  | .loseFetched b => { dev with loseFetched := b }
  | .refuseState b => { dev with refuseState := b }
  | .objects es => { dev with objects := es.foldl (fun t (k, v) => t.insert k v) dev.objects }
  | .clamped es => { dev with clamped := es.foldl (fun t (k, v) => t.insert k v) dev.clamped }
  | .removeObjects ks => { dev with objects := ks.foldl Dictionary.erase dev.objects }
  | .clearClamped => { dev with clamped := {} }
  | .failingReads ks => { dev with failingReads := dev.failingReads ++ ks }
  | .failingWrites ks => { dev with failingWrites := dev.failingWrites ++ ks }
  | .clearFailing => { dev with failingReads := [], failingWrites := [] }
  | .actualPosition v => { dev with actualPosition := v }
  | .actualVelocity v => { dev with actualVelocity := v }
  | .actualCurrent v => { dev with actualCurrent := v }
  | .analogInput v => { dev with analogInput := v }
  | .digitalInputs v => { dev with digitalInputs := v }
  | .busVoltage v => { dev with busVoltage := v }
  | .modeDisplay v => { dev with modeDisplay := v }
  | .hook h => { dev with hook := h }

/-- The device with settings applied in order. -/
def adjustAll (dev : Device) (settings : List Setting) : Device := settings.foldl adjust dev

end Device

end ServoDrive
