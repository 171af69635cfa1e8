import ServoDrive.Wire
import ServoDrive.Text.Basic

/-!
# The mailbox

The objects of a drive's dictionary that a controller reads and writes through the mailbox, and
the abort codes with which a drive refuses a request.
-/

/-!
## Abort codes

A drive refuses a mailbox request with a 32-bit abort code. The top byte says what kind of refusal
it is (`0x05` protocol, `0x06` object, `0x08` device), the top 16 bits narrow an object refusal to
a mapping (`0x0604`) or a value (`0x0609`) refusal. The reason of a code is the narrowest category
it falls in, tested in the order mapping, value, object, device, protocol.
-/

namespace ServoDrive

inductive AbortCode where
  | badToggle
  | timeout
  | unsupportedCommand
  | outOfMemory
  | unsupportedAccess
  | writeOnly
  | readOnly
  | lockedByPdo
  | invalidIndex
  | cannotMap
  | pdoTooSmall
  | hardwareError
  | invalidLength
  | invalidSubIndex
  | valueOutOfRange
  | valueTooHigh
  | valueTooLow
  | generalError
  | refused
  | stateRefused
  deriving DecidableEq, Repr

namespace AbortCode

def all : List AbortCode :=
  [badToggle, timeout, unsupportedCommand, outOfMemory, unsupportedAccess, writeOnly, readOnly,
   lockedByPdo, invalidIndex, cannotMap, pdoTooSmall, hardwareError, invalidLength,
   invalidSubIndex, valueOutOfRange, valueTooHigh, valueTooLow, generalError, refused,
   stateRefused]

/-- The code on the wire. -/
def code : AbortCode → UInt32
  | badToggle => 0x05030000
  | timeout => 0x05040000
  | unsupportedCommand => 0x05040001
  | outOfMemory => 0x05040005
  | unsupportedAccess => 0x06010000
  | writeOnly => 0x06010001
  | readOnly => 0x06010002
  | lockedByPdo => 0x06010006
  | invalidIndex => 0x06020000
  | cannotMap => 0x06040041
  | pdoTooSmall => 0x06040042
  | hardwareError => 0x06060000
  | invalidLength => 0x06070010
  | invalidSubIndex => 0x06090011
  | valueOutOfRange => 0x06090030
  | valueTooHigh => 0x06090031
  | valueTooLow => 0x06090032
  | generalError => 0x08000000
  | refused => 0x08000020
  | stateRefused => 0x08000022

/-- The abort of a code on the wire, if the code is a known one. -/
def ofCode? (c : UInt32) : Option AbortCode := all.find? (·.code == c)

/-- The name the abort is reported by; the out-of-memory abort keeps its established
spelling. -/
def name : AbortCode → String
  | badToggle => "BadToggle"
  | timeout => "Timeout"
  | unsupportedCommand => "UnsupportedCommand"
  | outOfMemory => "OufOfMemory"
  | unsupportedAccess => "UnsupportedAccess"
  | writeOnly => "WriteOnly"
  | readOnly => "ReadOnly"
  | lockedByPdo => "LockedByPdo"
  | invalidIndex => "InvalidIndex"
  | cannotMap => "CannotMap"
  | pdoTooSmall => "PdoTooSmall"
  | hardwareError => "HardwareError"
  | invalidLength => "InvalidLength"
  | invalidSubIndex => "InvalidSubIndex"
  | valueOutOfRange => "ValueOutOfRange"
  | valueTooHigh => "ValueTooHigh"
  | valueTooLow => "ValueTooLow"
  | generalError => "GeneralError"
  | refused => "Refused"
  | stateRefused => "StateRefused"

def objectRelated (a : AbortCode) : Bool := a.code >>> 24 == 0x06
def subitemRelated (a : AbortCode) : Bool := a.code >>> 16 == 0x0609
def mappingRelated (a : AbortCode) : Bool := a.code >>> 16 == 0x0604
def deviceRelated (a : AbortCode) : Bool := a.code >>> 24 == 0x08
def protocolRelated (a : AbortCode) : Bool := a.code >>> 24 == 0x05

/-- Why the drive refused, by the narrowest category of the code. -/
def reason (a : AbortCode) : String :=
  if a.mappingRelated then "object cannot be mapped this way"
  else if a.subitemRelated then "value refused"
  else if a.objectRelated then "object access refused"
  else if a.deviceRelated then "refused in the present drive state"
  else if a.protocolRelated then "mailbox protocol failure"
  else "unknown abort"

end AbortCode

end ServoDrive

/-!
## Mailbox objects

An object of the drive's dictionary is addressed by a 16-bit index and an 8-bit sub-index and holds
a scalar of a fixed type. The standard objects of the profile that a drive controller uses are
listed here, together with the two sync-manager assignment objects through which record layouts
are negotiated: sub 0 holds the number of assigned PDOs (one byte), subs 1 to 8 the PDO indices
(two bytes each).
-/

namespace ServoDrive

/-- An object of the dictionary and the type of the value it holds. -/
structure MailboxObject where
  index : UInt16
  sub : UInt8
  kind : ScalarKind
  deriving DecidableEq, Repr

namespace MailboxObject

/-- The number of bytes of the object's value. -/
def size (o : MailboxObject) : Nat := o.kind.width

/-- The object's text, e.g. `Sdo {index: 0x6041, sub: 0}`. -/
def text (o : MailboxObject) : String :=
  "Sdo \x7bindex: 0x" ++ Hex.ofNat o.index.toNat ++ ", sub: " ++ toString o.sub.toNat ++ "\x7d"

/-- The error code of the last fault, `0x603f`. -/
def errorCode : MailboxObject := ⟨0x603f, 0, .u16⟩
/-- The controlword, `0x6040`. -/
def controlWord : MailboxObject := ⟨0x6040, 0, .u16⟩
/-- The statusword, `0x6041`. -/
def statusWord : MailboxObject := ⟨0x6041, 0, .u16⟩
/-- The mode of operation, `0x6060`. -/
def modeOfOperation : MailboxObject := ⟨0x6060, 0, .i8⟩
/-- The maximum current in mA, `0x6073`. -/
def maxCurrent : MailboxObject := ⟨0x6073, 0, .u16⟩
/-- The motor's rated current in mA, `0x6075`. -/
def motorRatedCurrent : MailboxObject := ⟨0x6075, 0, .u32⟩
/-- The motor's rated torque, `0x6076`, in the drive's unit. -/
def motorRatedTorque : MailboxObject := ⟨0x6076, 0, .u32⟩

/-- The standard objects, in index order. -/
def standard : List MailboxObject :=
  [errorCode, controlWord, statusWord, modeOfOperation, maxCurrent, motorRatedCurrent,
   motorRatedTorque]

end MailboxObject

/-- The PDO assignment of one sync manager: an object whose subs list the assigned PDOs. -/
structure SyncAssignment where
  index : UInt16
  /-- The number of slots. -/
  num : Nat
  deriving DecidableEq, Repr

namespace SyncAssignment

/-- The receive records' assignment, `0x1c12`. -/
def rx : SyncAssignment := ⟨0x1c12, 8⟩
/-- The transmit records' assignment, `0x1c13`. -/
def tx : SyncAssignment := ⟨0x1c13, 8⟩

/-- The sub holding the number of assigned PDOs. -/
def count (a : SyncAssignment) : MailboxObject := ⟨a.index, 0, .u8⟩

/-- The sub of slot `i`: sub `i + 1`, holding a PDO index. -/
def slot (a : SyncAssignment) (i : Nat) : MailboxObject := ⟨a.index, (i + 1).toUInt8, .u16⟩

/-- The sub of slot `i`, for a slot the sync manager has. -/
def slot? (a : SyncAssignment) (i : Nat) : Option MailboxObject :=
  if i < a.num then some (a.slot i) else none

/-- Why `slot?` has no sub for a slot. -/
def slotRefusal : String := "slot beyond sync manager capacity"

/-- The assignment's text, e.g. `SyncAssignment {index: 0x1c12, num: 8}`. -/
def text (a : SyncAssignment) : String :=
  "SyncAssignment \x7bindex: 0x" ++ Hex.ofNat a.index.toNat ++ ", num: " ++ toString a.num ++ "\x7d"

end SyncAssignment

end ServoDrive
