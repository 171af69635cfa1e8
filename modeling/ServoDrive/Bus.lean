import ServoDrive.Mailbox
import ServoDrive.Wire
import ServoDrive.Binary

/-!
# The bus

How an exchange with a drive fails, and the operations of the EtherCAT master that a drive
controller uses.
-/

/-!
## Bus errors

How an exchange with a drive can fail: the drive aborts a mailbox request, the master cannot do
what was asked, the answer breaks the protocol, or nothing came back in time. A packing failure on
the way to or from the wire is a protocol failure with the packing error's text.
-/

namespace ServoDrive

inductive BusError where
  /-- The drive aborted a mailbox request. -/
  | slave (code : AbortCode)
  /-- The master refused or failed. -/
  | master (reason : String)
  /-- The exchange broke the protocol. -/
  | protocol (reason : String)
  /-- No answer in time. -/
  | timeout (reason : String)
  deriving DecidableEq, Repr

namespace BusError

/-- The kind of failure, by name. -/
def kind : BusError → String
  | slave _ => "Slave"
  | master _ => "Master"
  | protocol _ => "Protocol"
  | timeout _ => "Timeout"

/-- The text of a bus error: its kind in lowercase, a colon and the detail. -/
def message : BusError → String
  | slave c => "slave: " ++ c.name
  | master r => "master: " ++ r
  | protocol r => "protocol: " ++ r
  | timeout r => "timeout: " ++ r

/-- A packing failure seen as a bus error. -/
def ofPacking (e : PackingError) : BusError := protocol e.message

/-- A mailbox answer shorter than the object's value. -/
def shortAnswer : BusError := protocol "slave answered with less data than expected"

end BusError

end ServoDrive

/-!
## The bus as a drive controller sees it

A drive controller reaches its drive only through the EtherCAT master, and needs six of the
master's operations, each addressed to the drive's slave: change the slave's communication state,
send the receive record, fetch the transmit record, read and write an object of the slave's
dictionary through the mailbox, and ask which record sizes the master negotiated.

The transmit record is fetched into a buffer of the controller's: the master copies the record
into it and cannot resize it, so what a fetch hands back is the buffer's new contents, exactly as
many bytes as the buffer has.

A `Bus σ` gives these operations as state transformers over whatever state `σ` the master keeps.
A controller written against `Bus σ` runs against any master, a simulated one included, and a
statement about the controller that holds for every `Bus σ` holds whatever the bus answers.

A mailbox read answers the bytes the slave sent, at most as many as the object's value has. A typed
read (`Bus.readValue`) refuses a shorter answer with `BusError.shortAnswer`; a typed write sends
the value's little-endian bytes.
-/

namespace ServoDrive

/-- The communication states of a slave. -/
inductive BusState where
  | init
  | preOperational
  | bootstrap
  | safeOperational
  | operational
  deriving DecidableEq, Repr

def BusState.name : BusState → String
  | .init => "Init"
  | .preOperational => "PreOperational"
  | .bootstrap => "Bootstrap"
  | .safeOperational => "SafeOperational"
  | .operational => "Operational"

/-- The byte sizes of the receive and transmit records the master negotiated with a slave. -/
structure RecordSizes where
  rx : UInt16 := 0
  tx : UInt16 := 0
  deriving DecidableEq, Repr

/-- The operations of an EtherCAT master that a drive controller uses, over the master's state `σ`.
Each takes the address of the slave it is meant for. -/
structure Bus (σ : Type) where
  /-- Bring the slave to a communication state. -/
  setState : UInt16 → BusState → StateM σ (Except BusError Unit)
  /-- Send the receive record. -/
  sendRecord : UInt16 → List UInt8 → StateM σ (Except BusError Unit)
  /-- Fetch the transmit record into a buffer: the buffer's new contents. -/
  fetchRecord : UInt16 → (buffer : List UInt8) →
    StateM σ (Except BusError { bytes : List UInt8 // bytes.length = buffer.length })
  /-- Read an object through the mailbox: the bytes answered, at most the object's size. -/
  readObject : UInt16 → MailboxObject → StateM σ (Except BusError (List UInt8))
  /-- Write an object through the mailbox. -/
  writeObject : UInt16 → MailboxObject → List UInt8 → StateM σ (Except BusError Unit)
  /-- The record sizes negotiated for the slave. -/
  recordSizes : UInt16 → StateM σ RecordSizes

namespace Bus

variable {σ : Type}

/-- The value of an object, read through the mailbox; an answer shorter than the value is a
protocol failure. -/
def readValue (bus : Bus σ) (slave : UInt16) (o : MailboxObject) :
    StateM σ (Except BusError Scalar) := do
  let answer ← bus.readObject slave o
  pure <| answer.bind fun bytes =>
    if bytes.length < o.size then .error .shortAnswer
    else (o.kind.unpack bytes).mapError BusError.ofPacking

/-- Write a value to an object through the mailbox. -/
def writeValue (bus : Bus σ) (slave : UInt16) (o : MailboxObject) (v : Scalar) :
    StateM σ (Except BusError Unit) :=
  bus.writeObject slave o v.bytes

end Bus

/-- Whether two scalars hold the same value: integers of one kind by value, floats of one kind as
numbers (a NaN equals nothing, the two zeros are equal); scalars of different kinds never. -/
def Scalar.sameValue : Scalar → Scalar → Bool
  | .f32 a, .f32 b => (Binary32.ofBits a).widen.toFloat == (Binary32.ofBits b).widen.toFloat
  | .f64 a, .f64 b => Float.ofBits a == Float.ofBits b
  | a, b => a == b

end ServoDrive
