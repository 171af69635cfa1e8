import ServoDrive.Device.Basic
import ServoDrive.Record.Tx

/-!
# The model device on a bus

The model device answers every operation of `Bus` as the only slave of a bus, and logs each one.

* A receive record of 18 bytes (standard) or 6 bytes (cst) delivers its controlword and its mode
  of operation, which the device keeps as object `0x6060:00`.
* A transmit record of 22 bytes (standard) or 14 bytes (cst), packed into the buffer it is
  fetched into, carries the device's actual values and statusword; in the cst layout the current
  stands for the torque. Once the record is sampled, a
  hook set on the device fires: the device may take a new state, and the application may request a
  state change (`takeRequest` hands it over), both too late for the record.
* A mailbox read answers the statusword for `0x6041:00` and the stored value otherwise, cut to the
  object's size; an address among the failing reads aborts with `hardwareError`, an absent one with
  `invalidIndex`.
* A mailbox write stores the value, or the clamped value where one is set, and a write of
  `0x6040:00` delivers the controlword of its first two bytes (a shorter value delivers none); an
  address among the failing writes aborts with `stateRefused`.
* The record sizes follow the sync managers' assignments `0x1c12` and `0x1c13`: a list of PDOs
  that assembles one of the four layouts gives that layout's size, any other list zero.
-/

namespace ServoDrive

namespace Device

/-- The little-endian word of the first two bytes. -/
def word? : List UInt8 → Option UInt16
  | a :: b :: _ => some (a.toUInt16 ||| b.toUInt16 <<< 8)
  | _ => none

/-- The controlword and mode byte of a receive record, by its size: at bytes 12 and 14 of a
standard record, 2 and 4 of a cst record. -/
def controlFields (bytes : List UInt8) : Option (UInt16 × UInt8) :=
  let fieldsAt (k : Nat) : UInt16 × UInt8 :=
    ((ofLeBytes ((bytes.drop k).take 2)).toUInt16, bytes.getD (k + 2) 0)
  if bytes.length = 18 then some (fieldsAt 12)
  else if bytes.length = 6 then some (fieldsAt 2)
  else none

/-- The size of the record a list of PDOs assembles: that of the layout whose assignment it is,
on either side, or zero. -/
def recordSize (pdos : List UInt16) : UInt16 :=
  let layouts := [(Side.rx, RecordType.standard), (.rx, .cst), (.tx, .standard), (.tx, .cst)]
  match layouts.find? (fun (side, ty) => ty.assignment side == some pdos) with
  | some (side, ty) => ((ty.size side).getD 0).toUInt16
  | none => 0

/-- The PDOs assigned to a sync manager: as many subs as the first byte of sub 0 says (none: zero),
from sub 1 on, each the word of its first two bytes; an absent sub, or one of fewer than two
bytes, names no PDO and is skipped. -/
def assigned (dev : Device) (index : UInt16) : List UInt16 :=
  let count := ((dev.objects.get? (index, 0)).bind List.head?).getD 0
  (List.range count.toNat).filterMap fun i => (dev.objects.get? (index, (i + 1).toUInt8)).bind word?

/-- The transmit record of a size, built from the actual values and the statusword; none for a
size of no layout. -/
def txRecord? (dev : Device) (n : Nat) : Option TxRecord :=
  let word : StatusWord := ⟨dev.statusWord⟩
  if n = 22 then
    some (.standard
      { actualPosition := dev.actualPosition, digitalInputs := dev.digitalInputs,
        actualVelocity := dev.actualVelocity, statusWord := word, analogInput := dev.analogInput,
        actualCurrent := dev.actualCurrent, busVoltage := dev.busVoltage })
  else if n = 14 then
    some (.cst
      { actualPosition := dev.actualPosition, actualTorque := dev.actualCurrent,
        statusWord := word, modeDisplay := dev.modeDisplay, actualVelocity := dev.actualVelocity })
  else none

/-- The transmit record of the buffer's size packed into the buffer: its new contents. -/
def sample (dev : Device) (buffer : List UInt8) :
    Except BusError { bytes : List UInt8 // bytes.length = buffer.length } :=
  match dev.txRecord? buffer.length with
  | none => .error (.protocol "unexpected tx record size")
  | some r =>
    match h : r.pack buffer with
    | .ok bytes => .ok ⟨bytes, TxRecord.length_pack h⟩
    | .error e => .error (.ofPacking e)

/-- The device once its hook, if any, has fired. -/
def fireHook (dev : Device) : Device :=
  match dev.hook with
  | none => dev
  | some h =>
    let state := match h.state with
      | some s => s
      | none => dev.state
    { dev with hook := none, state, requested := h.request }

/-- Change the communication state. -/
def changeState (dev : Device) (s : BusState) : Except BusError Unit × Device :=
  let dev := dev.logged (.setState s)
  if dev.refuseState then (.error (.master "state change refused"), dev)
  else (.ok (), { dev with busState := some s })

/-- Take a receive record. -/
def receiveRecord (dev : Device) (bytes : List UInt8) : Except BusError Unit × Device :=
  let dev := dev.logged (.sendRecord bytes)
  if dev.loseSent then (.error (.timeout "simulated frame loss"), dev)
  else
    match controlFields bytes with
    | some (cw, mode) =>
      (.ok (), { dev with objects := dev.objects.insert modeKey [mode] }.receiveControlWord cw)
    | none => (.error (.protocol "unexpected rx record size"), dev)

/-- Give a transmit record, into a buffer of its size. -/
def transmitRecord (dev : Device) (buffer : List UInt8) :
    Except BusError { bytes : List UInt8 // bytes.length = buffer.length } × Device :=
  let dev := dev.logged (.fetchRecord buffer.length)
  if dev.loseFetched then (.error (.timeout "simulated frame loss"), dev)
  else
    match dev.sample buffer with
    | .ok bytes => (.ok bytes, dev.fireHook)
    | .error e => (.error e, dev)

/-- Answer a mailbox read. -/
def answerRead (dev : Device) (o : MailboxObject) : Except BusError (List UInt8) × Device :=
  let key : ObjectKey := (o.index, o.sub)
  let answer : Except AbortCode (List UInt8) :=
    if dev.failingReads.contains key then .error .hardwareError
    else if key = statusWordKey then .ok (leBytes 2 dev.statusWord.toNat)
    else match dev.objects.get? key with
      | some v => .ok v
      | none => .error .invalidIndex
  let answer := answer.map (·.take o.size)
  (answer.mapError .slave, dev.logged (.readObject key answer))

/-- Answer a mailbox write. -/
def answerWrite (dev : Device) (o : MailboxObject) (bytes : List UInt8) :
    Except BusError Unit × Device :=
  let key : ObjectKey := (o.index, o.sub)
  if dev.failingWrites.contains key then
    (.error (.slave .stateRefused), dev.logged (.writeObject key bytes (some .stateRefused)))
  else
    let dev := dev.logged (.writeObject key bytes none)
    let dev :=
      if key = controlWordKey then
        match word? bytes with
        | some cw => dev.receiveControlWord cw
        | none => dev
      else dev
    (.ok (), { dev with objects := dev.objects.insert key ((dev.clamped.get? key).getD bytes) })

/-- Report the record sizes of the current assignments. -/
def reportSizes (dev : Device) : RecordSizes × Device :=
  let sizes : RecordSizes := ⟨recordSize (dev.assigned 0x1c12), recordSize (dev.assigned 0x1c13)⟩
  (sizes, dev.logged (.recordSizes sizes))

/-- Hand over the state change the hook requested, logging it. -/
def takeRequest (dev : Device) : Option DriveState × Device :=
  match dev.requested with
  | some s => (some s, { dev.logged (.hookRequest s) with requested := none })
  | none => (none, dev)

/-- The model device as the only slave of a bus. -/
def bus : Bus Device where
  setState _ s := modifyGet (·.changeState s)
  sendRecord _ bytes := modifyGet (·.receiveRecord bytes)
  fetchRecord _ buffer := modifyGet (·.transmitRecord buffer)
  readObject _ o := modifyGet (·.answerRead o)
  writeObject _ o bytes := modifyGet (·.answerWrite o bytes)
  recordSizes _ := modifyGet (·.reportSizes)

end Device

end ServoDrive
