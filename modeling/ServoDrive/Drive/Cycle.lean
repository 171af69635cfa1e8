import ServoDrive.Drive.Mailbox

/-!
# The bus cycle

Every bus cycle the controller fetches the transmit record into its reading (`updateRead`) and
sends the receive record (`updateWrite`).

Both halves work in a zeroed buffer of `maxRecordSize` bytes, room for every record: the write
half packs its record there and sends the record's first bytes, the read half has the bus fill
the first bytes of the layout's size and decodes those.

The read half is a sequence of steps, because the application may act between them while the
exchange is in flight: the start (`beginRead`: the layout expected and the request number when the
exchange began), the exchange on the bus (`exchange`), storing the record in the reading
(`storeRecord`), marking the reading fresh only if no state change was requested since the start
(`markFresh`), and reading the error code of a drive in fault. `updateReadWith` runs them with an
action of another party between the exchange and the store; `updateRead` with none.

The write half runs the state-change engine first when a change is pending and a fresh reading
came in, then sends the record of the negotiated layout with the staged setpoints, the controlword
and the mode. With no mode of operation it sends nothing and records `modeOfOperation`; with no
negotiated layout it records `rxRecordType`. A failed send changes nothing.
-/

namespace ServoDrive

/-- An exchange of the transmit record in flight: the layout expected, its size, and the request
number when it began. -/
structure Exchange where
  layout : RecordType
  size : Nat
  request : UInt64
  deriving DecidableEq, Repr

namespace Drive

/-- The start of a read: the exchange to make, or none for layout `na`, which is recorded. -/
def beginRead (d : Drive) : Option Exchange × Drive :=
  match d.txType.size .tx with
  | some n => (some ⟨d.txType, n, d.request⟩, d)
  | none => (none, d.record .txRecordType)

/-- The reading with a received record. -/
def storeRecord (d : Drive) (r : TxRecord) : Drive := { d with reading := d.reading.update r }

/-- The reading counts as fresh for the engine only if no state change was requested since the
exchange began. -/
def markFresh (d : Drive) (x : Exchange) : Drive :=
  if d.request == x.request then { d with fresh := true } else d

/-- The receive record for the staged setpoints, the controlword and a mode; none while the
receive layout is `na`. -/
def rxRecord (d : Drive) (mode : OperationMode) : Option RxRecord :=
  RxRecord.new d.rxType d.staged d.controlWord mode

variable {σ : Type} (bus : Bus σ)

/-- The record of an exchange, fetched from the bus into the first `x.size` bytes of a zeroed
record buffer: those bytes as the bus leaves them. -/
def exchange (x : Exchange) : DriveM σ (Except BusError (List UInt8)) := do
  let buffer := (List.replicate maxRecordSize 0).take x.size
  let answer ← (bus.fetchRecord (← get).address buffer : StateM σ _)
  pure (answer.map Subtype.val)

/-- Read the error code of a drive in fault into the reading's faults; a failed read records
`errorCodeRead`. -/
def readFaultCode : DriveM σ Unit := do
  match ← (bus.readValue (← get).address .errorCode : StateM σ _) with
  | .ok v => modify fun d => { d with reading := d.reading.addFault v.pattern.toUInt16 }
  | .error _ => note .errorCodeRead

/-- The end of a read: a record that decodes is stored, the reading marked fresh if the exchange is
still current, and the error code read if the stored statusword reports a fault. -/
def finishRead (x : Exchange) (bytes : List UInt8) : DriveM σ Unit := do
  match TxRecord.unpack x.layout bytes with
  | .ok (some r) =>
    modify (·.storeRecord r)
    let state := (← get).reading.driveState
    modify (·.markFresh x)
    if names state .fault then readFaultCode bus
  | _ => pure ()

/-- The read half of a cycle, with `meanwhile` done by another party while the exchange is in
flight. -/
def updateReadWith (meanwhile : DriveM σ Unit) : DriveM σ Unit := do
  match ← modifyGet beginRead with
  | none => pure ()
  | some x =>
    let answer ← exchange bus x
    meanwhile
    match answer with
    | .ok bytes => finishRead bus x bytes
    | .error _ => pure ()

/-- The read half of a cycle. -/
def updateRead : DriveM σ Unit := updateReadWith bus (pure ())

/-- Send the receive record of the negotiated layout with a mode: packed into a zeroed record
buffer, of which the record's first bytes go out. With no negotiated layout, record
`rxRecordType`. -/
def writeRecord (mode : OperationMode) : DriveM σ Unit := do
  let d ← get
  match d.rxRecord mode with
  | none => note .rxRecordType
  | some r =>
    match r.pack (List.replicate maxRecordSize 0) with
    | .ok packed => do let _ ← (bus.sendRecord d.address (packed.take r.size) : StateM σ _)
    | .error _ => pure ()

/-- The write half of a cycle at clock reading `now`. -/
def updateWrite (now : Nat) : DriveM σ Unit := do
  match (← get).mode with
  | none => note .modeOfOperation
  | some mode =>
    let d ← get
    if d.fresh && d.pending then set (d.engage now)
    writeRecord bus mode

end Drive

end ServoDrive
