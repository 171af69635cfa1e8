import ServoDrive.Drive.Cycle
import ServoDrive.Device.Bus
import ServoDrive.Config.Document

/-!
# A drive on a bench

A bench wires a drive controller to the model device, the only slave of its bus, and keeps a clock.
An `Action` is one call of the application or of the cyclic task; `Bench.perform` runs it and
gives its `Reply`, and `Bench.session` runs a list of actions and reports, after each, its reply,
the bus operations it caused, and the bench.

The clock stands still except while the application waits. A wait for a cyclic state change with
no cycle running meanwhile polls until its time-out has passed and then fails, the clock having
advanced past the time-out. During the read half of every cycle, a state change that the device's
hook requests reaches the controller while the exchange is in flight, as a request of the
application made at that moment would.
-/

namespace ServoDrive

/-- A controller, the model device it drives, and the clock. -/
structure Bench where
  drive : Drive
  device : Device := {}
  /-- The clock reading, in µs. -/
  clock : Nat := 0

/-- A call of the application or of the cyclic task. -/
inductive Action where
  | adjust (settings : List Device.Setting)
  | loadConfiguration (c : Configuration)
  | loadConfigText (text : String)
  | startup
  | shutdown
  | selectRx (ty : RecordType)
  | selectTx (ty : RecordType)
  | refreshSizes
  | mapRecords (rx tx : RecordType)
  | verifyWrite (o : MailboxObject) (v : Scalar)
  | readStatusWord
  | writeControlWord (w : ControlWord)
  | transitionViaMailbox (t : Transition)
  | setStateViaMailbox (s : DriveState)
  | runPreop
  | stageCommand (c : Command)
  | updateWrite
  | updateRead
  /-- Run that many bus cycles, each a read half and then a write half. -/
  | cycle (count : Nat)
  | setStateViaCycle (s : DriveState) (wait : Bool)
  | configuration
  | identity
  | digitalInput (i : Nat)
  | hasError (e : ErrorKind)

/-- What an action gives back. -/
inductive Reply where
  | none
  | flag (b : Bool)
  | statusWord (r : Except BusError StatusWord)
  | written (r : Except BusError Unit)
  | loaded (r : Except ConfigError Unit)
  | configuration (c : Configuration)
  | identity (name : String) (address : UInt16) (description : String)

/-- An action's report: its reply, the bus operations it caused, and the bench after it. -/
structure Step where
  reply : Reply
  events : List BusEvent
  bench : Bench

namespace Bench

/-- A bench with an unconfigured controller for the slave at an address. -/
def new (name : String) (address : UInt16) : Bench := { drive := Drive.new name address }

/-- Run a controller operation against the device. -/
def run {α : Type} (b : Bench) (act : DriveM Device α) : α × Bench :=
  let ((a, drive), device) := Id.run ((act.run b.drive).run b.device)
  (a, { b with drive, device })

/-- Deliver the state change the device's hook requested, at clock reading `now`. -/
def deliverRequest (now : Nat) : DriveM Device Unit := do
  match ← (modifyGet Device.takeRequest : StateM Device _) with
  | some s => modify (·.requestStateChange s now)
  | none => pure ()

/-- The read half of a cycle on the bench, hook requests delivered during the exchange. -/
def readHalf (now : Nat) : DriveM Device Unit :=
  Drive.updateReadWith Device.bus (deliverRequest now)

/-- `n` bus cycles at clock reading `now`. -/
def cycles (now : Nat) : Nat → DriveM Device Unit
  | 0 => pure ()
  | n + 1 => do
    readHalf now
    Drive.updateWrite Device.bus now
    cycles now n

/-- Request a cyclic state change; with `wait`, wait alone for it until the time-out. -/
def requestState (b : Bench) (s : DriveState) (wait : Bool) : Bool × Bench :=
  let start := b.clock
  let b := { b with drive := b.drive.requestStateChange s start }
  if wait then
    let now := start + b.drive.config.maxTimeout + 1
    ((b.drive.poll start now).getD false, { b with clock := now })
  else (true, b)

/-- Run an action. -/
def perform (b : Bench) : Action → Reply × Bench
  | .adjust settings => (.none, { b with device := b.device.adjustAll settings })
  | .loadConfiguration c => (.none, { b with drive := b.drive.loadConfiguration c })
  | .loadConfigText text =>
    match Configuration.ofToml text with
    | .ok c => (.loaded (.ok ()), { b with drive := b.drive.loadConfiguration c })
    | .error e => (.loaded (.error e), b)
  | .startup => let (ok, b) := b.run Drive.startup; (.flag ok, b)
  | .shutdown => (.none, (b.run (Drive.shutdown Device.bus)).2)
  | .selectRx ty => let (ok, b) := b.run (Drive.selectRx ty); (.flag ok, b)
  | .selectTx ty => let (ok, b) := b.run (Drive.selectTx ty); (.flag ok, b)
  | .refreshSizes => (.none, (b.run (Drive.refreshSizes Device.bus)).2)
  | .mapRecords rx tx => let (ok, b) := b.run (Drive.mapRecords Device.bus rx tx); (.flag ok, b)
  | .verifyWrite o v => let (ok, b) := b.run (Drive.verifyWrite Device.bus o v); (.flag ok, b)
  | .readStatusWord => let (r, b) := b.run (Drive.readStatusWord Device.bus); (.statusWord r, b)
  | .writeControlWord w =>
    let (r, b) := b.run (Drive.writeControlWord Device.bus w); (.written r, b)
  | .transitionViaMailbox t =>
    let (ok, b) := b.run (Drive.transitionViaMailbox Device.bus t); (.flag ok, b)
  | .setStateViaMailbox s =>
    let (ok, b) := b.run (Drive.setStateViaMailbox Device.bus s); (.flag ok, b)
  | .runPreop => let (ok, b) := b.run (Drive.runPreop Device.bus); (.flag ok, b)
  | .stageCommand c => (.none, { b with drive := b.drive.stageCommand c })
  | .updateWrite => (.none, (b.run (Drive.updateWrite Device.bus b.clock)).2)
  | .updateRead => (.none, (b.run (readHalf b.clock)).2)
  | .cycle n => (.none, (b.run (cycles b.clock n)).2)
  | .setStateViaCycle s wait => let (ok, b) := b.requestState s wait; (.flag ok, b)
  | .configuration => (.configuration b.drive.config, b)
  | .identity => (.identity b.drive.name b.drive.address b.drive.describe, b)
  | .digitalInput i => (.flag (b.drive.reading.digitalInput i), b)
  | .hasError e => (.flag (b.drive.reading.hasError e), b)

/-- Run actions in order, reporting each. -/
def session (b : Bench) : List Action → List Step
  | [] => []
  | a :: rest =>
    let (reply, b) := { b with device := { b.device with log := [] } }.perform a
    ⟨reply, b.device.events, b⟩ :: session b rest

/-- A bench for a named controller at an address, the device adjusted by settings and the
controller given a configuration if there is one. -/
def start (name : String) (address : UInt16) (settings : List Device.Setting)
    (config : Option Configuration) : Bench :=
  let b := Bench.new name address
  let b := { b with device := b.device.adjustAll settings }
  match config with
  | some c => { b with drive := b.drive.loadConfiguration c }
  | none => b

end Bench

end ServoDrive
