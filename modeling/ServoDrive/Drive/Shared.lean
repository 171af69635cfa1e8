import ServoDrive.Drive.Cycle
import ServoDrive.Config.Document

/-!
# A controller shared by two actors

A controller is shared by the cyclic task, which runs the read and write halves of every bus
cycle, and by the application, which stages commands, requests states and configures the drive.
This module states what the two may do and in which pieces, so that a statement about the
controller can range over every way their calls interleave.

* A `Call` is one call of the application, and `Op` any operation of either actor taken whole.
  `Op.run` runs one on a controller and a bus; a sequence of them is a run of the controller.
* The application's calls are atomic: each holds the controller for all its work on it. The write
  half is atomic too. The read half is not: it takes the controller only to start (the layout and
  the request number, `begin`), then exchanges the record on the bus (`fetch`), stores it in the
  reading (`store`), marks the reading fresh if no state change was requested since the start
  (`mark`), and reads the error code of a drive in fault (`finish`). A `Move` is one of these
  pieces, a call of the application, or a write half; the cyclic actor's progress through a read is
  the configuration's `ReadPhase`.
* A configuration keeps a log of the events that decide which reading a state change is judged
  on: the requests, the start of every read, the state each stored record decodes to, and the
  state the engine decoded each time it ran. The log holds the newest event first; it is a record
  of the run and nothing reads it.

A read whose pieces run one after the other does what `Drive.updateRead` does, which is how a run
of whole operations (`Shared.runOps`) is a run of moves.
-/

namespace ServoDrive

/-- A call of the application on the controller. A request of a cyclic state change stands for
`set_drive_state_via_pdo` with or without waiting: the wait only polls the controller. -/
inductive Call where
  | requestState (target : DriveState) (now : Nat)
  | stageCommand (cmd : Command)
  | loadConfiguration (c : Configuration)
  | loadConfigText (text : String)
  | selectRx (ty : RecordType)
  | selectTx (ty : RecordType)
  | startup
  | shutdown
  | refreshSizes
  | mapRecords (rx tx : RecordType)
  | verifyWrite (o : MailboxObject) (v : Scalar)
  | readStatusWord
  | writeControlWord (w : ControlWord)
  | transitionViaMailbox (t : Transition)
  | setStateViaMailbox (target : DriveState)
  | runPreop

namespace Call

variable {σ : Type} (bus : Bus σ)

/-- The call's effect on the controller and the bus; what it answers is dropped. -/
def run : Call → DriveM σ Unit
  | .requestState target now => modify (·.requestStateChange target now)
  | .stageCommand cmd => modify (·.stageCommand cmd)
  | .loadConfiguration c => modify (·.loadConfiguration c)
  | .loadConfigText text =>
    match Configuration.ofToml text with
    | .ok c => modify (·.loadConfiguration c)
    | .error _ => pure ()
  | .selectRx ty => do let _ ← Drive.selectRx ty
  | .selectTx ty => do let _ ← Drive.selectTx ty
  | .startup => do let _ ← Drive.startup
  | .shutdown => Drive.shutdown bus
  | .refreshSizes => Drive.refreshSizes bus
  | .mapRecords rx tx => do let _ ← Drive.mapRecords bus rx tx
  | .verifyWrite o v => do let _ ← Drive.verifyWrite bus o v
  | .readStatusWord => do let _ ← Drive.readStatusWord bus
  | .writeControlWord w => do let _ ← Drive.writeControlWord bus w
  | .transitionViaMailbox t => do let _ ← Drive.transitionViaMailbox bus t
  | .setStateViaMailbox target => do let _ ← Drive.setStateViaMailbox bus target
  | .runPreop => do let _ ← Drive.runPreop bus

end Call

/-- An operation of either actor, taken whole. -/
inductive Op where
  | call (c : Call)
  | updateRead
  | updateWrite (now : Nat)

namespace Op

variable {σ : Type} (bus : Bus σ)

def run : Op → DriveM σ Unit
  | .call c => c.run bus
  | .updateRead => Drive.updateRead bus
  | .updateWrite now => Drive.updateWrite bus now

/-- Operations one after the other. -/
def runAll (ops : List Op) : DriveM σ Unit := ops.forM (run bus)

/-- Whether the operation requests a cyclic state change. -/
def isRequest : Op → Bool
  | .call (.requestState _ _) => true
  | _ => false

end Op

/-- What the log of a shared controller records. -/
inductive Event where
  /-- The application requested a cyclic state change toward `target`. -/
  | request (target : DriveState)
  /-- A read half started: it took the layout and the request number. -/
  | snapshot
  /-- A read half stored a record whose statusword decodes to `state`. -/
  | store (state : Except UndefinedState DriveState)
  /-- The state-change engine ran on a fresh reading decoding to `state`. -/
  | evaluate (state : Except UndefinedState DriveState)

namespace Event

def isRequest : Event → Bool
  | .request _ => true
  | _ => false

def isSnapshot : Event → Bool
  | .snapshot => true
  | _ => false

end Event

/-- Where the cyclic actor stands in a read half. -/
inductive ReadPhase where
  /-- No read in progress. -/
  | idle
  /-- Started, the exchange not yet made. -/
  | begun (x : Exchange)
  /-- The bus answered. -/
  | fetched (x : Exchange) (answer : Except BusError (List UInt8))
  /-- The record is stored; it decodes to `state`. -/
  | stored (x : Exchange) (state : Except UndefinedState DriveState)
  /-- Freshness is settled; only the error code of a fault is left to read. -/
  | marked (state : Except UndefinedState DriveState)

/-- A controller, the bus state, the cyclic actor's progress and the log, newest event first. -/
structure Shared (σ : Type) where
  drive : Drive
  bus : σ
  phase : ReadPhase := .idle
  log : List Event := []

/-- One move of either actor. -/
inductive Move where
  | call (c : Call)
  | begin
  | fetch
  | store
  | mark
  | finish
  | write (now : Nat)

/-- The moves of an operation taken whole: a read half is its five pieces. -/
def Op.moves : Op → List Move
  | .call c => [.call c]
  | .updateRead => [.begin, .fetch, .store, .mark, .finish]
  | .updateWrite now => [.write now]

namespace Shared

variable {σ : Type} (bus : Bus σ)

/-- The configuration of a controller and a bus before anything happened. -/
def start (d : Drive) (s : σ) : Shared σ := { drive := d, bus := s }

/-- Run a controller operation on the configuration's controller and bus. -/
def exec {α : Type} (c : Shared σ) (act : DriveM σ α) : α × Shared σ :=
  let ((a, drive), s) := Id.run ((act.run c.drive).run c.bus)
  (a, { c with drive, bus := s })

/-- One move. A piece of the read half that is not the cyclic actor's next one changes nothing,
and so does a write half while a read is in progress. -/
def step (c : Shared σ) : Move → Shared σ
  | .call call =>
    let c' := (c.exec (call.run bus)).2
    match call with
    | .requestState target _ => { c' with log := .request target :: c'.log }
    | _ => c'
  | .begin =>
    match c.phase with
    | .idle =>
      let (x?, drive) := c.drive.beginRead
      { c with drive, phase := (x?.map .begun).getD .idle, log := .snapshot :: c.log }
    | _ => c
  | .fetch =>
    match c.phase with
    | .begun x =>
      let (answer, c) := c.exec (Drive.exchange bus x)
      { c with phase := .fetched x answer }
    | _ => c
  | .store =>
    match c.phase with
    | .fetched x (.ok bytes) =>
      match TxRecord.unpack x.layout bytes with
      | .ok (some r) =>
        let drive := c.drive.storeRecord r
        let state := drive.reading.driveState
        { c with drive, phase := .stored x state, log := .store state :: c.log }
      | _ => { c with phase := .idle }
    | .fetched _ (.error _) => { c with phase := .idle }
    | _ => c
  | .mark =>
    match c.phase with
    | .stored x state => { c with drive := c.drive.markFresh x, phase := .marked state }
    | _ => c
  | .finish =>
    match c.phase with
    | .marked state =>
      let c := if Drive.names state .fault then (c.exec (Drive.readFaultCode bus)).2 else c
      { c with phase := .idle }
    | _ => c
  | .write now =>
    match c.phase with
    | .idle =>
      let c' := (c.exec (Drive.updateWrite bus now)).2
      if c.drive.mode.isSome && c.drive.fresh && c.drive.pending then
        { c' with log := .evaluate c.drive.reading.driveState :: c'.log }
      else c'
    | _ => c

/-- Moves one after the other. -/
def run (c : Shared σ) (moves : List Move) : Shared σ := moves.foldl (step bus) c

/-- An operation taken whole. -/
def perform (c : Shared σ) (op : Op) : Shared σ := c.run bus op.moves

/-- Operations taken whole, one after the other. -/
def runOps (c : Shared σ) (ops : List Op) : Shared σ := ops.foldl (perform bus) c

/-- The requests made since the read in progress started; none between reads. -/
def requestsInFlight (c : Shared σ) : Nat :=
  match c.phase with
  | .idle => 0
  | _ => (c.log.takeWhile (!·.isSnapshot)).countP Event.isRequest

end Shared

end ServoDrive
