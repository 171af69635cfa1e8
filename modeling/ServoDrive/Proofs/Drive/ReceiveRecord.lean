import ServoDrive.Proofs.Drive.WriteHalf
import ServoDrive.Proofs.Drive.Calibration
import ServoDrive.Proofs.Record.Format

/-!
# The receive record along a run

Besides the controlword, the receive record carries three settings of the controller: the receive
layout, the staged setpoints and the mode of operation (`Drive.settings`). This module says which
moves of the two actors change them, and that every record the bus hands back decodes.

* Only staging a command, loading a configuration and selecting or negotiating the receive layout
  may change the settings (`Move.setsRecord`); every other move keeps them
  (`Shared.step_settings_of_quiet`). Staging changes the setpoints and, where the controller
  allows it, the mode; loading changes the mode only; selecting and negotiating change the layout
  only, and never to `na` (`Shared.step_settings`).
* A read hands the bus the first bytes of the record buffer, as many as its layout has, and the
  bus can only fill them (`Drive.length_exchange`), so every answer has the layout's size
  (`ReadPhase.Sized`) and decodes, whatever the bus answers: the read half never drops a record
  it fetched (`Shared.unpack_of_run`).

Main statement: `receive_record_contract`, which puts these together with what the write half
sends (`Drive.updateWrite_eq`): the first bytes of the record buffer it packs the record into,
which always has room for it (`RxRecord.pack_buffer`).
-/

namespace ServoDrive

/-- What a receive record carries besides the controlword. -/
structure Settings where
  rxType : RecordType
  staged : Setpoints
  mode : Option OperationMode

namespace Drive

/-- The settings a controller builds its receive records from. -/
def settings (d : Drive) : Settings := ⟨d.rxType, d.staged, d.mode⟩

/-! ## 1. The elementary changes and the settings -/

section Elementary

variable (d : Drive)

@[simp] theorem settings_record (e : ErrorKind) : (d.record e).settings = d.settings := rfl

@[simp] theorem settings_configureTx (ty : RecordType) :
    (d.configureTx ty).2.settings = d.settings := by
  unfold configureTx
  split <;> rfl

@[simp] theorem settings_setRatedCurrent (rated : Float) :
    (d.setRatedCurrent rated).settings = d.settings := rfl

@[simp] theorem settings_markFresh (x : Exchange) : (d.markFresh x).settings = d.settings := by
  unfold markFresh
  split <;> rfl

@[simp] theorem settings_engage (now : Nat) : (d.engage now).settings = d.settings := by
  simp only [settings, engage_rxType, engage_staged, engage_mode]

end Elementary

/-- The layout is all a selection or a negotiation of the receive layout may change, and it never
becomes `na`. -/
def Renegotiated (d d' : Drive) : Prop :=
  d'.staged = d.staged ∧ d'.mode = d.mode ∧ (d'.rxType = d.rxType ∨ d'.rxType ≠ .na)

theorem chains_renegotiated : Chains Renegotiated where
  refl _ := ⟨rfl, rfl, .inl rfl⟩
  trans := by
    rintro d₁ d₂ d₃ ⟨hs₁, hm₁, hr₁⟩ ⟨hs₂, hm₂, hr₂⟩
    refine ⟨hs₂.trans hs₁, hm₂.trans hm₁, ?_⟩
    rcases hr₂ with h₂ | h₂
    · rcases hr₁ with h₁ | h₁
      · exact .inl (h₂.trans h₁)
      · exact .inr (h₂ ▸ h₁)
    · exact .inr h₂

theorem Renegotiated.of_settings {d d' : Drive} (h : d'.settings = d.settings) :
    Renegotiated d d' :=
  ⟨congrArg Settings.staged h, congrArg Settings.mode h, .inl (congrArg Settings.rxType h)⟩

/-- Selecting the receive layout refuses `na`. -/
theorem renegotiated_configureRx (d : Drive) (ty : RecordType) :
    Renegotiated d (d.configureRx ty).2 := by
  unfold configureRx
  split
  · exact .of_settings rfl
  · rename_i hna
    exact ⟨rfl, rfl, .inr hna⟩

end Drive

/-! ## 2. Which moves change the settings -/

/-- The moves that may change the settings: staging a command, loading a configuration, and
selecting or negotiating the receive layout (preoperational configuration negotiates both). -/
def Move.setsRecord : Move → Bool
  | .call (.stageCommand _) | .call (.loadConfiguration _) | .call (.loadConfigText _)
  | .call (.selectRx _) | .call .startup | .call (.mapRecords _ _) | .call .runPreop => true
  | _ => false

/-- The moves that select or negotiate the receive layout. -/
def Move.selectsRx : Move → Bool
  | .call (.selectRx _) | .call .startup | .call (.mapRecords _ _) | .call .runPreop => true
  | _ => false

/-- The configuration a move loads: one given whole, or one read from text that parses. -/
def Move.loads : Move → Option Configuration
  | .call (.loadConfiguration c) => some c
  | .call (.loadConfigText text) => (Configuration.ofToml text).toOption
  | _ => none

/-- The elementary changes of a move outside `setsRecord` keep the settings. -/
theorem Move.makes_settings (m : Move) (hm : m.setsRecord = false) :
    m.Makes fun d d' => d'.settings = d.settings := by
  cases m with
  | call call =>
    cases call with
    | requestState _ _ => exact fun _ => rfl
    | selectTx _ => exact fun d => Drive.settings_configureTx d _
    | refreshSizes => exact fun _ _ => rfl
    | transitionViaMailbox _ => exact fun _ _ => rfl
    | setStateViaMailbox _ => exact fun _ _ => rfl
    | shutdown => exact True.intro
    | verifyWrite _ _ => exact True.intro
    | readStatusWord => exact True.intro
    | writeControlWord _ => exact True.intro
    | _ => cases hm
  | begin => exact fun _ _ => rfl
  | fetch => exact True.intro
  | store => exact fun _ _ => rfl
  | mark => exact fun d x => Drive.settings_markFresh d x
  | finish => exact ⟨fun _ _ => rfl, fun _ _ => rfl⟩
  | write _ => exact ⟨fun _ _ => rfl, fun d now => Drive.settings_engage d now⟩

namespace Shared

variable {σ : Type} (bus : Bus σ)

/-- A move outside `setsRecord` keeps the settings, whatever the bus answers. -/
theorem step_settings_of_quiet (c : Shared σ) (m : Move) (hm : m.setsRecord = false) :
    (c.step bus m).drive.settings = c.drive.settings :=
  step_within_of_makes bus (chains_view Drive.settings) c m (m.makes_settings hm)

/-- What a move does to the settings: nothing, or it stages a command, or it loads a
configuration, or it selects or negotiates the receive layout and changes nothing else of them. -/
theorem step_settings (c : Shared σ) (m : Move) :
    (c.step bus m).drive.settings = c.drive.settings ∨
      (∃ cmd, m = .call (.stageCommand cmd) ∧ (c.step bus m).drive = c.drive.stageCommand cmd) ∨
      (∃ cfg, m.loads = some cfg ∧ (c.step bus m).drive = c.drive.loadConfiguration cfg) ∨
      (m.selectsRx = true ∧ Drive.Renegotiated c.drive (c.step bus m).drive) := by
  -- a selection or negotiation relates the controllers as its elementary changes do
  have hrenegotiated (hm : m.Makes Drive.Renegotiated) :
      Drive.Renegotiated c.drive (c.step bus m).drive :=
    step_within_of_makes bus Drive.chains_renegotiated c m hm
  have hrecord : ∀ (d : Drive) e, Drive.Renegotiated d (d.record e) := fun _ _ => .of_settings rfl
  have htx : ∀ (d : Drive) ty, Drive.Renegotiated d (d.configureTx ty).2 :=
    fun d ty => .of_settings (Drive.settings_configureTx d ty)
  cases hq : m.setsRecord
  · exact .inl (step_settings_of_quiet bus c m hq)
  · cases m with
    | call call =>
      cases call with
      | stageCommand cmd => exact .inr (.inl ⟨cmd, rfl, rfl⟩)
      | loadConfiguration cfg =>
        exact .inr (.inr (.inl ⟨cfg, rfl, rfl⟩))
      | loadConfigText text =>
        rw [step_call_drive]
        cases hcfg : Configuration.ofToml text with
        | ok cfg =>
          refine .inr (.inr (.inl ⟨cfg, by simp [Move.loads, hcfg, Except.toOption], ?_⟩))
          simp only [Call.run, hcfg]
          rfl
        | error e =>
          refine .inl ?_
          simp only [Call.run, hcfg]
          rfl
      | selectRx ty =>
        exact .inr (.inr (.inr ⟨rfl, hrenegotiated fun d => Drive.renegotiated_configureRx d ty⟩))
      | startup =>
        exact .inr (.inr (.inr ⟨rfl, hrenegotiated ⟨Drive.renegotiated_configureRx, htx⟩⟩))
      | mapRecords rx tx =>
        exact .inr (.inr (.inr ⟨rfl,
          hrenegotiated ⟨hrecord, Drive.renegotiated_configureRx, htx⟩⟩))
      | runPreop =>
        exact .inr (.inr (.inr ⟨rfl, hrenegotiated ⟨hrecord, Drive.renegotiated_configureRx, htx,
          fun _ _ => .of_settings rfl, fun _ _ => .of_settings rfl⟩⟩))
      | _ => cases hq
    | _ => cases hq

/-- The mode changes only by loading a configuration, to its mode, or by staging a command that
names a mode on a controller whose configuration allows mode changes. -/
theorem step_mode (c : Shared σ) (m : Move) (hcal : c.drive.Calibrated)
    (hne : (c.step bus m).drive.mode ≠ c.drive.mode) :
    (∃ cfg, m.loads = some cfg ∧ (c.step bus m).drive.mode = cfg.mode) ∨
      ∃ cmd mode, m = .call (.stageCommand cmd) ∧ cmd.mode = some mode ∧
        c.drive.config.allowsModeChange = true ∧ (c.step bus m).drive.mode = some mode := by
  rcases step_settings bus c m with h | ⟨cmd, rfl, h⟩ | ⟨cfg, hcfg, h⟩ | ⟨-, h⟩
  · exact absurd (congrArg Settings.mode h) hne
  · rw [h] at hne ⊢
    -- a command changes the mode only when it names one and mode changes are allowed
    cases hmode : cmd.mode with
    | none => simp [Drive.stageCommand, hmode] at hne
    | some mode =>
      cases hallow : c.drive.config.allowsModeChange
      · simp [Drive.stageCommand, hmode, hcal.modeChange, hallow] at hne
      · exact .inr ⟨cmd, mode, rfl, hmode, rfl, by simp [Drive.stageCommand, hmode, hcal.modeChange, hallow]⟩
  · exact .inl ⟨cfg, hcfg, by rw [h]; rfl⟩
  · exact absurd h.2.1 hne

/-- The receive layout changes only by a selection or negotiation, and never to `na`. -/
theorem step_rxType (c : Shared σ) (m : Move) (hne : (c.step bus m).drive.rxType ≠ c.drive.rxType) :
    m.selectsRx = true ∧ (c.step bus m).drive.rxType ≠ .na := by
  rcases step_settings bus c m with h | ⟨cmd, -, h⟩ | ⟨cfg, -, h⟩ | ⟨hs, -, -, h⟩
  · exact absurd (congrArg Settings.rxType h) hne
  · exact absurd (by rw [h]; rfl) hne
  · exact absurd (by rw [h]; rfl) hne
  · rcases h with h | h
    · exact absurd h hne
    · exact ⟨hs, h⟩

/-- The staged setpoints change only by staging a command. -/
theorem step_staged (c : Shared σ) (m : Move) (hne : (c.step bus m).drive.staged ≠ c.drive.staged) :
    ∃ cmd, m = .call (.stageCommand cmd) := by
  rcases step_settings bus c m with h | ⟨cmd, hm, -⟩ | ⟨cfg, -, h⟩ | ⟨-, h, -⟩
  · exact absurd (congrArg Settings.staged h) hne
  · exact ⟨cmd, hm⟩
  · exact absurd (by rw [h]; rfl) hne
  · exact absurd h hne

end Shared

/-! ## 3. Every fetched record decodes -/

/-- Whatever the bus, a record it hands back fills the buffer the exchange gave it: as many bytes
as the exchange asked for, which the record buffer has room for. -/
theorem Drive.length_exchange {σ : Type} (bus : Bus σ) {x : Exchange}
    (hx : x.size ≤ maxRecordSize) (d : Drive) (s : σ) {bytes : List UInt8}
    (h : (((exchange bus x).run d).run s).1.1 = .ok bytes) : bytes.length = x.size := by
  rw [Drive.exchange_run] at h
  dsimp only at h
  cases hf :
      ((bus.fetchRecord d.address ((List.replicate maxRecordSize 0).take x.size)).run s).1 with
  | error e =>
    rw [hf] at h
    cases h
  | ok b =>
    rw [hf] at h
    cases h
    rw [b.property, take_recordBuffer hx, List.length_replicate]

/-- A read asks for as many bytes as its layout has, and an answer has exactly as many. -/
def ReadPhase.Sized : ReadPhase → Prop
  | .begun x => x.layout.size .tx = some x.size
  | .fetched x (.ok bytes) => x.layout.size .tx = some bytes.length
  | _ => True

/-- A read starts with the size of its layout. -/
theorem Drive.beginRead_sized {d : Drive} {x : Exchange} (h : d.beginRead.1 = some x) :
    x.layout.size .tx = some x.size := by
  unfold Drive.beginRead at h
  split at h
  · rename_i n hn
    cases h
    exact hn
  · cases h

/-- An answer with the bytes of its layout decodes as a record of that layout. -/
theorem TxRecord.unpack_of_sized {x : Exchange} {bytes : List UInt8}
    (h : (ReadPhase.fetched x (.ok bytes)).Sized) :
    ∃ r, TxRecord.unpack x.layout bytes = .ok (some r) := by
  have hn : x.layout.size .tx = some bytes.length := h
  cases hl : x.layout with
  | na => rw [hl] at hn; cases hn
  | standard =>
    rw [hl] at hn
    obtain ⟨r, hr, -⟩ := TxStandard.unpack_of_le (Nat.le_of_eq (Option.some.inj hn))
    exact ⟨.standard r, by rw [TxRecord.unpack, hr]; rfl⟩
  | cst =>
    rw [hl] at hn
    obtain ⟨r, hr, -⟩ := TxCst.unpack_of_le (Nat.le_of_eq (Option.some.inj hn))
    exact ⟨.cst r, by rw [TxRecord.unpack, hr]; rfl⟩

namespace Shared

variable {σ : Type} (bus : Bus σ)

@[simp] theorem step_call_phase (c : Shared σ) (call : Call) :
    (c.step bus (.call call)).phase = c.phase := by
  cases call <;> rfl

/-- Every move keeps the read's sizes, whatever the bus answers. -/
theorem sized_step (c : Shared σ) (m : Move) (h : c.phase.Sized) :
    (c.step bus m).phase.Sized := by
  cases m with
  | call call => rwa [step_call_phase]
  | begin =>
    rcases step_begin_cases bus c with ⟨-, hs⟩ | ⟨-, hs⟩
    · rw [hs]
      cases hx : c.drive.beginRead.1 with
      | none => exact True.intro
      | some x => exact Drive.beginRead_sized hx
    · rwa [hs]
  | fetch =>
    rcases step_fetch_cases bus c with ⟨x, hp, hs⟩ | ⟨-, hs⟩
    · rw [hs]
      rw [hp] at h
      -- the bus fills the buffer of the read's size, which the record buffer has room for
      cases ha : (c.exec (Drive.exchange bus x)).1 with
      | ok bytes =>
        show x.layout.size .tx = some bytes.length
        rw [Drive.length_exchange bus (RecordType.size_le_max h) c.drive c.bus ha]
        exact h
      | error e => exact True.intro
    · rwa [hs]
  | store =>
    rcases step_store_cases bus c with ⟨x, bytes, r, -, -, hs⟩ | ⟨x, a, -, -, hs⟩ | ⟨-, hs⟩
    · rw [hs]; exact True.intro
    · rw [hs]; exact True.intro
    · rwa [hs]
  | mark =>
    rcases step_mark_cases bus c with ⟨x, st, -, hs⟩ | ⟨-, hs⟩
    · rw [hs]; exact True.intro
    · rwa [hs]
  | finish =>
    rcases step_finish_cases bus c with ⟨st, -, hs⟩ | ⟨-, hs⟩
    · rw [hs]
      split <;> exact True.intro
    · rwa [hs]
  | write now =>
    rcases step_write_cases bus c now with ⟨-, hs⟩ | ⟨-, hs⟩
    · rw [hs]
      split <;> exact h
    · rwa [hs]

theorem sized_run (c : Shared σ) (moves : List Move) (h : c.phase.Sized) :
    (c.run bus moves).phase.Sized := by
  induction moves generalizing c with
  | nil => exact h
  | cons m moves ih => exact ih _ (sized_step bus c m h)

/-- In every run from between reads, whatever the bus answers, every answer a read holds
decodes: the read half never drops a record it fetched. -/
theorem unpack_of_run (c : Shared σ) (hp : c.phase = .idle) (moves : List Move) {x : Exchange}
    {bytes : List UInt8} (h : (c.run bus moves).phase = .fetched x (.ok bytes)) :
    ∃ r, TxRecord.unpack x.layout bytes = .ok (some r) := by
  have hsized := sized_run bus c moves (by rw [hp]; exact True.intro)
  rw [h] at hsized
  exact TxRecord.unpack_of_sized hsized

end Shared

/-! ## 4. The receive record over every run -/

/-- For every bus: the write half changes the controller as `afterWrite` says and hands the bus
the outgoing bytes, or nothing. Those are the packing of the receive record the controller builds
from the layout, the setpoints, the controlword the engine leaves and the mode: packed into the
zeroed record buffer, whose first bytes, as many as the layout's size, they are; the same bytes
as a buffer of the record's own size takes, field by field as `rxBytes` lays them out. Packing a
record into the record buffer never fails. Without a mode the write half sends nothing and records
`modeOfOperation`, without a receive layout it sends nothing and records `rxRecordType`; two write
halves in a row send the same bytes. Along every run of a new controller, whatever the bus
answers, every fetched record decodes; the mode changes only by loading a configuration or by
staging a command that names a mode where the configuration allows mode changes; the receive
layout only by selecting or negotiating it, never to `na`; the setpoints only by staging a
command. -/
theorem receive_record_contract {σ : Type} (bus : Bus σ) :
    (∀ (now : Nat) (d : Drive) (s : σ), ((Drive.updateWrite bus now).run d).run s =
      (((), d.afterWrite now),
        match d.outgoing now with
        | none => s
        | some bytes => ((bus.sendRecord d.address bytes).run s).2)) ∧
    (∀ (now : Nat) (d : Drive) (bytes : List UInt8), d.outgoing now = some bytes →
      ∃ mode r packed, d.mode = some mode ∧
        RxRecord.new d.rxType d.staged (d.engaged now).controlWord mode = some r ∧
        r.pack (List.replicate maxRecordSize 0) = .ok packed ∧ packed.take r.size = bytes ∧
        r.pack (List.replicate r.size 0) = .ok bytes ∧
        rxBytes d.staged (d.engaged now).controlWord mode d.rxType = some bytes ∧
        d.rxType.size .rx = some bytes.length) ∧
    (∀ (d : Drive) (mode : OperationMode) (r : RxRecord), d.rxRecord mode = some r →
      ∃ packed, r.pack (List.replicate maxRecordSize 0) = .ok packed) ∧
    (∀ (now : Nat) (d : Drive), d.mode = none →
      d.outgoing now = none ∧ d.afterWrite now = d.record .modeOfOperation) ∧
    (∀ (now : Nat) (d : Drive), d.mode.isSome = true → d.rxType = .na →
      d.outgoing now = none ∧ d.afterWrite now = (d.engaged now).record .rxRecordType) ∧
    (∀ (now now' : Nat) (d : Drive), (d.afterWrite now).outgoing now' = d.outgoing now) ∧
    ∀ (name : String) (address : UInt16) (s₀ : σ) (moves : List Move) (m : Move),
      let c := (Shared.start (Drive.new name address) s₀).run bus moves
      let d := c.drive
      let d' := (c.step bus m).drive
      (∀ x bytes, c.phase = .fetched x (.ok bytes) →
        ∃ r, TxRecord.unpack x.layout bytes = .ok (some r)) ∧
      (d'.mode ≠ d.mode →
        (∃ cfg, m.loads = some cfg ∧ d'.mode = cfg.mode) ∨
        ∃ cmd mode, m = .call (.stageCommand cmd) ∧ cmd.mode = some mode ∧
          d.config.allowsModeChange = true ∧ d'.mode = some mode) ∧
      (d'.rxType ≠ d.rxType → m.selectsRx = true ∧ d'.rxType ≠ .na) ∧
      (d'.staged ≠ d.staged → ∃ cmd, m = .call (.stageCommand cmd)) := by
  refine ⟨Drive.updateWrite_eq bus, ?_, ?_, ?_, ?_,
    fun now now' d => Drive.outgoing_afterWrite d now now', ?_⟩
  · intro now d bytes h
    cases hm : d.mode with
    | none => simp [Drive.outgoing, hm] at h
    | some mode =>
      have hb : rxBytes d.staged (d.engaged now).controlWord mode d.rxType = some bytes := by
        simpa [Drive.outgoing, hm] using h
      obtain ⟨r, hr, hbytes⟩ := RxRecord.new_of_rxBytes hb
      obtain ⟨packed, hpack, htake⟩ := r.pack_buffer
      refine ⟨mode, r, packed, rfl, hr, hpack, htake.trans hbytes, ?_, hb, length_rxBytes hb⟩
      rw [r.pack_zeros, hbytes]
  · intro d mode r hr
    obtain ⟨packed, hpack, -⟩ := r.pack_buffer
    exact ⟨packed, hpack⟩
  · intro now d hm
    simp [Drive.outgoing, Drive.afterWrite, hm]
  · intro now d hm hna
    obtain ⟨mode, hmode⟩ := Option.isSome_iff_exists.1 hm
    simp [Drive.outgoing, Drive.afterWrite, hmode, hna, rxBytes]
  · intro name address s₀ moves m c d d'
    have hcal : d.Calibrated :=
      Shared.run_within bus spans_calibrated _ moves (Drive.calibrated_new name address)
    refine ⟨fun x bytes hp => Shared.unpack_of_run bus _ rfl moves hp,
      Shared.step_mode bus c m hcal, Shared.step_rxType bus c m, Shared.step_staged bus c m⟩

/-- A new controller given the position mode and the standard receive layout. -/
def positionDrive : Drive :=
  { Drive.new "servo" 1 with mode := some .synchronousPosition, rxType := .standard }

/-- That controller sends a record of the standard layout's 18 bytes, which packs into the record
buffer; a new controller, with no mode, sends nothing and records `modeOfOperation`, and one with a
mode but no receive layout sends nothing and records `rxRecordType`. -/
theorem positionDrive_sends_standard_record :
    (∃ bytes, positionDrive.outgoing 0 = some bytes ∧
      RecordType.standard.size .rx = some bytes.length) ∧
    (∃ r packed, positionDrive.rxRecord .synchronousPosition = some r ∧
      r.pack (List.replicate maxRecordSize 0) = .ok packed) ∧
    ((Drive.new "servo" 1).outgoing 0 = none ∧
      (Drive.new "servo" 1).afterWrite 0 = (Drive.new "servo" 1).record .modeOfOperation) ∧
    ({ positionDrive with rxType := .na }.outgoing 0 = none ∧
      { positionDrive with rxType := .na }.afterWrite 0 =
        ({ positionDrive with rxType := .na }.engaged 0).record .rxRecordType) := by
  obtain ⟨bytes, hbytes⟩ : ∃ bytes, positionDrive.outgoing 0 = some bytes := ⟨_, rfl⟩
  obtain ⟨r, hr⟩ : ∃ r, positionDrive.rxRecord .synchronousPosition = some r := ⟨_, rfl⟩
  obtain ⟨-, -, -, -, -, -, -, -, -, hsize⟩ :=
    (receive_record_contract Device.bus).2.1 0 positionDrive bytes hbytes
  obtain ⟨packed, hpacked⟩ := (receive_record_contract Device.bus).2.2.1 positionDrive _ r hr
  exact ⟨⟨bytes, hbytes, hsize⟩, ⟨r, packed, hr, hpacked⟩,
    (receive_record_contract Device.bus).2.2.2.1 0 (Drive.new "servo" 1) rfl,
    (receive_record_contract Device.bus).2.2.2.2.1 0 { positionDrive with rxType := .na } rfl rfl⟩

end ServoDrive
