import ServoDrive.Proofs.Device.CyclicChange

/-!
# A state change through the mailbox

Before the bus cycles, a controller brings its drive to a state through the mailbox: it reads the
statusword, finds the table's path from the state it names to the target, and writes the
controlwords of the path's transitions one after another.

Main statements:

* `Drive.setStateViaMailbox_eq`, for every bus. The operation makes one typed read of the
  statusword (one mailbox read, `Bus.readValue`). A failed read answers `false` and changes
  nothing else. A statusword naming no state, or a state with no path to the target, answers
  `false` after recording `mailboxTransition` once, and nothing is written. Otherwise the bus sees
  exactly the writes of `Bus.writeControlWords`: the path's controlwords in order, up to and
  including the first that fails; `mailboxTransition` is recorded once if one failed, and the
  answer is whether none did. A drive already in the target gets no write and the answer is
  `true` (`Drive.setStateViaMailbox_of_reached`).
* `Drive.setStateViaMailbox_device`. Against the model device, when it reports its state, obeys
  controlwords and fails neither the statusword read nor the controlword writes, the operation
  brings it from every stable state to every stable target but `fault` and answers `true`.

The first is `allM_transitionViaMailbox_eq`: the controller's chain of mailbox transitions, which
records an error at a failed write and stops there, is the bus's chain of writes with that one
record. The second follows the path with `Transition.Leads`, one write per transition.
-/

namespace ServoDrive

open Transition

namespace Bus

variable {σ : Type} (bus : Bus σ)

/-- Write the controlwords of transitions through the mailbox one after another, stopping right
after the first write that fails; whether every write succeeded. -/
def writeControlWords (slave : UInt16) : List Transition → StateM σ Bool
  | [] => pure true
  | t :: rest => do
    match ← bus.writeValue slave .controlWord (.u16 t.controlWord.raw) with
    | .ok () => writeControlWords slave rest
    | .error _ => pure false

end Bus

/-- The path from the state a statusword names to a target; none when it names no state or the
table has no path. -/
def StatusWord.pathTo (w : StatusWord) (target : DriveState) : Option (List Transition) :=
  match w.state with
  | .ok current => (Transition.path target current).toOption
  | .error _ => none

/-- A drive already in the target needs no transition. -/
theorem Transition.path_self (T : DriveState) : Transition.path T T = .ok [] := by
  unfold Transition.path Transition.pathWithin
  simp

namespace Drive

variable {σ : Type} (bus : Bus σ)

/-! ## 1. For every bus -/

/-- The controller's chain of mailbox transitions is the bus's chain of controlword writes; the
controller records `mailboxTransition` once if a write failed, and is left alone otherwise. -/
theorem allM_transitionViaMailbox_eq (path : List Transition) (d : Drive) (s : σ) :
    ((path.allM (transitionViaMailbox bus)).run d).run s =
      match (bus.writeControlWords d.address path).run s with
      | (true, s') => ((true, d), s')
      | (false, s') => ((false, d.record .mailboxTransition), s') := by
  induction path generalizing s with
  | nil => rfl
  | cons t rest ih =>
    simp only [List.allM_cons, Bus.writeControlWords, transitionViaMailbox, writeControlWord,
      StateT.run_bind, StateT.run_get, pure_bind, run_liftM]
    -- the first write decides whether the chain goes on
    generalize (bus.writeValue d.address .controlWord (.u16 t.controlWord.raw)).run s = first
    obtain ⟨answer, s₁⟩ := first
    cases answer with
    | ok u => exact ih s₁
    | error e => rfl

/-- One mailbox read of the statusword, then nothing, one record, or the path's writes with at
most one record. -/
theorem setStateViaMailbox_eq (target : DriveState) (d : Drive) (s : σ) :
    ((setStateViaMailbox bus target).run d).run s =
      match (bus.readValue d.address .statusWord).run s with
      | (.error _, s₁) => ((false, d), s₁)
      | (.ok v, s₁) =>
        match (⟨v.pattern.toUInt16⟩ : StatusWord).pathTo target with
        | none => ((false, d.record .mailboxTransition), s₁)
        | some path =>
          match (bus.writeControlWords d.address path).run s₁ with
          | (true, s₂) => ((true, d), s₂)
          | (false, s₂) => ((false, d.record .mailboxTransition), s₂) := by
  unfold setStateViaMailbox readStatusWord
  simp only [StateT.run_bind, StateT.run_get, pure_bind, run_liftM, StateT.run_pure]
  generalize (bus.readValue d.address .statusWord).run s = read
  obtain ⟨answer, s₁⟩ := read
  cases answer with
  | error e => rfl
  | ok v =>
    dsimp only [bind, Except.map, Id.run, pure, StateT.pure, StatusWord.pathTo]
    -- the decoded state, then the table's path from it
    cases (⟨v.pattern.toUInt16⟩ : StatusWord).state with
    | error e => rfl
    | ok current =>
      dsimp only
      cases Transition.path target current with
      | error e => rfl
      | ok path => exact allM_transitionViaMailbox_eq bus path d s₁

/-- A drive the statusword finds already in the target gets no write, and the answer is `true`. -/
theorem setStateViaMailbox_of_reached {target : DriveState} {d : Drive} {s s₁ : σ} {v : Scalar}
    (hread : (bus.readValue d.address .statusWord).run s = (.ok v, s₁))
    (hstate : (⟨v.pattern.toUInt16⟩ : StatusWord).state = .ok target) :
    ((setStateViaMailbox bus target).run d).run s = ((true, d), s₁) := by
  rw [setStateViaMailbox_eq, hread]
  simp only [StatusWord.pathTo, hstate, Transition.path_self, Except.toOption]
  rfl

end Drive

/-! ## 2. Against the model device -/

namespace Device

/-- A controlword written through the mailbox is the word of its first two bytes. -/
theorem word?_bytes (w : UInt16) : word? (Scalar.u16 w).bytes = some w := by
  have hw := w.toNat_lt
  have hlow : w.toNat % 256 < 2 ^ 8 := by omega
  have hhigh : ((w.toNat / 256 % 256) <<< 8) % 65536 = (w.toNat / 256) <<< 8 := by
    rw [Nat.mod_eq_of_lt (by omega : w.toNat / 256 < 256)]
    exact Nat.mod_eq_of_lt (by rw [Nat.shiftLeft_eq]; omega)
  -- the low byte and the high byte shifted into place do not overlap, so their union is a sum
  have hjoin : w.toNat % 256 ||| ((w.toNat / 256 % 256) <<< 8) % 65536 = w.toNat := by
    rw [hhigh, Nat.or_comm, ← Nat.shiftLeft_add_eq_or_of_lt hlow, Nat.shiftLeft_eq]
    omega
  simp only [Scalar.bytes, Scalar.kind, ScalarKind.width, Scalar.pattern, leBytes, word?,
    Option.some.injEq]
  apply UInt16.toNat_inj.1
  simpa using hjoin

/-- The device answers a read of the statusword with the statusword it reports, and only logs. -/
theorem readValue_statusWord {dev : Device} (h : statusWordKey ∉ dev.failingReads) (a : UInt16) :
    (bus.readValue a .statusWord).run dev =
      (.ok (.u16 dev.statusWord),
        dev.logged (.readObject statusWordKey (.ok (leBytes 2 dev.statusWord.toNat)))) := by
  have hkey : ((0x6041, 0) : ObjectKey) ∉ dev.failingReads := h
  have hlen : (leBytes 2 dev.statusWord.toNat).length = 2 := length_leBytes 2 _
  -- the two bytes answered read back as the statusword
  have hword : UInt16.ofNat (ofLeBytes (leBytes 2 dev.statusWord.toNat)) = dev.statusWord := by
    rw [ofLeBytes_leBytes]
    simp
  have hmapError : ∀ {ε ε' α : Type} (f : ε → ε') (a : α), Except.mapError f (.ok a) = .ok a :=
    fun _ _ => rfl
  simp [Bus.readValue, bus, answerRead, MailboxObject.statusWord, MailboxObject.size, hkey,
    statusWordKey, ScalarKind.width, ScalarKind.unpack, ScalarKind.ofPattern, Except.map,
    hmapError, Except.bind, hlen, List.take_of_length_le, hword]
  rfl

/-- A device that obeys takes a controlword written through the mailbox: its state follows the
controlword, and it still obeys and still takes controlword writes. -/
theorem writeValue_controlWord {dev : Device} (h : controlWordKey ∉ dev.failingWrites)
    (hobey : dev.frozen = false) (a w : UInt16) :
    ∃ dev', (bus.writeValue a .controlWord (.u16 w)).run dev = (.ok (), dev') ∧
      dev'.state = dev.state.map (applyControlWord · w) ∧ dev'.frozen = false ∧
      controlWordKey ∉ dev'.failingWrites := by
  have hkey : ((0x6040, 0) : ObjectKey) ∉ dev.failingWrites := h
  simp [Bus.writeValue, bus, answerWrite, MailboxObject.controlWord, hkey, controlWordKey,
    word?_bytes, receiveControlWord, hobey, logged]
  exact ⟨_, rfl, rfl, rfl, hkey⟩

/-- Written to a device that obeys, the controlwords of a path the table leads along bring it to
the path's target, every write succeeding. -/
theorem writeControlWords_leads {T c : DriveState} {path : List Transition} (hpath : Leads T c path)
    {dev : Device} (hc : dev.state = some c) (hobey : dev.frozen = false)
    (hwrite : controlWordKey ∉ dev.failingWrites) (a : UInt16) :
    ∃ dev', (bus.writeControlWords a path).run dev = (true, dev') ∧ dev'.state = some T := by
  induction path generalizing c dev with
  | nil => exact ⟨dev, rfl, hc.trans (congrArg some hpath)⟩
  | cons tr rest ih =>
    obtain ⟨-, hnext, hrest⟩ := hpath
    obtain ⟨dev₁, hw, hs₁, hobey₁, hwrite₁⟩ := writeValue_controlWord hwrite hobey a tr.controlWord.raw
    -- the first write takes the device to the first transition's destination
    have hc₁ : dev₁.state = some tr.destination := by
      rw [hs₁, hc]
      exact congrArg some (applyControlWord_of_next hnext)
    obtain ⟨dev', hrun, hT⟩ := ih hrest hc₁ hobey₁ hwrite₁
    refine ⟨dev', ?_, hT⟩
    simp only [Bus.writeControlWords, StateT.run_bind, hw]
    exact hrun

end Device

/-- Against the model device, when it reports its state, obeys controlwords and fails neither the
statusword read nor the controlword writes, a state change through the mailbox brings it from a
stable state to any stable target but `fault`, answers `true` and records nothing. -/
theorem Drive.setStateViaMailbox_device {dev : Device} {s t : DriveState} (hs : dev.state = some s)
    (hstable : s.isStable = true) (ht : t.isStable = true) (htf : t ≠ .fault)
    (hreport : dev.statusOverride = none) (hobey : dev.frozen = false)
    (hread : statusWordKey ∉ dev.failingReads) (hwrite : controlWordKey ∉ dev.failingWrites)
    (d : Drive) :
    ∃ dev', ((setStateViaMailbox Device.bus t).run d).run dev = ((true, d), dev') ∧
      dev'.state = some t := by
  obtain ⟨path, hpath⟩ := path_ok_of_stable hstable ht htf
  -- the statusword read names the device's state, from which the table's path leads to `t`
  have hreported : dev.statusWord = s.statusWord.raw ||| 0x200 := by
    simp [Device.statusWord, hreport, hs]
  have hpathTo : (⟨(Scalar.u16 dev.statusWord).pattern.toUInt16⟩ : StatusWord).pathTo t =
      some path := by
    simp [StatusWord.pathTo, Scalar.pattern, hreported, hpath, Except.toOption]
  -- the read only logs, so the logged device takes the writes
  obtain ⟨dev', hrun, hT⟩ :=
    @Device.writeControlWords_leads t s path (leads_pathWithin hpath)
      (dev.logged (.readObject statusWordKey (.ok (leBytes 2 dev.statusWord.toNat))))
      hs hobey hwrite d.address
  refine ⟨dev', ?_, hT⟩
  rw [setStateViaMailbox_eq, Device.readValue_statusWord hread]
  simp only [hpathTo, hrun]

/-- From fault to operation enabled the path writes a fault reset, then shutdown, switch on and
enable operation. -/
example : ((Transition.path .operationEnabled .fault).toOption.map (·.map (·.controlWord.raw))) =
    some [0x80, 0x06, 0x07, 0x0f] := by
  decide

/-- For every bus, a state change through the mailbox makes one read of the statusword; a failed
read answers `false` and records and writes nothing; a statusword naming no state, or no path to
the target, answers `false`, records `mailboxTransition` once and writes nothing; otherwise the
bus sees the path's controlwords written in order up to and including the first that fails,
`mailboxTransition` is recorded once exactly when one failed, and the answer is whether none did,
`true` with no write for a drive already in the target. Against the model device that reports its
state, obeys and fails neither the read nor the writes, the change brings it from every stable
state to every stable target but `fault`. -/
theorem mailbox_state_change :
    (∀ {σ : Type} (bus : Bus σ) (target : DriveState) (d : Drive) (s : σ),
      ((Drive.setStateViaMailbox bus target).run d).run s =
        match (bus.readValue d.address .statusWord).run s with
        | (.error _, s₁) => ((false, d), s₁)
        | (.ok v, s₁) =>
          match (⟨v.pattern.toUInt16⟩ : StatusWord).pathTo target with
          | none => ((false, d.record .mailboxTransition), s₁)
          | some path =>
            match (bus.writeControlWords d.address path).run s₁ with
            | (true, s₂) => ((true, d), s₂)
            | (false, s₂) => ((false, d.record .mailboxTransition), s₂)) ∧
    (∀ {σ : Type} (bus : Bus σ) (target : DriveState) (d : Drive) (s s₁ : σ) (v : Scalar),
      (bus.readValue d.address .statusWord).run s = (.ok v, s₁) →
      (⟨v.pattern.toUInt16⟩ : StatusWord).state = .ok target →
      ((Drive.setStateViaMailbox bus target).run d).run s = ((true, d), s₁)) ∧
    ∀ (dev : Device) (s t : DriveState) (d : Drive), dev.state = some s → s.isStable = true →
      t.isStable = true → t ≠ .fault → dev.statusOverride = none → dev.frozen = false →
      statusWordKey ∉ dev.failingReads → controlWordKey ∉ dev.failingWrites →
      ∃ dev', ((Drive.setStateViaMailbox Device.bus t).run d).run dev = ((true, d), dev') ∧
        dev'.state = some t :=
  ⟨fun bus target d s => Drive.setStateViaMailbox_eq bus target d s,
    fun bus _ _ _ _ _ hread hstate => Drive.setStateViaMailbox_of_reached bus hread hstate,
    fun _ _ _ d hs hstable ht htf hreport hobey hread hwrite =>
      Drive.setStateViaMailbox_device hs hstable ht htf hreport hobey hread hwrite d⟩

/-- The model device as it starts, switch-on disabled, is brought through the mailbox to operation
enabled; asked for the state it is in, the change reads the statusword and succeeds. -/
theorem newDevice_mailbox_changes :
    (∃ dev', ((Drive.setStateViaMailbox Device.bus .operationEnabled).run
        (Drive.new "servo" 1)).run {} = ((true, Drive.new "servo" 1), dev') ∧
      dev'.state = some .operationEnabled) ∧
    ∃ v dev₁, (Device.bus.readValue 1 .statusWord).run {} = (.ok v, dev₁) ∧
      ((Drive.setStateViaMailbox Device.bus .switchOnDisabled).run (Drive.new "servo" 1)).run {} =
        ((true, Drive.new "servo" 1), dev₁) :=
  ⟨mailbox_state_change.2.2 {} .switchOnDisabled .operationEnabled _ rfl rfl rfl (by decide)
      rfl rfl (by decide) (by decide),
    _, _, rfl, mailbox_state_change.2.1 Device.bus .switchOnDisabled _ {} _ _ rfl rfl⟩

end ServoDrive
