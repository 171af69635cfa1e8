import ServoDrive.Config.Basic
import ServoDrive.Text.Toml

/-!
# Configuration files

A configuration file is a TOML document whose keys are the fields' keys. Reading one happens in
three steps, and the first failure is the answer:

1. the text must be a document whose every top-level key names a field and whose every value has
   the field's type, or the answer is `parse`: a float field also takes an integer, an integer
   field only an integer in its range, and a record type is its name or a table holding only its
   name, mapped to an empty table or an empty array (`{ CST = {} }`, `[rx_pdo_type.CST]`);
2. the required fields are taken in a fixed order, the mode of operation first, and the first
   absent one is `missing`; a mode code that names no mode is `invalid` as soon as the record
   types are known;
3. the configuration must pass `Configuration.validate`.

A rated current of zero means "unknown". The two flags default to false when absent.
-/

namespace ServoDrive

/-- The values a configuration file gives, each possibly absent. -/
structure ConfigFile where
  motorRatedCurrent : Option Float := none
  maxCurrent : Option Float := none
  motorConstant : Option Float := none
  gearRatio : Option Float := none
  encoderResolution : Option UInt32 := none
  rawCommands : Bool := false
  rxType : Option RecordType := none
  txType : Option RecordType := none
  modeCode : Option UInt8 := none
  verifyTimeout : Option Nat := none
  minTimeout : Option Nat := none
  maxTimeout : Option Nat := none
  minReadings : Option UInt32 := none
  multipleModes : Bool := false
  deriving Inhabited

namespace ConfigFile

/-- A float field's value: a float, or an integer taken to the nearest float. -/
def floatOf? : Toml.Value → Option Float
  | .float x => some x
  | .integer i =>
    let m := Float.ofScientific i.natAbs false 0
    some (if i < 0 then -m else m)
  | _ => none

/-- An integer field's value, if it lies in `[0, bound)`. -/
def natBelow? (bound : Nat) : Toml.Value → Option Nat
  | .integer i => if 0 ≤ i ∧ i.toNat < bound then some i.toNat else none
  | _ => none

def boolOf? : Toml.Value → Option Bool
  | .boolean b => some b
  | _ => none

/-- A record type: its name, or a table whose one key is the name and whose value is an empty
array or an empty table. -/
def recordTypeOf? : Toml.Value → Option RecordType
  | .string s => RecordType.ofName? s
  | .table [(s, v)] => if v.isEmptyContainer then RecordType.ofName? s else none
  | _ => none

/-- The file with one more entry, if the key names a field and the value has its type. -/
def add (f : ConfigFile) (key : String) (v : Toml.Value) : Option ConfigFile := do
  match ← ConfigField.ofKey? key with
  | .motorRatedCurrent => return { f with motorRatedCurrent := some (← floatOf? v) }
  | .maxCurrent => return { f with maxCurrent := some (← floatOf? v) }
  | .motorConstant => return { f with motorConstant := some (← floatOf? v) }
  | .gearRatio => return { f with gearRatio := some (← floatOf? v) }
  | .encoderResolution =>
    return { f with encoderResolution := some (← natBelow? (Nat.pow 2 32) v).toUInt32 }
  | .rawCommands => return { f with rawCommands := ← boolOf? v }
  | .rxType => return { f with rxType := some (← recordTypeOf? v) }
  | .txType => return { f with txType := some (← recordTypeOf? v) }
  | .mode => return { f with modeCode := some (← natBelow? (Nat.pow 2 8) v).toUInt8 }
  | .verifyTimeout => return { f with verifyTimeout := some (← natBelow? (Nat.pow 2 64) v) }
  | .minTimeout => return { f with minTimeout := some (← natBelow? (Nat.pow 2 64) v) }
  | .maxTimeout => return { f with maxTimeout := some (← natBelow? (Nat.pow 2 64) v) }
  | .minReadings =>
    return { f with minReadings := some (← natBelow? (Nat.pow 2 32) v).toUInt32 }
  | .multipleModes => return { f with multipleModes := ← boolOf? v }

/-- The file of a text, if it is a TOML document of known keys with well-typed values. -/
def ofText? (text : String) : Option ConfigFile := do
  let entries ← Toml.document? text
  entries.foldlM (fun f (k, v) => f.add k v) {}

end ConfigFile

/-- A value that must be present. -/
def required {α : Type} (field : ConfigField) : Option α → Except ConfigError α
  | some a => .ok a
  | none => .error (.missing field)

namespace Configuration

/-- The configuration a file gives, or the first reason it gives none. -/
def ofFile (f : ConfigFile) : Except ConfigError Configuration := do
  let code ← required .mode f.modeCode
  let maxCurrent ← required .maxCurrent f.maxCurrent
  let motorConstant ← required .motorConstant f.motorConstant
  let gearRatio ← required .gearRatio f.gearRatio
  let encoderResolution ← required .encoderResolution f.encoderResolution
  let rxType ← required .rxType f.rxType
  let txType ← required .txType f.txType
  let mode ← match OperationMode.ofCode? code with
    | some m => pure m
    | none => throw (.invalid .mode .unknownMode)
  let verifyTimeout ← required .verifyTimeout f.verifyTimeout
  let minTimeout ← required .minTimeout f.minTimeout
  let maxTimeout ← required .maxTimeout f.maxTimeout
  let minReadings ← required .minReadings f.minReadings
  let c : Configuration :=
    { motorRatedCurrent := f.motorRatedCurrent.filter (· != 0), maxCurrent, motorConstant,
      gearRatio, encoderResolution, rawCommands := f.rawCommands, rxType, txType,
      mode := some mode, verifyTimeout, minTimeout, maxTimeout, minReadings,
      multipleModes := f.multipleModes }
  c.validate
  pure c

/-- The configuration a TOML text gives, or the first reason it gives none. -/
def ofToml (text : String) : Except ConfigError Configuration :=
  match ConfigFile.ofText? text with
  | some f => ofFile f
  | none => .error .parse

end Configuration

end ServoDrive
