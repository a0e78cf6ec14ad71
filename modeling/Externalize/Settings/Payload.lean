import Externalize.Json.Basic
import Externalize.Settings.Basic

/-!
# `Externalize.Settings.Payload`: settings from a JSON object

A payload is an object with eight fields at most: three that are true or false, three paths and two
texts. A path or a text may be null, which is the same as leaving it out, and otherwise must not be
blank. A file or a folder has to be given. `Settings.ofPayload` checks that and gives the settings.
-/

set_option autoImplicit false

namespace Externalize

/-- Why `Settings.ofPayload` refuses a payload. -/
inductive PayloadFault
  | notObject
  | unknownFields (names : List Text)
  /-- Neither a file nor a folder is given. -/
  | noInput
  | notBoolean (field : String)
  | notText (field : String)
  deriving Repr, DecidableEq

/-- The text that is told of a refusal. -/
def PayloadFault.message : PayloadFault → String
  | .notObject => "payload must be a JSON object"
  | .unknownFields names =>
    let listed := ", ".intercalate (names.map String.ofList)
    s!"unknown fields: {listed}"
  | .noInput => "missing input_file or scan_dir"
  | .notBoolean field => s!"{field} must be a boolean"
  | .notText field => s!"{field} must be a non empty string"

namespace Payload

/-- The fields that are true or false. -/
def booleanFields : List String := ["use_accessor_class", "backup_original", "recursive"]

/-- The fields that are paths or texts. -/
def textFields : List String := ["input_file", "scan_dir", "xml_file", "prefix", "suffix"]

/-- The value of a field. -/
def get? (fields : List (Text × Json)) (name : String) : Option Json :=
  fields.lookup name.toList

/-- The names that are neither `booleanFields` nor `textFields`, in order. -/
def unknown (fields : List (Text × Json)) : List Text :=
  ((fields.map (·.1)).filter fun name =>
    !(booleanFields ++ textFields).any fun known => known.toList == name).mergeSort
      fun a b => !Text.precedes b a

/-- The field `name` that is true or false, if it is given. -/
def boolean (fields : List (Text × Json)) (name : String) : Except PayloadFault (Option Bool) :=
  match get? fields name with
  | none => .ok none
  | some (.bool b) => .ok (some b)
  | some _ => .error (.notBoolean name)

/-- The field `name` that is a text, if it is given. -/
def text (fields : List (Text × Json)) (name : String) : Except PayloadFault (Option Points) :=
  match get? fields name with
  | none | some .null => .ok none
  | some (.string t) => if t.isAllBlank then .error (.notText name) else .ok (some t)
  | some _ => .error (.notText name)

/-- Whether the field `name` is given and is not `isVoid`. -/
def isGiven (fields : List (Text × Json)) (name : String) : Bool :=
  match get? fields name with
  | none => false
  | some value => !value.isVoid

/-- The settings of the fields, after the checks: no `unknown` field, a file or a folder, each of the
`booleanFields` and each of the `textFields`. A path is a text, and halves of pairs in it are shown as
`Point.replacement`; what octets a disk would take for them is left out. -/
def settingsOf (fields : List (Text × Json)) : Except PayloadFault Settings := do
  let strangers := unknown fields
  if !strangers.isEmpty then throw (.unknownFields strangers)
  if !(isGiven fields "input_file" || isGiven fields "scan_dir") then throw .noInput
  let accessor ← boolean fields "use_accessor_class"
  let backup ← boolean fields "backup_original"
  let recursive ← boolean fields "recursive"
  let file ← text fields "input_file"
  let folder ← text fields "scan_dir"
  let target ← text fields "xml_file"
  let stem ← text fields "prefix"
  let ending ← text fields "suffix"
  let path (points : Points) : Path := Path.ofText points.shown
  let settings : Settings :=
    { file := file.map path
      folder := folder.map path
      options :=
        { target := target.map path, accessor := accessor.getD false, stem, ending
          backup := backup.getD false }
      recursive := recursive.getD (folder.isSome && file.isNone) }
  return settings.settle none

end Payload

/-- The settings of a payload, which must be an object. -/
def Settings.ofPayload : Json → Except PayloadFault Settings
  | .object fields => Payload.settingsOf fields
  | _ => .error .notObject

end Externalize
