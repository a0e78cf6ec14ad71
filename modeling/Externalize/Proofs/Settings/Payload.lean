import Externalize.Settings.Payload

/-!
# `Externalize.Proofs.Settings.Payload`: which payloads are accepted, and what they say

A payload passes five checks, some of which overlap: whether a file or a folder is given is asked first
of any value that is not void, and only later is it found out whether the value is a text. The form of
an accepted payload can be told without the order of the checks (`Payload.WellFormed`), and so can the
settings that it describes (`Payload.Describes`).

* `boolean_eq_ok_iff`, `text_eq_ok_iff`: what one field has to be, and what it then gives.
* `isGiven_eq`: on a field that is a text, being void is being left out.
* `settingsOf_eq_ok_iff`: all checks together.
* `Settings.ofPayload_eq_ok_iff`: the accepted payloads are the objects of that form, and their settings
  are those that they describe.
-/

set_option autoImplicit false

namespace Externalize

namespace Payload

variable {fields : List (Text × Json)} {name : String}

/-! ### The form of a payload -/

/-- The field `name` is left out, or it is true or false. -/
def IsFlag (fields : List (Text × Json)) (name : String) : Prop :=
  ∀ value, get? fields name = some value → ∃ b, value = .bool b

/-- The field `name` is left out or null, or it is a text that is not blank. -/
def IsText (fields : List (Text × Json)) (name : String) : Prop :=
  ∀ value, get? fields name = some value →
    value = .null ∨ ∃ t, value = .string t ∧ t.isAllBlank = false

/-- The text in the field `name`, if there is one. -/
def given? (fields : List (Text × Json)) (name : String) : Option Points :=
  match get? fields name with
  | some (.string t) => some t
  | _ => none

/-- The form of the fields of a payload that `settingsOf` accepts. -/
structure WellFormed (fields : List (Text × Json)) : Prop where
  known : ∀ field ∈ fields, ∃ name ∈ booleanFields ++ textFields, field.1 = name.toList
  flags : ∀ name ∈ booleanFields, IsFlag fields name
  texts : ∀ name ∈ textFields, IsText fields name
  input : ∃ name ∈ ["input_file", "scan_dir"], (given? fields name).isSome = true

/-- The `settings` say what the fields say. Nothing is said by a field that is left out or null. A
folder is searched if that is asked for, or if nothing is said about it and there is no file. -/
structure Describes (fields : List (Text × Json)) (settings : Settings) : Prop where
  file : settings.file = (given? fields "input_file").map fun t => Path.ofText t.shown
  folder : settings.folder = (given? fields "scan_dir").map fun t => Path.ofText t.shown
  target : settings.options.target = (given? fields "xml_file").map fun t => Path.ofText t.shown
  stem : settings.options.stem = given? fields "prefix"
  ending : settings.options.ending = given? fields "suffix"
  accessor : settings.options.accessor = true ↔
    get? fields "use_accessor_class" = some (.bool true)
  backup : settings.options.backup = true ↔ get? fields "backup_original" = some (.bool true)
  recursive : settings.recursive = true ↔ (given? fields "scan_dir").isSome = true ∧
    (get? fields "recursive" = some (.bool true) ∨
      get? fields "recursive" = none ∧ given? fields "input_file" = none)

/-! ### One field -/

/-- What the field `name` says that is true or false, if anything. -/
def flag? (fields : List (Text × Json)) (name : String) : Option Bool :=
  match get? fields name with
  | some (.bool b) => some b
  | _ => none

theorem flag?_eq_some_iff {b : Bool} :
    flag? fields name = some b ↔ get? fields name = some (.bool b) := by
  unfold flag?
  split
  · rename_i b' hget
    simp [hget]
  · rename_i hother
    constructor
    · intro h
      cases h
    · intro hget
      exact absurd hget (hother b)

/-- `flag?` of a field with `IsFlag` is `none` only if the field is left out. -/
theorem flag?_eq_none_iff (h : IsFlag fields name) :
    flag? fields name = none ↔ get? fields name = none := by
  unfold flag?
  cases hget : get? fields name with
  | none => simp
  | some value =>
    obtain ⟨b, rfl⟩ := h value hget
    simp

theorem boolean_eq_ok_iff {flag : Option Bool} :
    boolean fields name = .ok flag ↔ IsFlag fields name ∧ flag? fields name = flag := by
  unfold boolean IsFlag flag?
  cases get? fields name with
  | none => simp
  | some value => cases value <;> simp

theorem text_eq_ok_iff {given : Option Points} :
    text fields name = .ok given ↔ IsText fields name ∧ given? fields name = given := by
  unfold text IsText given?
  cases get? fields name with
  | none => simp
  | some value =>
    cases value with
    | string t => cases hblank : t.isAllBlank <;> simp [hblank]
    | _ => simp

/-- `isGiven` holds of a field with `IsText` exactly if `given?` is some text: a text that is not blank
is not void. -/
theorem isGiven_eq (h : IsText fields name) :
    isGiven fields name = (given? fields name).isSome := by
  unfold isGiven given?
  cases hget : get? fields name with
  | none => rfl
  | some value =>
    obtain rfl | ⟨t, rfl, hblank⟩ := h value hget
    · rfl
    · cases t with
      | nil => cases hblank
      | cons point rest => rfl

/-! ### All fields -/

/-- `unknown` is empty exactly if each field has one of the eight names. -/
theorem unknown_isEmpty_iff :
    (unknown fields).isEmpty = true ↔
      ∀ field ∈ fields, ∃ name ∈ booleanFields ++ textFields, field.1 = name.toList := by
  have hlength : (unknown fields).isEmpty = true ↔
      ((fields.map (·.1)).filter fun name =>
        !(booleanFields ++ textFields).any fun known => known.toList == name) = [] := by
    rw [List.isEmpty_iff_length_eq_zero, unknown, List.length_mergeSort, List.length_eq_zero_iff]
  rw [hlength, List.filter_eq_nil_iff, List.forall_mem_map]
  refine forall₂_congr fun field _ => ?_
  rw [Bool.not_eq_true', Bool.not_eq_false, List.any_eq_true]
  refine exists_congr fun name => and_congr_right fun _ => ?_
  rw [beq_iff_eq]
  exact eq_comm

/-- The settings that `settingsOf` gives if its checks are passed. -/
def described (fields : List (Text × Json)) : Settings :=
  let path (points : Points) : Path := Path.ofText points.shown
  let file := given? fields "input_file"
  let folder := given? fields "scan_dir"
  let settings : Settings :=
    { file := file.map path
      folder := folder.map path
      options :=
        { target := (given? fields "xml_file").map path
          accessor := (flag? fields "use_accessor_class").getD false
          stem := given? fields "prefix"
          ending := given? fields "suffix"
          backup := (flag? fields "backup_original").getD false }
      recursive := (flag? fields "recursive").getD (folder.isSome && file.isNone) }
  settings.settle none

section
variable {α β : Type}

theorem bind_eq_ok_iff {first : Except PayloadFault α} {next : α → Except PayloadFault β} {b : β} :
    first >>= next = .ok b ↔ ∃ a, first = .ok a ∧ next a = .ok b := by
  cases first with
  | error fault => simp [bind, Except.bind]
  | ok a => simp [bind, Except.bind]

theorem throw_eq_ok_iff {fault : PayloadFault} {a : α} :
    (throw fault : Except PayloadFault α) = .ok a ↔ False := by
  simp [throw, throwThe, MonadExceptOf.throw]

theorem pure_eq_ok_iff {a b : α} : (pure a : Except PayloadFault α) = .ok b ↔ a = b := by
  simp [pure, Except.pure]

end

/-- The checks of `settingsOf`, one after the other. -/
theorem settingsOf_eq_ok_iff_checks {settings : Settings} :
    settingsOf fields = .ok settings ↔
      (unknown fields).isEmpty = true ∧
      (isGiven fields "input_file" || isGiven fields "scan_dir") = true ∧
      (∀ name ∈ booleanFields, IsFlag fields name) ∧ (∀ name ∈ textFields, IsText fields name) ∧
      described fields = settings := by
  unfold settingsOf
  cases hknown : (unknown fields).isEmpty with
  | false =>
    simp only [hknown, Bool.not_false, if_true, bind_eq_ok_iff, throw_eq_ok_iff, false_and,
      exists_false, Bool.false_eq_true]
  | true =>
    cases isGiven fields "input_file" || isGiven fields "scan_dir" with
    | false =>
      simp only [hknown, Bool.not_true, Bool.not_false, if_true, if_false, bind_eq_ok_iff,
        throw_eq_ok_iff, false_and, and_false, exists_false, Bool.false_eq_true]
    | true =>
      -- What is left are the eight fields in turn, and each gives its value or ends the reading.
      simp only [hknown, Bool.not_true, Bool.false_eq_true, if_false, bind_eq_ok_iff,
        boolean_eq_ok_iff, text_eq_ok_iff, pure_eq_ok_iff, and_assoc, exists_and_left,
        exists_eq_left', true_and]
      simp [booleanFields, textFields, described, and_assoc]

/-- `settingsOf` gives the settings that are `described`, exactly for fields that are `WellFormed`. -/
theorem settingsOf_eq_ok_iff {settings : Settings} :
    settingsOf fields = .ok settings ↔ WellFormed fields ∧ described fields = settings := by
  have hgiven (htexts : ∀ name ∈ textFields, IsText fields name) :
      (isGiven fields "input_file" || isGiven fields "scan_dir") = true ↔
        ∃ name ∈ ["input_file", "scan_dir"], (given? fields name).isSome = true := by
    rw [isGiven_eq (htexts "input_file" (by decide)), isGiven_eq (htexts "scan_dir" (by decide)),
      Bool.or_eq_true]
    simp
  rw [settingsOf_eq_ok_iff_checks, unknown_isEmpty_iff]
  constructor
  · rintro ⟨hknown, hinput, hflags, htexts, hsettings⟩
    exact ⟨⟨hknown, hflags, htexts, (hgiven htexts).mp hinput⟩, hsettings⟩
  · rintro ⟨⟨hknown, hflags, htexts, hinput⟩, hsettings⟩
    exact ⟨hknown, (hgiven htexts).mpr hinput, hflags, htexts, hsettings⟩

/-! ### The settings -/

/-- `flag?` is true exactly if the field is `true`. -/
theorem getD_flag?_iff : (flag? fields name).getD false = true ↔
    get? fields name = some (.bool true) := by
  rw [← flag?_eq_some_iff]
  cases flag? fields name <;> simp

/-- `settle` without an answer: a folder that is given is searched as the settings say. -/
theorem settle_none (settings : Settings) :
    settings.settle none
      = { settings with recursive := settings.folder.isSome && settings.recursive } := by
  simp [Settings.settle]

theorem describes_described (h : WellFormed fields) : Describes fields (described fields) := by
  have hflag : IsFlag fields "recursive" := h.flags "recursive" (by decide)
  refine ⟨rfl, rfl, rfl, rfl, rfl, getD_flag?_iff, getD_flag?_iff, ?_⟩
  rw [← flag?_eq_some_iff, ← flag?_eq_none_iff hflag, described, settle_none]
  cases flag? fields "recursive" <;> simp

/-- `Describes` determines the settings. -/
theorem Describes.unique {settings other : Settings} (h : Describes fields settings)
    (h' : Describes fields other) : settings = other := by
  have hfile := h.file.trans h'.file.symm
  have hfolder := h.folder.trans h'.folder.symm
  have htarget := h.target.trans h'.target.symm
  have hstem := h.stem.trans h'.stem.symm
  have hending := h.ending.trans h'.ending.symm
  have haccessor := Bool.eq_iff_iff.mpr (h.accessor.trans h'.accessor.symm)
  have hbackup := Bool.eq_iff_iff.mpr (h.backup.trans h'.backup.symm)
  have hrecursive := Bool.eq_iff_iff.mpr (h.recursive.trans h'.recursive.symm)
  obtain ⟨file, folder, ⟨target, accessor, stem, ending, backup⟩, recursive⟩ := settings
  obtain ⟨file', folder', ⟨target', accessor', stem', ending', backup'⟩, recursive'⟩ := other
  simp only at hfile hfolder htarget hstem hending haccessor hbackup hrecursive
  subst hfile hfolder htarget hstem hending haccessor hbackup hrecursive
  rfl

end Payload

/-- **`Settings.ofPayload` takes payloads by their form.** It gives settings exactly if the payload is an
object with `Payload.WellFormed` fields, and they are the ones that the fields describe
(`Payload.Describes`). -/
theorem Settings.ofPayload_eq_ok_iff (payload : Json) :
    ((∃ settings, Settings.ofPayload payload = .ok settings) ↔
      ∃ fields, payload = .object fields ∧ Payload.WellFormed fields) ∧
    ∀ settings, Settings.ofPayload payload = .ok settings ↔
      ∃ fields, payload = .object fields ∧ Payload.WellFormed fields ∧
        Payload.Describes fields settings := by
  -- The second part says more than the first, and gives it.
  have hsettings (settings : Settings) : Settings.ofPayload payload = .ok settings ↔
      ∃ fields, payload = .object fields ∧ Payload.WellFormed fields ∧
        Payload.Describes fields settings := by
    constructor
    · intro h
      cases payload with
      | object fields =>
        obtain ⟨hform, rfl⟩ := Payload.settingsOf_eq_ok_iff.mp h
        exact ⟨fields, rfl, hform, Payload.describes_described hform⟩
      | _ => cases h
    · rintro ⟨fields, rfl, hform, hdescribes⟩
      have heq := (Payload.describes_described hform).unique hdescribes
      exact Payload.settingsOf_eq_ok_iff.mpr ⟨hform, heq⟩
  refine ⟨⟨?_, ?_⟩, hsettings⟩
  · rintro ⟨settings, h⟩
    obtain ⟨fields, hobject, hform, -⟩ := (hsettings settings).mp h
    exact ⟨fields, hobject, hform⟩
  · rintro ⟨fields, hobject, hform⟩
    exact ⟨_, (hsettings _).mpr ⟨fields, hobject, hform, Payload.describes_described hform⟩⟩

end Externalize
