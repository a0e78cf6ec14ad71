import Externalize.Text.Basic

/-!
# `Externalize.Path`: paths of files

A path is an anchor and the names below it. Reading a path drops empty names and single dots, so that
two spellings of one path are one value; double dots are kept, because what they mean is for the disk
to say. `Path.text` writes a path in its one normal spelling.
-/

set_option autoImplicit false

namespace Externalize

/-- Where a path starts. -/
inductive Anchor
  /-- At the working folder. -/
  | relative
  /-- At the top folder. -/
  | top
  /-- At the top folder, written with two slashes, which are kept. -/
  | doubleTop
  deriving Repr, DecidableEq

/-- The spelling of an anchor. -/
def Anchor.text : Anchor → Text
  | .relative => []
  | .top => ['/']
  | .doubleTop => ['/', '/']

/-- A path: its anchor, and the names from there on. -/
structure Path where
  anchor : Anchor := .relative
  names : List Text
  deriving Repr, DecidableEq

namespace Path

/-- The anchor that the slashes before the first name give. -/
def anchorOf : Text → Anchor
  | '/' :: '/' :: '/' :: _ => .top
  | '/' :: '/' :: _ => .doubleTop
  | '/' :: _ => .top
  | _ => .relative

/-- The names between the slashes; empty names and single dots count for nothing. -/
def namesOf (text : Text) : List Text :=
  (text.splitOn '/').filter fun name => !(name.isEmpty || name == ['.'])

/-- The path that a text spells, by `anchorOf` and `namesOf`. -/
def ofText (text : Text) : Path :=
  { anchor := anchorOf text, names := namesOf text }

/-- The spelling of a path. -/
def text (path : Path) : Text :=
  if path.anchor = .relative ∧ path.names = [] then ['.']
  else path.anchor.text ++ List.intercalate ['/'] path.names

instance : ToString Path :=
  ⟨fun path => String.ofList path.text⟩

/-- The last name, which is empty if the path has none. -/
def name (path : Path) : Text :=
  path.names.getLast?.getD []

/-- The path without its last name; an anchor lies in itself. -/
def parent (path : Path) : Path :=
  { path with names := path.names.dropLast }

/-- The path of `name` in the folder `path`. -/
def child (path : Path) (name : Text) : Path :=
  { path with names := path.names ++ [name] }

/-- The path with `more` behind its `name`, if it has one. -/
def extend? (path : Path) (more : Text) : Option Path :=
  if path.name.isEmpty then none else some (path.parent.child (path.name ++ more))

/-- The `name` from its last dot on, provided that something stands on both sides of that dot. -/
def extension (path : Path) : Text :=
  let after := path.name.reverse.takeWhile (· != '.')
  let stem := (path.name.reverse.drop after.length).drop 1
  if after.isEmpty || stem.isEmpty then [] else '.' :: after.reverse

/-- The names with every double dot resolved by dropping the name before it, as far as there is
one. -/
def collapse (names : List Text) : List Text :=
  names.foldl (fun done name => if name == ['.', '.'] then done.dropLast else done ++ [name]) []

end Path

end Externalize
