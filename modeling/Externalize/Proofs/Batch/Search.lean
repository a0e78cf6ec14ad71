import Externalize.Proofs.Batch.Run
import Externalize.Proofs.Text.Caseless

/-!
# `Externalize.Proofs.Batch.Search`: a search finds just the sources below its folder

The name of a source file is told by its parts (`HasSourceName`): something, and behind it one of two
extensions, each letter of it in either case. `isSourceName_iff` says that the search goes by these
names.

A path is overlong by its octets alone (`Path.Overlong`). The path of what stands below a folder of a tree
leads there exactly if it is not overlong (`locate_tooLong_iff`), so what a search can look at is told
without following any path.

`findFiles_complete` puts these together with the walk: on a tree a search gives all sources, each once, in
the order of their names; unless something below the folder has an overlong path, at the first of which it
breaks off.
-/

set_option autoImplicit false

namespace Externalize

/-! ### The names of source files -/

/-- The character `c` is the `letter`, which is given in lower case, or its capital. -/
def InEitherCase (letter c : Char) : Prop :=
  c = letter ∨ c = letter.toUpper

/-- The extensions of source files, in lower case. -/
def sourceExtensions : List Text :=
  [".java".toList, ".xml".toList]

/-- The name has something before one of the `sourceExtensions`, in any letter case. -/
def HasSourceName (name : Text) : Prop :=
  ∃ stem extension, name = stem ++ extension ∧ stem ≠ [] ∧
    ∃ known ∈ sourceExtensions, List.Forall₂ InEitherCase known extension

theorem map_toLower_eq_iff {word : Text} (h : word.any Char.isUpper = false) (text : Text) :
    text.map Char.toLower = word ↔ List.Forall₂ InEitherCase word text := by
  induction word generalizing text with
  | nil => simp
  | cons letter word ih =>
    rw [List.any_cons, Bool.or_eq_false_iff] at h
    cases text with
    | nil => simp
    | cons c text =>
      rw [List.map_cons, List.cons.injEq, List.forall₂_cons, ih h.2, toLower_eq_iff h.1]
      rfl

/-- Each of the `sourceExtensions` is a dot and small letters. -/
theorem letters_of_known {known : Text} (h : known ∈ sourceExtensions) :
    known.any Char.isUpper = false ∧
      ∃ letters, known = '.' :: letters ∧ letters ≠ [] ∧ '.' ∉ letters := by
  simp only [sourceExtensions, List.mem_cons, List.not_mem_nil, or_false] at h
  rcases h with rfl | rfl
  · exact ⟨by decide, "java".toList, by decide, by decide, by decide⟩
  · exact ⟨by decide, "xml".toList, by decide, by decide, by decide⟩

/-- A spelling of one of the `sourceExtensions` has a dot in front and no other. -/
theorem exists_of_inEitherCase {known extension : Text} (hknown : known ∈ sourceExtensions)
    (h : List.Forall₂ InEitherCase known extension) :
    ∃ after, extension = '.' :: after ∧ after ≠ [] ∧ '.' ∉ after := by
  obtain ⟨hlower, letters, rfl, hne, hdot⟩ := letters_of_known hknown
  cases h with
  | @cons _ c _ after hc hafter =>
    have hc' : c = '.' := hc.elim id id
    rw [List.any_cons, Bool.or_eq_false_iff] at hlower
    have hmap : after.map Char.toLower = letters := (map_toLower_eq_iff hlower.2 after).mpr hafter
    refine ⟨after, by rw [hc'], ?_, fun hmem => hdot ?_⟩
    · rintro rfl
      exact hne hmap.symm
    · exact hmap ▸ List.mem_map_of_mem hmem

theorem ofExtension?_isSome_iff {extension : Text} :
    (Kind.ofExtension? extension).isSome = true ↔
      ∃ known ∈ sourceExtensions, List.Forall₂ InEitherCase known extension := by
  have hlower : ∀ known ∈ sourceExtensions, (List.Forall₂ InEitherCase known extension ↔
      extension.map Char.toLower = known) :=
    fun known hknown => (map_toLower_eq_iff (letters_of_known hknown).1 extension).symm
  rw [exists_congr fun known => and_congr_right (hlower known), Kind.ofExtension?]
  simp only [sourceExtensions, List.mem_cons, List.not_mem_nil, or_false, exists_eq_right']
  by_cases hcode : extension.map Char.toLower = ".java".toList
  · rw [if_pos hcode]
    exact iff_of_true rfl (.inl hcode)
  · by_cases hmarkup : extension.map Char.toLower = ".xml".toList
    · rw [if_neg hcode, if_pos hmarkup]
      exact iff_of_true rfl (.inr hmarkup)
    · rw [if_neg hcode, if_neg hmarkup]
      exact iff_of_false (by simp) (not_or.mpr ⟨hcode, hmarkup⟩)

theorem isSourceName_iff {name : Text} : isSourceName name = true ↔ HasSourceName name := by
  rw [isSourceName, Path.kind?, ofExtension?_isSome_iff]
  constructor
  · rintro ⟨known, hknown, hspelled⟩
    obtain ⟨after, hafter, -, -⟩ := exists_of_inEitherCase hknown hspelled
    obtain ⟨-, -, stem, hstem, hname⟩ := Path.extension_eq_iff.mp hafter
    exact ⟨stem, '.' :: after, hname, hstem, known, hknown, hafter ▸ hspelled⟩
  · rintro ⟨stem, extension, hname, hstem, known, hknown, hspelled⟩
    obtain ⟨after, rfl, hne, hdot⟩ := exists_of_inEitherCase hknown hspelled
    have hextension : Path.extension { names := [name] } = '.' :: after :=
      Path.extension_eq_iff.mpr ⟨hne, hdot, stem, hstem, hname⟩
    exact ⟨known, hknown, hextension ▸ hspelled⟩

/-! ### Overlong paths -/

/-- The path has more than `maxPathOctets` octets, or one of its names more than `maxNameOctets`. -/
def Path.Overlong (path : Path) : Prop :=
  Disk.maxPathOctets < (Utf8.encode path.text).length ∨
    ∃ name ∈ path.names, Disk.maxNameOctets < (Utf8.encode name).length

namespace Disk

variable {disk : Disk}

/-- Names that `follow` leads to their end have at most `maxNameOctets` octets. -/
theorem length_le_of_follow {location reached : Location} {names : List Text}
    (h : disk.follow location names = .ok reached) :
    ∀ name ∈ names, (Utf8.encode name).length ≤ maxNameOctets := by
  induction names generalizing location with
  | nil => simp
  | cons name rest ih =>
    obtain ⟨-, ⟨rfl, hrest⟩ | ⟨-, hshort, hrest⟩⟩ := follow_cons_eq_ok_iff.mp h
    · exact List.forall_mem_cons.mpr ⟨by decide, ih hrest⟩
    · exact List.forall_mem_cons.mpr ⟨hshort, ih hrest⟩

/-- `follow` refuses with `nameTooLong` only if a name has more than `maxNameOctets` octets. -/
theorem exists_length_of_follow {location : Location} {names : List Text}
    (h : disk.follow location names = .error .nameTooLong) :
    ∃ name ∈ names, maxNameOctets < (Utf8.encode name).length := by
  induction names generalizing location with
  | nil => cases h
  | cons name rest ih =>
    simp only [List.mem_cons, exists_eq_or_imp]
    unfold follow at h
    split at h
    · cases h
    · split at h
      · exact .inr (ih h)
      · split at h
        · rename_i hlong
          exact .inl hlong
        · exact .inr (ih h)
    · cases h

/-- A path that `locate` leads somewhere is not `Overlong`. -/
theorem not_overlong_of_locate {path : Path} {location : Location}
    (h : disk.locate path = .ok location) : ¬path.Overlong := by
  unfold locate at h
  split at h
  · cases h
  · rename_i hshort
    rintro (hlong | ⟨name, hname, hlong⟩)
    · exact hshort hlong
    · have := length_le_of_follow h name hname
      omega

/-- A path that `locate` refuses with `nameTooLong` is `Overlong`. -/
theorem overlong_of_locate {path : Path} (h : disk.locate path = .error .nameTooLong) :
    path.Overlong := by
  unfold locate at h
  split at h
  · rename_i hlong
    exact .inl hlong
  · exact .inr (exists_length_of_follow h)

/-- `follow` that leads to something starts from something that is there. -/
theorem get?_of_follow {location reached : Location} {names : List Text}
    (h : disk.follow location names = .ok reached) (hget : disk.get? reached ≠ none) :
    disk.get? location ≠ none := by
  cases names with
  | nil =>
    cases h
    exact hget
  | cons name rest => simp [(follow_cons_eq_ok_iff.mp h).1]

namespace IsTree

/-- `locate` refuses a path below a folder of a tree with `nameTooLong` exactly if the path is
`Overlong`. -/
theorem locate_tooLong_iff (h : disk.IsTree) {root : Path} {location : Location}
    (hroot : disk.locate root = .ok location) {names : List Text}
    (hget : disk.get? (location ++ names) ≠ none) :
    disk.locate { root with names := root.names ++ names } = .error .nameTooLong ↔
      Path.Overlong { root with names := root.names ++ names } := by
  refine ⟨overlong_of_locate, fun hlong => ?_⟩
  rcases h.locate_below hroot hget with hfound | hrefused
  · exact absurd hlong (not_overlong_of_locate hfound)
  · exact hrefused

/-- On a tree no name that `follow` takes to something holds a zero. -/
theorem noZero_of_follow (h : disk.IsTree) {location reached : Location} {names : List Text}
    (hfollow : disk.follow location names = .ok reached) (hget : disk.get? reached ≠ none) :
    ∀ name ∈ names, '\x00' ∉ name := by
  induction names generalizing location with
  | nil => simp
  | cons name rest ih =>
    obtain ⟨-, ⟨rfl, hrest⟩ | ⟨-, -, hrest⟩⟩ := follow_cons_eq_ok_iff.mp hfollow
    · exact List.forall_mem_cons.mpr ⟨by decide, ih hrest⟩
    · -- The name is the last one of a place where something stands.
      have hname := h.noZero_of_get? (get?_of_follow hrest hget) name (by simp)
      exact List.forall_mem_cons.mpr ⟨hname, ih hrest⟩

theorem noZero_of_find (h : disk.IsTree) {root : Path} {location : Location} {node : Node}
    (hfind : disk.find root = .ok (location, node)) : ¬Job.HasZero root := by
  obtain ⟨hlocate, hget⟩ := find_eq_ok_iff.mp hfind
  unfold locate at hlocate
  split at hlocate
  · cases hlocate
  · rw [Job.HasZero, List.any_eq_true]
    rintro ⟨name, hname, hzero⟩
    exact h.noZero_of_follow hlocate (by simp [hget]) name hname (List.contains_iff_mem.mp hzero)

end IsTree

/-! ### What a search gives -/

/-- The `node` stands below the `location` of the `root`, and the `path` is the root with the names
below it. -/
def LiesBelow (disk : Disk) (root : Path) (location : Location) (path : Path) (node : Node) : Prop :=
  ∃ names, names ≠ [] ∧ path = { root with names := root.names ++ names } ∧
    disk.get? (location ++ names) = some node

/-- The `path` `LiesBelow` the `root`, at a file or a device, and `HasSourceName` holds of its name. -/
def IsSource (disk : Disk) (root : Path) (location : Location) (path : Path) : Prop :=
  ∃ node, disk.LiesBelow root location path node ∧ node ≠ .folder ∧ HasSourceName path.name

/-- The `path` `LiesBelow` the `root`, and is `Overlong`. -/
def OutOfReach (disk : Disk) (root : Path) (location : Location) (path : Path) : Prop :=
  (∃ node, disk.LiesBelow root location path node) ∧ path.Overlong

namespace IsTree

variable {root path : Path} {location : Location}

theorem outOfReach_iff (h : disk.IsTree) (hroot : disk.locate root = .ok location) :
    disk.OutOfReach root location path ↔
      ∃ names ∈ disk.below location, path = { root with names := root.names ++ names } ∧
        disk.locate path = .error .nameTooLong := by
  constructor
  · rintro ⟨⟨node, names, hne, rfl, hget⟩, hlong⟩
    have hsome : disk.get? (location ++ names) ≠ none := by simp [hget]
    exact ⟨names, mem_below.mpr ⟨hne, hsome⟩, rfl, (h.locate_tooLong_iff hroot hsome).mpr hlong⟩
  · rintro ⟨names, hnames, rfl, hlong⟩
    obtain ⟨hne, hsome⟩ := mem_below.mp hnames
    obtain ⟨node, hget⟩ := Option.ne_none_iff_exists'.mp hsome
    exact ⟨⟨node, names, hne, rfl, hget⟩, (h.locate_tooLong_iff hroot hsome).mp hlong⟩

theorem fits_iff (h : disk.IsTree) (hroot : disk.locate root = .ok location) :
    disk.Fits root location ↔ ¬∃ path, disk.OutOfReach root location path := by
  simp only [h.outOfReach_iff hroot]
  constructor
  · rintro hfits ⟨_, names, hnames, rfl, hlong⟩
    exact hfits names hnames hlong
  · intro hnone names hnames hlong
    exact hnone ⟨_, names, hnames, rfl, hlong⟩

theorem isSource_iff (h : disk.IsTree) :
    disk.IsSource root location path ↔
      ∃ names ∈ disk.sourcesBelow location, path = { root with names := root.names ++ names } := by
  simp only [h.mem_sourcesBelow, mem_below, isSourceName_iff]
  constructor
  · rintro ⟨node, ⟨names, hne, rfl, hget⟩, hfile, hsource⟩
    rw [root.name_below hne] at hsource
    exact ⟨names, ⟨⟨hne, by simp [hget]⟩, by simpa [hget] using hfile, hsource⟩, rfl⟩
  · rintro ⟨names, ⟨⟨hne, hsome⟩, hfile, hsource⟩, rfl⟩
    obtain ⟨node, hget⟩ := Option.ne_none_iff_exists'.mp hsome
    rw [← root.name_below hne] at hsource
    exact ⟨node, ⟨names, hne, rfl, hget⟩, fun hfolder => hfile (hfolder ▸ hget), hsource⟩

end IsTree

end Disk

/-- The paths below one `root` are ordered as the names below it. -/
theorem pairwise_names_below (root : Path) {below : List (List Text)} (h : below.Pairwise (· < ·)) :
    (below.map fun names => { root with names := root.names ++ names }).Pairwise
      fun file other : Path => file.names < other.names := by
  refine List.pairwise_map.mpr (h.imp fun hlt => ?_)
  exact List.append_left_lt hlt

/-- **What `Job.findFiles` gives on a folder of a tree**: the paths with `Disk.IsSource`, each once and in the
order of their `names`. If some path is `Disk.OutOfReach`, it gives nothing and breaks off at the first of these
paths instead, be it a source file or not.

The depth of a path is bounded by its length alone. `Disk.walk` has no stack of calls to run out of: where
each folder on the way down costs a call, the calls have to be allowed as deep as a path can get, about two
thousand names. -/
theorem findFiles_complete {root : Path} {space : Workspace} {location : Location}
    (htree : space.disk.IsTree) (hroot : space.disk.find root = .ok (location, .folder)) :
    ((¬∃ path, space.disk.OutOfReach root location path) →
      ∃ files, (Job.findFiles root).ends space = (.ok files, space) ∧
        (∀ file, file ∈ files ↔ space.disk.IsSource root location file) ∧
        files.Pairwise fun file other => file.names < other.names) ∧
    ((∃ path, space.disk.OutOfReach root location path) →
      ∃ path, space.disk.OutOfReach root location path ∧
        (∀ other, space.disk.OutOfReach root location other → path.names ≤ other.names) ∧
        (Job.findFiles root).ends space
          = (.error (.interruption (.disk { refusal := .nameTooLong, path })), space)) := by
  have hlocate := (Disk.find_eq_ok_iff.mp hroot).1
  have hends := Job.findFiles_folder (htree.noZero_of_find hroot) hroot
  constructor
  · intro hreach
    have hwalk := htree.walk_of_fits hlocate ((htree.fits_iff hlocate).mpr hreach)
    refine ⟨_, by rw [hends, hwalk]; rfl, fun file => ?_,
      pairwise_names_below root (htree.pairwise_sourcesBelow location)⟩
    simp only [List.mem_map, htree.isSource_iff, eq_comm]
  · intro hout
    -- The walk stops at the first path in order that is too long, and that order is the one of the
    -- names.
    obtain ⟨names, hnames, hlong, hleast, hwalk⟩ :=
      htree.walk_of_tooLong hlocate fun hfits => (htree.fits_iff hlocate).mp hfits hout
    refine ⟨{ root with names := root.names ++ names },
      (htree.outOfReach_iff hlocate).mpr ⟨names, hnames, rfl, hlong⟩, fun other hother => ?_,
      by rw [hends, hwalk]; rfl⟩
    obtain ⟨names', hnames', rfl, hlong'⟩ := (htree.outOfReach_iff hlocate).mp hother
    rcases (hleast names' hnames' hlong').eq_or_lt with rfl | hlt
    · exact le_rfl
    · exact (List.append_left_lt hlt).le

/-- A folder with sources at several depths. One folder has the name of a source, one file is nothing
but an extension, and `a.java` is spelled before `a/Z.Java` though its first name comes after `a`. -/
def nestedFolder : Workspace :=
  { disk :=
      { home := []
        nodes :=
          [(["p".toList], .folder),
            (["p".toList, "a.java".toList], .file []),
            (["p".toList, ".xml".toList], .file []),
            (["p".toList, "a".toList], .folder),
            (["p".toList, "a".toList, "Z.Java".toList], .device),
            (["p".toList, "x.java".toList], .folder),
            (["p".toList, "x.java".toList, "n.XmL".toList], .file []),
            (["p".toList, "note.txt".toList], .file [])] } }

theorem findFiles_complete_nestedFolder :
    nestedFolder.disk.IsTree ∧
      nestedFolder.disk.find { names := ["p".toList] } = .ok (["p".toList], .folder) ∧
      (¬∃ path, nestedFolder.disk.OutOfReach { names := ["p".toList] } ["p".toList] path) ∧
      (Job.findFiles { names := ["p".toList] }).ends nestedFolder
        = (.ok [{ names := ["p".toList, "a".toList, "Z.Java".toList] },
            { names := ["p".toList, "a.java".toList] },
            { names := ["p".toList, "x.java".toList, "n.XmL".toList] }], nestedFolder) := by
  have htree : nestedFolder.disk.IsTree := by decide +kernel
  have hroot : nestedFolder.disk.find { names := ["p".toList] } = .ok (["p".toList], .folder) := rfl
  have hlocate := (Disk.find_eq_ok_iff.mp hroot).1
  have hreach : ¬∃ path, nestedFolder.disk.OutOfReach { names := ["p".toList] } ["p".toList] path :=
    (htree.fits_iff hlocate).mp (Disk.fits_of_nodes (by decide +kernel))
  obtain ⟨files, hends, hfiles, hsorted⟩ := (findFiles_complete htree hroot).1 hreach
  refine ⟨htree, hroot, hreach, hends.trans ?_⟩
  have hnames : nestedFolder.disk.nodes.filterMap (sourceBelow? ["p".toList])
      = [["a.java".toList], ["a".toList, "Z.Java".toList], ["x.java".toList, "n.XmL".toList]] := by
    decide +kernel
  -- Files that are in order are told by which of them there are.
  have hirrefl : Std.Irrefl fun file other : Path => file.names < other.names :=
    ⟨fun file => lt_irrefl file.names⟩
  have hantisymm : Std.Antisymm fun file other : Path => file.names < other.names :=
    ⟨fun _ _ hlt hgt => absurd hgt hlt.asymm⟩
  refine congrArg (fun files => (Except.ok files, nestedFolder)) (hsorted.eq_of_mem_iff ?_ fun file => ?_)
  · decide +kernel
  · rw [hfiles, htree.isSource_iff]
    simp only [Disk.sourcesBelow, List.mem_mergeSort, hnames, List.mem_cons, List.not_mem_nil, or_false,
      exists_eq_or_imp, exists_eq_left, List.cons_append, List.nil_append]
    exact or_left_comm

/-- A path to the folder `p` that goes up out of it and back into it `turns` times. -/
def windingPath (turns : Nat) : Path :=
  { names := "p".toList :: (List.replicate turns [Disk.parentName, "p".toList]).flatten }

/-- Each turn of a `windingPath` takes five octets, whatever follows. -/
theorem length_windingPath (turns : Nat) (more : List Text) :
    (Utf8.encode (Path.text { windingPath turns with names := (windingPath turns).names ++ more })).length
      = 5 * turns + (Utf8.encode (Path.text { names := "p".toList :: more })).length := by
  simp only [windingPath, Path.text, List.cons_append, reduceCtorEq, and_false, if_false]
  induction turns with
  | zero => simp
  | succ turns ih =>
    have hup : (Utf8.encode Disk.parentName).length = 2 := by decide
    have hdown : (Utf8.encode "p".toList).length = 1 := by decide
    have hslash : (Utf8.encode ['/']).length = 1 := by decide
    simp only [List.replicate_succ, List.flatten_cons, List.cons_append, List.nil_append,
      List.intercalate_cons_cons, Utf8.encode_append, List.length_append, hup, hdown, hslash] at ih ⊢
    omega

/-- `follow` of a `windingPath` leads back to the folder. -/
theorem follow_windingPath {disk : Disk} (hfolder : disk.get? ["p".toList] = some .folder) (turns : Nat) :
    disk.follow [] (windingPath turns).names = .ok ["p".toList] := by
  induction turns with
  | zero => rfl
  | succ turns ih =>
    have hnames : (windingPath (turns + 1)).names
        = "p".toList :: Disk.parentName :: (windingPath turns).names := rfl
    have hup : disk.follow ["p".toList] (Disk.parentName :: (windingPath turns).names)
        = .ok ["p".toList] :=
      Disk.follow_cons_eq_ok_iff.mpr ⟨hfolder, .inl ⟨rfl, ih⟩⟩
    rw [hnames]
    exact Disk.follow_cons_eq_ok_iff.mpr ⟨disk.get?_top, .inr ⟨by decide, by decide, hup⟩⟩

theorem find_windingPath {disk : Disk} (hhome : disk.home = [])
    (hfolder : disk.get? ["p".toList] = some .folder) {turns : Nat}
    (hturns : 5 * turns + 1 ≤ Disk.maxPathOctets) :
    disk.find (windingPath turns) = .ok (["p".toList], .folder) := by
  have hlength : (Utf8.encode (windingPath turns).text).length = 5 * turns + 1 := by
    have hone : (Utf8.encode (Path.text { names := ["p".toList] })).length = 1 := by decide
    have hturns := length_windingPath turns []
    rwa [List.append_nil, hone] at hturns
  have hshort : ¬Disk.maxPathOctets < (Utf8.encode (windingPath turns).text).length := by omega
  have hstart : disk.start (windingPath turns) = [] := hhome
  refine Disk.find_eq_ok_iff.mpr ⟨?_, hfolder⟩
  rw [Disk.locate, if_neg hshort, hstart, follow_windingPath hfolder]

/-- `findFiles` does not find a source file that stands in the folder at the end of a `windingPath`: the
path to it is too long while the path to the folder is not. -/
theorem findFiles_misses_winding :
    let space : Workspace :=
      { disk :=
          { home := []
            nodes :=
              [(["p".toList], .folder),
                (["p".toList, "A.java".toList], .file (Utf8.encode "x = 1;".toList))] } }
    space.disk.IsTree ∧
      space.disk.find (windingPath 818) = .ok (["p".toList], .folder) ∧
      space.disk.IsSource (windingPath 818) ["p".toList] ((windingPath 818).child "A.java".toList) ∧
      (Job.findFiles (windingPath 818)).ends space
        = (.error (.interruption (.disk
            { refusal := .nameTooLong, path := (windingPath 818).child "A.java".toList })), space) := by
  intro space
  have htree : space.disk.IsTree := by decide +kernel
  have hroot : space.disk.find (windingPath 818) = .ok (["p".toList], .folder) :=
    find_windingPath rfl rfl (by decide)
  have hlong : space.disk.locate ((windingPath 818).child "A.java".toList) = .error .nameTooLong := by
    rw [Disk.locate, if_pos]
    rw [Path.child, length_windingPath]
    decide
  refine ⟨htree, hroot, ?_, ?_⟩
  · refine ⟨.file (Utf8.encode "x = 1;".toList), ⟨["A.java".toList], by simp, rfl, rfl⟩, by simp, ?_⟩
    rw [Path.name_child]
    exact isSourceName_iff.mp (by decide)
  · -- The file is all that stands below the folder, so the walk breaks off there.
    have hbelow : ["A.java".toList] ∈ space.disk.below ["p".toList] :=
      Disk.mem_below.mpr ⟨by simp, by decide⟩
    obtain ⟨names, hnames, -, -, hwalk⟩ := htree.walk_of_tooLong (Disk.find_eq_ok_iff.mp hroot).1
      fun hfits => hfits _ hbelow hlong
    obtain rfl : names = ["A.java".toList] := by
      have hnodes : (space.disk.nodes.filterMap fun entry => Disk.namesBelow? ["p".toList] entry.1)
          = [["A.java".toList]] := by decide
      rwa [Disk.below, List.mem_mergeSort, hnodes, List.mem_singleton] at hnames
    rw [Job.findFiles_folder (htree.noZero_of_find hroot) hroot, hwalk]
    rfl

end Externalize
