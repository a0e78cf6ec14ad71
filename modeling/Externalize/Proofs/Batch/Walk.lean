import Externalize.Batch.Discovery
import Externalize.Proofs.Batch.Temporary
import Mathlib.Data.Char
import Mathlib.Data.List.Induction
import Mathlib.Data.List.Lex
import Mathlib.Data.List.Sort

/-!
# `Externalize.Proofs.Batch.Walk`: the walk through the folders, and one order of all paths

A search goes down folder by folder and sorts the names of each folder alone. What it comes by can be
told without a walk. All that stands below the folder is put in one order, which compares the lists of
names that lead down (`Disk.below`, `inOrder_iff`). This is not the order of the spelled paths, since a
slash counts for nothing in it.

A disk is a tree (`Disk.IsTree`) if every node stands in a folder, under a name of its own. On a tree:

* `below_eq_flatMap`: the one order takes the names of the folder in turn, and after each of them all that
  stands below it. Both lists increase and have the same members.
* `walk_eq_flatMapM`: so the walk visits just what stands below the folder, in the one order.
* `walk_of_fits`: it finds the sources in this order, provided that it can look at everything it meets.
* `walk_of_tooLong`: otherwise it ends with the first path that is too long.
-/

set_option autoImplicit false

namespace Externalize

/-! ### The order of files -/

/-- Whether the `names` do not come after the `others`, compared name by name with `Text.precedes`. -/
def inOrder (names others : List Text) : Bool :=
  !others.lex names Text.precedes

theorem Text.precedes_iff (text other : Text) : text.precedes other = true ↔ text < other := by
  rw [Text.precedes, List.lex_eq_true_iff_lex]
  simp only [decide_eq_true_eq]
  exact (List.lt_iff_lex_lt text other).symm

/-- `inOrder` is the lexicographic order of the names. -/
theorem inOrder_iff (names others : List Text) : inOrder names others = true ↔ names ≤ others := by
  rw [inOrder, Bool.not_eq_true', List.lex_eq_false_iff_not_lex, ← not_lt]
  simp only [Text.precedes_iff]
  exact not_congr (List.lt_iff_lex_lt others names).symm

/-- `mergeSort` by a linear order gives a list in that order. -/
theorem pairwise_le_mergeSort {α : Type} [LinearOrder α] {inOrder : α → α → Bool}
    (horder : ∀ a b, inOrder a b = true ↔ a ≤ b) (xs : List α) :
    (xs.mergeSort inOrder).Pairwise (· ≤ ·) := by
  have htrans : ∀ a b c, inOrder a b = true → inOrder b c = true → inOrder a c = true := by
    intro a b c hab hbc
    rw [horder] at hab hbc ⊢
    exact hab.trans hbc
  have htotal : ∀ a b, (inOrder a b || inOrder b a) = true := by
    intro a b
    rw [Bool.or_eq_true, horder, horder]
    exact le_total a b
  exact (List.pairwise_mergeSort htrans htotal xs).imp fun h => (horder _ _).mp h

/-- `mergeSort` of a list without repetitions gives a list that increases. -/
theorem pairwise_lt_mergeSort {α : Type} [LinearOrder α] {inOrder : α → α → Bool}
    (horder : ∀ a b, inOrder a b = true ↔ a ≤ b) {xs : List α} (hnodup : xs.Nodup) :
    (xs.mergeSort inOrder).Pairwise (· < ·) := by
  have hapart : (xs.mergeSort inOrder).Nodup := (List.mergeSort_perm xs inOrder).nodup_iff.mpr hnodup
  exact ((pairwise_le_mergeSort horder xs).and hapart).imp fun h => lt_of_le_of_ne h.1 h.2

namespace Disk

/-! ### Trees -/

/-- Every node of the disk stands in a folder, under a name of its own that a file can have. -/
structure IsTree (disk : Disk) : Prop where
  nodup : (disk.nodes.map (·.1)).Nodup
  above : ∀ entry ∈ disk.nodes, disk.get? entry.1.dropLast = some .folder
  named : ∀ entry ∈ disk.nodes, entry.1.getLast? ≠ some parentName
  noZero : ∀ entry ∈ disk.nodes, ∀ name ∈ entry.1, '\x00' ∉ name

instance (disk : Disk) : Decidable disk.IsTree :=
  decidable_of_iff
    ((disk.nodes.map (·.1)).Nodup ∧
      (∀ entry ∈ disk.nodes, disk.get? entry.1.dropLast = some .folder) ∧
      (∀ entry ∈ disk.nodes, entry.1.getLast? ≠ some parentName) ∧
      ∀ entry ∈ disk.nodes, ∀ name ∈ entry.1, '\x00' ∉ name)
    ⟨fun ⟨nodup, above, named, noZero⟩ => ⟨nodup, above, named, noZero⟩,
      fun ⟨nodup, above, named, noZero⟩ => ⟨nodup, above, named, noZero⟩⟩

/-- The locations of the `nodes` below the top are those at which `get?` finds something. -/
theorem mem_locations_iff {disk : Disk} {location : Location} (hne : location ≠ []) :
    location ∈ disk.nodes.map (·.1) ↔ disk.get? location ≠ none := by
  constructor
  · intro hmem hnone
    obtain ⟨entry, hentry, rfl⟩ := List.mem_map.mp hmem
    rw [get?, if_neg hne, List.lookup_eq_none_iff] at hnone
    simpa using hnone entry hentry
  · intro hget
    obtain ⟨node, hnode⟩ := Option.ne_none_iff_exists'.mp hget
    exact mem_locations hne hnode

theorem follow_append (disk : Disk) (location : Location) (names more : List Text) :
    disk.follow location (names ++ more)
      = (disk.follow location names).bind fun reached => disk.follow reached more := by
  induction names generalizing location with
  | nil => rfl
  | cons name names ih =>
    rw [List.cons_append, follow, follow]
    cases disk.get? location with
    | none => rfl
    | some node =>
      cases node with
      | folder =>
        show (if _ then _ else if _ then _ else _) = Except.bind (if _ then _ else if _ then _ else _) _
        split
        · exact ih _
        · split
          · rfl
          · exact ih _
      | file octets => rfl
      | device => rfl

namespace IsTree

variable {disk : Disk}

/-- `get?` finds each of the `nodes` of a tree at its location. -/
theorem get?_of_mem (h : disk.IsTree) {entry : Location × Node} (hmem : entry ∈ disk.nodes)
    (hne : entry.1 ≠ []) : disk.get? entry.1 = some entry.2 := by
  obtain ⟨before, behind, hnodes⟩ := List.append_of_mem hmem
  have hnodup := h.nodup
  rw [hnodes, List.map_append, List.nodup_append] at hnodup
  rw [get?, if_neg hne, List.lookup_eq_some_iff]
  refine ⟨before, behind, hnodes, fun other hother => ?_⟩
  have hdiffer := hnodup.2.2 _ (List.mem_map_of_mem hother) entry.1 (by simp)
  simpa using hdiffer.symm

/-- The names that lead to a node of a tree hold no zero. -/
theorem noZero_of_get? (h : disk.IsTree) {location : Location} (hget : disk.get? location ≠ none) :
    ∀ name ∈ location, '\x00' ∉ name := by
  by_cases hne : location = []
  · simp [hne]
  · obtain ⟨entry, hentry, rfl⟩ := List.mem_map.mp ((mem_locations_iff hne).mpr hget)
    exact h.noZero entry hentry

/-- `follow` leads to what stands below a folder of a tree, unless a name is too long. -/
theorem follow_below (h : disk.IsTree) {origin location : Location} {above : List Text}
    (hfollow : disk.follow origin above = .ok location) {names : List Text}
    (hget : disk.get? (location ++ names) ≠ none) :
    disk.follow origin (above ++ names) = .ok (location ++ names) ∨
      disk.follow origin (above ++ names) = .error .nameTooLong := by
  -- The last name is the one that the node says something about, so the induction is from the end.
  induction names using List.reverseRecOn with
  | nil => exact .inl (by simpa using hfollow)
  | append_singleton names name ih =>
    rw [← List.append_assoc] at hget ⊢
    obtain ⟨node, hnode⟩ := Option.ne_none_iff_exists'.mp hget
    obtain ⟨entry, hentry, hlocation⟩ := List.mem_map.mp (mem_locations (by simp) hnode)
    have habove := h.above entry hentry
    have hnamed := h.named entry hentry
    rw [hlocation, List.dropLast_concat] at habove
    rw [hlocation, List.getLast?_concat, ne_eq, Option.some.injEq] at hnamed
    rw [follow_append]
    rcases ih (by simp [habove]) with hreached | hlong
    · rw [hreached]
      show disk.follow (location ++ names) [name] = _ ∨ disk.follow (location ++ names) [name] = _
      rw [follow, habove]
      simp only [hnamed, if_false]
      split
      · exact .inr rfl
      · rw [follow, List.append_assoc]
        exact .inl rfl
    · rw [hlong]
      exact .inr rfl

/-- `locate` leads to what stands below a folder of a tree, unless the path is too long. -/
theorem locate_below (h : disk.IsTree) {root : Path} {location : Location}
    (hroot : disk.locate root = .ok location) {names : List Text}
    (hget : disk.get? (location ++ names) ≠ none) :
    disk.locate { root with names := root.names ++ names } = .ok (location ++ names) ∨
      disk.locate { root with names := root.names ++ names } = .error .nameTooLong := by
  unfold locate at hroot ⊢
  split at hroot
  · cases hroot
  · split
    · exact .inr rfl
    · exact h.follow_below hroot hget

/-- On a tree things stand below folders only. -/
theorem folder_of_below (h : disk.IsTree) {location : Location} {names : List Text} (hne : names ≠ [])
    (hget : disk.get? (location ++ names) ≠ none) : disk.get? location = some .folder := by
  induction names using List.reverseRecOn with
  | nil => exact absurd rfl hne
  | append_singleton names name ih =>
    rw [← List.append_assoc, ← mem_locations_iff (by simp)] at hget
    obtain ⟨entry, hentry, hlocation⟩ := List.mem_map.mp hget
    have habove := h.above entry hentry
    rw [hlocation, List.dropLast_concat] at habove
    cases names with
    | nil => simpa using habove
    | cons first names => exact ih (by simp) (by simp [habove])

end IsTree

/-! ### What stands below a folder -/

/-- The names from the `folder` down to the `location`, if it lies below. -/
def namesBelow? (folder location : Location) : Option (List Text) :=
  if isBelow folder location then some (location.drop folder.length) else none

/-- The `namesBelow?` of all the `nodes`, in order. -/
def below (disk : Disk) (folder : Location) : List (List Text) :=
  (disk.nodes.filterMap fun entry => namesBelow? folder entry.1).mergeSort inOrder

theorem isBelow_iff {folder location : Location} :
    isBelow folder location = true ↔ ∃ names, names ≠ [] ∧ location = folder ++ names := by
  simp only [isBelow, Bool.and_eq_true, List.isPrefixOf_iff_prefix, decide_eq_true_eq]
  constructor
  · rintro ⟨⟨names, rfl⟩, hlength⟩
    refine ⟨names, ?_, rfl⟩
    rintro rfl
    simp at hlength
  · rintro ⟨names, hne, rfl⟩
    have hlength := List.length_pos_of_ne_nil hne
    exact ⟨List.prefix_append _ _, by rw [List.length_append]; omega⟩

theorem namesBelow?_eq_some_iff {folder location : Location} {names : List Text} :
    namesBelow? folder location = some names ↔ names ≠ [] ∧ location = folder ++ names := by
  unfold namesBelow?
  constructor
  · intro h
    split at h
    · rename_i hbelow
      obtain ⟨names', hne, rfl⟩ := isBelow_iff.mp hbelow
      rw [List.drop_left, Option.some.injEq] at h
      exact h ▸ ⟨hne, rfl⟩
    · cases h
  · rintro ⟨hne, rfl⟩
    rw [if_pos (isBelow_iff.mpr ⟨names, hne, rfl⟩), List.drop_left]

section
variable {disk : Disk} {folder : Location}

theorem mem_below {names : List Text} :
    names ∈ disk.below folder ↔ names ≠ [] ∧ disk.get? (folder ++ names) ≠ none := by
  simp only [below, List.mem_mergeSort, List.mem_filterMap, namesBelow?_eq_some_iff]
  constructor
  · rintro ⟨entry, hentry, hne, hlocation⟩
    refine ⟨hne, (mem_locations_iff (by simp [hne])).mp ?_⟩
    exact hlocation ▸ List.mem_map_of_mem hentry
  · rintro ⟨hne, hget⟩
    obtain ⟨entry, hentry, hlocation⟩ := List.mem_map.mp ((mem_locations_iff (by simp [hne])).mpr hget)
    exact ⟨entry, hentry, hne, hlocation⟩

theorem mem_namesIn_iff {name : Text} :
    name ∈ disk.namesIn folder ↔ disk.get? (folder ++ [name]) ≠ none := by
  rw [mem_namesIn, mem_locations_iff (by simp)]

/-- On a tree a `name?` that tells locations apart tells the `nodes` apart. -/
theorem IsTree.nodup_filterMap {α : Type} (h : disk.IsTree) {name? : Location → Option α}
    (hplace : ∀ location other a, name? location = some a → name? other = some a → location = other) :
    (disk.nodes.filterMap fun entry => name? entry.1).Nodup := by
  rw [List.Nodup, List.pairwise_filterMap]
  refine (List.pairwise_map.mp h.nodup).imp fun {first second} hne a ha b hb heq => hne ?_
  exact hplace _ _ a ha (heq ▸ hb)

theorem IsTree.pairwise_below (h : disk.IsTree) (folder : Location) :
    (disk.below folder).Pairwise (· < ·) := by
  refine pairwise_lt_mergeSort inOrder_iff (h.nodup_filterMap fun location other names hl ho => ?_)
  rw [(namesBelow?_eq_some_iff.mp hl).2, (namesBelow?_eq_some_iff.mp ho).2]

theorem IsTree.pairwise_namesIn (h : disk.IsTree) (folder : Location) :
    (disk.namesIn folder).Pairwise (· < ·) := by
  have horder (name other : Text) : (!other.precedes name) = true ↔ name ≤ other := by
    rw [Bool.not_eq_true', ← Bool.not_eq_true, Text.precedes_iff, not_lt]
  refine pairwise_lt_mergeSort horder (h.nodup_filterMap fun location other name hl ho => ?_)
  rw [nameIn?_eq_some_iff.mp hl, nameIn?_eq_some_iff.mp ho]

/-- `below` a folder of a tree are the names of the folder in turn, and after each of them all that is
`below` it. -/
theorem IsTree.below_eq_flatMap (h : disk.IsTree) (folder : Location) :
    disk.below folder = (disk.namesIn folder).flatMap fun name =>
      [name] :: (disk.below (folder ++ [name])).map (name :: ·) := by
  refine List.Pairwise.eq_of_mem_iff (h.pairwise_below folder) ?_ fun names => ?_
  · refine List.pairwise_flatMap.mpr ⟨fun name _ => List.pairwise_cons.mpr ⟨?_, ?_⟩, ?_⟩
    · -- What stands below a name comes after it,
      intro names hnames
      obtain ⟨rest, hrest, rfl⟩ := List.mem_map.mp hnames
      obtain ⟨first, rest, rfl⟩ := List.exists_cons_of_ne_nil (mem_below.mp hrest).1
      exact List.cons_lt_cons_self.mpr (List.nil_lt_cons first rest)
    · -- and is in order itself.
      refine List.pairwise_map.mpr ((h.pairwise_below (folder ++ [name])).imp fun hlt => ?_)
      exact List.cons_lt_cons_self.mpr hlt
    · -- What begins with an earlier name comes before what begins with a later one.
      refine (h.pairwise_namesIn folder).imp fun {name other} hlt names hnames others hothers => ?_
      have hbegins : ∀ {name names}, names ∈ [name] :: (disk.below (folder ++ [name])).map (name :: ·) →
          ∃ rest, names = name :: rest := by
        intro name names hmem
        rcases List.mem_cons.mp hmem with rfl | hmem
        · exact ⟨[], rfl⟩
        · obtain ⟨rest, -, rfl⟩ := List.mem_map.mp hmem
          exact ⟨rest, rfl⟩
      obtain ⟨rest, rfl⟩ := hbegins hnames
      obtain ⟨rest', rfl⟩ := hbegins hothers
      exact List.cons_lt_cons_iff.mpr (.inl hlt)
  · simp only [List.mem_flatMap, List.mem_cons, List.mem_map, mem_namesIn_iff, mem_below]
    constructor
    · rintro ⟨hne, hget⟩
      obtain ⟨name, rest, rfl⟩ := List.exists_cons_of_ne_nil hne
      rw [List.append_cons] at hget
      by_cases hrest : rest = []
      · subst hrest
        exact ⟨name, by simpa using hget, .inl rfl⟩
      · have hfolder := h.folder_of_below hrest hget
        exact ⟨name, by simp [hfolder], .inr ⟨rest, ⟨hrest, hget⟩, rfl⟩⟩
    · rintro ⟨name, hname, rfl | ⟨rest, ⟨-, hget⟩, rfl⟩⟩
      · exact ⟨by simp, hname⟩
      · exact ⟨by simp, by rwa [List.append_cons]⟩

end

end Disk

/-! ### The sources below a folder -/

/-- The names from `folder` down to a source file below it, if the node at `location` is one. -/
def sourceBelow? (folder : Location) (entry : Location × Node) : Option (List Text) :=
  if Disk.isBelow folder entry.1 && entry.2 != .folder && isSourceName (entry.1.getLastD []) then
    some (entry.1.drop folder.length)
  else none

/-- The `sourceBelow?` of all the `nodes`, in order. -/
def Disk.sourcesBelow (disk : Disk) (folder : Location) : List (List Text) :=
  (disk.nodes.filterMap (sourceBelow? folder)).mergeSort inOrder

/-- `sourceBelow?` gives the names down to a node that is no folder and has a name with `isSourceName`. -/
theorem sourceBelow?_eq_some_iff {folder : Location} {entry : Location × Node} {names : List Text} :
    sourceBelow? folder entry = some names ↔
      entry.1 = folder ++ names ∧ names ≠ [] ∧ entry.2 ≠ .folder ∧
        isSourceName (names.getLastD []) = true := by
  unfold sourceBelow?
  constructor
  · intro h
    split at h
    · rename_i hfound
      simp only [Bool.and_eq_true, bne_iff_ne, ne_eq, Disk.isBelow_iff] at hfound
      obtain ⟨⟨⟨names', hne, hlocation⟩, hfile⟩, hsource⟩ := hfound
      rw [hlocation, List.drop_left, Option.some.injEq] at h
      subst h
      rw [hlocation] at hsource
      refine ⟨hlocation, hne, hfile, ?_⟩
      simpa [List.getLastD_eq_getLast?, List.getLast?_append_of_ne_nil _ hne] using hsource
    · cases h
  · rintro ⟨hlocation, hne, hfile, hsource⟩
    have hbelow : Disk.isBelow folder entry.1 = true :=
      Disk.isBelow_iff.mpr ⟨names, hne, hlocation⟩
    have hlast : entry.1.getLastD [] = names.getLastD [] := by
      simp [hlocation, List.getLastD_eq_getLast?, List.getLast?_append_of_ne_nil _ hne]
    rw [hbelow, hlast, hsource, bne_iff_ne.mpr hfile, hlocation, List.drop_left]
    rfl

namespace Disk.IsTree

variable {disk : Disk}

theorem mem_sourcesBelow (h : disk.IsTree) {folder : Location} {names : List Text} :
    names ∈ disk.sourcesBelow folder ↔
      names ∈ disk.below folder ∧ disk.get? (folder ++ names) ≠ some .folder ∧
        isSourceName (names.getLastD []) = true := by
  rw [sourcesBelow, List.mem_mergeSort, List.mem_filterMap, mem_below]
  simp only [sourceBelow?_eq_some_iff]
  constructor
  · rintro ⟨entry, hentry, hlocation, hne, hfile, hsource⟩
    have hget : disk.get? (folder ++ names) = some entry.2 :=
      hlocation ▸ h.get?_of_mem hentry (by simp [hlocation, hne])
    exact ⟨⟨hne, by simp [hget]⟩, by simpa [hget] using hfile, hsource⟩
  · rintro ⟨⟨hne, hget⟩, hfile, hsource⟩
    obtain ⟨entry, hentry, hlocation⟩ := List.mem_map.mp ((mem_locations_iff (by simp [hne])).mpr hget)
    refine ⟨entry, hentry, hlocation, hne, fun hfolder => hfile ?_, hsource⟩
    rw [← hlocation, h.get?_of_mem hentry (by simp [hlocation, hne]), hfolder]

theorem pairwise_sourcesBelow (h : disk.IsTree) (folder : Location) :
    (disk.sourcesBelow folder).Pairwise (· < ·) := by
  refine pairwise_lt_mergeSort inOrder_iff ?_
  rw [List.Nodup, List.pairwise_filterMap]
  refine (List.pairwise_map.mp h.nodup).imp fun {first second} hne names hnames others hothers heq => ?_
  rw [(sourceBelow?_eq_some_iff.mp hnames).1, (sourceBelow?_eq_some_iff.mp hothers).1, heq] at hne
  exact hne rfl

end Disk.IsTree

/-! ### The walk -/

section
variable {α β γ ε : Type} {m : Type → Type} [Monad m] [LawfulMonad m]

theorem flatMapM_append (f : α → m (List β)) (xs ys : List α) :
    (xs ++ ys).flatMapM f = do return (← xs.flatMapM f) ++ (← ys.flatMapM f) := by
  induction xs with
  | nil => simp
  | cons x xs ih =>
    simp only [List.cons_append, List.flatMapM_cons, ih, bind_assoc, pure_bind, List.append_assoc]

theorem flatMapM_flatMap (f : α → List β) (g : β → m (List γ)) (xs : List α) :
    (xs.flatMap f).flatMapM g = xs.flatMapM fun x => (f x).flatMapM g := by
  induction xs with
  | nil => rfl
  | cons x xs ih => rw [List.flatMap_cons, flatMapM_append, List.flatMapM_cons, ih]

theorem flatMapM_map (f : α → β) (g : β → m (List γ)) (xs : List α) :
    (xs.map f).flatMapM g = xs.flatMapM fun x => g (f x) := by
  induction xs with
  | nil => rfl
  | cons x xs ih => rw [List.map_cons, List.flatMapM_cons, List.flatMapM_cons, ih]

theorem flatMapM_congr {f g : α → m (List β)} {xs : List α} (h : ∀ x ∈ xs, f x = g x) :
    xs.flatMapM f = xs.flatMapM g := by
  induction xs with
  | nil => rfl
  | cons x xs ih =>
    rw [List.flatMapM_cons, List.flatMapM_cons, h x (by simp),
      ih fun y hy => h y (List.mem_cons_of_mem x hy)]

theorem flatMapM_pure (f : α → List β) (xs : List α) :
    (xs.flatMapM fun x => (pure (f x) : m (List β))) = pure (xs.flatMap f) := by
  induction xs with
  | nil => rfl
  | cons x xs ih => simp [List.flatMapM_cons, ih]

end

theorem flatMap_ite {α β : Type} (p : α → Prop) [DecidablePred p] (f : α → β) (xs : List α) :
    (xs.flatMap fun x => if p x then [f x] else []) = (xs.filter fun x => p x).map f := by
  induction xs with
  | nil => rfl
  | cons x xs ih => by_cases hx : p x <;> simp [hx, ih]

/-- A list with a member of which `p` holds has a first one. -/
theorem exists_first {α : Type} {p : α → Prop} {xs : List α} (h : ∃ x ∈ xs, p x) :
    ∃ before x after, xs = before ++ x :: after ∧ p x ∧ ∀ y ∈ before, ¬p y := by
  induction xs with
  | nil => simp at h
  | cons first xs ih =>
    by_cases hfirst : p first
    · exact ⟨[], first, xs, rfl, hfirst, by simp⟩
    · obtain ⟨before, x, after, rfl, hx, hbefore⟩ := ih (by simpa [hfirst] using h)
      exact ⟨first :: before, x, after, rfl, hx, by simpa using ⟨hfirst, hbefore⟩⟩

theorem Path.name_below (path : Path) {names : List Text} (hne : names ≠ []) :
    Path.name { path with names := path.names ++ names } = names.getLastD [] := by
  simp [Path.name, List.getLastD_eq_getLast?, List.getLast?_append_of_ne_nil _ hne]

theorem Path.name_child (path : Path) (name : Text) : (path.child name).name = name :=
  path.name_below (List.cons_ne_nil name [])

namespace Disk

/-- What `Disk.walk` takes up at the `names` below the path: the path if it is a source, or the refusal
to look. -/
def visit (disk : Disk) (path : Path) (names : List Text) : Except DiskFault (List Path) :=
  let child : Path := { path with names := path.names ++ names }
  match disk.find child with
  | .error .nameTooLong => .error { refusal := .nameTooLong, path := child }
  | .ok (_, .folder) => .ok []
  | _ => .ok (if isSourceName child.name then [child] else [])

theorem visit_of_tooLong {disk : Disk} {path : Path} {names : List Text}
    (h : disk.locate { path with names := path.names ++ names } = .error .nameTooLong) :
    disk.visit path names
      = .error { refusal := .nameTooLong, path := { path with names := path.names ++ names } } := by
  have hfind : disk.find { path with names := path.names ++ names } = .error .nameTooLong := by
    rw [find, h]
    rfl
  simp only [visit, hfind]

/-- `visit` below a child of the path is `visit` below the path. -/
theorem visit_cons (disk : Disk) (path : Path) (name : Text) (names : List Text) :
    disk.visit path (name :: names) = disk.visit (path.child name) names := by
  simp only [visit, Path.child, List.append_assoc, List.singleton_append]

/-- `visit` at a child of the path itself. -/
theorem visit_child (disk : Disk) (path : Path) (name : Text) :
    disk.visit path [name] = match disk.find (path.child name) with
      | .error .nameTooLong => .error { refusal := .nameTooLong, path := path.child name }
      | .ok (_, .folder) => .ok []
      | _ => .ok (if isSourceName name then [path.child name] else []) := by
  have hchild : ({ path with names := path.names ++ [name] } : Path) = path.child name := rfl
  simp only [visit, hchild, Path.name_child]

/-- `locate` refuses no path of what is `below` the folder as too long. -/
def Fits (disk : Disk) (path : Path) (folder : Location) : Prop :=
  ∀ names ∈ disk.below folder,
    disk.locate { path with names := path.names ++ names } ≠ .error .nameTooLong

namespace IsTree

variable {disk : Disk} {path : Path} {location : Location}

/-- `below` anything but a folder is nothing, on a tree. -/
theorem below_eq_nil (h : disk.IsTree) (hfile : disk.get? location ≠ some .folder) :
    disk.below location = [] := by
  refine List.eq_nil_iff_forall_not_mem.mpr fun names hmem => ?_
  obtain ⟨hne, hget⟩ := mem_below.mp hmem
  exact hfile (h.folder_of_below hne hget)

/-- `Disk.walk` visits all that is `below` its folder, in order. -/
theorem walk_eq_flatMapM (h : disk.IsTree) (hlocate : disk.locate path = .ok location) :
    disk.walk path location = (disk.below location).flatMapM (disk.visit path) := by
  -- By how far the deepest node lies below the folder.
  induction hn : disk.depth - location.length using Nat.strongRecOn generalizing path location with
  | ind n ih =>
    subst hn
    rw [walk_eq, h.below_eq_flatMap, flatMapM_flatMap]
    refine flatMapM_congr fun name hname => ?_
    have hget := mem_namesIn_iff.mp hname
    rw [List.flatMapM_cons, flatMapM_map, visit_child]
    simp only [visit_cons]
    rcases h.locate_below hlocate hget with hchild | hlong
    · obtain ⟨node, hnode⟩ := Option.ne_none_iff_exists'.mp hget
      rw [show disk.find (path.child name) = .ok (location ++ [name], node) from
        find_eq_ok_iff.mpr ⟨hchild, hnode⟩]
      cases node with
      | folder =>
        have hless : disk.depth - (location ++ [name]).length < disk.depth - location.length := by
          have hdepth := length_lt_depth hname
          rw [List.length_append, List.length_singleton]
          omega
        have hwalk : disk.walk (path.child name) (location ++ [name]) = _ := ih _ hless hchild rfl
        show disk.walk (path.child name) (location ++ [name]) = (.ok [] : Except DiskFault _) >>= _
        rw [hwalk]
        exact (bind_pure _).symm
      | _ =>
        rw [h.below_eq_nil (by simp [hnode])]
        exact congrArg Except.ok (List.append_nil _).symm
    · have hfind : disk.find (path.child name) = .error .nameTooLong := by
        rw [find, show disk.locate (path.child name) = _ from hlong]
        rfl
      rw [hfind]
      rfl

/-- `visit` where the path is not too long. -/
theorem visit_of_fits (h : disk.IsTree) (hlocate : disk.locate path = .ok location)
    {names : List Text} (hnames : names ∈ disk.below location)
    (hfits : disk.locate { path with names := path.names ++ names } ≠ .error .nameTooLong) :
    disk.visit path names = .ok
      (if disk.get? (location ++ names) ≠ some .folder ∧ isSourceName (names.getLastD []) = true then
        [{ path with names := path.names ++ names }] else []) := by
  obtain ⟨hne, hget⟩ := mem_below.mp hnames
  obtain ⟨node, hnode⟩ := Option.ne_none_iff_exists'.mp hget
  have hchild := (h.locate_below hlocate hget).resolve_right hfits
  have hfind : disk.find { path with names := path.names ++ names } = .ok (location ++ names, node) :=
    find_eq_ok_iff.mpr ⟨hchild, hnode⟩
  cases node <;> simp [visit, hfind, hnode, Path.name_below path hne]

/-- `Disk.walk` of a folder that `Fits` gives its `sourcesBelow`. -/
theorem walk_of_fits (h : disk.IsTree) (hlocate : disk.locate path = .ok location)
    (hfits : disk.Fits path location) :
    disk.walk path location = .ok ((disk.sourcesBelow location).map
      fun names => { path with names := path.names ++ names }) := by
  have hsources : disk.sourcesBelow location = (disk.below location).filter fun names =>
      disk.get? (location ++ names) ≠ some .folder ∧ isSourceName (names.getLastD []) = true := by
    refine (h.pairwise_sourcesBelow location).eq_of_mem_iff
      ((h.pairwise_below location).filter _) fun names => ?_
    rw [h.mem_sourcesBelow, List.mem_filter, decide_eq_true_eq]
  rw [h.walk_eq_flatMapM hlocate, hsources,
    flatMapM_congr fun names hmem => h.visit_of_fits hlocate hmem (hfits names hmem)]
  refine (flatMapM_pure _ _).trans (congrArg Except.ok ?_)
  exact flatMap_ite _ _ _

/-- `Disk.walk` of a folder that does not `Fits` ends with the first path that is too long. -/
theorem walk_of_tooLong (h : disk.IsTree) (hlocate : disk.locate path = .ok location)
    (hlong : ¬disk.Fits path location) :
    ∃ names ∈ disk.below location,
      disk.locate { path with names := path.names ++ names } = .error .nameTooLong ∧
      (∀ other ∈ disk.below location,
        disk.locate { path with names := path.names ++ other } = .error .nameTooLong → names ≤ other) ∧
      disk.walk path location = .error
        { refusal := .nameTooLong, path := { path with names := path.names ++ names } } := by
  simp only [Fits, ne_eq, not_forall, not_not, exists_prop] at hlong
  -- Up to the first path that is too long, the walk goes as if all fitted.
  obtain ⟨before, names, after, hbelow, hnames, hbefore⟩ := exists_first hlong
  have hsorted := h.pairwise_below location
  rw [hbelow, List.pairwise_append, List.pairwise_cons] at hsorted
  refine ⟨names, by simp [hbelow], hnames, fun other hother hlong => ?_, ?_⟩
  · rw [hbelow, List.mem_append, List.mem_cons] at hother
    rcases hother with hother | rfl | hother
    · exact absurd hlong (hbefore other hother)
    · exact le_rfl
    · exact (hsorted.2.1.1 other hother).le
  · have hstart : before.flatMapM (disk.visit path) = .ok _ :=
      (flatMapM_congr fun other hother =>
        h.visit_of_fits hlocate (by simp [hbelow, hother]) (hbefore other hother)).trans
        (flatMapM_pure _ _)
    rw [h.walk_eq_flatMapM hlocate, hbelow, flatMapM_append, List.flatMapM_cons, hstart,
      visit_of_tooLong hnames]
    rfl

end IsTree

/-- Whether `locate` refuses the path as too long. -/
def isTooLong (disk : Disk) (path : Path) : Bool :=
  match disk.locate path with
  | .error .nameTooLong => true
  | _ => false

theorem isTooLong_iff {disk : Disk} {path : Path} :
    disk.isTooLong path = true ↔ disk.locate path = .error .nameTooLong := by
  unfold isTooLong
  split
  · rename_i hlocate
    simp [hlocate]
  · rename_i hother
    simpa using hother

/-- `Fits` is told by the `nodes`, in whatever order they are. -/
theorem fits_of_nodes {disk : Disk} {path : Path} {folder : Location}
    (h : ∀ names ∈ disk.nodes.filterMap fun entry => namesBelow? folder entry.1,
      disk.isTooLong { path with names := path.names ++ names } = false) : disk.Fits path folder := by
  intro names hnames hlong
  have hfits := h names (List.mem_mergeSort.mp hnames)
  rw [isTooLong_iff.mpr hlong] at hfits
  cases hfits

theorem exists_of_mem_flatMapM {α β ε : Type} {f : α → Except ε (List β)} {xs : List α} {ys : List β}
    (h : xs.flatMapM f = .ok ys) {y : β} (hy : y ∈ ys) :
    ∃ x ∈ xs, ∃ zs, f x = .ok zs ∧ y ∈ zs := by
  induction xs generalizing ys with
  | nil =>
    cases h
    cases hy
  | cons x xs ih =>
    rw [List.flatMapM_cons] at h
    cases hx : f x with
    | error fault =>
      rw [hx] at h
      cases h
    | ok zs =>
      cases hxs : xs.flatMapM f with
      | error fault =>
        rw [hx, hxs] at h
        cases h
      | ok rest =>
        rw [hx, hxs] at h
        obtain rfl := Except.ok.inj h
        rcases List.mem_append.mp hy with hmem | hmem
        · exact ⟨x, by simp, zs, hx, hmem⟩
        · obtain ⟨other, hother, found⟩ := ih hxs hmem
          exact ⟨other, List.mem_cons_of_mem x hother, found⟩

/-- `Disk.walk` gives paths with `isSourceName`, on every disk. -/
theorem isSourceName_of_walk {disk : Disk} {path : Path} {location : Location} {files : List Path}
    (h : disk.walk path location = .ok files) : ∀ file ∈ files, isSourceName file.name = true := by
  induction hn : disk.depth - location.length using Nat.strongRecOn
    generalizing path location files with
  | ind n ih =>
    subst hn
    intro file hmem
    rw [walk_eq] at h
    obtain ⟨name, hname, found, hstep, hfound⟩ := exists_of_mem_flatMapM h hmem
    have hdepth := length_lt_depth hname
    split at hstep
    · cases hstep
    · exact ih _ (by rw [List.length_append, List.length_singleton]; omega) hstep rfl file hfound
    · cases hstep
      split at hfound
      · rename_i hsource
        obtain rfl := List.mem_singleton.mp hfound
        rwa [Path.name_child]
      · cases hfound

end Disk

end Externalize
