import Externalize.Proofs.Resource.EntryLines
import Externalize.Proofs.Resource.Writer
import Externalize.Proofs.Source.Scan
import Externalize.Proofs.Text.Replacement
import Externalize.Resource.Renumber
import Mathlib.Data.List.TakeDrop

/-!
# `Externalize.Proofs.Resource.Renumber`: lines that carry their names already

The first name attribute of an entry line is that of the entry, so what comes out of renaming the line
is told by the replacement that the new attribute is read as (`renameLine_entryLine_eq`). A name that is
verbatim stands for itself there, and renaming gives the line of that name (`renameLine_entryLine`).
Lines that carry the names from one on are therefore left as they are (`renumberFrom_entryLines`), and if
no name has halves they make a document (`renumber_entryLines`).
-/

set_option autoImplicit false

namespace Externalize

/-! ### The name attribute of an entry line -/

/-- `distanceInLine?` to a needle is the length of the `stretch` before it, if the stretch holds neither
its first character nor a line feed. -/
theorem Text.distanceInLine?_append {first : Char} {stretch : Text} (needle rest : Text)
    (hfirst : first ∉ stretch) (hfeed : '\n' ∉ stretch) (before : Nat) :
    distanceInLine? (first :: needle) before (stretch ++ (first :: needle ++ rest))
      = some (before + stretch.length) := by
  induction stretch generalizing before with
  | nil => simp [distanceInLine?]
  | cons c stretch ih =>
    have hc : first ≠ c := fun hc => hfirst (by simp [hc])
    have hc' : c ≠ '\n' := fun hc' => hfeed (by simp [hc'])
    rw [List.cons_append, distanceInLine?, if_neg (by simp [hc]), if_neg hc',
      ih (fun hmem => hfirst (by simp [hmem])) fun hmem => hfeed (by simp [hmem])]
    simp only [List.length_cons, Option.some.injEq]
    omega

/-- `replaceFirst` puts `expand` of the parts in the place of the first `hit`. -/
theorem Replacement.replaceFirst_of_segments {rule : Rule} {text front found : Text}
    {rest : List Segment} (parts : List Part)
    (h : Text.segments rule text = front.map .plain ++ .hit found :: rest) :
    replaceFirst rule parts text
      = Points.ofText front ++ expand parts found ++ Points.ofText (rest.flatMap Segment.text) := by
  have hplain : ∀ segment ∈ front.map Segment.plain, segment.isPlain = true := by
    intro segment hmem
    obtain ⟨c, -, rfl⟩ := List.mem_map.mp hmem
    rfl
  have hspan : (Text.segments rule text).span Segment.isPlain
      = (front.map .plain, .hit found :: rest) := by
    rw [List.span_eq_takeWhile_dropWhile, h, List.takeWhile_append_of_pos hplain,
      List.dropWhile_append_of_pos hplain]
    simp [Segment.isPlain]
  have hfront : (front.map Segment.plain).flatMap Segment.text = front := by
    rw [List.flatMap_map]
    exact List.flatMap_singleton' front
  rw [replaceFirst, hspan]
  simp only [hfront]

/-- A name attribute as it stands in a line. -/
def attributeText (name : Text) : Text :=
  ['n', 'a', 'm', 'e', '=', '"'] ++ name ++ ['"', '>']

/-- `nameAttribute`, code point by code point. -/
theorem nameAttribute_eq (name : Points) :
    nameAttribute name
      = Points.ofText ['n', 'a', 'm', 'e', '=', '"'] ++ (name ++ Points.ofText ['"', '>']) := by
  rw [nameAttribute, List.append_assoc]
  rfl

theorem nameAttributeRule_eq (text : Text) :
    nameAttributeRule text = (Text.dropKeyword? ['n', 'a', 'm', 'e', '=', '"'] text).bind fun rest =>
      (Text.distanceInLine? ['"', '>'] 0 rest).map fun between => between + 7 := rfl

/-- `nameAttributeRule` matches an `attributeText` up to its end. -/
theorem nameAttributeRule_append {name : Text} (hquote : '"' ∉ name) (hfeed : '\n' ∉ name)
    (rest : Text) :
    nameAttributeRule (attributeText name ++ rest) = some (name.length + 7) := by
  have hdrop : Text.dropKeyword? ['n', 'a', 'm', 'e', '=', '"'] (attributeText name ++ rest)
      = some (name ++ ('"' :: ['>'] ++ rest)) := by
    rw [attributeText, List.append_assoc, List.append_assoc]
    rfl
  rw [nameAttributeRule_eq, hdrop, Option.bind_some,
    Text.distanceInLine?_append ['>'] rest hquote hfeed, Option.map_some, Nat.zero_add]

theorem entryLine_eq_attributeText (name value : Text) :
    Document.entryLine name value = ['<', 's', 't', 'r', 'i', 'n', 'g', ' '] ++ attributeText name
      ++ (value ++ Document.entryEnd) := by
  rw [Document.entryLine_eq_name, attributeText]
  simp [Document.entryHead]

theorem entryPoints_eq_nameAttribute (name : Points) (value : Text) :
    Document.entryPoints name value
      = Points.ofText ['<', 's', 't', 'r', 'i', 'n', 'g', ' '] ++ nameAttribute name
        ++ Points.ofText (value ++ Document.entryEnd) := by
  have hhead : Points.ofText "<string name=\"".toList
      = Points.ofText ['<', 's', 't', 'r', 'i', 'n', 'g', ' ']
        ++ Points.ofText ['n', 'a', 'm', 'e', '=', '"'] := by decide
  have hend : Points.ofText (value ++ Document.entryEnd)
      = Points.ofText value ++ Points.ofText Document.entryEnd := List.map_append
  have hclose : Points.ofText "\">".toList = Points.ofText ['"', '>'] := by decide
  rw [Document.entryPoints, nameAttribute_eq, hhead, hend, hclose]
  simp only [List.append_assoc]

/-- `segments` of an `entryLine`: the first `hit` is its `attributeText`. -/
theorem segments_entryLine {name : Text} (hquote : '"' ∉ name) (hfeed : '\n' ∉ name)
    (value : Text) :
    Text.segments nameAttributeRule (Document.entryLine name value)
      = ['<', 's', 't', 'r', 'i', 'n', 'g', ' '].map .plain ++ .hit (attributeText name)
        :: Text.segments nameAttributeRule (value ++ Document.entryEnd) := by
  have hhit : Text.segments nameAttributeRule (attributeText name ++ (value ++ Document.entryEnd))
      = .hit (attributeText name)
        :: Text.segments nameAttributeRule (value ++ Document.entryEnd) :=
    Text.segments_append_of_some (nameAttributeRule_append hquote hfeed _)
      (by simp [attributeText])
  rw [entryLine_eq_attributeText, List.append_assoc, ← hhit]
  simp only [List.cons_append, List.nil_append, List.map_cons, List.map_nil]
  -- No keyword begins at any of the eight characters before the attribute.
  rw [Text.segments_cons_of_none rfl, Text.segments_cons_of_none rfl, Text.segments_cons_of_none rfl,
    Text.segments_cons_of_none rfl, Text.segments_cons_of_none rfl, Text.segments_cons_of_none rfl,
    Text.segments_cons_of_none rfl, Text.segments_cons_of_none rfl]

/-- `renameLine` of an `entryLine` puts what `Replacement.parts` reads in the new `nameAttribute` in the
place of the old one. -/
theorem renameLine_entryLine_eq {old : Text} (hquote : '"' ∉ old) (hfeed : '\n' ∉ old)
    (name : Points) (value : Text) :
    renameLine name (Document.entryLine old value)
      = (Replacement.parts (nameAttribute name)).map fun parts =>
          Points.ofText ['<', 's', 't', 'r', 'i', 'n', 'g', ' ']
            ++ Replacement.expand parts (attributeText old)
            ++ Points.ofText (value ++ Document.entryEnd) := by
  simp only [renameLine,
    Replacement.replaceFirst_of_segments _ (segments_entryLine hquote hfeed value),
    Text.flatMap_text_segments]

/-- `Replacement.tokens` of a `nameAttribute`: those before the name are `plain`. -/
theorem tokens_nameAttribute (name : Points) :
    Replacement.tokens (nameAttribute name)
      = (Points.ofText ['n', 'a', 'm', 'e', '=', '"']).map .plain
        ++ Replacement.tokens (name ++ Points.ofText ['"', '>']) := by
  rw [nameAttribute_eq, Replacement.tokens_append_of_notMem (by decide)]

/-- `renameLine` of an `entryLine` gives the line of the new name, if that `IsVerbatim`. -/
theorem renameLine_entryLine {old : Text} {name : Points} (hquote : '"' ∉ old) (hfeed : '\n' ∉ old)
    (hname : Replacement.IsVerbatim name) (value : Text) :
    renameLine name (Document.entryLine old value) = .ok (Document.entryPoints name value) := by
  have hkept : ∀ token ∈ Replacement.tokens (nameAttribute name), token.IsKept := by
    rw [tokens_nameAttribute, List.forall_mem_append]
    refine ⟨?_, (Replacement.isKept_tokens_append_iff (by decide) (by decide) name).mpr hname⟩
    intro token hmem
    obtain ⟨p, -, rfl⟩ := List.mem_map.mp hmem
    trivial
  have hparts : Replacement.parts (nameAttribute name) = .ok ((nameAttribute name).map .point) := by
    rw [Replacement.parts, Replacement.partsFrom_of_isKept hkept, Replacement.flatMap_text_tokens]
  rw [renameLine_entryLine_eq hquote hfeed, hparts, Except.map, Replacement.expand_point,
    entryPoints_eq_nameAttribute]

/-! ### Renumbering -/

/-- The `Document.entryLine` of an entry. -/
def Entry.line (entry : Entry) : Text :=
  Document.entryLine entry.name.shown entry.value

/-- `renumberFrom` leaves lines as they are whose names are `NamesFrom` the same count. -/
theorem renumberFrom_entryLines {scheme : NameScheme} {count : Nat} {entries : List Entry}
    (hnames : scheme.NamesFrom count entries)
    (h : ∀ entry ∈ entries, '"' ∉ entry.name.shown ∧ '\n' ∉ entry.name.shown ∧
      '\\' ∉ entry.name.shown) :
    scheme.renumberFrom count (entries.map Entry.line)
      = .ok (entries.map fun entry => Document.entryPoints entry.name entry.value) := by
  induction entries generalizing count with
  | nil => rfl
  | cons entry entries ih =>
    obtain ⟨hquote, hfeed, hshown⟩ := h entry (by simp)
    -- The count of lines and the count of the entry go together, so the name is given a second time.
    have hname : scheme.name ((count : Int) + 1) = .ok entry.name := hnames.1
    have hbackslash : Replacement.backslash ∉ entry.name :=
      fun hmem => hshown (Points.mem_shown hmem)
    have hline : renameLine entry.name entry.line = .ok (Document.entryPoints entry.name entry.value) :=
      renameLine_entryLine hquote hfeed (Replacement.isVerbatim_of_notMem hbackslash) entry.value
    have hrest : scheme.renumberFrom (count + 1) (entries.map Entry.line)
        = .ok (entries.map fun entry => Document.entryPoints entry.name entry.value) :=
      ih (by simpa using hnames.2) fun other hmem => h other (by simp [hmem])
    rw [List.map_cons, NameScheme.renumberFrom, hname]
    simp only [hline, hrest, Except.map, List.map_cons]

/-- `Points.text?` gives the line of each entry, if no name has halves. -/
theorem mapM_text?_entryPoints {entries : List Entry}
    (h : ∀ entry ∈ entries, entry.name.text? ≠ none) :
    (entries.map fun entry => Document.entryPoints entry.name entry.value).mapM Points.text?
      = some (entries.map Entry.line) := by
  induction entries with
  | nil => rfl
  | cons entry entries ih =>
    have hline : (Document.entryPoints entry.name entry.value).text? = some entry.line := by
      rw [Points.text?_eq_some, Document.shown_entryPoints, Points.shown_ofText]
      · rfl
      · rw [ne_eq, Document.entryPoints_text?_eq_none_iff, Points.text?_ofText]
        simpa using h entry (by simp)
    have hrest := ih fun other hmem => h other (by simp [hmem])
    rw [List.map_cons, List.mapM_cons, hline, hrest]
    rfl

/-- `renumber` leaves lines as they are whose names are `NamesFrom` zero, if no name has halves. -/
theorem renumber_entryLines {scheme : NameScheme} {entries : List Entry}
    (hnames : scheme.NamesFrom 0 entries)
    (h : ∀ entry ∈ entries, '"' ∉ entry.name.shown ∧ '\n' ∉ entry.name.shown ∧
      '\\' ∉ entry.name.shown)
    (htext : ∀ entry ∈ entries, entry.name.text? ≠ none) :
    scheme.renumber (entries.map Entry.line) = .ok (entries.map Entry.line) := by
  rw [NameScheme.renumber, NameScheme.renumbered, renumberFrom_entryLines hnames h]
  simp only [mapM_text?_entryPoints htext]

end Externalize
