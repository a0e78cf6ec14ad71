import Externalize.Proofs.Source.Swap

/-!
# `Externalize.Proofs.Source.Rescan`: nothing is left in markup that was relinked

A second scan of relinked markup finds values where a stretch between quotes opens an attribute and the
next one is plain. A reference is neither: it begins with its mark, and under the default names it
does not end like an attribute. So the two stretches stood there before (`SwapsValues.isAttributeAt`),
and the first scan found the value or the stretch before it. What was found and is not blank was
swapped, unless the stretch before it was swapped for the same value.

All of this needs that no value opens an attribute itself, for then the first scan may take its quote
away from the next value, which stays. `rescan_accepts_nothing` asks that no accepted value holds the
name space of the attributes.
-/

set_option autoImplicit false

namespace Externalize

/-- Whether `dropKeyword?` finds the keyword somewhere in the text. -/
def Text.holdsKeyword (keyword : Text) : Text → Bool
  | [] => keyword.isEmpty
  | c :: rest => (dropKeyword? keyword (c :: rest)).isSome || holdsKeyword keyword rest

namespace Literal

/-- A text that `opensAttribute` holds the keyword `attributeSpace`. -/
theorem holdsKeyword_of_opensAttribute {text : Text} (h : opensAttribute text = true) :
    Text.holdsKeyword attributeSpace text = true := by
  induction text with
  | nil => simp [opensAttribute] at h
  | cons c text ih =>
    rw [opensAttribute, Bool.or_eq_true] at h
    rw [Text.holdsKeyword, Bool.or_eq_true]
    refine h.imp (fun hhead => ?_) ih
    obtain ⟨left, hleft, -⟩ := (Option.any_eq_true _ _).mp hhead
    rw [hleft]
    rfl

/-- A text that `opensAttribute` holds the equals sign before the value. -/
theorem equals_mem_of_opensAttribute {text : Text} (h : opensAttribute text = true) : '=' ∈ text := by
  have hspace : '"' ∉ attributeSpace := by decide
  have hnames : ∀ name ∈ attributeNames, '"' ∉ name := by decide
  induction text with
  | nil => simp [opensAttribute] at h
  | cons c text ih =>
    rw [opensAttribute, Bool.or_eq_true] at h
    rcases h with hhead | hopens
    · obtain ⟨left, hleft, hany⟩ := (Option.any_eq_true _ _).mp hhead
      obtain ⟨name, hname, hdrop⟩ := List.any_eq_true.mp hany
      obtain ⟨front, hfront, -⟩ := Text.dropKeyword?_eq_some hleft hspace
      obtain ⟨front', hfront', -⟩ :=
        Text.dropKeyword?_eq_some (beq_iff_eq.mp hdrop) (hnames name hname)
      rw [hfront, hfront']
      simp
    · exact List.mem_cons_of_mem _ (ih hopens)

/-- A text that `opensAttribute` is not `isAllBlank`. -/
theorem isAllBlank_of_opensAttribute {text : Text} (h : opensAttribute text = true) :
    text.isAllBlank = false := by
  cases hblank : text.isAllBlank with
  | false => rfl
  | true =>
    have hequals := List.all_eq_true.mp hblank _ (equals_mem_of_opensAttribute h)
    exact absurd hequals (by decide)

end Literal

open Literal (opensAttribute)
open Quotation (IsAttributeAt)

/-- The `markupReference` of an entry does not `opensAttribute`, if its name holds no equals sign. -/
theorem Entry.opensAttribute_markupReference {entry : Entry} (h : '=' ∉ entry.name.shown) :
    opensAttribute entry.markupReference = false := by
  have hstart : '=' ∉ "@string/".toList := by decide
  rw [← Bool.not_eq_true]
  intro hopens
  have hequals := Literal.equals_mem_of_opensAttribute hopens
  rw [markupReference_eq, List.mem_append] at hequals
  exact hequals.elim hstart h

/-- `IsAttributeAt` holds of the new pieces only where it held of the old ones, if no reference
`opensAttribute`. -/
theorem SwapsValues.isAttributeAt {entries : List Entry} {old new : List Text}
    (h : SwapsValues entries old new)
    (hopens : ∀ entry ∈ entries, opensAttribute entry.markupReference = false) {place : Nat}
    {front value : Text} (hat : IsAttributeAt new place front value) :
    IsAttributeAt old place front value := by
  have hclosed : place + 2 < old.length := h.length ▸ hat.closed
  obtain ⟨segment, hsegment⟩ : ∃ segment, old[place + 1]? = some segment :=
    ⟨_, List.getElem?_eq_getElem (by omega)⟩
  have hnext : old[place + 1]? = some value := by
    rcases h.between place segment hclosed hsegment with hsame | ⟨entry, -, -, hswapped⟩
    · rw [hsegment, ← hsame, hat.next]
    · -- A reference is no plain value.
      obtain rfl := Option.some.inj (hat.next.symm.trans hswapped)
      exact absurd entry.head?_markupReference hat.plain.2.1
  have hhere : old[place]? = some front := by
    cases place with
    | zero => rw [← List.head?_eq_getElem?, ← h.first, List.head?_eq_getElem?, hat.here]
    | succ place =>
      obtain ⟨segment, hsegment⟩ : ∃ segment, old[place + 1]? = some segment :=
        ⟨_, List.getElem?_eq_getElem (by omega)⟩
      rcases h.between place segment (by omega) hsegment with hsame | ⟨entry, hmem, -, hswapped⟩
      · rw [hsegment, ← hsame, hat.here]
      · obtain rfl := Option.some.inj (hat.here.symm.trans hswapped)
        exact absurd hat.opens (by simp [hopens entry hmem])
  exact ⟨hhere, hnext, hclosed, hat.opens, hat.plain⟩

section
variable {scheme : NameScheme} {text : Text} {count : Int} {result : Scan}

/-- A literal whose value is not `isAllBlank` has one of the entries of the `scan`. -/
theorem exists_entry_of_literal {kind : Kind} (h : scan scheme kind text count = .ok result)
    {literal : Literal} (hmem : literal ∈ literals kind text) {value : Text}
    (hraw : literal.raw = quoted value) (hblank : value.isAllBlank = false) :
    ∃ entry ∈ result.entries, entry.value = value := by
  have hvalue : literal.value = value := by rw [Literal.value, hraw, unquoted_quoted]
  obtain ⟨entry, hentry, heq⟩ := List.mem_map.mp
    ((mem_raws_of_scan h literal.raw).mpr ⟨literal, hmem, hvalue ▸ hblank, rfl⟩)
  exact ⟨entry, hentry, by rw [Entry.value, heq, hraw, unquoted_quoted]⟩

/-- The literals of relinked markup are `isAllBlank`, if neither a value nor a reference
`opensAttribute`. -/
theorem isAllBlank_of_mem_relinked (h : scan scheme .markup text count = .ok result)
    (hswaps : SwapsValues result.entries (text.splitOn '"')
      ((relink .markup result.entries text).splitOn '"'))
    (hvalues : ∀ entry ∈ result.entries, opensAttribute entry.value = false)
    (hreferences : ∀ entry ∈ result.entries, opensAttribute entry.markupReference = false)
    {literal : Literal} (hmem : literal ∈ literals .markup (relink .markup result.entries text)) :
    literal.value.isAllBlank = true := by
  obtain ⟨place, front, value, hat, hraw⟩ := Quotation.exists_isAttributeAt_of_mem_literals hmem
  have hvalue : literal.value = value := by rw [Literal.value, hraw, unquoted_quoted]
  rw [hvalue, ← Bool.not_eq_false]
  intro hblank
  have hbefore := hswaps.isAttributeAt hreferences hat
  obtain ⟨found, hfound, hspelling⟩ := Quotation.mem_literals_of_isAttributeAt hbefore
  rcases hspelling with hspelling | hspelling
  · -- The value was found, so it was swapped unless the stretch before it was.
    obtain ⟨entry, hentry, rfl⟩ := exists_entry_of_literal h hfound hspelling hblank
    have hstays : ¬((relink .markup result.entries text).splitOn '"')[place + 1]?
        = some entry.markupReference := by
      rw [hat.next, Option.some.injEq]
      exact fun heq => hat.plain.2.1 (heq ▸ entry.head?_markupReference)
    rw [hswaps.swapped entry hentry place hbefore.closed hbefore.next, Classical.not_not] at hstays
    obtain rfl : front = entry.value := Option.some.inj (hbefore.here.symm.trans hstays.2.1)
    exact absurd hbefore.opens (by simp [hvalues entry hentry])
  · -- The stretch before the value was found, and it opens an attribute.
    obtain ⟨entry, hentry, rfl⟩ := exists_entry_of_literal h hfound hspelling
      (Literal.isAllBlank_of_opensAttribute hat.opens)
    exact absurd hbefore.opens (by simp [hvalues entry hentry])

end

/-- Take a `scan` of markup under the default names, and suppose that the value of no entry holds
`Literal.attributeSpace`. Then `scan` of what `relink` makes of the markup gives no entries, under any
scheme and from any count on. -/
theorem rescan_accepts_nothing {accessor : Bool} {scheme : NameScheme} {text : Text} {count : Int}
    {result : Scan} (hbuild : NameScheme.build none none accessor = .ok scheme)
    (hscan : scan scheme .markup text count = .ok result)
    (hspace : ∀ entry ∈ result.entries,
      Text.holdsKeyword Literal.attributeSpace entry.value = false) (other : NameScheme)
    (start : Int) :
    ∃ again, scan other .markup (relink .markup result.entries text) start = .ok again ∧
      again.entries = [] := by
  have hname : ∀ entry ∈ result.entries, ∃ number, scheme.name number = .ok entry.name :=
    fun entry hmem => (scan_namesFrom hscan).exists_count hmem
  have hquotes : ∀ entry ∈ result.entries, Point.char '"' ∉ entry.name := by
    intro entry hmem hquote
    obtain ⟨number, hnumber⟩ := hname entry hmem
    exact NameScheme.quote_notMem_default_name hbuild hnumber (List.mem_map_of_mem hquote)
  -- Neither a value nor a reference can open an attribute, so `relink` makes no new one.
  have hvalues : ∀ entry ∈ result.entries, opensAttribute entry.value = false := by
    intro entry hmem
    rw [← Bool.not_eq_true]
    intro hopens
    simpa [hspace entry hmem] using Literal.holdsKeyword_of_opensAttribute hopens
  have hreferences : ∀ entry ∈ result.entries, opensAttribute entry.markupReference = false := by
    intro entry hmem
    obtain ⟨number, hnumber⟩ := hname entry hmem
    exact Entry.opensAttribute_markupReference
      (NameScheme.notMem_default_name hbuild hnumber (by decide) (by decide) (by decide))
  obtain ⟨hswappable, href⟩ := areSwappable_of_scan hscan hquotes
  have hswaps := Quotation.relink_markup_swaps hswappable href text
  exact scan_of_isAllBlank (fun _ hmem =>
    isAllBlank_of_mem_relinked hscan hswaps hvalues hreferences hmem) other start

/-- `rescan_accepts_nothing` at a text of which much is left: references, a blank value, the second of
two equal values next to each other, and a quote that nothing closes. -/
theorem rescan_accepts_nothing_left :
    let rest := "\"x\" android:hint=\"?y\" android:title=\" \" android:label=\"z".toList
    let text := "<a ANDROID:text=\"x".toList ++ rest
    let left := "<a ANDROID:text=\"@string/extracted_string8".toList ++ rest
    ∃ scheme result, NameScheme.build none none false = .ok scheme ∧
      scan scheme .markup text 7 = .ok result ∧
      (∀ entry ∈ result.entries,
        Text.holdsKeyword Literal.attributeSpace entry.value = false) ∧
      relink .markup result.entries text = left ∧
      ∀ other start, ∃ again, scan other .markup left start = .ok again ∧ again.entries = [] := by
  intro rest text left
  have hbuild : NameScheme.build none none false
      = .ok ⟨NameScheme.defaultStem, NameScheme.defaultEnding, false⟩ := rfl
  let entries : List Entry :=
    [⟨Points.ofText "extracted_string8".toList, "\"x\"".toList, "@string/extracted_string8".toList⟩]
  obtain ⟨result, hscan, hentries⟩ : ∃ result,
      scan ⟨NameScheme.defaultStem, NameScheme.defaultEnding, false⟩ .markup text 7 = .ok result ∧
        result.entries = entries := exists_scan_of_entries (by decide +kernel)
  have hspace : ∀ entry ∈ result.entries,
      Text.holdsKeyword Literal.attributeSpace entry.value = false := by
    rw [hentries]
    decide +kernel
  have hleft : relink .markup result.entries text = left := by
    rw [hentries]
    decide +kernel
  have hagain := rescan_accepts_nothing hbuild hscan hspace
  rw [hleft] at hagain
  exact ⟨_, result, hbuild, hscan, hspace, hleft, hagain⟩

end Externalize
