import Externalize.Proofs.Job
import Externalize.Proofs.Text.Utf8
import Externalize.Resource.Store

/-!
# `Externalize.Proofs.Resource.Writer`: what a writer does to its file

`Writer.StandsOn` says that the file of a writer is there and what it holds. What a writer has written is
what its file holds followed by what is `pending`; each of its steps is stated on that, and leaves a
writer that stands on the file (`flush_ends`, `hold_ends`, `write_of_text`, `write_of_halves`,
`close_ends`, `save_of_text`, `save_of_octets`).

`Disk.Opens` says when entries can be added at a path at all: nothing stands there, or an empty file,
or a file that looks like a resource document. `Job.start_ends` says that exactly then `Writer.start`
gives a writer. `writeAll_of_text` and `writeAll_of_halves` follow `writeAll` from entry to entry, and
`session_of_text`, `session_of_octets` and `session_of_halves` are the three ways in which a `session` on
a file that opens can end.
-/

set_option autoImplicit false

namespace Externalize

/-! ### Entries that a file can hold -/

theorem Utf8.encodePoints_of_text {points : Points} (h : points.text? ≠ none) :
    encodePoints points = .ok (encode points.shown) := by
  rw [encodePoints, Points.text?_eq_some h]

theorem Utf8.encodePoints_of_halves {points : Points} (h : points.text? = none) :
    encodePoints points = .error (firstHalves points) := by
  rw [encodePoints, h]

namespace Document

/-- `entryPoints` has halves exactly if the name or the value does. -/
theorem entryPoints_text?_eq_none_iff (name value : Points) :
    (entryPoints name value).text? = none ↔ name.text? = none ∨ value.text? = none := by
  have hplain : ∀ text : Text, ¬∃ point ∈ Points.ofText text, point.isHalf = true := by
    intro text hhalf
    rw [← Points.text?_eq_none_iff, Points.text?_ofText] at hhalf
    cases hhalf
  simp only [Points.text?_eq_none_iff, entryPoints, List.mem_append, or_and_right, exists_or, hplain,
    false_or, or_false]

/-- `shown` of `entryPoints`: the `entryLine` of what is shown of the name and of the value. -/
theorem shown_entryPoints (name value : Points) :
    (entryPoints name value).shown = entryLine name.shown value.shown := by
  have happend : ∀ front back : Points, (front ++ back).shown = front.shown ++ back.shown :=
    fun _ _ => List.map_append
  simp only [entryPoints, happend, Points.shown_ofText]
  rfl

end Document

/-! ### Steps on a file that is there -/

theorem Disk.Wrote.self {disk : Disk} {place : Location} {octets : Octets}
    (h : disk.get? place = some (.file octets)) : Disk.Wrote disk disk place octets :=
  ⟨.refl disk, fun location => by split <;> simp_all⟩

namespace Job

open Disk (Wrote)

section
variable {space : Workspace} {path : Path} {place : Location} {octets : Octets}

theorem writeText_wrote (text : Text) (previous : Option Octets) (hzero : ¬HasZero path)
    (hlocate : space.disk.locate path = .ok place)
    (hget : space.disk.get? place = previous.map .file) :
    ∃ after, (writeText path text).ends space = (.ok (), after) ∧
      Wrote space.disk after.disk place (Utf8.encode text) := by
  obtain ⟨disk, hwrite, hwrote⟩ :=
    Disk.update_wrote (fun _ => Utf8.encode text) previous hlocate hget
  refine ⟨{ space with disk }, ?_, hwrote⟩
  unfold writeText
  rw [ends_writeOctets, if_neg hzero, Disk.write, hwrite]

theorem appendOctets_wrote (more : Octets) (previous : Option Octets) (hzero : ¬HasZero path)
    (hlocate : space.disk.locate path = .ok place)
    (hget : space.disk.get? place = previous.map .file) :
    ∃ after, (appendOctets path more).ends space = (.ok (), after) ∧
      Wrote space.disk after.disk place (previous.getD [] ++ more) := by
  obtain ⟨disk, hwrite, hwrote⟩ := Disk.update_wrote (· ++ more) previous hlocate hget
  refine ⟨{ space with disk }, ?_, hwrote⟩
  rw [ends_appendOctets, if_neg hzero, Disk.append, hwrite]

/-- `readLines` of a file that holds text. -/
theorem readLines_of_text {text : Text} (hzero : ¬HasZero path)
    (hread : space.disk.read path = .ok octets) (hdecode : Utf8.decode octets = .ok text) :
    (readLines path).ends space = (.ok (Text.unifyBreaks text), space) := by
  rw [ends_readLines, readText, ends_bind, ends_readOctets, if_neg hzero]
  simp [hread, hdecode]

/-- `readLines` of octets that are no text ends with `octets`. -/
theorem readLines_of_octets {fault : Utf8.Fault} (hzero : ¬HasZero path)
    (hread : space.disk.read path = .ok octets) (hdecode : Utf8.decode octets = .error fault) :
    (readLines path).ends space = (.error (.interruption (.octets fault)), space) := by
  rw [ends_readLines, readText, ends_bind, ends_readOctets, if_neg hzero]
  simp [hread, hdecode]

end

end Job

namespace Writer

open Disk (Wrote)

/-- Whether the writer takes entries: there is something that can be `pending`. -/
def isOpen (writer : Writer) : Bool :=
  writer.pending.isSome

/-- The octets that are `pending`; none if the file is closed. -/
def unflushed (writer : Writer) : Octets :=
  writer.pending.getD []

/-- The writer after `close`. -/
def closed (writer : Writer) : Writer :=
  { writer with pending := none }

/-- The `path` of the writer leads to `place`, where a file of `octets` stands. -/
structure StandsOn (writer : Writer) (space : Workspace) (place : Location) (octets : Octets) :
    Prop where
  noZero : ¬Job.HasZero writer.path
  locate : space.disk.locate writer.path = .ok place
  holds : space.disk.get? place = some (.file octets)

section
variable {writer : Writer} {space after : Workspace} {place : Location} {octets pending : Octets}
  {name value : Points}

/-- `StandsOn` for a file that was written, and any writer of the same `path`. -/
theorem StandsOn.of_wrote (h : writer.StandsOn space place octets) (now : Writer) {held : Octets}
    (hpath : now.path = writer.path) (hwrote : Wrote space.disk after.disk place held) :
    now.StandsOn after place held := by
  refine ⟨hpath ▸ h.noZero, ?_, hwrote.get?_place⟩
  rw [hpath]
  exact (hwrote.folders.locate_iff writer.path place).mp h.locate

theorem flush_ends (h : writer.StandsOn space place octets) (more : Octets) :
    ∃ after, (writer.flush more).ends space = (.ok (), after) ∧
      Wrote space.disk after.disk place (octets ++ more) ∧ (more = [] → after = space) := by
  unfold flush
  split
  · rename_i hempty
    obtain rfl : more = [] := List.isEmpty_iff.mp hempty
    exact ⟨space, rfl, by simpa using Wrote.self h.holds, fun _ => rfl⟩
  · rename_i hsome
    obtain ⟨after, hafter, hwrote⟩ :=
      Job.appendOctets_wrote more (some octets) h.noZero h.locate h.holds
    exact ⟨after, hafter, hwrote, fun hnil => absurd (List.isEmpty_iff.mpr hnil) hsome⟩

/-- `hold` leaves what is held in the file or pending, and less than `bufferSize` of it is pending. -/
theorem hold_ends (h : writer.StandsOn space place octets) (more : Octets) :
    ∃ held put after, (writer.hold more).ends space = (.ok held, after) ∧
      Wrote space.disk after.disk place put ∧ put ++ held = octets ++ more ∧
      held.length < bufferSize := by
  unfold hold
  split
  · rename_i hfits
    exact ⟨more, octets, space, rfl, .self h.holds, rfl, hfits⟩
  · obtain ⟨after, hafter, hwrote, -⟩ := flush_ends h more
    exact ⟨[], _, after, Job.ends_bind_ok hafter, hwrote, List.append_nil _, by decide⟩

/-- `write` of an entry that a file can hold puts its line in the file, behind what was `pending` and a
break. -/
theorem write_of_text (h : writer.StandsOn space place octets) (hpending : writer.pending = some pending)
    (htext : (Document.entryPoints name value).text? ≠ none) :
    ∃ after, (writer.write name value).ends space
        = (.ok ({ writer with written := writer.written + 1, pending := some [] }, none), after) ∧
      Wrote space.disk after.disk place (octets ++ pending ++
        Utf8.encode (Document.lineBreak ++ (Document.entryPoints name value).shown)) := by
  obtain ⟨held, put, mid, hmid, hput, hheld, -⟩ :=
    hold_ends h (pending ++ Utf8.encode Document.lineBreak)
  obtain ⟨after, hafter, hwrote, -⟩ := flush_ends (h.of_wrote writer rfl hput)
    (held ++ Utf8.encode (Document.entryPoints name value).shown)
  refine ⟨after, ?_, ?_⟩
  · simp only [write, hpending, Utf8.encodePoints_of_text htext]
    rw [Job.ends_bind_ok hmid, Job.ends_bind_ok hafter]
    rfl
  · rw [← List.append_assoc, hheld] at hwrote
    simpa [Utf8.encode_append] using hput.trans hwrote

/-- `write` of an entry that no file can hold leaves the break before it, which may stay `pending`. -/
theorem write_of_halves (h : writer.StandsOn space place octets)
    (hpending : writer.pending = some pending)
    (hhalves : (Document.entryPoints name value).text? = none) :
    ∃ held put after, (writer.write name value).ends space
        = (.ok ({ writer with pending := some held }, some (.interruption (.halves
            (Utf8.firstHalves (Document.entryPoints name value))))), after) ∧
      Wrote space.disk after.disk place put ∧
      put ++ held = octets ++ pending ++ Utf8.encode Document.lineBreak ∧
      held.length < bufferSize := by
  obtain ⟨held, put, after, hafter, hput, hheld, hfits⟩ :=
    hold_ends h (pending ++ Utf8.encode Document.lineBreak)
  refine ⟨held, put, after, ?_, hput, by rw [hheld, List.append_assoc], hfits⟩
  simp only [write, hpending, Utf8.encodePoints_of_halves hhalves]
  rw [Job.ends_bind_ok hafter]
  rfl

/-- `write` with a closed writer raises `closed` and changes nothing. -/
theorem write_of_closed (hpending : writer.pending = none) (name value : Points) (space : Workspace) :
    (writer.write name value).ends space = (.ok (writer, some .closed), space) := by
  simp only [write, hpending]
  rfl

/-- `close` puts what is `pending` into the file, and changes nothing if that is nothing. -/
theorem close_ends (h : writer.StandsOn space place octets) :
    ∃ after, writer.close.ends space = (.ok writer.closed, after) ∧
      Wrote space.disk after.disk place (octets ++ writer.unflushed) ∧
      (writer.unflushed = [] → after = space) := by
  unfold close
  cases hpending : writer.pending with
  | none =>
    have hclosed : writer.closed = writer := by rw [closed, ← hpending]
    refine ⟨space, by rw [hclosed]; rfl, ?_, fun _ => rfl⟩
    simpa [unflushed, hpending] using Wrote.self h.holds
  | some pending =>
    obtain ⟨after, hafter, hwrote, hsame⟩ := flush_ends h pending
    refine ⟨after, Job.ends_bind_ok hafter, ?_, ?_⟩
    · simpa [unflushed, hpending] using hwrote
    · simpa [unflushed, hpending] using hsame

/-- `merge` of a file that holds text leaves what `Document.format` makes of it. -/
theorem merge_of_text (h : writer.StandsOn space place octets) {text : Text}
    (hdecode : Utf8.decode octets = .ok text) :
    ∃ after, writer.merge.ends space = (.ok (), after) ∧
      Wrote space.disk after.disk place (Utf8.encode (Document.format (Text.unifyBreaks text))) := by
  have hread : space.disk.read writer.path = .ok octets :=
    Disk.read_eq_ok_iff.mpr ⟨place, h.locate, .inl h.holds⟩
  obtain ⟨after, hafter, hwrote⟩ := Job.writeText_wrote (Document.format (Text.unifyBreaks text))
    (some octets) h.noZero h.locate h.holds
  have hformat : (Job.formatFile writer.path).ends space = (.ok (), after) := by
    rw [Job.formatFile, Job.ends_bind_ok (Job.readLines_of_text h.noZero hread hdecode)]
    exact hafter
  unfold merge
  exact ⟨_, Job.ends_bind_ok hformat, hwrote⟩

/-- `merge` of octets that are no text changes nothing. -/
theorem merge_of_octets (h : writer.StandsOn space place octets) {fault : Utf8.Fault}
    (hdecode : Utf8.decode octets = .error fault) :
    writer.merge.ends space = (.error (.interruption (.octets fault)), space) := by
  have hread : space.disk.read writer.path = .ok octets :=
    Disk.read_eq_ok_iff.mpr ⟨place, h.locate, .inl h.holds⟩
  unfold merge Job.formatFile
  exact Job.ends_bind_error (Job.ends_bind_error (Job.readLines_of_octets h.noZero hread hdecode))

/-- `save` leaves what `Document.format` makes of what was written, if it is text. -/
theorem save_of_text (h : writer.StandsOn space place octets) {text : Text}
    (hdecode : Utf8.decode (octets ++ writer.unflushed) = .ok text) :
    ∃ after, writer.save.ends space = (.ok writer.closed, after) ∧
      Wrote space.disk after.disk place (Utf8.encode (Document.format (Text.unifyBreaks text))) := by
  obtain ⟨mid, hmid, hput, -⟩ := close_ends h
  obtain ⟨after, hafter, hwrote⟩ := merge_of_text (h.of_wrote writer.closed rfl hput) hdecode
  refine ⟨after, ?_, hput.trans hwrote⟩
  unfold save
  rw [Job.ends_bind_ok hmid, Job.ends_bind_ok hafter]
  rfl

/-- `save` only puts what is `pending` into the file, if what is there then is no text. -/
theorem save_of_octets (h : writer.StandsOn space place octets) {fault : Utf8.Fault}
    (hdecode : Utf8.decode (octets ++ writer.unflushed) = .error fault) :
    ∃ after, writer.save.ends space = (.error (.interruption (.octets fault)), after) ∧
      Wrote space.disk after.disk place (octets ++ writer.unflushed) := by
  obtain ⟨after, hafter, hput, -⟩ := close_ends h
  refine ⟨after, ?_, hput⟩
  unfold save
  rw [Job.ends_bind_ok hafter]
  exact Job.ends_bind_error (merge_of_octets (h.of_wrote writer.closed rfl hput) hdecode)

end

/-! ### Entries one after the other -/

/-- The break before an entry and its line, as far as it can be `shown`. -/
def entryText (entry : Points × Points) : Text :=
  Document.lineBreak ++ (Document.entryPoints entry.1 entry.2).shown

/-- A file can hold each of the entries. -/
def Legible (entries : List (Points × Points)) : Prop :=
  ∀ entry ∈ entries, (Document.entryPoints entry.1 entry.2).text? ≠ none

section
variable {writer : Writer} {space : Workspace} {place : Location} {octets : Octets}
  {entries : List (Points × Points)}

/-- `writeAll` of entries that are `Legible` puts all of them into the file. -/
theorem writeAll_of_text (h : writer.StandsOn space place octets) (hpending : writer.pending = some [])
    (htext : Legible entries) :
    ∃ now after, (writer.writeAll entries).ends space = (.ok (now, none), after) ∧
      now.path = writer.path ∧ now.pending = some [] ∧
      Wrote space.disk after.disk place (octets ++ Utf8.encode (entries.flatMap entryText)) := by
  -- What is added is collected behind the octets, so these are general in the induction.
  induction entries generalizing writer space octets with
  | nil => exact ⟨writer, space, rfl, rfl, hpending, by simpa using Wrote.self h.holds⟩
  | cons entry entries ih =>
    obtain ⟨name, value⟩ := entry
    obtain ⟨mid, hmid, hwrote⟩ := write_of_text h hpending (htext _ List.mem_cons_self)
    rw [List.append_nil] at hwrote
    obtain ⟨now, after, hafter, hpath, hnow, hwrote'⟩ := ih
      (h.of_wrote { writer with written := writer.written + 1, pending := some [] } rfl hwrote)
      rfl fun entry hmem => htext entry (List.mem_cons_of_mem _ hmem)
    refine ⟨now, after, ?_, hpath, hnow, ?_⟩
    · rw [writeAll, Job.ends_bind_ok hmid]
      exact hafter
    · simpa [entryText, Utf8.encode_append] using hwrote.trans hwrote'

/-- `writeAll` ends at the first entry that no file can hold, with a break behind the others. -/
theorem writeAll_of_halves (h : writer.StandsOn space place octets)
    (hpending : writer.pending = some []) (hhalves : ¬Legible entries) :
    ∃ now halves put more after,
      (writer.writeAll entries).ends space
        = (.ok (now, some (.interruption (.halves halves))), after) ∧
      now.path = writer.path ∧ Wrote space.disk after.disk place put ∧
      put ++ now.unflushed = octets ++ Utf8.encode (Document.lineBreak ++ more) := by
  induction entries generalizing writer space octets with
  | nil => exact absurd (by simp [Legible]) hhalves
  | cons entry entries ih =>
    obtain ⟨name, value⟩ := entry
    by_cases htext : (Document.entryPoints name value).text? = none
    -- The first entry is the one that cannot be written: nothing but its break is put there.
    · obtain ⟨held, put, after, hafter, hwrote, hheld, -⟩ := write_of_halves h hpending htext
      refine ⟨{ writer with pending := some held },
        Utf8.firstHalves (Document.entryPoints name value), put, [], after, ?_, rfl, hwrote, ?_⟩
      · rw [writeAll, Job.ends_bind_ok hafter]
        rfl
      · simpa [unflushed] using hheld
    -- The first entry is written, and a later one cannot be.
    · obtain ⟨mid, hmid, hwrote⟩ := write_of_text h hpending htext
      rw [List.append_nil] at hwrote
      have hrest : ¬Legible entries := fun hrest => hhalves fun entry hmem => by
        rcases List.mem_cons.mp hmem with rfl | hmem
        · exact htext
        · exact hrest entry hmem
      obtain ⟨now, halves, put, more, after, hafter, hpath, hwrote', hput⟩ := ih
        (h.of_wrote { writer with written := writer.written + 1, pending := some [] } rfl hwrote)
        rfl hrest
      refine ⟨now, halves, put, (Document.entryPoints name value).shown ++ Document.lineBreak ++ more,
        after, ?_, hpath, hwrote.trans hwrote', ?_⟩
      · rw [writeAll, Job.ends_bind_ok hmid]
        exact hafter
      · rw [hput]
        simp [Utf8.encode_append]

end

end Writer

/-! ### Opening -/

/-- Entries can be added at the target: nothing stands there, or an empty file, or a file that looks
like a resource document. -/
structure Disk.Opens (disk : Disk) (target : Path) (place : Location) (previous : Option Octets) :
    Prop where
  noZero : ¬Job.HasZero target
  locate : disk.locate target = .ok place
  holds : disk.get? place = previous.map .file
  resource : ∀ octets ∈ previous, octets ≠ [] → looksLikeResource octets = true

/-- A target `Opens` in one way only. -/
theorem Disk.Opens.unique {disk : Disk} {target : Path} {place place' : Location}
    {previous previous' : Option Octets} (h : disk.Opens target place previous)
    (h' : disk.Opens target place' previous') : place' = place ∧ previous' = previous := by
  have hplace : place' = place := Except.ok.inj (h'.locate.symm.trans h.locate)
  subst hplace
  refine ⟨rfl, Option.map_injective (fun _ _ => Node.file.inj) (h'.holds.symm.trans h.holds)⟩

/-- The `previous` octets of a target that `Opens` are those of the file that stands there. -/
theorem Disk.Opens.previous_eq {disk : Disk} {target : Path} {place : Location}
    {previous : Option Octets} {octets : Octets} (h : disk.Opens target place previous)
    (hget : disk.get? place = some (.file octets)) : previous = some octets := by
  obtain ⟨held, hprevious, hnode⟩ := Option.map_eq_some_iff.mp (h.holds.symm.trans hget)
  rw [hprevious, Node.file.inj hnode]

/-- A node that `find` finds where a target `Opens` is a file. -/
theorem Disk.Opens.exists_file {disk : Disk} {target : Path} {place location : Location}
    {previous : Option Octets} {node : Node} (h : disk.Opens target place previous)
    (hfind : disk.find target = .ok (location, node)) :
    ∃ octets, previous = some octets ∧ node = .file octets := by
  obtain ⟨hlocate, hget⟩ := find_eq_ok_iff.mp hfind
  obtain rfl := Except.ok.inj (h.locate.symm.trans hlocate)
  obtain ⟨octets, hprevious, hnode⟩ := Option.map_eq_some_iff.mp (h.holds.symm.trans hget)
  exact ⟨octets, hprevious, hnode.symm⟩

/-- A fault that `reported` turns into a problem: it is an `interruption`, or a `problem` already. -/
def Fault.IsReported : Fault → Prop
  | .interruption _ | .problem _ => True
  | _ => False

namespace Job

open Disk (Wrote Opens)

/-- A fault that comes of the path: `zeroInPath` if the path `HasZero`, and else one that `IsReported`. -/
def RefusedFor (path : Path) (fault : Fault) : Prop :=
  if HasZero path then fault = .zeroInPath else fault.IsReported

/-- Whether `looksLikeResource` holds of a file that stands there. -/
def recognises : Option Node → Bool
  | some (.file octets) => looksLikeResource octets
  | _ => false

theorem isResourceFile_ends {path : Path} {space : Workspace} {node : Option Node}
    (h : (node? path).ends space = (.ok node, space)) :
    (isResourceFile path).ends space = (.ok (recognises node), space) := by
  unfold isResourceFile
  rw [ends_bind_ok h]
  match node with
  | none => rfl
  | some .folder => rfl
  | some .device => rfl
  | some (.file octets) => rfl

/-- `Writer.start` ends with `notResource` at a node that holds something and that it does not
`recognises`. -/
theorem start_refused {target : Path} {space : Workspace} {node : Option Node}
    (h : (node? target).ends space = (.ok node, space))
    (hnode : (Writer.holdsSomething node && !recognises node) = true) :
    (Writer.start target).ends space = (.error (.problem (.notResource target)), space) := by
  unfold Writer.start
  rw [ends_bind_ok h, ends_bind_ok (isResourceFile_ends h), if_pos hnode]
  rfl

/-- `Writer.start` at any other node adds nothing to the file, which makes it if it is not there. -/
theorem start_of_node {target : Path} {space : Workspace} {node : Option Node}
    (h : (node? target).ends space = (.ok node, space))
    (hnode : (Writer.holdsSomething node && !recognises node) = false) :
    (Writer.start target).ends space = (appendOctets target [] >>= fun _ =>
      (return { path := target, existed := Writer.holdsSomething node
                recognised := recognises node } : Job Writer)).ends space := by
  unfold Writer.start
  rw [ends_bind_ok h, ends_bind_ok (isResourceFile_ends h), if_neg (by simp [hnode])]

/-- A writer that `Writer.start` just gave: nothing is `written`, and its file is there and holds what
it held before. -/
structure Started (space opened : Workspace) (writer : Writer) (target : Path) (place : Location)
    (previous : Option Octets) : Prop where
  path : writer.path = target
  pending : writer.pending = some []
  written : writer.written = 0
  standsOn : writer.StandsOn opened place (previous.getD [])
  wrote : Wrote space.disk opened.disk place (previous.getD [])

/-- `Writer.start` gives a writer at a target that `Opens`. -/
theorem start_opens {target : Path} {space : Workspace} {node : Option Node} {place : Location}
    {previous : Option Octets} (h : (node? target).ends space = (.ok node, space))
    (hnode : (Writer.holdsSomething node && !recognises node) = false)
    (hopens : space.disk.Opens target place previous) :
    ∃ writer opened, (Writer.start target).ends space = (.ok writer, opened) ∧
      Started space opened writer target place previous := by
  obtain ⟨opened, hopened, hwrote⟩ :=
    appendOctets_wrote [] previous hopens.noZero hopens.locate hopens.holds
  rw [List.append_nil] at hwrote
  rw [start_of_node h hnode]
  exact ⟨_, opened, ends_bind_ok hopened, rfl, rfl, rfl, ⟨hopens.noZero,
    (hwrote.folders.locate_iff target place).mp hopens.locate, hwrote.get?_place⟩, hwrote⟩

/-- A target `Opens` where `find` finds nothing and `append` ends well. -/
theorem opens_of_append {disk after : Disk} {target : Path} {octets : Octets}
    (hzero : ¬HasZero target) (hnone : ∀ location node, disk.find target ≠ .ok (location, node))
    (h : disk.append target octets = .ok after) : ∃ place, disk.Opens target place none := by
  obtain ⟨place, hlocate, ⟨hget, -⟩ | ⟨octets, hget, -⟩ | ⟨hget, -⟩⟩ := Disk.update_eq_ok_iff.mp h
  · exact ⟨place, hzero, hlocate, hget, by simp⟩
  · exact absurd (Disk.find_eq_ok_iff.mpr ⟨hlocate, hget⟩) (hnone _ _)
  · exact absurd (Disk.find_eq_ok_iff.mpr ⟨hlocate, hget⟩) (hnone _ _)

/-- A target `Opens` where `find` finds a node that `Writer.start` does not refuse. -/
theorem opens_of_node {target : Path} {space : Workspace} {place : Location} {node : Node}
    (hzero : ¬HasZero target) (hfind : space.disk.find target = .ok (place, node))
    (hnode : (Writer.holdsSomething (some node) && !recognises (some node)) = false) :
    ∃ octets, space.disk.Opens target place (some octets) := by
  obtain ⟨hlocate, hget⟩ := Disk.find_eq_ok_iff.mp hfind
  match node with
  | .folder => simp [Writer.holdsSomething, recognises] at hnode
  | .device => simp [Writer.holdsSomething, recognises] at hnode
  | .file octets =>
    refine ⟨octets, hzero, hlocate, hget, ?_⟩
    rintro _ ⟨⟩ hne
    simpa [Writer.holdsSomething, recognises, hne] using hnode

/-- A target does not `Opens` where `find` finds a node that `Writer.start` refuses. -/
theorem not_opens_of_node {target : Path} {space : Workspace} {place : Location} {node : Node}
    (hfind : space.disk.find target = .ok (place, node))
    (hnode : (Writer.holdsSomething (some node) && !recognises (some node)) = true) :
    ¬∃ place previous, space.disk.Opens target place previous := by
  rintro ⟨place', previous, hopens⟩
  obtain ⟨octets, rfl, rfl⟩ := hopens.exists_file hfind
  simp only [Writer.holdsSomething, recognises, Bool.and_eq_true, Bool.not_eq_true',
    List.isEmpty_eq_false_iff] at hnode
  simp [hopens.resource octets rfl hnode.1] at hnode

/-- `Writer.start` gives a writer where the target `Opens`, and changes nothing where it does not. -/
theorem start_ends (target : Path) (space : Workspace) :
    (∃ place previous writer opened, space.disk.Opens target place previous ∧
      (Writer.start target).ends space = (.ok writer, opened) ∧
      Started space opened writer target place previous) ∨
    ((¬∃ place previous, space.disk.Opens target place previous) ∧
      ∃ fault, (Writer.start target).ends space = (.error fault, space)) := by
  rcases node?_ends target space with ⟨hnode, hnone⟩ | ⟨place, node, hnode, hzero, hfind⟩ |
    ⟨fault, hnode, hlost⟩
  · by_cases hopens : ∃ place previous, space.disk.Opens target place previous
    · obtain ⟨place, previous, hopens⟩ := hopens
      obtain ⟨writer, after, hstart⟩ := start_opens hnode rfl hopens
      exact .inl ⟨place, previous, writer, after, hopens, hstart⟩
    -- Nothing is there, and a path that does not open lets nothing be added either.
    · refine .inr ⟨hopens, ?_⟩
      rw [start_of_node hnode rfl]
      by_cases hzero : HasZero target
      · exact ⟨_, ends_bind_error (by rw [ends_appendOctets, if_pos hzero])⟩
      · cases happend : space.disk.append target [] with
        | error refusal =>
          exact ⟨_, ends_bind_error (by rw [ends_appendOctets, if_neg hzero, happend])⟩
        | ok disk =>
          obtain ⟨place, hplace⟩ := opens_of_append hzero (hnone.resolve_left hzero) happend
          exact absurd ⟨place, none, hplace⟩ hopens
  · cases hcond : Writer.holdsSomething (some node) && !recognises (some node) with
    | true => exact .inr ⟨not_opens_of_node hfind hcond, _, start_refused hnode hcond⟩
    | false =>
      obtain ⟨octets, hopens⟩ := opens_of_node hzero hfind hcond
      obtain ⟨writer, after, hstart⟩ := start_opens hnode hcond hopens
      exact .inl ⟨place, some octets, writer, after, hopens, hstart⟩
  · refine .inr ⟨fun ⟨place, previous, hopens⟩ => hlost place hopens.locate, .interruption (.disk fault), ?_⟩
    unfold Writer.start
    rw [ends_bind_error hnode]

/-- `appendOctets` fails for what is `RefusedFor` the path. -/
theorem appendOctets_fault {path : Path} {octets : Octets} {space after : Workspace} {fault : Fault}
    (h : (appendOctets path octets).ends space = (.error fault, after)) : RefusedFor path fault := by
  rw [ends_appendOctets] at h
  rw [RefusedFor]
  split at h
  · rename_i hzero
    cases h
    rw [if_pos hzero]
  · rename_i hzero
    rw [if_neg hzero]
    cases happend : space.disk.append path octets with
    | ok disk => simp [happend] at h
    | error refusal =>
      rw [happend] at h
      cases h
      trivial

/-- `node?` fails for what is `RefusedFor` the path. -/
theorem node?_fault {path : Path} {space after : Workspace} {refused : DiskFault}
    (h : (node? path).ends space = (.error (.interruption (.disk refused)), after)) :
    RefusedFor path (.interruption (.disk refused)) := by
  have hzero : ¬HasZero path := fun hzero => by
    rw [node?_of_zero hzero] at h
    cases h
  rw [RefusedFor, if_neg hzero]
  trivial

theorem start_fault {target : Path} {space after : Workspace} {fault : Fault}
    (h : (Writer.start target).ends space = (.error fault, after)) : RefusedFor target fault := by
  -- The look at the target either shows a node, which is refused or added to, or is refused itself.
  have hadded {node : Option Node} (hnode : (node? target).ends space = (.ok node, space))
      (hcond : (Writer.holdsSomething node && !recognises node) = false) : RefusedFor target fault := by
    rw [start_of_node hnode hcond, ends_bind] at h
    generalize happend : (appendOctets target []).ends space = ended at h
    obtain ⟨result, mid⟩ := ended
    cases result with
    | ok _ => cases h
    | error thrown =>
      cases h
      exact appendOctets_fault happend
  rcases node?_ends target space with ⟨hnode, -⟩ | ⟨place, node, hnode, hzero, -⟩ | ⟨refused, hnode, -⟩
  · exact hadded hnode rfl
  · cases hcond : Writer.holdsSomething (some node) && !recognises (some node) with
    | false => exact hadded hnode hcond
    | true =>
      cases (start_refused hnode hcond).symm.trans h
      rw [RefusedFor, if_neg hzero]
      trivial
  · have hstart : (Writer.start target).ends space = (.error (.interruption (.disk refused)), space) :=
      ends_bind_error hnode
    cases hstart.symm.trans h
    exact node?_fault hnode

theorem start_of_opens {target : Path} {space : Workspace} {place : Location}
    {previous : Option Octets} (hopens : space.disk.Opens target place previous) :
    ∃ writer opened, (Writer.start target).ends space = (.ok writer, opened) ∧
      Started space opened writer target place previous := by
  rcases start_ends target space with ⟨place', previous', writer, opened, hopens', hstart, hstarted⟩ |
    ⟨hclosed, -⟩
  · obtain ⟨rfl, rfl⟩ := hopens.unique hopens'
    exact ⟨writer, opened, hstart, hstarted⟩
  · exact absurd ⟨place, previous, hopens⟩ hclosed

/-- A target at which `Writer.start` gave a writer `Opens`. -/
theorem opens_of_start {target : Path} {space opened : Workspace} {writer : Writer}
    (h : (Writer.start target).ends space = (.ok writer, opened)) :
    ∃ place previous, space.disk.Opens target place previous ∧
      Started space opened writer target place previous := by
  rcases start_ends target space with ⟨place, previous, writer', opened', hopens, hstart, hstarted⟩ |
    ⟨-, fault, hfault⟩
  · obtain ⟨hwriter, rfl⟩ := Prod.mk.inj (hstart.symm.trans h)
    obtain rfl := Except.ok.inj hwriter
    exact ⟨place, previous, hopens, hstarted⟩
  · exact absurd (hfault.symm.trans h) (by simp)

end Job

/-! ### Sessions -/

namespace Writer

open Disk (Wrote)

section
variable {space : Workspace} {target : Path} {place : Location} {previous : Option Octets}
  {entries : List (Points × Points)}

/-- `session` ends well if the entries are `Legible` and all that is in the file then is text. -/
theorem session_of_text (hopens : space.disk.Opens target place previous) (htext : Legible entries)
    {text : Text} (hdecode : Utf8.decode
      (previous.getD [] ++ Utf8.encode (entries.flatMap entryText)) = .ok text) :
    ∃ after, (session target entries).ends space = (.ok (), after) ∧
      Wrote space.disk after.disk place (Utf8.encode (Document.format (Text.unifyBreaks text))) := by
  obtain ⟨writer, opened, hstart, hstarted⟩ := Job.start_of_opens hopens
  obtain ⟨now, mid, hmid, hpath, hpending, hwrote⟩ :=
    writeAll_of_text hstarted.standsOn hstarted.pending htext
  have hflushed : now.unflushed = [] := by rw [unflushed, hpending]; rfl
  obtain ⟨after, hafter, hsaved⟩ := save_of_text (hstarted.standsOn.of_wrote now hpath hwrote)
    (by rwa [hflushed, List.append_nil])
  refine ⟨after, ?_, (hstarted.wrote.trans hwrote).trans hsaved⟩
  unfold session
  rw [Job.ends_bind_ok hstart, Job.ends_bind_ok hmid]
  exact Job.ends_bind_ok hafter

/-- `session` on octets that are no text leaves the entries behind them as they were added. -/
theorem session_of_octets (hopens : space.disk.Opens target place previous) (htext : Legible entries)
    {fault : Utf8.Fault} (hdecode : Utf8.decode
      (previous.getD [] ++ Utf8.encode (entries.flatMap entryText)) = .error fault) :
    ∃ after, (session target entries).ends space
        = (.error (.interruption (.octets fault)), after) ∧
      Wrote space.disk after.disk place
        (previous.getD [] ++ Utf8.encode (entries.flatMap entryText)) := by
  obtain ⟨writer, opened, hstart, hstarted⟩ := Job.start_of_opens hopens
  obtain ⟨now, mid, hmid, hpath, hpending, hwrote⟩ :=
    writeAll_of_text hstarted.standsOn hstarted.pending htext
  have hflushed : now.unflushed = [] := by rw [unflushed, hpending]; rfl
  obtain ⟨after, hafter, hsaved⟩ := save_of_octets (hstarted.standsOn.of_wrote now hpath hwrote)
    (by rwa [hflushed, List.append_nil])
  rw [hflushed, List.append_nil] at hsaved
  refine ⟨after, ?_, (hstarted.wrote.trans hwrote).trans hsaved⟩
  unfold session
  rw [Job.ends_bind_ok hstart, Job.ends_bind_ok hmid]
  exact Job.ends_bind_error hafter

/-- `session` leaves a break behind the entries before the first that no file can hold. -/
theorem session_of_halves (hopens : space.disk.Opens target place previous)
    (hhalves : ¬Legible entries) :
    ∃ halves more after, (session target entries).ends space
        = (.error (.interruption (.halves halves)), after) ∧
      Wrote space.disk after.disk place
        (previous.getD [] ++ Utf8.encode (Document.lineBreak ++ more)) := by
  obtain ⟨writer, opened, hstart, hstarted⟩ := Job.start_of_opens hopens
  obtain ⟨now, halves, put, more, mid, hmid, hpath, hwrote, hput⟩ :=
    writeAll_of_halves hstarted.standsOn hstarted.pending hhalves
  obtain ⟨after, hafter, hclosed, -⟩ := close_ends (hstarted.standsOn.of_wrote now hpath hwrote)
  rw [hput] at hclosed
  refine ⟨halves, more, after, ?_, (hstarted.wrote.trans hwrote).trans hclosed⟩
  unfold session
  rw [Job.ends_bind_ok hstart, Job.ends_bind_ok hmid]
  exact (Job.ends_bind_ok hafter).trans rfl

/-- `session` changes nothing at a target that does not `Opens`. -/
theorem session_of_refused (hclosed : ¬∃ place previous, space.disk.Opens target place previous)
    (entries : List (Points × Points)) :
    ∃ fault, (session target entries).ends space = (.error fault, space) := by
  rcases Job.start_ends target space with ⟨place, previous, _, _, hopens, -⟩ | ⟨-, fault, hstart⟩
  · exact absurd ⟨place, previous, hopens⟩ hclosed
  · exact ⟨fault, Job.ends_bind_error hstart⟩

end

end Writer

end Externalize
