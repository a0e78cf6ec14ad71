import Externalize.Proofs.Resource.Writer
import Mathlib.Data.List.Induction

/-!
# `Externalize.Proofs.Resource.Lifecycle`: a writer from its opening to its last save

`Writer.performAll` does any sequence of `write`, `save` and `close` with one writer, and goes on after
an action that raises. `Writer.Acts` says all that one more action can do: `write` adds an entry, or only
the break before it, or is refused; `save` lays the file out anew or fails; `close` closes. Every writer
acts that way as long as its file is there (`acts`), and no action takes the file away
(`StandsOn.perform`), so it acts that way at every moment of its life (`performAll_ends`).

`appends_until_closed` adds what the file holds while nothing but `write` was done, and how far `written`
counts. What was written is what the file holds followed by what is `pending`. Only the break before an
entry that no file can hold ever stays `pending`. It is not taken back: it stands in the file once the
next entry is added, or once the file is closed (`stray_break`).
-/

set_option autoImplicit false

namespace Externalize.Writer

open Disk (Wrote)

/-- Does one action after the other with a writer, and gives the writer that is left and what each
action raised. A fault ends only the `perform` that it comes from. -/
def performAll (writer : Writer) : List Action → Job (Writer × List (Option Fault))
  | [] => return (writer, [])
  | action :: actions => do
    let (writer, fault) ← writer.perform action
    let (writer, faults) ← writer.performAll actions
    return (writer, fault :: faults)

/-- Whether an action is a `write`. -/
def Action.isWrite : Action → Bool
  | .write _ _ => true
  | _ => false

/-- Whether a file can hold the entry of a name and a value: `Document.entryPoints` has no halves. -/
def isWritable (entry : Points × Points) : Bool :=
  (Document.entryPoints entry.1 entry.2).text?.isSome

/-- Whether an action is a `write` of an entry that a file can hold. -/
def Action.isAdding : Action → Bool
  | .write name value => isWritable (name, value)
  | _ => false

/-- What `write` raises while the file is open: `halves`, if a file cannot hold the entry. -/
def faultOf (entry : Points × Points) : Option Fault :=
  match Utf8.encodePoints (Document.entryPoints entry.1 entry.2) with
  | .ok _ => none
  | .error halves => some (.interruption (.halves halves))

/-- What `write` puts behind what was written: a `Document.lineBreak`, and the line of the entry if it
`isWritable`. -/
def added (entry : Points × Points) : Octets :=
  Utf8.encode Document.lineBreak ++
    match Utf8.encodePoints (Document.entryPoints entry.1 entry.2) with
    | .ok octets => octets
    | .error _ => []

theorem isWritable_iff {entry : Points × Points} :
    isWritable entry = true ↔ (Document.entryPoints entry.1 entry.2).text? ≠ none := by
  rw [isWritable, Option.isSome_iff_ne_none]

/-! ### One action -/

/-- What `write`, `save` and `close` do when the file of the writer stands at `place` and holds the
octets. -/
structure Acts (writer : Writer) (space : Workspace) (place : Location) (octets : Octets) : Prop where
  adds : writer.isOpen = true → ∀ entry, isWritable entry = true → ∃ after,
    (writer.perform (.write entry.1 entry.2)).ends space
      = (.ok ({ writer with written := writer.written + 1, pending := some [] }, none), after) ∧
    Wrote space.disk after.disk place (octets ++ writer.unflushed ++ added entry)
  /-- An entry that no file can hold raises, and the break before it is written. -/
  breaks : writer.isOpen = true → ∀ entry, isWritable entry = false → ∃ held put after,
    (writer.perform (.write entry.1 entry.2)).ends space
      = (.ok ({ writer with pending := some held }, faultOf entry), after) ∧
    Wrote space.disk after.disk place put ∧
    put ++ held = octets ++ writer.unflushed ++ added entry ∧ held.length < bufferSize
  refuses : writer.isOpen = false → ∀ name value,
    (writer.perform (.write name value)).ends space = (.ok (writer, some .closed), space)
  saves : ∀ text, Utf8.decode (octets ++ writer.unflushed) = .ok text → ∃ after,
    (writer.perform .save).ends space = (.ok (writer.closed, none), after) ∧
    Wrote space.disk after.disk place (Utf8.encode (Document.format (Text.unifyBreaks text)))
  /-- What is no text stays as it is, with what was pending behind it. -/
  keeps : ∀ fault, Utf8.decode (octets ++ writer.unflushed) = .error fault → ∃ after,
    (writer.perform .save).ends space
      = (.ok (writer.closed, some (.interruption (.octets fault))), after) ∧
    Wrote space.disk after.disk place (octets ++ writer.unflushed) ∧
    (writer.unflushed = [] → after = space)
  closes : ∃ after, (writer.perform .close).ends space = (.ok (writer.closed, none), after) ∧
    Wrote space.disk after.disk place (octets ++ writer.unflushed) ∧
    (writer.unflushed = [] → after = space)

section
variable {writer : Writer} {space : Workspace} {place : Location} {octets : Octets}
  {entry : Points × Points}

theorem faultOf_of_isWritable (h : isWritable entry = true) : faultOf entry = none := by
  have hencoded := Utf8.encodePoints_of_text (isWritable_iff.mp h)
  unfold faultOf
  rw [hencoded]

theorem added_of_isWritable (h : isWritable entry = true) :
    added entry = Utf8.encode (Document.lineBreak ++ (Document.entryPoints entry.1 entry.2).shown) := by
  have hencoded := Utf8.encodePoints_of_text (isWritable_iff.mp h)
  unfold added
  rw [hencoded, Utf8.encode_append Document.lineBreak]

theorem added_of_not_isWritable (h : isWritable entry = false) :
    added entry = Utf8.encode Document.lineBreak := by
  have hencoded := Utf8.encodePoints_of_halves (by simpa [isWritable] using h)
  unfold added
  rw [hencoded, List.append_nil]

theorem pending_of_isOpen (h : writer.isOpen = true) : writer.pending = some writer.unflushed := by
  obtain ⟨pending, hpending⟩ := Option.isSome_iff_exists.mp h
  rw [unflushed, hpending]
  rfl

/-- A writer that `StandsOn` its file `Acts` like this. -/
theorem acts (h : writer.StandsOn space place octets) : writer.Acts space place octets where
  adds hopen entry hwritable := by
    rw [added_of_isWritable hwritable]
    exact write_of_text h (pending_of_isOpen hopen) (isWritable_iff.mp hwritable)
  breaks hopen entry hwritable := by
    have hhalves : (Document.entryPoints entry.1 entry.2).text? = none := by
      simpa [isWritable] using hwritable
    have hencoded := Utf8.encodePoints_of_halves hhalves
    unfold faultOf
    rw [hencoded, added_of_not_isWritable hwritable]
    exact write_of_halves h (pending_of_isOpen hopen) hhalves
  refuses hclosed name value := by
    have hpending : writer.pending = none := by simpa [isOpen] using hclosed
    exact write_of_closed hpending name value space
  saves text hdecode := by
    obtain ⟨mid, hmid, hput, -⟩ := close_ends h
    obtain ⟨after, hafter, hwrote⟩ := merge_of_text (h.of_wrote writer.closed rfl hput) hdecode
    refine ⟨after, ?_, hput.trans hwrote⟩
    rw [perform, Job.ends_bind_ok hmid, Job.ends_tryCatch, Job.ends_bind_ok hafter]
    rfl
  keeps fault hdecode := by
    obtain ⟨mid, hmid, hput, hsame⟩ := close_ends h
    have hmerge := merge_of_octets (h.of_wrote writer.closed rfl hput) hdecode
    refine ⟨mid, ?_, hput, hsame⟩
    rw [perform, Job.ends_bind_ok hmid, Job.ends_tryCatch, Job.ends_bind_error hmerge]
    rfl
  closes := by
    obtain ⟨after, hafter, hput, hsame⟩ := close_ends h
    refine ⟨after, ?_, hput, hsame⟩
    rw [perform, Job.ends_bind_ok hafter]
    rfl

/-- `perform` comes to its end and leaves a writer that `StandsOn` its file. The writer `isOpen` after a
`write` only, and `written` counts an action with `isAdding` only. -/
theorem StandsOn.perform (h : writer.StandsOn space place octets) (action : Action) :
    ∃ now fault after held, (writer.perform action).ends space = (.ok (now, fault), after) ∧
      Wrote space.disk after.disk place held ∧ now.StandsOn after place held ∧
      now.isOpen = (writer.isOpen && action.isWrite) ∧
      now.written = writer.written + (writer.isOpen && action.isAdding).toNat := by
  have hacts := acts h
  cases action with
  | write name value =>
    -- A `write` has three ends, by `isOpen` and `isWritable`.
    cases hopen : writer.isOpen with
    | false =>
      exact ⟨writer, _, space, octets, hacts.refuses hopen name value, .self h.holds, h, hopen, rfl⟩
    | true =>
      cases hwritable : isWritable (name, value) with
      | true =>
        obtain ⟨after, hafter, hwrote⟩ := hacts.adds hopen (name, value) hwritable
        exact ⟨_, _, after, _, hafter, hwrote, h.of_wrote _ rfl hwrote, rfl, by
          simp [Action.isAdding, hwritable]⟩
      | false =>
        obtain ⟨held, put, after, hafter, hwrote, -⟩ := hacts.breaks hopen (name, value) hwritable
        exact ⟨_, _, after, _, hafter, hwrote, h.of_wrote _ rfl hwrote, rfl, by
          simp [Action.isAdding, hwritable]⟩
  | save =>
    cases hdecode : Utf8.decode (octets ++ writer.unflushed) with
    | ok text =>
      obtain ⟨after, hafter, hwrote⟩ := hacts.saves text hdecode
      exact ⟨_, _, after, _, hafter, hwrote, h.of_wrote _ rfl hwrote,
        (Bool.and_false _).symm, by simp [Action.isAdding, closed]⟩
    | error fault =>
      obtain ⟨after, hafter, hwrote, -⟩ := hacts.keeps fault hdecode
      exact ⟨_, _, after, _, hafter, hwrote, h.of_wrote _ rfl hwrote,
        (Bool.and_false _).symm, by simp [Action.isAdding, closed]⟩
  | close =>
    obtain ⟨after, hafter, hwrote, -⟩ := hacts.closes
    exact ⟨_, _, after, _, hafter, hwrote, h.of_wrote _ rfl hwrote,
      (Bool.and_false _).symm, by simp [Action.isAdding, closed]⟩

/-! ### One action after the other -/

theorem performAll_cons {now last : Writer} {mid after : Workspace} {action : Action}
    {actions : List Action} {fault : Option Fault} {faults : List (Option Fault)}
    (h : (writer.perform action).ends space = (.ok (now, fault), mid))
    (hrest : (now.performAll actions).ends mid = (.ok (last, faults), after)) :
    (writer.performAll (action :: actions)).ends space = (.ok (last, fault :: faults), after) := by
  rw [performAll, Job.ends_bind_ok h, Job.ends_bind_ok hrest]
  rfl

theorem performAll_concat {now last : Writer} {mid after : Workspace} {action : Action}
    {actions : List Action} {fault : Option Fault} {faults : List (Option Fault)}
    (h : (writer.performAll actions).ends space = (.ok (now, faults), mid))
    (hlast : (now.perform action).ends mid = (.ok (last, fault), after)) :
    (writer.performAll (actions ++ [action])).ends space
      = (.ok (last, faults ++ [fault]), after) := by
  induction actions generalizing writer space faults with
  | nil =>
    obtain ⟨heq, rfl⟩ := Prod.mk.inj h
    obtain ⟨rfl, rfl⟩ := Prod.mk.inj (Except.ok.inj heq)
    exact performAll_cons hlast rfl
  | cons first actions ih =>
    rw [performAll] at h
    obtain ⟨⟨next, fault'⟩, mid', hfirst, h⟩ := Job.of_ends_bind_ok h
    obtain ⟨⟨now', faults'⟩, mid'', hrest, h⟩ := Job.of_ends_bind_ok h
    obtain ⟨heq, rfl⟩ := Prod.mk.inj h
    obtain ⟨rfl, rfl⟩ := Prod.mk.inj (Except.ok.inj heq)
    exact performAll_cons hfirst (ih hrest)

/-- How many of the actions `isAdding`, up to the first that is no `write`. -/
def countAdded (actions : List Action) : Nat :=
  ((actions.takeWhile Action.isWrite).filter Action.isAdding).length

theorem countAdded_cons (action : Action) (actions : List Action) :
    countAdded (action :: actions)
      = action.isAdding.toNat + if action.isWrite then countAdded actions else 0 := by
  cases hwrite : action.isWrite with
  | true =>
    rw [countAdded, List.takeWhile_cons_of_pos hwrite, countAdded]
    cases hadding : action.isAdding <;> simp [hadding, Nat.add_comm]
  | false =>
    have hadding : action.isAdding = false := by
      cases action with
      | write name value => cases hwrite
      | save => rfl
      | close => rfl
    simp [countAdded, hwrite, hadding]

/-- `performAll` leaves a writer that `StandsOn` its file. It `isOpen` as long as nothing but `write`
was done, and `written` is raised by `countAdded`. -/
theorem performAll_ends (h : writer.StandsOn space place octets) (actions : List Action) :
    ∃ now faults after held, (writer.performAll actions).ends space = (.ok (now, faults), after) ∧
      Wrote space.disk after.disk place held ∧ now.StandsOn after place held ∧
      now.isOpen = (writer.isOpen && actions.all Action.isWrite) ∧
      now.written = writer.written + if writer.isOpen then countAdded actions else 0 := by
  -- One action leaves the file for the next one, so the file is general in the induction.
  induction actions generalizing writer space octets with
  | nil => exact ⟨writer, [], space, octets, rfl, .self h.holds, h, by simp, by simp [countAdded]⟩
  | cons action actions ih =>
    obtain ⟨now, fault, mid, held, hmid, hwrote, hnow, hopen, hcount⟩ := h.perform action
    obtain ⟨last, faults, after, held', hafter, hwrote', hlast, hopen', hcount'⟩ := ih hnow
    refine ⟨last, fault :: faults, after, held', performAll_cons hmid hafter, hwrote.trans hwrote',
      hlast, ?_, ?_⟩
    · rw [hopen', hopen, List.all_cons, Bool.and_assoc]
    · rw [hcount', hcount, hopen, countAdded_cons, Nat.add_assoc]
      cases writer.isOpen <;> cases action.isWrite <;> simp

/-- `performAll` of `write` leaves what is `added` behind what the file held, in its order. If the last
entry `isWritable`, nothing is `pending`. -/
theorem performAll_writes (h : writer.StandsOn space place octets)
    (hpending : writer.pending = some []) (writes : List (Points × Points)) :
    ∃ held put after,
      (writer.performAll (writes.map fun entry => .write entry.1 entry.2)).ends space
        = (.ok ({ writer with written := writer.written + writes.countP isWritable
                              pending := some held }, writes.map faultOf), after) ∧
      Wrote space.disk after.disk place put ∧ put ++ held = octets ++ writes.flatMap added ∧
      ((∀ last ∈ writes.getLast?, isWritable last = true) → held = []) := by
  -- The last `write` is split off, as what it leaves pending decides what the next one finds.
  induction writes using List.reverseRecOn with
  | nil =>
    refine ⟨[], octets, space, ?_, .self h.holds, by simp, fun _ => rfl⟩
    rw [← hpending]
    rfl
  | append_singleton writes entry ih =>
    obtain ⟨held, put, mid, hmid, hwrote, hput, -⟩ := ih
    have hacts := acts (h.of_wrote { writer with written := writer.written + writes.countP isWritable
                                                 pending := some held } rfl hwrote)
    have hwritten : put ++ held ++ added entry
        = octets ++ (writes ++ [entry]).flatMap added := by
      rw [hput, List.flatMap_append, List.flatMap_singleton, List.append_assoc]
    rw [List.map_append, List.map_append, List.countP_append]
    cases hwritable : isWritable entry with
    | true =>
      obtain ⟨after, hafter, hadded⟩ := hacts.adds rfl entry hwritable
      refine ⟨[], _, after, ?_, hwrote.trans hadded, ?_, fun _ => rfl⟩
      · have hfault := faultOf_of_isWritable hwritable
        simpa [hfault, hwritable, Nat.add_assoc] using performAll_concat hmid hafter
      · rw [List.append_nil]
        exact hwritten
    | false =>
      obtain ⟨held', put', after, hafter, hadded, hput', -⟩ := hacts.breaks rfl entry hwritable
      refine ⟨held', put', after, ?_, hwrote.trans hadded, hput'.trans hwritten, fun hlast => ?_⟩
      · simpa [hwritable] using performAll_concat hmid hafter
      · have hlast := hlast entry (by simp)
        rw [hwritable] at hlast
        cases hlast

end

/-- **A writer only adds to its file until `save` or `close` is done for the first time.** After any
sequence of `write`, the file followed by what is `pending` is what the file held before, followed by
what each `write` put there (`added`): a break and the line of the entry, or a break alone if no file can
hold the entry. Exactly those last raise, and `written` counts the others. Nothing is `pending` unless the
last `write` raised. After any sequence of actions the writer is open only if all of them were `write`,
`written` counts what was added until then, and `Acts` says what the next action does. In particular
`write` on a closed file raises and changes nothing, and `save` lays out what was written, or fails and
leaves it. -/
theorem appends_until_closed {target : Path} {space opened : Workspace} {writer : Writer}
    (hstart : (start target).ends space = (.ok writer, opened)) :
    ∃ place previous, space.disk.Opens target place previous ∧
      (∀ writes : List (Points × Points), ∃ held octets after,
        (writer.performAll (writes.map fun entry => .write entry.1 entry.2)).ends opened
          = (.ok ({ writer with written := writes.countP isWritable, pending := some held },
              writes.map faultOf), after) ∧
        Wrote space.disk after.disk place octets ∧
        octets ++ held = previous.getD [] ++ writes.flatMap added ∧
        ((∀ last ∈ writes.getLast?, isWritable last = true) → held = [])) ∧
      ∀ actions : List Action, ∃ now faults after octets,
        (writer.performAll actions).ends opened = (.ok (now, faults), after) ∧
        Wrote space.disk after.disk place octets ∧
        now.isOpen = actions.all Action.isWrite ∧
        now.written = ((actions.takeWhile Action.isWrite).filter Action.isAdding).length ∧
        now.Acts after place octets := by
  obtain ⟨place, previous, hopens, hstarted⟩ := Job.opens_of_start hstart
  -- A writer that was just opened is open, and has written nothing.
  have hopen : writer.isOpen = true := by rw [isOpen, hstarted.pending]; rfl
  refine ⟨place, previous, hopens, fun writes => ?_, fun actions => ?_⟩
  · obtain ⟨held, octets, after, hafter, hadded, hput, hlast⟩ :=
      performAll_writes hstarted.standsOn hstarted.pending writes
    rw [hstarted.written, Nat.zero_add] at hafter
    exact ⟨held, octets, after, hafter, hstarted.wrote.trans hadded, hput, hlast⟩
  · obtain ⟨now, faults, after, octets, hafter, hheld, hnow, hopen', hcount⟩ :=
      performAll_ends hstarted.standsOn actions
    refine ⟨now, faults, after, octets, hafter, hstarted.wrote.trans hheld, ?_, ?_, acts hnow⟩
    · rw [hopen', hopen, Bool.true_and]
    · rw [hcount, hstarted.written, Nat.zero_add, if_pos hopen, countAdded]

/-- `appends_until_closed` at octets that are no text: an entry is added behind them, `save` fails and
leaves it there, and the next `write` is refused. -/
theorem appends_until_closed_no_text :
    let target : Path := { names := ["t.xml".toList] }
    let octets := Utf8.encode "<resources><string>".toList ++ [0xFF]
    let text := octets ++ Utf8.encode "\r\n<string name=\"a\">b</string>".toList
    let entry : Points × Points := ("a".toList, "b".toList)
    let space : Workspace :=
      { disk := { home := [], nodes := [(["t.xml".toList], .file octets)] } }
    ∃ writer opened now after fault later,
      (start target).ends space = (.ok writer, opened) ∧
      (writer.performAll [.write entry.1 entry.2]).ends opened = (.ok (now, [none]), after) ∧
      now.written = 1 ∧ now.pending = some [] ∧ Wrote space.disk after.disk ["t.xml".toList] text ∧
      (now.perform .save).ends after
        = (.ok (now.closed, some (.interruption (.octets fault))), later) ∧
      Wrote after.disk later.disk ["t.xml".toList] text ∧
      ∃ last faults finish, (writer.performAll [.write entry.1 entry.2, .save]).ends opened
          = (.ok (last, faults), finish) ∧ last.written = 1 ∧
        (last.perform (.write entry.1 entry.2)).ends finish = (.ok (last, some .closed), finish) := by
  intro target octets text entry space
  have hopens : space.disk.Opens target ["t.xml".toList] (some octets) := by
    refine ⟨by decide, rfl, by decide +kernel, ?_⟩
    rintro _ ⟨⟩ -
    decide +kernel
  obtain ⟨writer, hstart, -⟩ : ∃ writer,
      (start target).ends space = (.ok writer, ((start target).ends space).2) ∧
        writer.path = target := Job.exists_ends_of_map (by decide +kernel)
  obtain ⟨place, previous, hopens', hwrites, hruns⟩ := appends_until_closed hstart
  obtain ⟨rfl, rfl⟩ := hopens.unique hopens'
  obtain ⟨held, put, after, hafter, hwrote, hput, hlast⟩ := hwrites [entry]
  obtain rfl : held = [] := hlast (by decide +kernel)
  have htext : octets ++ [entry].flatMap added = text := by decide +kernel
  rw [List.append_nil, Option.getD_some, htext] at hput
  rw [hput] at hwrote
  have hfaults : [entry].map faultOf = [none] := by decide +kernel
  have hwritten : [entry].countP isWritable = 1 := by decide +kernel
  rw [hfaults, hwritten] at hafter
  obtain ⟨now, faults, after', held, hrun, hwrote', -, -, hacts⟩ :=
    hruns [.write entry.1 entry.2]
  obtain ⟨heq, rfl⟩ := Prod.mk.inj (hrun.symm.trans hafter)
  obtain ⟨hnow, -⟩ := Prod.mk.inj (Except.ok.inj heq)
  have hheld : held = text :=
    Node.file.inj (Option.some.inj (hwrote'.get?_place.symm.trans hwrote.get?_place))
  have hflushed : now.unflushed = [] := by rw [hnow]; rfl
  rw [hheld] at hacts
  obtain ⟨fault, hdecode⟩ : ∃ fault, Utf8.decode (text ++ now.unflushed) = .error fault := by
    rw [hflushed, List.append_nil]
    have hnone : (Utf8.decode text).toOption = none := by decide +kernel
    cases hdecode : Utf8.decode text with
    | ok other => simp [hdecode, Except.toOption] at hnone
    | error fault => exact ⟨fault, rfl⟩
  obtain ⟨later, hlater, hkept, -⟩ := hacts.keeps fault hdecode
  rw [hflushed, List.append_nil] at hkept
  rw [hnow] at hlater
  obtain ⟨last, faults, finish, _, hend, -, hopen, hcount, hrefuses⟩ :=
    hruns [.write entry.1 entry.2, .save]
  have hcounted : ((([.write entry.1 entry.2, .save] : List Action).takeWhile Action.isWrite).filter
      Action.isAdding).length = 1 := by decide +kernel
  exact ⟨writer, _, _, after', fault, later, hstart, hafter, rfl, rfl, hwrote, hlater, hkept,
    last, faults, finish, hend, hcount.trans hcounted, hrefuses.refuses hopen _ _⟩

/-- The break before an entry that no file can hold stays. After three times `write`, of which the
second raised, the file does not hold the entries that were added, and `written` is not how often
`write` was done. -/
theorem stray_break :
    let target : Path := { names := ["t.xml".toList] }
    let writes : List (Points × Points) :=
      [("a".toList, "x".toList), ([.half 0xD800], "y".toList), ("b".toList, "z".toList)]
    let octets := Utf8.encode
      "\r\n<string name=\"a\">x</string>\r\n\r\n<string name=\"b\">z</string>".toList
    let space : Workspace := { disk := { home := [], nodes := [] } }
    ∃ writer opened now after,
      (start target).ends space = (.ok writer, opened) ∧
      (writer.performAll (writes.map fun entry => .write entry.1 entry.2)).ends opened
        = (.ok (now, [none, some (.interruption (.halves ⟨14, 0xD800, 1⟩)), none]), after) ∧
      Wrote space.disk after.disk ["t.xml".toList] octets ∧ now.pending = some [] ∧
      octets ≠ (writes.filter isWritable).flatMap added ∧ now.written ≠ writes.length := by
  intro target writes octets space
  obtain ⟨writer, hstart, -⟩ : ∃ writer,
      (start target).ends space = (.ok writer, ((start target).ends space).2) ∧
        writer.path = target := Job.exists_ends_of_map (by decide +kernel)
  obtain ⟨place, previous, hopens, hstarted⟩ := Job.opens_of_start hstart
  have hopens' : space.disk.Opens target ["t.xml".toList] none :=
    ⟨by decide, rfl, by decide +kernel, by simp⟩
  obtain ⟨rfl, rfl⟩ := hopens'.unique hopens
  obtain ⟨held, put, after, hafter, hwrote, hput, hlast⟩ :=
    performAll_writes hstarted.standsOn hstarted.pending writes
  obtain rfl : held = [] := hlast (by decide +kernel)
  have hoctets : writes.flatMap added = octets := by decide +kernel
  rw [List.append_nil, Option.getD_none, List.nil_append, hoctets] at hput
  rw [hput] at hwrote
  have hfaults : writes.map faultOf
      = [none, some (.interruption (.halves ⟨14, 0xD800, 1⟩)), none] := by decide +kernel
  have hwritten : 0 + writes.countP isWritable = 2 := by decide +kernel
  rw [hfaults, hstarted.written, hwritten] at hafter
  exact ⟨writer, _, _, after, hstart, hafter, hstarted.wrote.trans hwrote, rfl, by decide +kernel,
    (by decide : (2 : Nat) ≠ 3)⟩

end Externalize.Writer
