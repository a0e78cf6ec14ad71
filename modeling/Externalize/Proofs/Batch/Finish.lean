import Externalize.Proofs.Batch.Alike
import Externalize.Proofs.Batch.Merge
import Externalize.Proofs.Batch.Run

/-!
# `Externalize.Proofs.Batch.Finish`: how a batch goes on after its files

When all files were tried, a batch of several files discards its temporary files or merges them into the
target: `finish` is that part (`runSeveral_of_ends`, `of_runSeveral`). `Harvested` says what is known of
the temporary files by then. Once they are taken away no trace is left of them, so that two batches with
the same lines and disks that are alike end alike: `finish_alike`.
-/

set_option autoImplicit false

namespace Externalize

open Disk (Cleared SameFolders Spares)

/-! ### The temporary files of a run -/

/-- The `gatheredLines` of the temporary files of a harvest. -/
def Harvest.lines (harvest : Harvest) : List Text :=
  harvest.outcomes.flatMap fun outcome => gatheredLines (storedText outcome.entries)

/-- The temporary files of the `yields` hold the lines of the harvest. Once they are taken away, the
`Dotless` locations are as they were at the `start`. -/
structure Harvested (start disk : Disk) (harvest : Harvest) (yields : List Yield) : Prop where
  temporaries : harvest.temporaries = yields.map Yield.temporary
  holds : Holds disk yields
  lines : (yields.map fun kept => gatheredLines (storedText kept.entries)).flatten = harvest.lines
  start : ∀ last, Cleared disk last (yields.map Yield.place) → Spares start last Dotless

/-- `Cleared` of the temporary files spares the locations that are not `Dotless`, as no temporary file
has a dot in its name. -/
theorem Harvested.spares {start disk last : Disk} {harvest : Harvest} {yields : List Yield}
    (h : Harvested start disk harvest yields)
    (hcleared : Cleared disk last (yields.map Yield.place)) : Spares disk last (¬Dotless ·) := by
  refine hcleared.spares.mono fun location hdot hmem => ?_
  obtain ⟨kept, hkept, rfl⟩ := List.mem_map.mp hmem
  exact hdot (h.holds.each kept hkept).dotless

/-- `Cleared` of the temporary files on disks that are `Alike` leaves no difference but at the `gone`
locations. -/
theorem Harvested.last_alike {start start' disk disk' last last' : Disk} {harvest harvest' : Harvest}
    {yields yields' : List Yield} {gone : List Location} (h : Harvested start disk harvest yields)
    (h' : Harvested start' disk' harvest' yields') (hstart : Spares start start' Dotless)
    (halike : Alike gone disk disk') (hlast : Cleared disk last (yields.map Yield.place))
    (hlast' : Cleared disk' last' (yields'.map Yield.place)) : Spares last last' (· ∉ gone) :=
  (halike.of_spares (h.spares hlast) (h'.spares hlast')).spares
    (((h.start last hlast).symm.trans hstart).trans (h'.start last' hlast'))

/-- An outcome that does not `counts` has no entries. -/
theorem FileOutcome.entries_of_counts {outcome : FileOutcome} (h : outcome.result.counts = false) :
    outcome.entries = [] := by
  refine entries_of_status fun hstatus => ?_
  obtain ⟨path, target, scan, hresult⟩ := FileResult.status_eq_extracted_iff.mp hstatus
  rw [hresult] at h
  cases h

/-- `Harvest.lines` are those of the outcomes that `counts`. -/
theorem Harvest.lines_eq {harvest harvest' : Harvest}
    (h : harvest'.outcomes.map FileOutcome.entries
      = (harvest.outcomes.filter (·.result.counts)).map FileOutcome.entries) :
    harvest'.lines = harvest.lines := by
  have hlines : harvest'.lines = (harvest'.outcomes.map FileOutcome.entries).flatMap
      fun entries => gatheredLines (storedText entries) := by
    rw [Harvest.lines, List.flatMap_map]
  rw [hlines, h, Harvest.lines, List.flatMap_map]
  induction harvest.outcomes with
  | nil => rfl
  | cons outcome outcomes ih =>
    cases hcounts : outcome.result.counts with
    | true =>
      rw [List.filter_cons_of_pos (by simpa using hcounts), List.flatMap_cons, List.flatMap_cons, ih]
    | false =>
      rw [List.filter_cons_of_neg (by simp [hcounts]), List.flatMap_cons, ih,
        FileOutcome.entries_of_counts hcounts]
      rfl

namespace Job

/-! ### After the files -/

/-- The part of `runSeveral` that comes after `extractEach`. -/
def finish (folder : Path) (files : List Path) (scheme : NameScheme) (target : Path)
    (harvest : Harvest) : Job BatchOutcome := do
  let ended (result : BatchResult) : Job BatchOutcome :=
    concludeBatch { folder, files, outcomes := harvest.outcomes, result }
  if harvest.count ≤ 0 then
    harvest.temporaries.forM discardTemporary
    ended (.noStrings (some target))
  else
    match ← attempted (merge scheme harvest.temporaries target) with
    | .ok written => ended (.extracted target written)
    | .error problem => ended (.failed (some target) (some problem))

/-- `attempted` gives the value or the problem that a job ends with. -/
theorem attempted_of_ends {α : Type} {job : Job α} {space after : Workspace} {result : Except Problem α}
    (h : job.ends space = (result.mapError .problem, after)) :
    (attempted job).ends space = (.ok result, after) := by
  rw [attempted, ends_tryCatch, ends_map, h]
  cases result <;> rfl

/-- `concludeBatch` of two batches with the same `status` and `written` ends in the same way. -/
theorem concludeBatch_alike {batch batch' outcome : BatchOutcome} {space space' after : Workspace}
    {kept : Location → Prop} (hstatus : batch'.status = batch.status)
    (hwritten : batch'.written = batch.written) (hsame : Spares space.disk space'.disk kept)
    (h : (concludeBatch batch).ends space = (.ok outcome, after)) :
    ∃ outcome' after', (concludeBatch batch').ends space' = (.ok outcome', after') ∧
      outcome'.status = outcome.status ∧ outcome'.written = outcome.written ∧
      Spares after.disk after'.disk kept := by
  cases h
  exact ⟨batch', _, rfl, hstatus, hwritten, hsame⟩

/-- `runSeveral` is `finish`, once `makeTemporaries` and `extractEach` have ended well. -/
theorem runSeveral_of_ends {options : Options} {folder first target : Path}
    {files temporaries : List Path} {scheme : NameScheme} {space made each : Workspace}
    {harvest : Harvest} (htarget : options.target = some target)
    (hscheme : NameScheme.build options.stem options.ending options.accessor = .ok scheme)
    (hmake : (makeTemporaries target.parent 1 files []).ends space = (.ok (.ok temporaries), made))
    (hextract : (extractEach options 0 (files.zip temporaries)).ends made = (.ok harvest, each)) :
    (runSeveral options folder first files).ends space
      = (finish folder files scheme target harvest).ends each := by
  have hbuilt : (attempted (schemeOf options)).ends space = (.ok (.ok scheme), space) := by
    refine attempted_of_ends ?_
    rw [schemeOf_ends, hscheme]
    rfl
  have hbatch : batchTarget options first = target := by
    rw [batchTarget, htarget, Option.getD_some]
  unfold runSeveral
  rw [ends_bind_ok hbuilt]
  simp only [hbatch]
  exact (ends_bind_ok hmake).trans (ends_bind_ok hextract)

/-- `runSeveral` whose outcome has `outcomes` came to `finish`. -/
theorem of_runSeveral {options : Options} {folder first target : Path} {files : List Path}
    {space after : Workspace} {outcome : BatchOutcome} (htarget : options.target = some target)
    (houtcomes : outcome.outcomes ≠ [])
    (h : (runSeveral options folder first files).ends space = (.ok outcome, after)) :
    ∃ scheme temporaries made harvest each,
      NameScheme.build options.stem options.ending options.accessor = .ok scheme ∧
      (makeTemporaries target.parent 1 files []).ends space = (.ok (.ok temporaries), made) ∧
      (extractEach options 0 (files.zip temporaries)).ends made = (.ok harvest, each) ∧
      (finish folder files scheme target harvest).ends each = (.ok outcome, after) := by
  have hbatch : batchTarget options first = target := by
    rw [batchTarget, htarget, Option.getD_some]
  obtain ⟨built, mid, hbuilt, hrest⟩ := of_ends_bind_ok h
  obtain ⟨hscheme, rfl⟩ := Prod.mk.inj ((schemeOf_ends options space).symm.trans (attempted_ok hbuilt))
  -- Each early end has no outcomes, which `houtcomes` excludes.
  cases built with
  | error problem =>
    obtain ⟨rfl, -⟩ := concludeBatch_ok hrest
    exact absurd rfl houtcomes
  | ok scheme =>
    cases hbuild : NameScheme.build options.stem options.ending options.accessor with
    | error fault =>
      rw [hbuild] at hscheme
      cases hscheme
    | ok other =>
      rw [hbuild] at hscheme
      cases hscheme
      simp only [hbatch] at hrest
      obtain ⟨made, space', hmake, hrest⟩ := of_ends_bind_ok hrest
      cases made with
      | error fault =>
        obtain ⟨rfl, -⟩ := concludeBatch_ok hrest
        exact absurd rfl houtcomes
      | ok temporaries =>
        obtain ⟨harvest, each, hextract, hrest⟩ := of_ends_bind_ok hrest
        exact ⟨scheme, temporaries, space', harvest, each, rfl, hmake, hextract, hrest⟩

/-- `settle` ends in the same way on two disks that are the same where the target is. -/
theorem settle_alike {scheme : NameScheme} {target : Path} {merged : List Text}
    {space space' after : Workspace} {result : Except Problem Nat} {kept : Location → Prop}
    (hsame : Spares space.disk space'.disk kept)
    (htarget : ∀ location, space.disk.locate target = .ok location → kept location)
    (h : (settle scheme target merged).ends space = (result.mapError .problem, after)) :
    ∃ (result' : Except Problem Nat) (after' : Workspace),
      (settle scheme target merged).ends space' = (result'.mapError .problem, after') ∧
      result'.toOption = result.toOption ∧ Spares after.disk after'.disk kept := by
  cases hlines : scheme.renumber merged with
  | error fault =>
    have hends : ∀ space, (settle scheme target merged).ends space = (.error fault.toFault, space) := by
      intro space
      rw [settle, hlines]
      rfl
    rw [hends] at h
    obtain ⟨hresult, rfl⟩ := Prod.mk.inj h
    exact ⟨result, space', by rw [hends, hresult], rfl, hsame⟩
  | ok lines =>
    rw [settle_of_renumber hlines] at h
    rw [settle_of_renumber hlines]
    by_cases hzero : HasZero target
    · rw [if_pos hzero] at h
      obtain ⟨hresult, -⟩ := Prod.mk.inj h
      cases result <;> cases hresult
    · rw [if_neg hzero] at h ⊢
      cases hwrite : space.disk.write target (Utf8.encode (Document.document lines)) with
      | ok disk =>
        obtain ⟨disk', hwrite', hspares⟩ := hsame.update_ok htarget hwrite
        rw [hwrite] at h
        rw [Disk.write, hwrite']
        obtain ⟨hresult, rfl⟩ := Prod.mk.inj h
        exact ⟨result, { space' with disk := disk' }, by rw [← hresult], rfl, hspares⟩
      | error refusal =>
        rw [hwrite] at h
        obtain ⟨hresult, rfl⟩ := Prod.mk.inj h
        obtain ⟨problem, rfl⟩ : ∃ problem, result = .error problem := by
          cases result with
          | ok written => cases hresult
          | error problem => exact ⟨problem, rfl⟩
        -- The refusals need not be the same.
        cases hwrite' : space'.disk.write target (Utf8.encode (Document.document lines)) with
        | ok disk' =>
          obtain ⟨disk, hdisk, -⟩ := hsame.symm.update_ok
            (fun location hlocate => htarget location ((hsame.folders.locate_iff _ _).mpr hlocate))
            hwrite'
          cases hwrite.symm.trans hdisk
        | error refusal' =>
          exact ⟨.error (.interrupted (.disk { refusal := refusal', path := target })), space', rfl, rfl,
            hsame⟩

section

variable {start start' : Disk} {harvest harvest' : Harvest} {yields yields' : List Yield}
  {space space' : Workspace}

/-- `merge` takes the temporary files away, and then it is `settle` of the lines of the harvest. -/
theorem merge_of_harvested (h : Harvested start space.disk harvest yields) (scheme : NameScheme)
    (target : Path) :
    ∃ last, (merge scheme harvest.temporaries target).ends space
        = (settle scheme target harvest.lines).ends last ∧
      Cleared space.disk last.disk (yields.map Yield.place) := by
  obtain ⟨last, hgather, hcleared⟩ := gatherAll_ends h.holds
  refine ⟨last, ?_, hcleared⟩
  rw [merge_eq, h.temporaries, ends_bind_ok hgather, h.lines]

theorem discard_of_harvested (h : Harvested start space.disk harvest yields) :
    ∃ last, (harvest.temporaries.forM discardTemporary).ends space = (.ok (), last) ∧
      Cleared space.disk last.disk (yields.map Yield.place) := by
  rw [h.temporaries]
  exact discardAll_ends h.holds

variable {folder target : Path} {files files' : List Path} {scheme : NameScheme} {after : Workspace}
  {outcome : BatchOutcome}

/-- `finish` keeps the `outcomes` of the harvest and the folders. -/
theorem of_finish (hharvest : Harvested start space.disk harvest yields)
    (h : (finish folder files scheme target harvest).ends space = (.ok outcome, after)) :
    outcome.outcomes = harvest.outcomes ∧ SameFolders space.disk after.disk := by
  unfold finish at h
  by_cases hcount : harvest.count ≤ 0
  · obtain ⟨last, hdiscard, hcleared⟩ := discard_of_harvested hharvest
    rw [if_pos hcount, ends_bind_ok hdiscard] at h
    obtain ⟨rfl, hdisk⟩ := concludeBatch_ok h
    exact ⟨rfl, hdisk ▸ hcleared.folders⟩
  · obtain ⟨last, hmerge, hcleared⟩ := merge_of_harvested hharvest scheme target
    rw [if_neg hcount] at h
    obtain ⟨merged, mid, hattempt, h⟩ := of_ends_bind_ok h
    -- Merging touches the folders neither when it writes nor when it fails.
    have hfolders : SameFolders last.disk mid.disk := by
      have hsettle := hmerge.symm.trans (attempted_ok hattempt)
      rcases settle_ends scheme target harvest.lines last with ⟨_, hends⟩ | ⟨_, _, -, hwrite, hends⟩
      · rw [(Prod.mk.inj (hsettle.symm.trans hends)).2]
        exact .refl _
      · rw [(Prod.mk.inj (hsettle.symm.trans hends)).2]
        exact Disk.update_sameFolders hwrite
    cases merged with
    | ok written =>
      obtain ⟨rfl, hdisk⟩ := concludeBatch_ok h
      exact ⟨rfl, hdisk ▸ hcleared.folders.trans hfolders⟩
    | error problem =>
      obtain ⟨rfl, hdisk⟩ := concludeBatch_ok h
      exact ⟨rfl, hdisk ▸ hcleared.folders.trans hfolders⟩

/-- `finish` of two harvests with the same `count` and the same lines ends in the same way. -/
theorem finish_alike {gone : List Location} (hharvest : Harvested start space.disk harvest yields)
    (hharvest' : Harvested start' space'.disk harvest' yields') (hstart : Spares start start' Dotless)
    (halike : Alike gone space.disk space'.disk) (hcount : harvest'.count = harvest.count)
    (hlines : harvest'.lines = harvest.lines)
    (htarget : ∀ location, space.disk.locate target = .ok location → location ∉ gone)
    (h : (finish folder files scheme target harvest).ends space = (.ok outcome, after)) :
    ∃ outcome' after',
      (finish folder files' scheme target harvest').ends space' = (.ok outcome', after') ∧
      outcome'.status = outcome.status ∧ outcome'.written = outcome.written ∧
      Spares after.disk after'.disk (· ∉ gone) := by
  unfold finish at h ⊢
  by_cases hpositive : harvest.count ≤ 0
  · -- Nothing was extracted, and the temporary files are discarded.
    obtain ⟨last, hdiscard, hcleared⟩ := discard_of_harvested hharvest
    obtain ⟨last', hdiscard', hcleared'⟩ := discard_of_harvested hharvest'
    rw [if_pos hpositive, ends_bind_ok hdiscard] at h
    rw [if_pos (hcount ▸ hpositive), ends_bind_ok hdiscard']
    refine concludeBatch_alike ?_ ?_
      (hharvest.last_alike hharvest' hstart halike hcleared hcleared') h
    · rfl
    · rfl
  · obtain ⟨last, hmerge, hcleared⟩ := merge_of_harvested hharvest scheme target
    obtain ⟨last', hmerge', hcleared'⟩ := merge_of_harvested hharvest' scheme target
    rw [if_neg hpositive] at h
    obtain ⟨merged, mid, hattempt, h⟩ := of_ends_bind_ok h
    obtain ⟨merged', mid', hsettle', hvalue, hspares⟩ :=
      settle_alike (hharvest.last_alike hharvest' hstart halike hcleared hcleared')
        (fun location hlocate => htarget location ((hcleared.folders.locate_iff _ _).mpr hlocate))
        (hmerge.symm.trans (attempted_ok hattempt))
    rw [← hlines, ← hmerge'] at hsettle'
    rw [if_neg (hcount ▸ hpositive), ends_bind_ok (attempted_of_ends hsettle')]
    cases merged with
    | ok written =>
      cases merged' with
      | error problem => cases hvalue
      | ok written' =>
        obtain rfl : written' = written := Option.some.inj hvalue
        refine concludeBatch_alike ?_ ?_ hspares h
        · rfl
        · rfl
    | error problem =>
      cases merged' with
      | ok written => cases hvalue
      | error problem' =>
        refine concludeBatch_alike ?_ ?_ hspares h
        · rfl
        · rfl

end

end Job

end Externalize
