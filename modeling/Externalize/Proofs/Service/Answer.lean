import Externalize.Proofs.Job
import Externalize.Service.Answer

/-!
# `Externalize.Proofs.Service.Answer`: what a call of the service can do

`Starts` lists what a call has to bring so that `answer` runs anything: a host that is let through, the
path and the method of `Route.extract`, the key of the service and a body that `Settings.ofPayload` takes.
A call that starts something is answered with the `report` on the run (`answer_of_starts`), and any other
one leaves the workspace as it is (`answer_of_not_starts`). So the status 201 is given exactly if a run
was started and wrote entries (`answer_created_iff`).

All of this holds for every `admits`, that is for every web framework around the service.
-/

set_option autoImplicit false

namespace Externalize.Service

open Job

variable {admits : Text → Bool} {key : Option Text} {call : Call} {settings : Settings}
  {space : Workspace}

/-- A call for which `answer` runs the `settings`: it gets to `Route.extract` with its key and a payload
that `Settings.ofPayload` accepts. -/
structure Starts (admits : Text → Bool) (key : Option Text) (call : Call) (settings : Settings) : Prop where
  admitted : admits call.hostName = true
  route : routeOf call = .ok .extract
  verb : call.verb = "POST".toList
  authorized : isAuthorized key call = true
  payload : ∃ payload, Json.ofMessage call.content = .ok payload ∧
    Settings.ofPayload payload = .ok settings

/-- `Route.find` finds a route for its own `methods` only. -/
theorem Route.verb_mem_of_find {path : Text} {route : Route} (h : Route.find call path = .ok route) :
    call.verb ∈ route.methods := by
  unfold Route.find at h
  split at h
  · cases h
  · rename_i found _
    cases hverb : found.methods.contains call.verb with
    | false =>
      rw [hverb] at h
      cases h
    | true =>
      rw [hverb] at h
      have hmem := List.contains_iff_mem.mp hverb
      cases hconversation : call.isConversation with
      | false =>
        rw [hconversation] at h
        cases h
        exact hmem
      | true =>
        rw [hconversation] at h
        cases h

theorem verb_mem_of_routeOf {route : Route} (h : routeOf call = .ok route) :
    call.verb ∈ route.methods := by
  unfold routeOf at h
  split at h
  · rename_i found hfind
    cases h
    exact Route.verb_mem_of_find hfind
  · split at h <;> cases h
  · cases h

/-- The `verb` of a call with the method `HEAD`. -/
theorem verb_of_head (h : call.method = "HEAD".toList) : call.verb = "HEAD".toList := by
  rw [Call.verb, h]
  decide

/-- `answer` of a call that `Starts` the settings is the `report` on their `run`. -/
theorem answer_of_starts (h : Starts admits key call settings) :
    answer admits key call = report <$> settings.run := by
  obtain ⟨payload, hmessage, hsettings⟩ := h.payload
  have hextract : extract key call = report <$> settings.run := by
    simp only [extract, h.authorized, hmessage, hsettings, Bool.not_true, Bool.false_eq_true, if_false]
  have hoptions : call.verb ≠ "OPTIONS".toList := by
    rw [h.verb]
    decide
  have hhead : call.method ≠ "HEAD".toList := fun hhead => by
    have hverb := h.verb.symm.trans (verb_of_head hhead)
    revert hverb
    decide
  simp only [answer, h.admitted, h.route, hoptions, hhead, answerOf, hextract, Bool.not_true,
    Bool.false_eq_true, if_false, bind_pure]

/-- The statuses that `answer` gives before a call gets to a route. -/
def refusals : List Nat := [308, 400, 404, 405]

theorem Route.mem_refusals_of_find {path : Text} {status : Nat}
    (h : Route.find call path = .error status) : status ∈ refusals := by
  unfold Route.find at h
  repeat' split at h
  all_goals cases h <;> decide

theorem mem_refusals_of_routeOf {status : Nat} (h : routeOf call = .error status) :
    status ∈ refusals := by
  unfold routeOf at h
  split at h
  · cases h
  · split at h
    · cases h
      decide
    · rename_i hfind
      cases h
      exact Route.mem_refusals_of_find hfind
  · rename_i hfind
    cases h
    exact Route.mem_refusals_of_find hfind

/-- `extract` of a call without its key, or without a payload that `Settings.ofPayload` accepts, changes
nothing and has another status than 201. -/
theorem extract_of_not_starts
    (h : isAuthorized key call = true → ∀ payload, Json.ofMessage call.content = .ok payload →
      ∀ settings, Settings.ofPayload payload ≠ .ok settings) :
    ∃ response, (extract key call).ends space = (.ok response, space) ∧ response.status ≠ 201 := by
  unfold extract
  cases hauthorized : isAuthorized key call with
  | false => exact ⟨_, rfl, by simp [refusal]⟩
  | true =>
    cases hmessage : Json.ofMessage call.content with
    | error fault => exact ⟨_, rfl, by simp [refusal]⟩
    | ok payload =>
      cases hsettings : Settings.ofPayload payload with
      | error fault => exact ⟨_, by simp only [hsettings]; rfl, by simp [refusal]⟩
      | ok settings => exact absurd hsettings (h hauthorized payload hmessage settings)

/-- `answer` of a call that `Starts` nothing changes nothing and has another status than 201. -/
theorem answer_of_not_starts (h : ∀ settings, ¬Starts admits key call settings) :
    ∃ response, (answer admits key call).ends space = (.ok response, space) ∧ response.status ≠ 201 := by
  unfold answer
  cases hadmits : admits call.hostName with
  | false => exact ⟨_, rfl, by simp⟩
  | true =>
    cases hroute : routeOf call with
    | error status =>
      refine ⟨_, rfl, fun hcreated : status = 201 => ?_⟩
      have hmem := hcreated ▸ mem_refusals_of_routeOf hroute
      revert hmem
      decide
    | ok route =>
      -- The three routes are left, and `OPTIONS` is answered before any of them.
      by_cases hoptions : call.verb = "OPTIONS".toList
      · simp only [hoptions, Bool.not_true, Bool.false_eq_true, if_false, if_true]
        exact ⟨{ status := 200 }, rfl, by simp⟩
      · obtain ⟨response, hends, hstatus⟩ : ∃ response,
            (answerOf key call route).ends space = (.ok response, space) ∧ response.status ≠ 201 := by
          cases route with
          | health => exact ⟨_, rfl, by simp⟩
          | assets => exact ⟨_, rfl, by simp⟩
          | extract =>
            refine extract_of_not_starts fun hauthorized payload hmessage settings hsettings =>
              h settings ⟨hadmits, hroute, ?_, hauthorized, payload, hmessage, hsettings⟩
            obtain hpost | hother := List.mem_cons.mp (verb_mem_of_routeOf hroute)
            · exact hpost
            · exact absurd (List.mem_singleton.mp hother) hoptions
        simp only [hoptions, Bool.not_true, Bool.false_eq_true, if_false, ends_bind_ok hends]
        by_cases hhead : call.method = "HEAD".toList
        · exact ⟨{ response with body := none }, by rw [if_pos hhead]; rfl, hstatus⟩
        · exact ⟨response, by rw [if_neg hhead]; rfl, hstatus⟩

/-- `statusOf` is 201 exactly if the outcome has `written` entries. -/
theorem statusOf_eq_created_iff (outcome : Outcome) : statusOf outcome = 201 ↔ outcome.written ≠ 0 := by
  unfold statusOf
  by_cases hwritten : outcome.written = 0
  · simp only [hwritten, ne_eq, not_true_eq_false, if_false, iff_false]
    repeat' split
    all_goals decide
  · simp [hwritten]

/-- **`answer` gives the status 201 exactly if the call `Starts` settings whose run wrote entries.** -/
theorem answer_created_iff {after : Workspace} :
    (∃ response, (answer admits key call).ends space = (.ok response, after) ∧ response.status = 201) ↔
      ∃ settings outcome, Starts admits key call settings ∧
        settings.run.ends space = (.ok outcome, after) ∧ outcome.written ≠ 0 := by
  constructor
  · rintro ⟨response, hends, hstatus⟩
    by_cases hstarts : ∃ settings, Starts admits key call settings
    · obtain ⟨settings, hstarts⟩ := hstarts
      rw [answer_of_starts hstarts, map_eq_pure_bind] at hends
      obtain ⟨outcome, mid, hrun, hreport⟩ := of_ends_bind_ok hends
      cases hreport
      exact ⟨settings, outcome, hstarts, hrun, (statusOf_eq_created_iff outcome).mp hstatus⟩
    · obtain ⟨other, hother, hne⟩ := answer_of_not_starts (not_exists.mp hstarts)
      rw [hother] at hends
      cases hends
      exact absurd hstatus hne
  · rintro ⟨settings, outcome, hstarts, hrun, hwritten⟩
    refine ⟨report outcome, ?_, (statusOf_eq_created_iff outcome).mpr hwritten⟩
    rw [answer_of_starts hstarts, ends_map, hrun]

end Externalize.Service
