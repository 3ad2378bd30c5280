import Switchboard.CommandLine
import Switchboard.Proofs.Route.Configured
import Switchboard.Server.Site

/-!
Opening a site from settings that passed their check. The check looks at each route by itself (`Settings.IsFit`),
while the table takes the routes together, so a fit configuration can still be refused: it is exactly when two of its
routes have one name and one pattern, and then for the first that repeats an earlier one (`fit_settings_open_iff`).
Nothing is claimed here of what a site does once it is open.
-/

namespace Switchboard

namespace Settings

/-- Settings that pass the check: there are processes, workers and polls, no limit is zero, and each route has a
name, and a pattern that is one. -/
structure IsFit (language : PatternLanguage) (s : Settings) : Prop where
  processes : s.processes ≠ 0
  workers : s.workers ≠ 0
  timeout : s.timeout ≠ 0
  limits : ∀ l ∈ namedLimits s.limits, l.2 ≠ 0
  named : ∀ r ∈ s.routes, r.name.isEmpty = false
  compiles : Route.Compiles language s.routes

variable {language : PatternLanguage} {s : Settings}

theorem routeDefect?_eq_none_iff (r : Route.Spec) :
    routeDefect? language r = none ↔
      r.name.isEmpty = false ∧ ∃ accepts, language r.pattern = some accepts := by
  unfold routeDefect?
  rcases hname : r.name.isEmpty <;> rcases hl : language r.pattern <;> simp

theorem defect?_eq_none_iff : s.defect? language = none ↔ s.IsFit language := by
  have hroutes : s.routes.findSome? (routeDefect? language) = none ↔
      (∀ r ∈ s.routes, r.name.isEmpty = false) ∧ Route.Compiles language s.routes := by
    rw [List.findSome?_eq_none_iff]
    simp only [routeDefect?_eq_none_iff, forall_and, Route.Compiles]
  have hlimits : (namedLimits s.limits).find? (·.2 == 0) = none ↔
      ∀ l ∈ namedLimits s.limits, l.2 ≠ 0 := by
    simp [List.find?_eq_none]
  unfold defect?
  constructor
  · intro h
    split at h
    · cases h
    next hprocesses =>
      split at h
      · cases h
      next hworkers =>
        split at h
        · cases h
        next htimeout =>
          split at h
          · cases h
          next hnone =>
            obtain ⟨hnamed, hcompiles⟩ := hroutes.1 h
            exact ⟨hprocesses, hworkers, htimeout, hlimits.1 hnone, hnamed, hcompiles⟩
  · intro h
    rw [if_neg h.processes, if_neg h.workers, if_neg h.timeout, hlimits.2 h.limits]
    exact hroutes.2 ⟨h.named, h.compiles⟩

/-- The check returns fit settings as they are, and no others. -/
theorem validate_eq_ok_iff {s' : Settings} :
    s.validate language = .ok s' ↔ s' = s ∧ s.IsFit language := by
  rw [← defect?_eq_none_iff]
  unfold validate
  rcases s.defect? language with _ | d
  · simp [eq_comm]
  · simp

/-- Settings that were read from a text are fit. -/
theorem isFit_of_ofText {source : String} (h : ofText language source = .ok s) : s.IsFit language := by
  unfold ofText at h
  split at h
  · cases h
  · obtain ⟨rfl, hfit⟩ := validate_eq_ok_iff.1 h
    exact hfit

theorem isFit_of_ofContent {content : Except Unreadable Bytes}
    (h : ofContent language content = .ok s) : s.IsFit language := by
  unfold ofContent at h
  split at h
  · cases h
  · split at h
    · cases h
    · exact isFit_of_ofText h

end Settings

/-- Settings that the command reports to be fine are fit. -/
theorem CommandLine.isFit_of_checked {language : PatternLanguage} {s : Settings} {args : List String}
    {content : String → Except Settings.Unreadable Bytes}
    (h : carryOut language content args = .checked s) : s.IsFit language := by
  unfold carryOut at h
  split at h
  · cases h
  · cases h
  next c _ =>
    dsimp only at h
    split at h
    · cases h
    next s' hread =>
      have hfit : s'.IsFit language := by
        split at hread
        · exact Settings.isFit_of_ofContent hread
        · exact Settings.isFit_of_ofText hread
      split at h
      · obtain rfl := Outcome.checked.inj h
        exact hfit
      · cases h

namespace Server.Site

variable {language : PatternLanguage} {s : Settings} {libraries : Route.Libraries}
  {documents : Files.Storage} {date : String}

/-- Fit settings are opened with the table of their routes, or refused as that table is. -/
theorem start_of_isFit (hfit : s.IsFit language) (libraries : Route.Libraries) (documents : Files.Storage)
    (date : String) :
    start language s libraries documents date =
      match Route.Table.ofSpecs language s.routes with
      | .error r => .error (.route r)
      | .ok table => .ok {
          settings := s
          registry := ⟨table, { libraries with plugins := libraries.plugins || s.plugins }⟩
          documents := ⟨s.documentRoot, documents⟩
          date } := by
  have hvalid := Settings.validate_eq_ok_iff.2 ⟨rfl, hfit⟩
  unfold start
  generalize s.validate language = verdict at hvalid ⊢
  subst hvalid
  rfl

theorem start_eq_ok_iff {site : Site} (hfit : s.IsFit language) :
    start language s libraries documents date = .ok site ↔
      ∃ table, Route.Table.ofSpecs language s.routes = .ok table ∧
        site = ⟨s, ⟨table, { libraries with plugins := libraries.plugins || s.plugins }⟩,
          ⟨s.documentRoot, documents⟩, date⟩ := by
  rw [start_of_isFit hfit]
  rcases Route.Table.ofSpecs language s.routes with refusal | table
  · simp
  · simp [eq_comm]

theorem start_eq_error_iff {fault : OpenFault} (hfit : s.IsFit language) :
    start language s libraries documents date = .error fault ↔
      ∃ refusal, Route.Table.ofSpecs language s.routes = .error refusal ∧ fault = .route refusal := by
  rw [start_of_isFit hfit]
  rcases Route.Table.ofSpecs language s.routes with refusal | table
  · simp [eq_comm]
  · simp

/-- Settings that pass the check, whatever libraries, documents and date they are opened with: they open a site
exactly when no two of their routes agree in name and pattern; the site then has these settings, and a table with all
their routes, stably sorted from the longest pattern to the shortest; else they are refused for the first route that
repeats the name and the pattern of one before it. -/
theorem fit_settings_open_iff (hcheck : s.validate language = .ok s) (libraries : Route.Libraries)
    (documents : Files.Storage) (date : String) :
    ((∃ site, start language s libraries documents date = .ok site) ↔
      (s.routes.map Route.Spec.key).Nodup) ∧
    (∀ site, start language s libraries documents date = .ok site →
      site.settings = s ∧
      site.registry.table.entries =
        (s.routes.filterMap (Route.Entry.compile language)).mergeSort Route.Entry.precedes) ∧
    (∀ fault, start language s libraries documents date = .error fault →
      ∃ r, Route.Table.IsFirstRepeat s.routes r ∧ fault = .route (.existed r.name r.pattern)) := by
  obtain ⟨-, hfit⟩ := Settings.validate_eq_ok_iff.1 hcheck
  refine ⟨?_, fun site hstart => ?_, fun fault hstart => ?_⟩
  · rw [← Route.Table.ofSpecs_ok_iff hfit.compiles]
    simp only [start_eq_ok_iff hfit]
    constructor
    · rintro ⟨site, table, htable, -⟩
      exact ⟨table, htable⟩
    · rintro ⟨table, htable⟩
      exact ⟨_, table, htable, rfl⟩
  · obtain ⟨table, htable, rfl⟩ := (start_eq_ok_iff hfit).1 hstart
    exact ⟨rfl, Route.Table.entries_ofSpecs htable⟩
  · obtain ⟨refusal, hrefusal, rfl⟩ := (start_eq_error_iff hfit).1 hstart
    obtain ⟨r, hrepeat, rfl⟩ := Route.Table.ofSpecs_refused hfit.compiles hrefusal
    exact ⟨r, hrepeat, rfl⟩

/-- Settings in which one route stands twice. -/
def repeatedRoute : Settings :=
  { routes := [{ pattern := "/a", name := "a" }, { pattern := "/a", name := "a" }] }

/-- A route that stands twice passes the check, and no site is opened: the second one is refused. -/
theorem repeatedRoute_refused :
    repeatedRoute.validate Route.prefixLanguage = .ok repeatedRoute ∧
    ∀ libraries documents date,
      start Route.prefixLanguage repeatedRoute libraries documents date =
        .error (.route (.existed "a" "/a")) := by
  have hcheck : repeatedRoute.validate Route.prefixLanguage = .ok repeatedRoute := by decide +kernel
  refine ⟨hcheck, fun libraries documents date => ?_⟩
  obtain ⟨hopen, -, herror⟩ := fit_settings_open_iff hcheck libraries documents date
  rcases hstart : start Route.prefixLanguage repeatedRoute libraries documents date with fault | site
  · obtain ⟨r, ⟨before, after, hroutes, -, hmem⟩, rfl⟩ := herror fault hstart
    have hr : r ∈ repeatedRoute.routes := hroutes ▸ List.mem_append_right _ List.mem_cons_self
    have hrepeat : r = { pattern := "/a", name := "a" } := by simpa [repeatedRoute] using hr
    rw [hrepeat]
  · have hdistinct := hopen.1 ⟨site, hstart⟩
    exact absurd hdistinct (by decide)

end Server.Site
end Switchboard
