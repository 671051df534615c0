import LiveScene.Proofs.Verdicts

/-! # Sources in order

The library is taken from the first source that has it: it is global, or a module brings it, or one
of the scripts does. A source fails in one of two ways, and of every source that fails one error is
recorded. All this holds of any site, also of one that changes while a module is waited for. A page
gets at most one tag for each script, however often a load is begun.
-/

namespace LiveScene

section

variable {π : Type} [Site π]

/-! ## Scripts -/

/-- A page with a tag for the source: there was one, or one could be inserted. -/
inductive TagPlaced (page : π) (source : String) : π → Prop
  | found (htag : Site.hasTag page source = true) : TagPlaced page source page
  | inserted {ready : π} (htag : Site.hasTag page source = false)
      (hinsert : Site.insertTag page source = (.ok (), ready)) : TagPlaced page source ready

/-- The library becomes global in time, with the tag of the source in place. -/
def SourceBrings (timeout : UInt64) (page : π) (source : String) (last : π) (library : Library) :
    Prop :=
  ∃ ready, TagPlaced page source ready ∧ Site.awaitGlobal ready timeout = (some library, last)

/-- A source fails with an error. -/
inductive SourceFails (timeout : UInt64) (page : π) (source : String) : π → LoadError → Prop
  /-- Without a tag there is nothing to wait for. -/
  | insertion {last : π} {error : LoadError} (htag : Site.hasTag page source = false)
      (hinsert : Site.insertTag page source = (.error error, last)) :
      SourceFails timeout page source last error
  | wait {ready last : π} (htag : TagPlaced page source ready)
      (hwait : Site.awaitGlobal ready timeout = (none, last)) :
      SourceFails timeout page source last (.timeout source timeout.toNat)

/-- Sources fail one after the other, each with an error of its own. -/
inductive SourcesFail (timeout : UInt64) : π → List String → π → List LoadError → Prop
  | nil (page : π) : SourcesFail timeout page [] page []
  | cons {page next last : π} {source : String} {rest : List String} {error : LoadError}
      {errors : List LoadError} (hfirst : SourceFails timeout page source next error)
      (hrest : SourcesFail timeout next rest last errors) :
      SourcesFail timeout page (source :: rest) last (error :: errors)

theorem SourcesFail.length_eq {timeout : UInt64} {page last : π} {sources : List String}
    {errors : List LoadError} (h : SourcesFail timeout page sources last errors) :
    errors.length = sources.length := by
  induction h with
  | nil => rfl
  | cons _ _ ih => rw [List.length_cons, List.length_cons, ih]

section

variable {timeout : UInt64} {page start failed last : π} {source : String} {library : Library}
  {error : LoadError} {errors : List LoadError} {before sources : List String}

theorem trySource_of_brings (h : SourceBrings timeout page source last library) :
    ∃ log, trySource timeout source page = (last, log, .ok library) := by
  obtain ⟨ready, htag, hwait⟩ := h
  have hawait : awaitSource timeout source ready = (last, #[], .ok library) := by
    rw [awaitSource, hwait]
  cases htag with
  | found htag => exact ⟨_, by rw [trySource, if_pos htag, hawait]⟩
  | inserted htag hinsert =>
      refine ⟨#[], ?_⟩
      rw [trySource, htag, hinsert]
      exact hawait

theorem trySource_of_fails (h : SourceFails timeout page source last error) :
    ∃ log, trySource timeout source page = (last, log, .error error) := by
  cases h with
  | insertion htag hinsert => exact ⟨_, by rw [trySource, htag, hinsert]; rfl⟩
  | @wait ready _ htag hwait =>
      obtain ⟨log, hawait⟩ : ∃ log, awaitSource timeout source ready =
          (last, log, .error (.timeout source timeout.toNat)) := ⟨_, by rw [awaitSource, hwait]⟩
      cases htag with
      | found htag => exact ⟨_, by rw [trySource, if_pos htag, hawait]⟩
      | inserted htag hinsert =>
          refine ⟨log, ?_⟩
          rw [trySource, htag, hinsert]
          exact hawait

variable (timeout page source) in
/-- A source brings the library or fails. -/
theorem brings_or_fails :
    (∃ last library, SourceBrings timeout page source last library) ∨
      ∃ last error, SourceFails timeout page source last error := by
  have hplaced : ∀ ready, TagPlaced page source ready →
      (∃ last library, SourceBrings timeout page source last library) ∨
        ∃ last error, SourceFails timeout page source last error := by
    intro ready htag
    rcases hwait : Site.awaitGlobal ready timeout with ⟨_ | library, last⟩
    · exact Or.inr ⟨last, _, .wait htag hwait⟩
    · exact Or.inl ⟨last, library, ready, htag, hwait⟩
  cases htag : Site.hasTag page source with
  | true => exact hplaced page (.found htag)
  | false =>
      rcases hinsert : Site.insertTag page source with ⟨error | ⟨⟩, last⟩
      · exact Or.inr ⟨last, error, .insertion htag hinsert⟩
      · exact hplaced last (.inserted htag hinsert)

/-- Of sources that failed only the errors are carried on. What is logged of them depends neither on
the attempts before nor on the sources that are left. -/
theorem trySources_of_fail (h : SourcesFail timeout start before failed errors) :
    ∃ log, ∀ attempts rest, trySources timeout attempts (before ++ rest) start =
      let found := trySources timeout (attempts ++ errors) rest failed
      (found.1, log ++ found.2.1, found.2.2) := by
  induction h with
  | nil page => exact ⟨#[], fun attempts rest => by simp⟩
  | cons hfirst hrest ih =>
      obtain ⟨log, hlog⟩ := trySource_of_fails hfirst
      obtain ⟨more, hmore⟩ := ih
      refine ⟨log ++ more, fun attempts rest => ?_⟩
      rw [List.cons_append, trySources, hlog]
      simp only [hmore, List.append_assoc, List.singleton_append, Array.append_assoc]

/-- What comes after the source that brings the library makes no difference. -/
theorem trySources_of_brings (hbefore : SourcesFail timeout start before failed errors)
    (hbrings : SourceBrings timeout failed source last library) :
    ∃ log, ∀ attempts others, trySources timeout attempts (before ++ [source] ++ others) start =
      (last, log, .ok library) := by
  obtain ⟨log, hlog⟩ := trySources_of_fail hbefore
  obtain ⟨more, hmore⟩ := trySource_of_brings hbrings
  refine ⟨log ++ more, fun attempts others => ?_⟩
  rw [List.append_assoc, hlog, List.singleton_append, trySources, hmore]

theorem trySources_of_all_fail (h : SourcesFail timeout start sources last errors) :
    ∃ log, ∀ attempts, trySources timeout attempts sources start =
      (last, log, .error (.exhausted (attempts ++ errors))) := by
  obtain ⟨log, hlog⟩ := trySources_of_fail h
  refine ⟨log, fun attempts => ?_⟩
  have hall := hlog attempts []
  simpa [trySources] using hall

variable (timeout sources start) in
/-- Some source is the first to bring the library, or all of them fail. -/
theorem first_brings_or_all_fail :
    (∃ before source failed errors last library, before ++ [source] <+: sources ∧
        SourcesFail timeout start before failed errors ∧
        SourceBrings timeout failed source last library) ∨
      ∃ last errors, SourcesFail timeout start sources last errors := by
  induction sources generalizing start with
  | nil => exact Or.inr ⟨start, [], .nil start⟩
  | cons source rest ih =>
      rcases brings_or_fails timeout start source with
        ⟨last, library, hbrings⟩ | ⟨next, error, hfails⟩
      · exact Or.inl ⟨[], source, start, [], last, library, ⟨rest, rfl⟩, .nil start, hbrings⟩
      · rcases ih next with
          ⟨before, other, failed, errors, last, library, hreached, hbefore, hbrings⟩ |
            ⟨last, errors, hall⟩
        · exact Or.inl ⟨source :: before, other, failed, error :: errors, last, library,
            List.cons_prefix_cons.mpr ⟨rfl, hreached⟩, .cons hfails hbefore, hbrings⟩
        · exact Or.inr ⟨last, error :: errors, .cons hfails hall⟩

end

/-! ## Modules -/

/-- What becomes of a module is known at one of some pages for the first time. -/
inductive ImportAnswered (url : String) : List π → π → Except LoadError Library → Prop
  | now {page : π} {rest : List π} {answer : Except LoadError Library}
      (hknown : Site.importResult page url = some answer) :
      ImportAnswered url (page :: rest) page answer
  | later {page here : π} {rest : List π} {answer : Except LoadError Library}
      (hunknown : Site.importResult page url = none)
      (hlater : ImportAnswered url rest here answer) :
      ImportAnswered url (page :: rest) here answer

theorem ImportAnswered.known {url : String} {pages : List π} {here : π}
    {answer : Except LoadError Library} (h : ImportAnswered url pages here answer) :
    Site.importResult here url = some answer := by
  induction h with
  | now hknown => exact hknown
  | later _ _ ih => exact ih

theorem unknown_or_answered (url : String) (pages : List π) :
    (∀ page ∈ pages, Site.importResult page url = none) ∨
      ∃ here answer, ImportAnswered url pages here answer := by
  induction pages with
  | nil => exact Or.inl fun page hpage => absurd hpage List.not_mem_nil
  | cons page rest ih =>
      cases hresult : Site.importResult page url with
      | some answer => exact Or.inr ⟨page, answer, .now hresult⟩
      | none =>
          rcases ih with hnone | ⟨here, answer, hanswer⟩
          · exact Or.inl (List.forall_mem_cons.mpr ⟨hresult, hnone⟩)
          · exact Or.inr ⟨here, answer, .later hresult hanswer⟩

/-- Takes a search up again at a page, unless it is over. -/
def resumed (config : LoaderConfig) (found : π × Log × Search) (page : π) : π × Log × Search :=
  match found.2.2 with
  | .importing url =>
    let (last, log, search) := resumeSearch config url page
    (last, found.2.1 ++ log, search)
  | .finished _ => found

/-- A search from its start through the pages at which it is taken up again. In between the page
may have become any other. -/
def searchThrough (config : LoaderConfig) (page : π) (later : List π) : π × Log × Search :=
  later.foldl (resumed config) (startSearch config page)

section

variable {config : LoaderConfig} {url : String} {page here last : π} {pages later : List π}
  {log : Log}

theorem foldl_resumed_of_finished {found : π × Log × Search} {result : Except LoadError Library}
    (h : found.2.2 = .finished result) : pages.foldl (resumed config) found = found := by
  induction pages with
  | nil => rfl
  | cons page rest ih =>
      have hsame : resumed config found page = found := by rw [resumed, h]
      rw [List.foldl_cons, hsame, ih]

theorem foldl_resumed_of_unknown (h : ∀ page ∈ pages, Site.importResult page url = none) :
    (pages.foldl (resumed config) (last, log, .importing url)).2.2 = .importing url := by
  induction pages generalizing last log with
  | nil => rfl
  | cons page rest ih =>
      obtain ⟨hnone, hrest⟩ := List.forall_mem_cons.mp h
      have hstep : resumed config (last, log, .importing url) page =
          (page, log ++ #[], .importing url) := by
        simp only [resumed, resumeSearch, hnone]
      rw [List.foldl_cons, hstep]
      exact ih hrest

variable (config) in
theorem finished_resumeSearch {answer : Except LoadError Library}
    (h : Site.importResult page url = some answer) :
    ∃ result, (resumeSearch config url page).2.2 = .finished result := by
  rw [resumeSearch, h]
  cases answer with
  | ok library => exact ⟨_, rfl⟩
  | error error => exact ⟨_, rfl⟩

theorem foldl_resumed_of_answered {answer : Except LoadError Library}
    (h : ImportAnswered url pages here answer) :
    pages.foldl (resumed config) (last, log, .importing url) =
      let found := resumeSearch config url here
      (found.1, log ++ found.2.1, found.2.2) := by
  induction h generalizing last log with
  | @now page rest answer hknown =>
      obtain ⟨result, hresult⟩ := finished_resumeSearch config hknown
      have hstep : resumed config (last, log, .importing url) page =
          ((resumeSearch config url page).1, log ++ (resumeSearch config url page).2.1,
            (resumeSearch config url page).2.2) := rfl
      -- The pages that are left make no difference to a search that is over.
      rw [List.foldl_cons, hstep]
      exact foldl_resumed_of_finished hresult
  | @later page here rest answer hunknown hlater ih =>
      have hstep : resumed config (last, log, .importing url) page =
          (page, log, .importing url) := by
        simp only [resumed, resumeSearch, hunknown, Array.append_empty]
      rw [List.foldl_cons, hstep]
      exact ih

/-- A search that starts with a module waits for it from the beginning. -/
theorem searchThrough_of_module (habsent : Site.presentLibrary page = none)
    (hurl : config.moduleUrl = some url) :
    searchThrough config page later =
      (Site.startImport page url :: later).foldl (resumed config) (page, #[], .importing url) := by
  have hfirst : startSearch config page =
      resumed config (page, #[], .importing url) (Site.startImport page url) := by
    simp only [startSearch, habsent, hurl, resumed, Array.empty_append]
  rw [searchThrough, hfirst, List.foldl_cons]

variable (config) in
theorem searchThrough_of_answered {answer : Except LoadError Library}
    (habsent : Site.presentLibrary page = none) (hurl : config.moduleUrl = some url)
    (h : ImportAnswered url (Site.startImport page url :: later) here answer) :
    searchThrough config page later = resumeSearch config url here := by
  rw [searchThrough_of_module habsent hurl, foldl_resumed_of_answered h]
  simp only [Array.empty_append]

theorem searchThrough_of_present {library : Library}
    (hpresent : Site.presentLibrary page = some library) :
    searchThrough config page later =
      (page, Log.debug "Rendering library already available", .finished (.ok library)) := by
  have hstart : startSearch config page =
      (page, Log.debug "Rendering library already available", .finished (.ok library)) := by
    rw [startSearch, hpresent]
  rw [searchThrough, hstart]
  exact foldl_resumed_of_finished rfl

end

/-! ## Whole searches -/

/-- A search is held up: the library is not global, and at no page so far anything is known of the
module. -/
structure Awaits (config : LoaderConfig) (page : π) (later : List π) (url : String) : Prop where
  absent : Site.presentLibrary page = none
  url_eq : config.moduleUrl = some url
  unknown : ∀ here ∈ Site.startImport page url :: later, Site.importResult here url = none

/-- No module brings the library: where the scripts begin, and what is recorded until then. -/
inductive ModuleFails (config : LoaderConfig) (page : π) (later : List π) :
    π → List LoadError → Prop
  | unset (hurl : config.moduleUrl = none) : ModuleFails config page later page []
  | answered {url : String} {here : π} {error : LoadError} (hurl : config.moduleUrl = some url)
      (hanswer : ImportAnswered url (Site.startImport page url :: later) here (.error error)) :
      ModuleFails config page later here [error]

/-- The course of a search: which scripts it comes to, where it ends, and with what result. -/
inductive Course (config : LoaderConfig) (page : π) (later : List π) :
    List String → π → Except LoadError Library → Prop
  | present {library : Library} (hpresent : Site.presentLibrary page = some library) :
      Course config page later [] page (.ok library)
  | imported {url : String} {here : π} {library : Library}
      (habsent : Site.presentLibrary page = none) (hurl : config.moduleUrl = some url)
      (hanswer : ImportAnswered url (Site.startImport page url :: later) here (.ok library)) :
      Course config page later [] here (.ok library)
  | brought {start failed last : π} {attempts errors : List LoadError} {before : List String}
      {source : String} {library : Library} (habsent : Site.presentLibrary page = none)
      (hmodule : ModuleFails config page later start attempts)
      (hreached : before ++ [source] <+: config.fallbackSources)
      (hbefore : SourcesFail config.sourceTimeout start before failed errors)
      (hbrings : SourceBrings config.sourceTimeout failed source last library) :
      Course config page later (before ++ [source]) last (.ok library)
  | exhausted {start last : π} {attempts errors : List LoadError}
      (habsent : Site.presentLibrary page = none)
      (hmodule : ModuleFails config page later start attempts)
      (hall : SourcesFail config.sourceTimeout start config.fallbackSources last errors) :
      Course config page later config.fallbackSources last
        (.error (.exhausted (attempts ++ errors)))

section

variable {config : LoaderConfig} {page start last : π} {later : List π} {attempts : List LoadError}
  {reached : List String}

theorem ModuleFails.length_eq (h : ModuleFails config page later start attempts) :
    attempts.length = config.moduleUrl.toList.length := by
  cases h with
  | unset hurl => rw [hurl]; rfl
  | answered hurl => rw [hurl]; rfl

/-- Without a library so far it is up to the scripts, whichever are given. -/
theorem ModuleFails.searchThrough_eq (h : ModuleFails config page later start attempts)
    (habsent : Site.presentLibrary page = none) :
    ∃ log, ∀ sources, searchThrough { config with fallbackSources := sources } page later =
      let found := trySources config.sourceTimeout attempts sources start
      (found.1, log ++ found.2.1, .finished found.2.2) := by
  cases h with
  | unset hurl =>
      refine ⟨#[], fun sources => ?_⟩
      have hstart : startSearch { config with fallbackSources := sources } page =
          let found := trySources config.sourceTimeout [] sources page
          (found.1, #[] ++ found.2.1, .finished found.2.2) := by
        simp only [startSearch, habsent, hurl, Array.empty_append]
      rw [searchThrough, hstart]
      exact foldl_resumed_of_finished rfl
  | @answered url _ error hurl hanswer =>
      refine ⟨Log.debug error.message, fun sources => ?_⟩
      rw [searchThrough_of_answered { config with fallbackSources := sources } habsent hurl hanswer]
      simp only [resumeSearch, hanswer.known]

theorem Course.searchThrough_of_ok {library : Library}
    (h : Course config page later reached last (.ok library)) :
    ∃ log, ∀ others, searchThrough { config with fallbackSources := reached ++ others } page later =
      (last, log, .finished (.ok library)) := by
  cases h with
  | present hpresent => exact ⟨_, fun others => searchThrough_of_present hpresent⟩
  | imported habsent hurl hanswer =>
      refine ⟨#[], fun others => ?_⟩
      rw [searchThrough_of_answered { config with fallbackSources := [] ++ others } habsent hurl
        hanswer]
      simp only [resumeSearch, hanswer.known]
  | brought habsent hmodule hreached hbefore hbrings =>
      obtain ⟨log, hlog⟩ := hmodule.searchThrough_eq habsent
      obtain ⟨more, hmore⟩ := trySources_of_brings hbefore hbrings
      exact ⟨log ++ more, fun others => by simp only [hlog, hmore]⟩

theorem Course.isPrefix {result : Except LoadError Library}
    (h : Course config page later reached last result) : reached <+: config.fallbackSources := by
  cases h with
  | present => exact List.nil_prefix
  | imported => exact List.nil_prefix
  | brought _ _ hreached => exact hreached
  | exhausted => exact List.prefix_rfl

/-- A search that finds the library takes no notice of the scripts that it does not come to. -/
theorem Course.spares {library : Library} (h : Course config page later reached last (.ok library))
    (others : List String) :
    searchThrough { config with fallbackSources := reached ++ others } page later =
      searchThrough config page later := by
  obtain ⟨rest, hrest⟩ := h.isPrefix
  obtain ⟨log, hlog⟩ := h.searchThrough_of_ok
  have hall := hlog rest
  rw [hrest] at hall
  exact (hlog others).trans hall.symm

theorem Course.searchThrough_eq {result : Except LoadError Library}
    (h : Course config page later reached last result) :
    ∃ log, searchThrough config page later = (last, log, .finished result) := by
  cases result with
  | ok library =>
      obtain ⟨log, hlog⟩ := h.searchThrough_of_ok
      exact ⟨log, (h.spares []).symm.trans (hlog [])⟩
  | error error =>
      cases h with
      | exhausted habsent hmodule hall =>
          obtain ⟨log, hlog⟩ := hmodule.searchThrough_eq habsent
          obtain ⟨more, hmore⟩ := trySources_of_all_fail hall
          have hsearch := hlog config.fallbackSources
          rw [hmore] at hsearch
          exact ⟨log ++ more, hsearch⟩

theorem Course.exhausted_of_error {error : LoadError}
    (h : Course config page later reached last (.error error)) : ∃ attempts,
      error = .exhausted attempts ∧
        attempts.length = config.moduleUrl.toList.length + config.fallbackSources.length := by
  cases h with
  | exhausted habsent hmodule hall =>
      refine ⟨_, rfl, ?_⟩
      rw [List.length_append, hmodule.length_eq, hall.length_eq]

theorem Awaits.searchThrough_eq {url : String} (h : Awaits config page later url) :
    (searchThrough config page later).2.2 = .importing url := by
  rw [searchThrough_of_module h.absent h.url_eq]
  exact foldl_resumed_of_unknown h.unknown

variable (config page later) in
/-- A search is over unless its module holds it up. -/
theorem awaits_or_course :
    (∃ url, Awaits config page later url) ∨
      ∃ reached last result, Course config page later reached last result := by
  have hscripts : Site.presentLibrary page = none → ∀ start attempts,
      ModuleFails config page later start attempts →
      ∃ reached last result, Course config page later reached last result := by
    intro habsent start attempts hmodule
    rcases first_brings_or_all_fail config.sourceTimeout start config.fallbackSources with
      ⟨before, source, failed, errors, last, library, hreached, hbefore, hbrings⟩ |
        ⟨last, errors, hall⟩
    · exact ⟨_, last, _, .brought habsent hmodule hreached hbefore hbrings⟩
    · exact ⟨_, last, _, .exhausted habsent hmodule hall⟩
  cases hpresent : Site.presentLibrary page with
  | some library => exact Or.inr ⟨[], page, _, .present hpresent⟩
  | none =>
      cases hurl : config.moduleUrl with
      | none => exact Or.inr (hscripts hpresent page [] (.unset hurl))
      | some url =>
          rcases unknown_or_answered url (Site.startImport page url :: later) with
            hunknown | ⟨here, error | library, hanswer⟩
          · exact Or.inl ⟨url, hpresent, hurl, hunknown⟩
          · exact Or.inr (hscripts hpresent here [error] (.answered hurl hanswer))
          · exact Or.inr ⟨[], here, _, .imported hpresent hurl hanswer⟩

/-- What can be said of a search that was taken up again at some pages. -/
structure Resolves (config : LoaderConfig) (page : π) (later : List π)
    (found : π × Log × Search) : Prop where
  awaits : ∀ url, found.2.2 = .importing url ↔ Awaits config page later url
  /-- A search that is over took its course, and there is no other. -/
  ends : ∀ last result, found.1 = last ∧ found.2.2 = .finished result ↔
    ∃ reached, Course config page later reached last result
  /-- Scripts after the one that brought the library might as well be others. -/
  spares : ∀ reached last library, Course config page later reached last (.ok library) →
    ∀ others, searchThrough { config with fallbackSources := reached ++ others } page later = found
  /-- When the library is global nothing else is asked for. -/
  present : ∀ library, Site.presentLibrary page = some library →
    ∀ other, searchThrough other page later = found
  /-- A search fails with one error for each source. -/
  counts : ∀ error, found.2.2 = .finished (.error error) → ∃ attempts,
    error = .exhausted attempts ∧
      attempts.length = config.moduleUrl.toList.length + config.fallbackSources.length

variable (config page later) in
theorem resolves_searchThrough :
    Resolves config page later (searchThrough config page later) := by
  have hcourse : ∀ last result, (searchThrough config page later).1 = last ∧
      (searchThrough config page later).2.2 = .finished result →
      ∃ reached, Course config page later reached last result := by
    rintro last result ⟨rfl, hresult⟩
    rcases awaits_or_course config page later with ⟨url, hawaits⟩ | ⟨reached, last, other, h⟩
    · rw [hawaits.searchThrough_eq] at hresult
      cases hresult
    · obtain ⟨log, hlog⟩ := h.searchThrough_eq
      rw [hlog] at hresult ⊢
      cases hresult
      exact ⟨reached, h⟩
  refine
    { awaits := fun url => ⟨fun hurl => ?_, fun h => h.searchThrough_eq⟩
      ends := fun last result => ⟨hcourse last result, fun h => ?_⟩
      spares := fun reached last library h others => h.spares others
      present := fun library hpresent other => ?_
      counts := fun error herror => ?_ }
  · rcases awaits_or_course config page later with ⟨other, hawaits⟩ | ⟨reached, last, result, h⟩
    · rw [hawaits.searchThrough_eq] at hurl
      cases hurl
      exact hawaits
    · obtain ⟨log, hlog⟩ := h.searchThrough_eq
      rw [hlog] at hurl
      cases hurl
  · obtain ⟨reached, h⟩ := h
    obtain ⟨log, hlog⟩ := h.searchThrough_eq
    rw [hlog]
    exact ⟨rfl, rfl⟩
  · rw [searchThrough_of_present hpresent, searchThrough_of_present hpresent]
  · obtain ⟨reached, h⟩ := hcourse _ _ ⟨rfl, herror⟩
    exact h.exhausted_of_error

end

/-! ## Polls -/

/-- What a load has come to when its search has come so far. -/
def Search.load : Search → Load
  | .importing url => .importing url
  | .finished result => .resolved result

namespace Provider

/-- Polls a ticket, and again at each of some pages. -/
def pollThrough (provider : Provider π) (ticket : Ticket) (later : List π) :
    Outcome (Provider π) (Option (Except LoadError Library)) :=
  later.foldl (fun outcome page => Provider.poll { outcome.state with page } ticket)
    (provider.poll ticket)

/-- A poll shows how far the search has come, and the next one goes on from there. -/
structure Shows (config : LoaderConfig) (ticket : Ticket) (search : Search)
    (outcome : Outcome (Provider π) (Option (Except LoadError Library))) : Prop where
  config_eq : outcome.state.loader.config = config
  load : outcome.state.loader.loads[ticket]? = some search.load
  result : outcome.result = .ok search.answer?

omit [Site π] in
theorem shows_settle (provider : Provider π) {ticket : Ticket}
    (hticket : ticket < provider.loader.loads.size) (search : π × Log × Search) :
    Shows provider.loader.config ticket search.2.2 (provider.settle ticket search) := by
  have hset : ∀ load, (provider.loader.setLoad ticket load).loads[ticket]? = some load :=
    fun load => Array.getElem?_setIfInBounds_self_of_lt hticket
  obtain ⟨page, log, found⟩ := search
  cases found with
  | importing url => exact ⟨rfl, hset _, rfl⟩
  | finished result => exact ⟨rfl, hset _, rfl⟩

theorem Shows.poll {config : LoaderConfig} {ticket : Ticket} {found : π × Log × Search}
    {outcome : Outcome (Provider π) (Option (Except LoadError Library))}
    (h : Shows config ticket found.2.2 outcome) (page : π) :
    Shows config ticket (resumed config found page).2.2
      (Provider.poll { outcome.state with page } ticket) := by
  obtain ⟨hlt, -⟩ := Array.getElem?_eq_some_iff.mp h.load
  obtain ⟨last, log, search⟩ := found
  unfold Provider.poll
  simp only [h.load, h.config_eq]
  cases search with
  | importing url =>
      have hshows := shows_settle { outcome.state with page } hlt (resumeSearch config url page)
      rw [h.config_eq] at hshows
      exact hshows
  | finished result => exact ⟨h.config_eq, h.load, rfl⟩

/-- Whoever polls a load follows its search. -/
theorem shows_pollThrough (provider : Provider π) {ticket : Ticket}
    (hload : provider.loader.loads[ticket]? = some .unstarted) (later : List π) :
    Shows provider.loader.config ticket
      (searchThrough provider.loader.config provider.page later).2.2
      (provider.pollThrough ticket later) := by
  obtain ⟨hlt, -⟩ := Array.getElem?_eq_some_iff.mp hload
  have hrun : ∀ found outcome, Shows provider.loader.config ticket found.2.2 outcome →
      Shows provider.loader.config ticket
        (later.foldl (resumed provider.loader.config) found).2.2
        (later.foldl (fun outcome page => Provider.poll { outcome.state with page } ticket)
          outcome) := by
    induction later with
    | nil => exact fun _ _ h => h
    | cons page rest ih => exact fun found outcome h => ih _ _ (h.poll page)
  refine hrun _ _ ?_
  rw [Provider.poll, hload]
  exact shows_settle provider hlt _

end Provider

end

/-! ## Tags on a page -/

namespace Page

/-- What was added to a page: tags for sources that had none, each inserted once. -/
structure Adds (base page : Page) (fresh : List String) : Prop where
  tags : page.tags = base.tags ++ fresh
  inserted : page.inserted = base.inserted ++ fresh
  nodup : fresh.Nodup
  absent : ∀ source ∈ fresh, source ∉ base.tags

theorem Adds.refl (page : Page) : page.Adds page [] :=
  ⟨(List.append_nil _).symm, (List.append_nil _).symm, List.nodup_nil, by simp⟩

theorem Adds.tagged {base page : Page} {fresh : List String} (h : base.Adds page fresh)
    (source : String) : ∃ more, base.Adds (page.tagged source) more := by
  cases htag : page.tags.contains source with
  | true =>
      rw [tagged_of_tag htag]
      exact ⟨fresh, h⟩
  | false =>
      rw [tagged_of_no_tag htag]
      rw [← Bool.not_eq_true, List.contains_iff_mem, h.tags, List.mem_append, not_or] at htag
      refine ⟨fresh ++ [source], ?_, ?_, ?_, ?_⟩
      · rw [h.tags, List.append_assoc]
      · rw [h.inserted, List.append_assoc]
      · refine List.nodup_append.mpr ⟨h.nodup, List.nodup_singleton source, ?_⟩
        intro other hother same hsame heq
        rw [heq, List.mem_singleton.mp hsame] at hother
        exact htag.2 hother
      · intro other hother
        rcases List.mem_append.mp hother with hold | hnew
        · exact h.absent other hold
        · rw [List.mem_singleton.mp hnew]
          exact htag.1

theorem Adds.trySource {base page : Page} (h : ∃ fresh, base.Adds page fresh) (timeout : UInt64)
    (source : String) : ∃ fresh, base.Adds (trySource timeout source page).1 fresh := by
  obtain ⟨fresh, h⟩ := h
  rw [(trySource_page timeout source page).1]
  split
  next =>
    obtain ⟨more, hmore⟩ := h.tagged source
    exact ⟨more, { hmore with }⟩
  next => exact ⟨fresh, h⟩

/-! ## Pages that have the library -/

theorem trial_ok_iff (base : Page) (timeout : UInt64) (source : String) :
    (∃ library, base.trial timeout source = .ok library) ↔ base.accepts source = true ∧
      (base.isGlobal = true ∨ base.hasAppeared = true ∨ base.appearsAfter = some source) := by
  unfold trial
  split
  next haccepts =>
    split
    next hbrings => exact ⟨fun _ => ⟨haccepts, hbrings⟩, fun _ => ⟨_, rfl⟩⟩
    next hnothing => simp [hnothing]
  next hrefused => simp [hrefused]

/-- One source that brings the library is enough. -/
theorem trials_ok_iff (base : Page) (timeout : UInt64) (attempts : List LoadError)
    (sources : List String) :
    (∃ library, base.trials timeout attempts sources = .ok library) ↔
      ∃ source ∈ sources, ∃ library, base.trial timeout source = .ok library := by
  induction sources generalizing attempts with
  | nil => simp [trials]
  | cons source rest ih =>
      rw [trials, List.exists_mem_cons_iff]
      cases htrial : base.trial timeout source with
      | ok library => exact ⟨fun _ => Or.inl ⟨library, rfl⟩, fun _ => ⟨library, rfl⟩⟩
      | error error => simp [ih]

/-- Whether the library can be had on a page that takes every tag. -/
def HasLibrary (page : Page) (config : LoaderConfig) : Prop :=
  page.isGlobal = true ∨
    (config.moduleUrl ≠ none ∧ page.moduleArrives = true) ∨
    (config.fallbackSources ≠ [] ∧ ∃ source, page.appearsAfter = some source ∧
      (source ∈ config.fallbackSources ∨ source ∈ page.tags))

section

variable {base : Page} {config : LoaderConfig}

/-- A tag that was there before helps any source, and any other only helps itself. -/
theorem trials_ok_iff_appears (htakes : base.refused = []) (hglobal : base.isGlobal = false)
    (timeout : UInt64) (attempts : List LoadError) (sources : List String) :
    (∃ library, base.trials timeout attempts sources = .ok library) ↔
      sources ≠ [] ∧ ∃ source, base.appearsAfter = some source ∧
        (source ∈ sources ∨ source ∈ base.tags) := by
  have haccepts : ∀ source, base.accepts source = true := fun source => by simp [accepts, htakes]
  simp only [trials_ok_iff, trial_ok_iff, haccepts, hglobal, hasAppeared_iff, true_and,
    Bool.false_eq_true, false_or]
  constructor
  · rintro ⟨source, hsource, ⟨other, htag, happears⟩ | happears⟩
    · exact ⟨List.ne_nil_of_mem hsource, other, happears, Or.inr htag⟩
    · exact ⟨List.ne_nil_of_mem hsource, source, happears, Or.inl hsource⟩
  · rintro ⟨hsources, source, happears, hsource | htag⟩
    · exact ⟨source, hsource, Or.inr happears⟩
    · obtain ⟨first, hfirst⟩ := List.exists_mem_of_ne_nil sources hsources
      exact ⟨first, hfirst, Or.inl ⟨source, htag, happears⟩⟩

theorem verdict_ne_none (hurl : config.moduleUrl = none) : base.verdict config ≠ none := by
  unfold verdict
  rw [hurl]
  split <;> exact Option.some_ne_none _

theorem verdict_ok_iff (htakes : base.refused = []) {result : Except LoadError Library}
    (h : base.verdict config = some result) :
    (∃ library, result = .ok library) ↔ base.HasLibrary config := by
  unfold verdict at h
  unfold HasLibrary
  cases hglobal : base.isGlobal with
  | true =>
      simp only [hglobal, if_true, Option.some.injEq] at h
      exact ⟨fun _ => Or.inl rfl, fun _ => ⟨_, h.symm⟩⟩
  | false =>
      have htrials := trials_ok_iff_appears htakes hglobal config.sourceTimeout
      simp only [hglobal, Bool.false_eq_true, if_false, false_or] at h ⊢
      cases hurl : config.moduleUrl with
      | none =>
          simp only [hurl, Option.some.injEq] at h
          rw [← h, htrials]
          simp
      | some url =>
          simp only [hurl] at h
          split at h
          next => cases h
          next =>
            split at h
            next harrives =>
              cases h
              exact ⟨fun _ => Or.inl ⟨by simp, harrives⟩, fun _ => ⟨_, rfl⟩⟩
            next harrives =>
              cases h
              rw [htrials]
              simp [harrives]

end

end Page

/-! ## Cycle after cycle -/

namespace Provider

section

variable {P : Page → Prop}
  (hsource : ∀ timeout source page, P page → P (trySource timeout source page).1)
  (himport : ∀ url page, P page → P (Site.startImport page url))

include hsource in
theorem page_resumeSearch (config : LoaderConfig) (url : String) {page : Page} (h : P page) :
    P (resumeSearch config url page).1 := by
  unfold resumeSearch
  split
  · exact h
  · exact h
  · exact trySources_induct (hsource config.sourceTimeout) _ _ h

include hsource himport in
theorem page_startSearch (config : LoaderConfig) {page : Page} (h : P page) :
    P (startSearch config page).1 := by
  unfold startSearch
  split
  · exact h
  · split
    · exact page_resumeSearch hsource config _ (himport _ page h)
    · exact trySources_induct (hsource config.sourceTimeout) _ _ h

theorem page_settle (provider : Provider Page) (ticket : Ticket) (search : Page × Log × Search) :
    (provider.settle ticket search).state.page = search.1 := by
  obtain ⟨page, log, found⟩ := search
  cases found with
  | importing url => rfl
  | finished result => rfl

theorem page_load (provider : Provider Page) : provider.load.state.page = provider.page := by
  unfold Provider.load Loader.load
  split <;> rfl

include hsource himport in
/-- A property of pages that scripts, imports and the gate keep is kept by everything that can be
done to a provider. -/
theorem page_performAll (hgate : ∀ page, P page → P page.openGate) (errands : List Errand)
    {provider : Provider Page} (h : P provider.page) : P (provider.performAll errands).page := by
  induction errands generalizing provider with
  | nil => exact h
  | cons errand rest ih =>
      refine @ih (provider.perform errand) ?_
      cases errand with
      | request =>
          rw [perform, page_load]
          exact h
      | openGate => exact hgate _ h
      | poll ticket =>
          rw [perform, Provider.poll]
          split
          · exact h
          · exact h
          · exact h
          · rw [page_settle]
            exact page_startSearch hsource himport _ h
          · rw [page_settle]
            exact page_resumeSearch hsource _ _ h

end

/-- However a provider came about, its answers can be foreseen from the page at the start, perhaps
with its gate opened. -/
theorem Tells.performAll {config : LoaderConfig} {base : Page} {provider : Provider Page}
    (h : provider.Tells config base) (errands : List Errand) :
    ∃ open? : Bool, (provider.performAll errands).Tells config
      (if open? then base.openGate else base) := by
  induction errands generalizing provider base with
  | nil => exact ⟨false, h⟩
  | cons errand rest ih =>
      cases errand with
      | request => exact ih h.load
      | openGate =>
          -- A gate that is open is not opened further.
          obtain ⟨open?, htells⟩ := ih h.openGate
          exact ⟨true, by cases open? <;> exact htells⟩
      | poll ticket =>
          by_cases hticket : ticket < provider.loader.loads.size
          · exact ih (h.poll hticket).2
          · have hnone : provider.perform (.poll ticket) = provider := by
              rw [perform, Provider.poll, Array.getElem?_eq_none (Nat.le_of_not_lt hticket)]
              rfl
            have hrest := ih h
            rw [← hnone] at hrest
            exact hrest

/-- What can be said of a provider some time after it started out with a page. -/
structure Draws (config : LoaderConfig) (page : Page) (now : Provider Page) : Prop where
  /-- No source that had a tag gets another one. -/
  once : ∃ fresh, now.page.inserted = page.inserted ++ fresh ∧ fresh.Nodup ∧
    ∀ source ∈ fresh, source ∉ page.tags
  /-- Only a module that is held back at the gate delays an answer. -/
  answers : ∀ ticket < now.loader.loads.size,
    (∃ result, (now.poll ticket).result = .ok (some result)) ∨
      config.moduleUrl ≠ none ∧ now.page.gateClosed = true
  succeeds : ∀ ticket < now.loader.loads.size, ∀ result,
    (now.poll ticket).result = .ok (some result) →
      ((∃ library, result = .ok library) ↔ page.HasLibrary config)

theorem draws_performAll (config : LoaderConfig) {page : Page} (htakes : page.refused = [])
    (errands : List Errand) :
    Draws config page (performAll ⟨page, { config }⟩ errands) := by
  obtain ⟨open?, htells⟩ := (Tells.fresh config page).performAll errands
  generalize hnow : performAll ⟨page, { config }⟩ errands = now at htells
  refine ⟨?_, fun ticket hticket => ?_, fun ticket hticket result hresult => ?_⟩
  · obtain ⟨fresh, hadds⟩ : ∃ fresh, page.Adds now.page fresh := by
      rw [← hnow]
      exact page_performAll (P := fun now => ∃ fresh, page.Adds now fresh)
        (fun timeout source _ h => Page.Adds.trySource h timeout source)
        (fun _ _ h => h.imp fun _ h => { h with }) (fun _ h => h.imp fun _ h => { h with })
        errands ⟨[], .refl page⟩
    exact ⟨fresh, hadds.inserted, hadds.nodup, hadds.absent⟩
  · rcases answer_or_waits hticket with hanswer | ⟨hnone, hgate, -, -⟩
    · exact Or.inl hanswer
    · refine Or.inr ⟨fun hurl => ?_, hgate⟩
      rw [(htells.poll hticket).1, Except.ok.injEq] at hnone
      exact Page.verdict_ne_none hurl hnone
  · rw [(htells.poll hticket).1, Except.ok.injEq] at hresult
    cases open? with
    | true => exact @Page.verdict_ok_iff page.openGate config htakes result hresult
    | false => exact Page.verdict_ok_iff htakes hresult

/-- Sources are tried in order until one has the library, on any site and whatever becomes of it
while a module is waited for. If none has it there is one error for each. On a page that takes every
tag, no tag is inserted twice however many loads there are, and the library is found exactly if it
is there to be found. -/
theorem sources_in_order {π : Type} [Site π] :
    (∀ (config : LoaderConfig) (page : π) (later : List π),
        Resolves config page later (searchThrough config page later)) ∧
      (∀ (provider : Provider π) (ticket : Ticket) (later : List π),
        provider.loader.loads[ticket]? = some .unstarted →
        (provider.pollThrough ticket later).result =
          .ok (searchThrough provider.loader.config provider.page later).2.2.answer?) ∧
      ∀ (config : LoaderConfig) (page : Page) (errands : List Errand), page.refused = [] →
        Draws config page (performAll ⟨page, { config }⟩ errands) :=
  ⟨resolves_searchThrough,
    fun provider _ later hload => (provider.shows_pollThrough hload later).result,
    fun config _ errands htakes => draws_performAll config htakes errands⟩

/-- Two loads fail one after the other: one script is given twice and one has a tag already, so that
a single tag is inserted. A load that is held up by its module ends once the gate is open. -/
theorem sources_in_order_repeated :
    let config : LoaderConfig := { moduleUrl := some "m", fallbackSources := ["a", "b", "a"] }
    let failing : Page := { tags := ["b"], appearsAfter := some "c" }
    let now := performAll ⟨failing, { config }⟩ [.request, .poll 0, .request, .poll 1]
    let arriving : Page := { moduleArrives := true }
    let held : Provider Page := ⟨{ arriving with gateClosed := true },
      { config, state := .loading 0, loads := #[.unstarted] }⟩
    (Draws config failing now ∧ now.page.inserted = ["a"] ∧ now.page.waits = 6) ∧
      (held.poll 0).result = .ok none ∧
      (held.pollThrough 0 [arriving]).result = .ok (some (.ok arriving.library)) :=
  ⟨⟨(@sources_in_order Page _).2.2 _ _ _ rfl, rfl, rfl⟩, rfl,
    (sources_in_order.2.1 _ 0 _ rfl).trans rfl⟩

end Provider

end LiveScene
