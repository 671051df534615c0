import LiveScene.Loading.Loader

/-! # What a search for the library comes to

A search that fails leaves tags behind on the page, but only tags of sources that could be inserted
and did not bring the library. Such tags make no difference to a later search: whatever searches
came before, the answer can be read off the page as it was at the start and off the gate.
-/

namespace LiveScene

/-! ## Scripts one by one -/

namespace Page

/-- The page once a tag for the source is in place. -/
def tagged (page : Page) (source : String) : Page :=
  let fresh := if page.tags.contains source then [] else [source]
  { page with tags := page.tags ++ fresh, inserted := page.inserted ++ fresh }

theorem tagged_of_tag {page : Page} {source : String} (h : page.tags.contains source = true) :
    page.tagged source = page := by
  simp only [tagged, h, if_true, List.append_nil]

theorem tagged_of_no_tag {page : Page} {source : String} (h : page.tags.contains source = false) :
    page.tagged source = { page with
      tags := page.tags ++ [source], inserted := page.inserted ++ [source] } := by
  simp only [tagged, h, Bool.false_eq_true, if_false]

/-- The page after a wait for the library. -/
def awaited (page : Page) : Page :=
  { page with waits := page.waits + 1, isGlobal := page.isGlobal || page.hasAppeared }

/-- Whether there is a tag for the source or one can be inserted. -/
def accepts (page : Page) (source : String) : Bool :=
  page.tags.contains source || !page.refused.contains source

end Page

theorem awaitSource_page (timeout : UInt64) (source : String) (page : Page) :
    (awaitSource timeout source page).1 = page.awaited ∧
      (awaitSource timeout source page).2.2 =
        if page.awaited.isGlobal then .ok page.library
        else .error (.timeout source timeout.toNat) := by
  have hawait : Site.awaitGlobal page timeout =
      (if page.awaited.isGlobal then some page.library else none, page.awaited) := rfl
  unfold awaitSource
  rw [hawait]
  cases page.awaited.isGlobal <;> exact ⟨rfl, rfl⟩

theorem trySource_page (timeout : UInt64) (source : String) (page : Page) :
    (trySource timeout source page).1 =
        (if page.accepts source then (page.tagged source).awaited else page) ∧
      (trySource timeout source page).2.2 =
        if page.accepts source then
          if (page.tagged source).awaited.isGlobal then .ok page.library
          else .error (.timeout source timeout.toNat)
        else .error (.insertFailed source "refused") := by
  have hhas : Site.hasTag page source = page.tags.contains source := rfl
  have hinsert : Site.insertTag page source =
      if page.refused.contains source then (.error (.insertFailed source "refused"), page)
      else (.ok (), { page with
        tags := page.tags ++ [source], inserted := page.inserted ++ [source] }) := rfl
  unfold trySource
  rw [hhas]
  cases htag : page.tags.contains source with
  | true =>
      have haccepts : page.accepts source = true := by rw [Page.accepts, htag, Bool.true_or]
      rw [Page.tagged_of_tag htag, haccepts]
      exact awaitSource_page timeout source page
  | false =>
      rw [hinsert]
      cases hrefused : page.refused.contains source with
      | true =>
          have haccepts : page.accepts source = false := by
            rw [Page.accepts, htag, hrefused, Bool.not_true, Bool.or_false]
          rw [haccepts]
          exact ⟨rfl, rfl⟩
      | false =>
          have haccepts : page.accepts source = true := by
            rw [Page.accepts, hrefused, Bool.not_false, Bool.or_true]
          rw [haccepts, Page.tagged_of_no_tag htag]
          exact awaitSource_page timeout source _

section

variable {timeout : UInt64} {source : String} {page : Page} (attempts : List LoadError)
  (rest : List String)

theorem trySources_cons_of_ok {library : Library}
    (h : (trySource timeout source page).2.2 = .ok library) :
    (trySources timeout attempts (source :: rest) page).1 = (trySource timeout source page).1 ∧
      (trySources timeout attempts (source :: rest) page).2.2 = .ok library := by
  rw [trySources]
  split
  next heq => simpa [heq] using h
  next heq => simp [heq] at h

theorem trySources_cons_of_error {error : LoadError}
    (h : (trySource timeout source page).2.2 = .error error) :
    (trySources timeout attempts (source :: rest) page).1 =
        (trySources timeout (attempts ++ [error]) rest (trySource timeout source page).1).1 ∧
      (trySources timeout attempts (source :: rest) page).2.2 =
        (trySources timeout (attempts ++ [error]) rest (trySource timeout source page).1).2.2 := by
  rw [trySources]
  split
  next heq => simp [heq] at h
  next heq =>
    rw [heq] at h ⊢
    cases h
    exact ⟨rfl, rfl⟩

end

/-- A property of pages that every script keeps is kept by all of them together. -/
theorem trySources_induct {timeout : UInt64} {P : Page → Prop}
    (hstep : ∀ source page, P page → P (trySource timeout source page).1)
    (attempts : List LoadError) (sources : List String) {page : Page} (h : P page) :
    P (trySources timeout attempts sources page).1 := by
  induction sources generalizing attempts page with
  | nil => exact h
  | cons source rest ih =>
      cases hresult : (trySource timeout source page).2.2 with
      | ok library =>
          rw [(trySources_cons_of_ok attempts rest hresult).1]
          exact hstep source page h
      | error error =>
          rw [(trySources_cons_of_error attempts rest hresult).1]
          exact ih _ (hstep source page h)

/-- Scripts bring no module. -/
theorem imports_trySources (timeout : UInt64) (attempts : List LoadError) (sources : List String)
    (page : Page) : (trySources timeout attempts sources page).1.imports = page.imports := by
  refine trySources_induct (P := fun after => after.imports = page.imports) ?_ attempts sources rfl
  intro source before hbefore
  rw [(trySource_page timeout source before).1]
  split <;> exact hbefore

/-! ## Pages that failed searches leave behind -/

namespace Page

/-- What failed searches can have made of a page. -/
structure Trails (base page : Page) : Prop where
  library : page.library = base.library
  isGlobal : page.isGlobal = base.isGlobal
  moduleArrives : page.moduleArrives = base.moduleArrives
  appearsAfter : page.appearsAfter = base.appearsAfter
  refused : page.refused = base.refused
  gateClosed : page.gateClosed = base.gateClosed
  kept : ∀ source ∈ base.tags, source ∈ page.tags
  added : ∀ source ∈ page.tags,
    source ∈ base.tags ∨ source ∉ base.refused ∧ base.appearsAfter ≠ some source

theorem Trails.refl (page : Page) : page.Trails page :=
  ⟨rfl, rfl, rfl, rfl, rfl, rfl, fun _ h => h, fun _ h => Or.inl h⟩

/-- What comes of one source. -/
def trial (base : Page) (timeout : UInt64) (source : String) : Except LoadError Library :=
  if base.accepts source then
    if base.isGlobal ∨ base.hasAppeared ∨ base.appearsAfter = some source then .ok base.library
    else .error (.timeout source timeout.toNat)
  else .error (.insertFailed source "refused")

/-- What comes of the sources after some attempts that failed. -/
def trials (base : Page) (timeout : UInt64) (attempts : List LoadError) :
    List String → Except LoadError Library
  | [] => .error (.exhausted attempts)
  | source :: rest =>
    match base.trial timeout source with
    | .ok library => .ok library
    | .error error => base.trials timeout (attempts ++ [error]) rest

/-- What comes of a search; none while it has to wait at the gate. -/
def verdict (base : Page) (config : LoaderConfig) : Option (Except LoadError Library) :=
  if base.isGlobal then some (.ok base.library)
  else
    match config.moduleUrl with
    | none => some (base.trials config.sourceTimeout [] config.fallbackSources)
    | some url =>
      if base.gateClosed then none
      else if base.moduleArrives then some (.ok base.library)
      else some (base.trials config.sourceTimeout
        [.importFailed url "module not reachable"] config.fallbackSources)

theorem mem_tags_tagged (page : Page) (source other : String) :
    other ∈ (page.tagged source).tags ↔ other ∈ page.tags ∨ other = source := by
  simp only [tagged, List.mem_append, List.contains_iff_mem]
  split
  next htag =>
    simp only [List.not_mem_nil, or_false]
    exact ⟨Or.inl, fun h => h.elim (fun hold => hold) fun heq => heq ▸ htag⟩
  next => rw [List.mem_singleton]

theorem hasAppeared_iff (page : Page) :
    page.hasAppeared = true ↔ ∃ source ∈ page.tags, page.appearsAfter = some source := by
  unfold hasAppeared
  cases page.appearsAfter with
  | none => simp
  | some source => simp

theorem isGlobal_awaited_tagged (page : Page) (source : String) :
    (page.tagged source).awaited.isGlobal = true ↔
      page.isGlobal = true ∨ page.hasAppeared = true ∨ page.appearsAfter = some source := by
  have hafter : (page.tagged source).hasAppeared = true ↔
      page.hasAppeared = true ∨ page.appearsAfter = some source := by
    simp only [hasAppeared_iff, mem_tags_tagged]
    change (∃ other, (other ∈ page.tags ∨ other = source) ∧ page.appearsAfter = some other) ↔ _
    constructor
    · rintro ⟨other, htag | rfl, happears⟩
      · exact Or.inl ⟨other, htag, happears⟩
      · exact Or.inr happears
    · rintro (⟨other, htag, happears⟩ | happears)
      · exact ⟨other, Or.inl htag, happears⟩
      · exact ⟨source, Or.inr rfl, happears⟩
  rw [← hafter, ← Bool.or_eq_true]
  rfl

variable {base page : Page}

namespace Trails

theorem accepts (h : base.Trails page) (source : String) :
    page.accepts source = base.accepts source := by
  rw [Bool.eq_iff_iff]
  simp only [Page.accepts, h.refused, Bool.or_eq_true, List.contains_iff_mem, Bool.not_eq_true',
    ← Bool.not_eq_true]
  constructor
  · rintro (htag | hfree)
    · rcases h.added source htag with hold | ⟨hfree, -⟩
      · exact Or.inl hold
      · exact Or.inr hfree
    · exact Or.inr hfree
  · exact Or.imp_left (h.kept source)

theorem hasAppeared (h : base.Trails page) : page.hasAppeared = base.hasAppeared := by
  unfold Page.hasAppeared
  rw [h.appearsAfter]
  cases happears : base.appearsAfter with
  | none => rfl
  | some source =>
      rw [Bool.eq_iff_iff]
      simp only [List.contains_iff_mem]
      refine ⟨fun htag => ?_, h.kept source⟩
      rcases h.added source htag with hold | ⟨-, hother⟩
      · exact hold
      · exact absurd happears hother

/-- A tag that did not bring the library makes no difference. -/
theorem awaited_tagged (h : base.Trails page) {source : String}
    (haccepts : base.accepts source = true)
    (hnothing : ¬(base.isGlobal = true ∨ base.hasAppeared = true ∨
      base.appearsAfter = some source)) :
    base.Trails (page.tagged source).awaited := by
  refine ⟨h.library, ?_, h.moduleArrives, h.appearsAfter, h.refused, h.gateClosed, ?_, ?_⟩
  · rw [Bool.eq_iff_iff, isGlobal_awaited_tagged, h.isGlobal, h.hasAppeared, h.appearsAfter]
    exact ⟨fun hbrings => absurd hbrings hnothing, Or.inl⟩
  · intro other hother
    exact (mem_tags_tagged page source other).mpr (Or.inl (h.kept other hother))
  · intro other hother
    rcases (mem_tags_tagged page source other).mp hother with hold | rfl
    · exact h.added other hold
    · simp only [Page.accepts, Bool.or_eq_true, List.contains_iff_mem, Bool.not_eq_true',
        ← Bool.not_eq_true] at haccepts
      exact haccepts.imp_right fun hfree => ⟨hfree, fun happears => hnothing (.inr (.inr happears))⟩

/-- A source is tried with the same result whatever failed before. -/
theorem trySource (h : base.Trails page) (timeout : UInt64) (source : String) :
    (trySource timeout source page).2.2 = base.trial timeout source ∧
      ∀ error, base.trial timeout source = .error error →
        base.Trails (trySource timeout source page).1 := by
  obtain ⟨hpage, hresult⟩ := trySource_page timeout source page
  simp only [h.accepts, isGlobal_awaited_tagged, h.isGlobal, h.hasAppeared, h.appearsAfter,
    h.library] at hpage hresult
  refine ⟨hresult, fun error herror => ?_⟩
  rw [hpage]
  split
  next haccepts =>
    refine h.awaited_tagged haccepts fun hbrings => ?_
    rw [trial, if_pos haccepts, if_pos hbrings] at herror
    cases herror
  next => exact h

theorem trySources (h : base.Trails page) (timeout : UInt64) (attempts : List LoadError)
    (sources : List String) :
    (trySources timeout attempts sources page).2.2 = base.trials timeout attempts sources ∧
      ∀ error, base.trials timeout attempts sources = .error error →
        base.Trails (trySources timeout attempts sources page).1 := by
  induction sources generalizing attempts page with
  | nil => exact ⟨rfl, fun _ _ => h⟩
  | cons source rest ih =>
      obtain ⟨hresult, hpage⟩ := h.trySource timeout source
      simp only [trials]
      cases htrial : base.trial timeout source with
      | ok library =>
          rw [htrial] at hresult
          refine ⟨(trySources_cons_of_ok attempts rest hresult).2, fun error herror => ?_⟩
          cases herror
      | error error =>
          rw [htrial] at hresult
          obtain ⟨hpages, hresults⟩ := trySources_cons_of_error attempts rest hresult
          rw [hpages, hresults]
          exact ih (hpage error htrial) _

end Trails

end Page

/-! ## Whole searches -/

/-- The answer of a search that is over. -/
def Search.answer? : Search → Option (Except LoadError Library)
  | .importing _ => none
  | .finished result => some result

/-- A search comes to what could be foreseen, and leaves the page as good as it was unless it found
the library. -/
structure Page.Foresees (base : Page) (config : LoaderConfig) (found : Page × Log × Search) :
    Prop where
  answer : found.2.2.answer? = base.verdict config
  importing : ∀ url, found.2.2 = .importing url →
    config.moduleUrl = some url ∧ base.isGlobal = false
  trails : (∀ library, found.2.2 ≠ .finished (.ok library)) → base.Trails found.1

section

variable {config : LoaderConfig} {url : String}

/-- A search that comes down to its scripts. -/
theorem Page.Trails.searchSources {base page : Page} (h : base.Trails page)
    {timeout : UInt64} {attempts : List LoadError} {sources : List String}
    (hverdict : base.verdict config = some (base.trials timeout attempts sources)) (log : Log) :
    base.Foresees config ((LiveScene.trySources timeout attempts sources page).1, log,
      .finished (LiveScene.trySources timeout attempts sources page).2.2) := by
  obtain ⟨hresult, hpage⟩ := h.trySources timeout attempts sources
  refine ⟨?_, fun url heq => ?_, fun hnot => ?_⟩
  · rw [hverdict, ← hresult]
    rfl
  · cases heq
  · cases htrials : base.trials timeout attempts sources with
    | error error => exact hpage error htrials
    | ok library =>
        rw [htrials] at hresult
        exact absurd (congrArg Search.finished hresult) (hnot library)

theorem Page.Trails.resumeSearch {base page : Page} (h : base.Trails page)
    (hurl : config.moduleUrl = some url) (hglobal : base.isGlobal = false) :
    base.Foresees config (resumeSearch config url page) := by
  have hverdict : base.verdict config =
      if base.gateClosed then none
      else if base.moduleArrives then some (.ok base.library)
      else some (base.trials config.sourceTimeout
        [.importFailed url "module not reachable"] config.fallbackSources) := by
    simp only [Page.verdict, hglobal, hurl, Bool.false_eq_true, if_false]
  have himport : Site.importResult page url =
      if base.gateClosed then none
      else if base.moduleArrives then some (.ok base.library)
      else some (.error (.importFailed url "module not reachable")) := by
    rw [← h.gateClosed, ← h.moduleArrives, ← h.library]
    rfl
  unfold LiveScene.resumeSearch
  rw [himport]
  cases hgate : base.gateClosed with
  | true =>
      refine ⟨by simp [hverdict, hgate, Search.answer?], fun other heq => ?_, fun _ => h⟩
      cases heq
      exact ⟨hurl, hglobal⟩
  | false =>
      cases harrives : base.moduleArrives with
      | true =>
          refine ⟨by simp [hverdict, hgate, harrives, Search.answer?], fun other heq => ?_, ?_⟩
          · cases heq
          · intro hnot
            exact absurd rfl (hnot base.library)
      | false =>
          refine h.searchSources ?_ _
          simp only [hverdict, hgate, harrives, Bool.false_eq_true, if_false]

theorem Page.Trails.startImport {base page : Page} (h : base.Trails page) (url : String) :
    base.Trails (Site.startImport page url) :=
  { h with }

theorem Page.Trails.startSearch {base page : Page} (h : base.Trails page) :
    base.Foresees config (startSearch config page) := by
  have hpresent : Site.presentLibrary page = if base.isGlobal then some base.library else none := by
    rw [← h.isGlobal, ← h.library]
    rfl
  unfold LiveScene.startSearch
  rw [hpresent]
  cases hglobal : base.isGlobal with
  | true =>
      refine ⟨by simp [Page.verdict, hglobal, Search.answer?], fun url heq => ?_, fun hnot => ?_⟩
      · cases heq
      · exact absurd rfl (hnot base.library)
  | false =>
      cases hurl : config.moduleUrl with
      | some url => exact (h.startImport url).resumeSearch hurl hglobal
      | none =>
          refine h.searchSources ?_ _
          simp only [Page.verdict, hglobal, hurl, Bool.false_eq_true, if_false]

/-! ## What a search asks of the page -/

theorem imports_resumeSearch (page : Page) :
    (resumeSearch config url page).1.imports = page.imports := by
  unfold resumeSearch
  split
  · rfl
  · rfl
  · exact imports_trySources _ _ _ page

/-- Only the gate keeps a search waiting. -/
theorem gateClosed_of_resumeSearch {page : Page} {other : String}
    (h : (resumeSearch config url page).2.2 = .importing other) : page.gateClosed = true := by
  unfold resumeSearch at h
  split at h
  next hnone =>
    simp only [Site.importResult] at hnone
    split at hnone
    next hgate => exact hgate
    next => split at hnone <;> cases hnone
  next => cases h
  next => cases h

/-- A search asks for a module at most once, at its start. -/
theorem imports_startSearch (page : Page) :
    (startSearch config page).1.imports ≤ page.imports + 1 := by
  unfold startSearch
  split
  · exact Nat.le_succ _
  · split
    · exact Nat.le_of_eq (imports_resumeSearch _)
    · exact Nat.le_trans (Nat.le_of_eq (imports_trySources _ _ _ page)) (Nat.le_succ _)

theorem gateClosed_of_startSearch {page : Page} {other : String}
    (h : (startSearch config page).2.2 = .importing other) : page.gateClosed = true := by
  unfold startSearch at h
  split at h
  · cases h
  · split at h
    next =>
      have hgate := gateClosed_of_resumeSearch h
      exact hgate
    next => cases h

end

end LiveScene
