import LiveScene.Proofs.HostLife
import LiveScene.Proofs.Searching

/-! # One load at a time

Requests, polls and the opening of the gate come in any order and from anybody. At most one load is
under way: whoever asks meanwhile gets its ticket, and a ticket that was answered once gets the same
answer ever after. Loads are begun one after another and each only after the one before it failed,
which bounds the number of imports. A library that was found is kept, and the page is left in peace
from then on.
-/

namespace LiveScene

/-! ## Loads under way -/

namespace Load

/-- Begun, or about to begin, and not over. -/
def isUnderWay : Load → Bool
  | .unstarted => true
  | .importing _ => true
  | _ => false

/-- How many imports a load may still ask for. -/
def importsLeft : Load → Nat
  | .unstarted => 1
  | _ => 0

end Load

namespace Loader

def isUnderWay (loader : Loader) (ticket : Ticket) : Bool :=
  (loader.loads[ticket]?).any Load.isUnderWay

/-- How many imports may still be asked for before another load is begun. -/
def importsLeft (loader : Loader) : Nat :=
  match loader.state with
  | .loading ticket => ((loader.loads[ticket]?).map Load.importsLeft).getD 0
  | _ => 0

/-- Whether a load has been begun that did not fail. -/
def isEngaged (loader : Loader) : Bool :=
  loader.isLoading || loader.library?.isSome

/-- Whether a load was begun between two moments, as can be seen from outside. -/
def begunUntil (before after : Loader) : Nat :=
  if !before.isLoading && after.isLoading then 1 else 0

/-- Whether a load ended between two moments without bringing the library. -/
def failedUntil (before after : Loader) : Nat :=
  if before.isLoading && !after.isLoading && after.library?.isNone then 1 else 0

/-- The load under way is the one that the phase names. -/
def Sound (loader : Loader) : Prop :=
  ∀ ticket, loader.isUnderWay ticket = true ↔ loader.state = .loading ticket

theorem isUnderWay_setLoad (loader : Loader) (ticket other : Ticket) (load : Load) :
    (loader.setLoad ticket load).isUnderWay other =
      if ticket = other ∧ ticket < loader.loads.size then load.isUnderWay
      else loader.isUnderWay other := by
  simp only [isUnderWay, setLoad, Array.getElem?_setIfInBounds]
  by_cases heq : ticket = other
  · subst heq
    by_cases hlt : ticket < loader.loads.size <;> simp [hlt]
  · simp [heq]

/-- A load that stays under way, or stays over, makes no difference. -/
theorem Sound.setLoad {loader : Loader} (h : loader.Sound) {ticket : Ticket} {old : Load}
    (hload : loader.loads[ticket]? = some old) (new : Load)
    (hsame : new.isUnderWay = old.isUnderWay) : (loader.setLoad ticket new).Sound := by
  intro other
  refine Iff.trans (Eq.to_iff (congrArg (· = true) ?_)) (h other)
  rw [isUnderWay_setLoad]
  split
  next heq => rw [← heq.1, isUnderWay, hload, Option.any_some, hsame]
  next => rfl

theorem Sound.state_eq {loader : Loader} (h : loader.Sound) {ticket : Ticket} {load : Load}
    (hload : loader.loads[ticket]? = some load) (hunder : load.isUnderWay = true) :
    loader.state = .loading ticket := by
  rw [← h ticket, isUnderWay, hload]
  exact hunder

theorem lt_size_of_isUnderWay {loader : Loader} {ticket : Ticket}
    (h : loader.isUnderWay ticket = true) : ticket < loader.loads.size := by
  by_contra hge
  simp [isUnderWay, Array.getElem?_eq_none (Nat.le_of_not_lt hge)] at h

theorem state_of_library? {loader : Loader} {library : Library}
    (h : loader.library? = some library) : loader.state = .ready library := by
  unfold library? at h
  split at h
  next heq =>
    cases h
    exact heq
  next => cases h

/-- The load that ends was the only one. -/
theorem Sound.finish {loader : Loader} (h : loader.Sound) {ticket : Ticket}
    (hunder : loader.isUnderWay ticket = true) (result : Except LoadError Library) :
    (loader.finish ticket result).Sound := by
  intro other
  have hnone : (loader.finish ticket result).isUnderWay other = false := by
    refine (loader.isUnderWay_setLoad ticket other (.resolved result)).trans ?_
    split
    next => rfl
    next hne =>
      rw [← Bool.not_eq_true, h other, (h ticket).mp hunder]
      intro heq
      cases heq
      exact hne ⟨rfl, lt_size_of_isUnderWay hunder⟩
  simp only [hnone, Bool.false_eq_true, false_iff]
  cases result <;> simp [Loader.finish]

end Loader

namespace Provider

/-! ## Errands -/

/-- What anybody can do to a provider. -/
inductive Errand where
  | request
  | poll (ticket : Ticket)
  | openGate

section

variable [Site Page]

def perform (provider : Provider Page) : Errand → Provider Page
  | .request => provider.load.state
  | .poll ticket => (provider.poll ticket).state
  | .openGate => { provider with page := provider.page.openGate }

def performAll (provider : Provider Page) (errands : List Errand) : Provider Page :=
  errands.foldl perform provider

/-- How often a load was begun. -/
def begun (provider : Provider Page) : List Errand → Nat
  | [] => 0
  | errand :: rest =>
    let next := provider.perform errand
    provider.loader.begunUntil next.loader + next.begun rest

/-- How often a load failed. -/
def failed (provider : Provider Page) : List Errand → Nat
  | [] => 0
  | errand :: rest =>
    let next := provider.perform errand
    provider.loader.failedUntil next.loader + next.failed rest

end

/-- The ways in which an errand can change a provider. -/
inductive Progress (provider : Provider Page) : Provider Page → Prop
  | stays : Progress provider provider
  | opens : Progress provider { provider with page := provider.page.openGate }
  | begins (hstate : provider.loader.state = .idle) :
      Progress provider { provider with
        loader := { provider.loader with
          state := .loading provider.loader.loads.size
          loads := provider.loader.loads.push .unstarted } }
  | serves (library : Library) (hstate : provider.loader.state = .ready library) :
      Progress provider { provider with
        loader := { provider.loader with
          loads := provider.loader.loads.push (.immediate library) } }
  | hands (ticket : Ticket) (library : Library)
      (hload : provider.loader.loads[ticket]? = some (.immediate library)) :
      Progress provider { provider with
        loader := provider.loader.setLoad ticket (.resolved (.ok library)) }
  | waits (ticket : Ticket) (load : Load) (page : Page) (url : String)
      (hload : provider.loader.loads[ticket]? = some load) (hunder : load.isUnderWay = true)
      (himports : page.imports ≤ provider.page.imports + load.importsLeft)
      (hgate : provider.page.gateClosed = true) :
      Progress provider ⟨page, provider.loader.setLoad ticket (.importing url)⟩
  | ends (ticket : Ticket) (load : Load) (page : Page) (result : Except LoadError Library)
      (hload : provider.loader.loads[ticket]? = some load) (hunder : load.isUnderWay = true)
      (himports : page.imports ≤ provider.page.imports + load.importsLeft) :
      Progress provider ⟨page, provider.loader.finish ticket result⟩

/-! ## What an errand can change -/

section

variable {provider : Provider Page} {ticket : Ticket}

theorem progress_load (provider : Provider Page) : provider.Progress provider.load.state := by
  unfold Provider.load Loader.load
  split
  next => exact .stays
  next library hstate => exact .serves library hstate
  next hstate => exact .begins hstate

/-- What becomes of a provider that takes over how far the search of a load has come. -/
theorem progress_settle {load : Load} (hload : provider.loader.loads[ticket]? = some load)
    (hunder : load.isUnderWay = true) {search : Page × Log × Search}
    (himports : search.1.imports ≤ provider.page.imports + load.importsLeft)
    (hgate : ∀ url, search.2.2 = .importing url → provider.page.gateClosed = true) :
    provider.Progress (provider.settle ticket search).state := by
  obtain ⟨page, log, found⟩ := search
  cases found with
  | importing url => exact .waits ticket load page url hload hunder himports (hgate url rfl)
  | finished result => exact .ends ticket load page result hload hunder himports

theorem progress_poll (provider : Provider Page) (ticket : Ticket) :
    provider.Progress (provider.poll ticket).state := by
  simp only [Provider.poll]
  cases hload : provider.loader.loads[ticket]? with
  | none => exact .stays
  | some load =>
      cases load with
      | immediate library => exact .hands ticket library hload
      | unstarted =>
          exact progress_settle hload rfl (imports_startSearch _)
            fun _ => gateClosed_of_startSearch
      | importing url =>
          exact progress_settle hload rfl (Nat.le_of_eq (imports_resumeSearch _))
            fun _ => gateClosed_of_resumeSearch
      | resolved result => exact .stays

theorem progress_perform (provider : Provider Page) (errand : Errand) :
    provider.Progress (provider.perform errand) := by
  cases errand with
  | request => exact provider.progress_load
  | poll ticket => exact provider.progress_poll ticket
  | openGate => exact .opens

/-- What every errand keeps holds after all of them. -/
theorem performAll_induct {P : Provider Page → Prop}
    (hstep : ∀ before after, before.Progress after → P before → P after)
    (errands : List Errand) {provider : Provider Page} (h : P provider) :
    P (provider.performAll errands) := by
  induction errands generalizing provider with
  | nil => exact h
  | cons errand rest ih =>
      exact ih (hstep provider _ (provider.progress_perform errand) h)

end

namespace Progress

variable {provider next : Provider Page}

/-- The load that goes on or ends is the one the phase names. -/
theorem sound (hprogress : provider.Progress next) (h : provider.loader.Sound) :
    next.loader.Sound := by
  cases hprogress with
  | stays => exact h
  | opens => exact h
  | begins hstate =>
      intro ticket
      have hbefore := h ticket
      simp only [hstate, reduceCtorEq, iff_false, Bool.not_eq_true] at hbefore
      simp only [Loader.isUnderWay, Array.getElem?_push] at hbefore ⊢
      split
      next heq => simp [heq, Load.isUnderWay]
      next hne => simpa [hbefore] using Ne.symm hne
  | serves library hstate =>
      intro ticket
      have hbefore := h ticket
      simp only [Loader.isUnderWay, Array.getElem?_push, hstate] at hbefore ⊢
      split
      next heq => simp [Load.isUnderWay]
      next => exact hbefore
  | hands ticket library hload =>
      exact h.setLoad hload (.resolved (.ok library)) rfl
  | waits ticket load page url hload hunder _ _ =>
      exact h.setLoad hload (.importing url) hunder.symm
  | ends ticket load page result hload hunder _ =>
      exact h.finish (by rw [Loader.isUnderWay, hload]; exact hunder) result

/-- A ticket that was answered keeps its answer. -/
theorem resolved (hprogress : provider.Progress next) {ticket : Ticket}
    {result : Except LoadError Library}
    (h : provider.loader.loads[ticket]? = some (.resolved result)) :
    next.loader.loads[ticket]? = some (.resolved result) := by
  have hlt := (Array.getElem?_eq_some_iff.mp h).1
  have hset : ∀ other old new, provider.loader.loads[other]? = some old →
      old ≠ .resolved result →
      (provider.loader.setLoad other new).loads[ticket]? = some (.resolved result) := by
    intro other old new hother hold
    have hne : other ≠ ticket := by
      rintro rfl
      rw [h] at hother
      exact hold (Option.some.inj hother).symm
    rw [Loader.setLoad, Array.getElem?_setIfInBounds, if_neg hne, h]
  cases hprogress with
  | stays => exact h
  | opens => exact h
  | begins _ => rw [Array.getElem?_push, if_neg (Nat.ne_of_lt hlt), h]
  | serves _ _ => rw [Array.getElem?_push, if_neg (Nat.ne_of_lt hlt), h]
  | hands other library hload => exact hset other _ _ hload (by simp)
  | waits other load _ _ hload hunder _ _ =>
      exact hset other load _ hload (by rintro rfl; simp [Load.isUnderWay] at hunder)
  | ends other load _ _ hload hunder _ =>
      exact hset other load _ hload (by rintro rfl; simp [Load.isUnderWay] at hunder)

/-- A library that was found stays, and the page is left alone but for its gate. -/
theorem ready (hprogress : provider.Progress next) (h : provider.loader.Sound) {library : Library}
    (hstate : provider.loader.state = .ready library) :
    next.loader.state = .ready library ∧
      next.page = { provider.page with gateClosed := next.page.gateClosed } := by
  have hnone : ∀ (ticket : Ticket) (load : Load), provider.loader.loads[ticket]? = some load →
      load.isUnderWay ≠ true := by
    intro ticket load hload hunder
    have hloading := h.state_eq hload hunder
    rw [hstate] at hloading
    cases hloading
  cases hprogress with
  | stays => exact ⟨hstate, rfl⟩
  | opens => exact ⟨hstate, rfl⟩
  | begins hidle =>
      rw [hstate] at hidle
      cases hidle
  | serves _ _ => exact ⟨hstate, rfl⟩
  | hands _ _ _ => exact ⟨hstate, rfl⟩
  | waits ticket load _ _ hload hunder _ _ => exact absurd hunder (hnone ticket load hload)
  | ends ticket load _ _ hload hunder _ => exact absurd hunder (hnone ticket load hload)

/-- A load is begun when none is engaged; it stays engaged until it fails. -/
theorem balance (hprogress : provider.Progress next) (h : provider.loader.Sound) :
    provider.loader.begunUntil next.loader + provider.loader.isEngaged.toNat =
      provider.loader.failedUntil next.loader + next.loader.isEngaged.toNat := by
  have hsame : next.loader.state = provider.loader.state →
      provider.loader.begunUntil next.loader + provider.loader.isEngaged.toNat =
        provider.loader.failedUntil next.loader + next.loader.isEngaged.toNat := by
    intro hstate
    simp only [Loader.begunUntil, Loader.failedUntil, Loader.isEngaged, Loader.isLoading,
      Loader.library?, hstate]
    cases provider.loader.state <;> rfl
  cases hprogress with
  | stays => exact hsame rfl
  | opens => exact hsame rfl
  | begins hidle =>
      simp [Loader.begunUntil, Loader.failedUntil, Loader.isEngaged, Loader.isLoading,
        Loader.library?, hidle]
  | serves _ _ => exact hsame rfl
  | hands _ _ _ => exact hsame rfl
  | waits _ _ _ _ _ _ _ _ => exact hsame rfl
  | ends ticket load page result hload hunder _ =>
      have hstate := h.state_eq hload hunder
      cases result <;>
        simp [Loader.begunUntil, Loader.failedUntil, Loader.isEngaged, Loader.isLoading,
          Loader.library?, hstate, Loader.finish]

/-- Imports are asked for by loads that were begun and have not asked yet. -/
theorem imports (hprogress : provider.Progress next) (h : provider.loader.Sound) :
    next.page.imports + next.loader.importsLeft ≤
      provider.page.imports + provider.loader.importsLeft +
        provider.loader.begunUntil next.loader := by
  have hleft : ∀ (ticket : Ticket) (load : Load), provider.loader.loads[ticket]? = some load →
      load.isUnderWay = true → provider.loader.importsLeft = load.importsLeft := by
    intro ticket load hload hunder
    simp [Loader.importsLeft, h.state_eq hload hunder, hload]
  cases hprogress with
  | stays => exact Nat.le_add_right _ _
  | opens => exact Nat.le_add_right _ _
  | begins hidle =>
      simp [Loader.importsLeft, Loader.begunUntil, Loader.isLoading, hidle, Load.importsLeft]
  | serves library hstate => simp [Loader.importsLeft, hstate]
  | hands ticket library hload =>
      refine Nat.le_trans (Nat.add_le_add_left ?_ _) (Nat.le_add_right _ _)
      simp only [Loader.importsLeft, Loader.setLoad, Array.getElem?_setIfInBounds]
      split
      next other _ =>
        by_cases heq : ticket = other
        · subst heq
          have hlt := (Array.getElem?_eq_some_iff.mp hload).1
          simp [hlt, Load.importsLeft]
        · simp [heq]
      next => exact Nat.le_refl _
  | waits ticket load page url hload hunder himports _ =>
      have hstate := h.state_eq hload hunder
      have hlt := (Array.getElem?_eq_some_iff.mp hload).1
      rw [hleft ticket load hload hunder]
      simpa [Loader.importsLeft, Loader.setLoad, hstate, hlt, Load.importsLeft,
        Loader.begunUntil, Loader.isLoading] using himports
  | ends ticket load page result hload hunder himports =>
      rw [hleft ticket load hload hunder]
      refine Nat.le_trans ?_ (Nat.le_add_right _ _)
      cases result <;> simpa [Loader.importsLeft, Loader.finish] using himports

end Progress

/-! ## Whole runs -/

section

variable {provider : Provider Page}

theorem sound_performAll (h : provider.loader.Sound) (errands : List Errand) :
    (provider.performAll errands).loader.Sound :=
  performAll_induct (P := fun provider => provider.loader.Sound)
    (fun _ _ hprogress hsound => hprogress.sound hsound) errands h

/-- The page is not asked anything any more: all goes on in the same way whatever a site would
answer. -/
theorem poll_of_ready (h : provider.loader.Sound) {library : Library}
    (hstate : provider.loader.state = .ready library) (site : Site Page) (ticket : Ticket) :
    @Provider.poll Page site provider ticket =
      @Provider.poll Page Page.instSite provider ticket := by
  unfold Provider.poll
  cases hload : provider.loader.loads[ticket]? with
  | none => rfl
  | some load =>
      have hover : load.isUnderWay ≠ true := fun hunder => by
        have hloading := h.state_eq hload hunder
        rw [hstate] at hloading
        cases hloading
      cases load with
      | immediate library => rfl
      | unstarted => exact absurd rfl hover
      | importing url => exact absurd rfl hover
      | resolved result => rfl

theorem performAll_of_ready (h : provider.loader.Sound) {library : Library}
    (hstate : provider.loader.state = .ready library) (errands : List Errand) :
    (provider.performAll errands).loader.state = .ready library ∧
      (provider.performAll errands).page = { provider.page with
        gateClosed := (provider.performAll errands).page.gateClosed } ∧
      ∀ site : Site Page,
        @performAll site provider errands = @performAll Page.instSite provider errands := by
  induction errands generalizing provider with
  | nil => exact ⟨hstate, rfl, fun _ => rfl⟩
  | cons errand rest ih =>
      have hprogress := provider.progress_perform errand
      obtain ⟨hnext, hpage⟩ := hprogress.ready h hstate
      obtain ⟨hlast, hpages, hsites⟩ := ih (hprogress.sound h) hnext
      refine ⟨hlast, ?_, fun site => ?_⟩
      · simp only [performAll, List.foldl_cons] at hpages ⊢
        rw [hpages, hpage]
      · have hsame : @perform site provider errand = @perform Page.instSite provider errand := by
          cases errand with
          | request => rfl
          | poll ticket => exact congrArg Outcome.state (poll_of_ready h hstate site ticket)
          | openGate => rfl
        calc @performAll site provider (errand :: rest)
            = @performAll site (@perform site provider errand) rest := rfl
          _ = @performAll site (@perform Page.instSite provider errand) rest := by rw [hsame]
          _ = @performAll Page.instSite provider (errand :: rest) := hsites site

theorem begun_performAll (h : provider.loader.Sound) (errands : List Errand) :
    provider.begun errands + provider.loader.isEngaged.toNat =
      provider.failed errands + (provider.performAll errands).loader.isEngaged.toNat := by
  induction errands generalizing provider with
  | nil => rfl
  | cons errand rest ih =>
      have hprogress := provider.progress_perform errand
      have hstep := hprogress.balance h
      have hrest := ih (hprogress.sound h)
      simp only [begun, failed, performAll, List.foldl_cons] at hrest ⊢
      omega

theorem imports_performAll (h : provider.loader.Sound) (errands : List Errand) :
    (provider.performAll errands).page.imports +
        (provider.performAll errands).loader.importsLeft ≤
      provider.page.imports + provider.loader.importsLeft + provider.begun errands := by
  induction errands generalizing provider with
  | nil => exact Nat.le_refl _
  | cons errand rest ih =>
      have hprogress := provider.progress_perform errand
      have hstep := hprogress.imports h
      have hrest := ih (hprogress.sound h)
      simp only [begun, performAll, List.foldl_cons] at hrest ⊢
      omega

end

/-! ## Answers -/

section

variable {provider : Provider Page} {ticket : Ticket}

theorem poll_of_resolved {result : Except LoadError Library}
    (h : provider.loader.loads[ticket]? = some (.resolved result)) :
    provider.poll ticket = .done provider (some result) := by
  simp only [Provider.poll, h]

/-- A load under way is driven by a search that nothing but the gate keeps waiting. -/
theorem poll_of_isUnderWay (h : provider.loader.isUnderWay ticket = true) :
    ∃ search : Page × Log × Search, provider.poll ticket = provider.settle ticket search ∧
      ∀ url, search.2.2 = .importing url → provider.page.gateClosed = true := by
  unfold Provider.poll
  cases hload : provider.loader.loads[ticket]? with
  | none => simp [Loader.isUnderWay, hload] at h
  | some load =>
      cases load with
      | immediate library => simp [Loader.isUnderWay, hload, Load.isUnderWay] at h
      | unstarted => exact ⟨_, rfl, fun _ => gateClosed_of_startSearch⟩
      | importing url => exact ⟨_, rfl, fun _ => gateClosed_of_resumeSearch⟩
      | resolved result => simp [Loader.isUnderWay, hload, Load.isUnderWay] at h

theorem settle_of_answer {search : Page × Log × Search} {result : Except LoadError Library}
    (h : (provider.settle ticket search).result = .ok (some result)) :
    (provider.settle ticket search).state.loader = provider.loader.finish ticket result := by
  obtain ⟨page, log, found⟩ := search
  cases found with
  | importing url => cases h
  | finished other =>
      cases h
      rfl

theorem resolved_of_poll {result : Except LoadError Library}
    (h : (provider.poll ticket).result = .ok (some result)) :
    (provider.poll ticket).state.loader.loads[ticket]? = some (.resolved result) := by
  cases hunder : provider.loader.isUnderWay ticket with
  | true =>
      obtain ⟨search, hpoll, -⟩ := poll_of_isUnderWay hunder
      rw [hpoll] at h ⊢
      rw [settle_of_answer h]
      have hlt := Loader.lt_size_of_isUnderWay hunder
      simp [Loader.finish, Loader.setLoad, hlt]
  | false =>
      unfold Provider.poll at h ⊢
      cases hload : provider.loader.loads[ticket]? with
      | none =>
          rw [hload] at h
          cases h
      | some load =>
          have hlt := (Array.getElem?_eq_some_iff.mp hload).1
          rw [hload] at h
          cases load with
          | immediate library =>
              cases h
              simp [Outcome.done, Loader.setLoad, hlt]
          | unstarted => simp [Loader.isUnderWay, hload, Load.isUnderWay] at hunder
          | importing url => simp [Loader.isUnderWay, hload, Load.isUnderWay] at hunder
          | resolved other =>
              cases h
              exact hload

/-- What was answered once is answered ever after. -/
theorem answer_lasts {result : Except LoadError Library}
    (h : (provider.poll ticket).result = .ok (some result)) (errands : List Errand) :
    (((provider.poll ticket).state.performAll errands).poll ticket).result = .ok (some result) := by
  have hlater := performAll_induct
    (P := fun provider => provider.loader.loads[ticket]? = some (.resolved result))
    (fun _ _ hprogress => hprogress.resolved) errands (resolved_of_poll h)
  rw [poll_of_resolved hlater]
  rfl

theorem ended_of_answer {result : Except LoadError Library}
    (hunder : provider.loader.isUnderWay ticket = true)
    (h : (provider.poll ticket).result = .ok (some result)) :
    (provider.poll ticket).state.loader.isLoading = false ∧
      (provider.poll ticket).state.loader.library? = result.toOption := by
  obtain ⟨search, hpoll, -⟩ := poll_of_isUnderWay hunder
  rw [hpoll] at h ⊢
  rw [settle_of_answer h]
  cases result <;> exact ⟨rfl, rfl⟩

/-- Whoever holds a ticket gets an answer, or waits at the gate for the load under way. -/
theorem answer_or_waits (hlt : ticket < provider.loader.loads.size) :
    (∃ result, (provider.poll ticket).result = .ok (some result)) ∨
      (provider.poll ticket).result = .ok none ∧ provider.page.gateClosed = true ∧
        provider.loader.isUnderWay ticket = true ∧
        (provider.poll ticket).state.loader.isUnderWay ticket = true := by
  cases hunder : provider.loader.isUnderWay ticket with
  | true =>
      obtain ⟨⟨page, log, found⟩, hpoll, hgate⟩ := poll_of_isUnderWay hunder
      rw [hpoll]
      cases found with
      | importing url =>
          refine Or.inr ⟨rfl, hgate url rfl, rfl, ?_⟩
          simp [Provider.settle, Loader.isUnderWay_setLoad, hlt, Load.isUnderWay]
      | finished result => exact Or.inl ⟨result, rfl⟩
  | false =>
      refine Or.inl ?_
      unfold Provider.poll
      cases hload : provider.loader.loads[ticket]? with
      | none =>
          exact absurd hlt (Nat.not_lt.mpr (Array.getElem?_eq_none_iff.mp hload))
      | some load =>
          cases load with
          | immediate library => exact ⟨_, rfl⟩
          | unstarted => simp [Loader.isUnderWay, hload, Load.isUnderWay] at hunder
          | importing url => simp [Loader.isUnderWay, hload, Load.isUnderWay] at hunder
          | resolved other => exact ⟨_, rfl⟩

theorem loading_of_settle {search : Page × Log × Search} {other : Ticket}
    (h : (provider.settle other search).state.loader.state = .loading ticket) :
    provider.loader.state = .loading ticket := by
  obtain ⟨page, log, found⟩ := search
  cases found with
  | importing url => exact h
  | finished result => cases result <;> cases h

/-- No poll begins a load. -/
theorem loading_of_poll {other : Ticket}
    (h : (provider.poll other).state.loader.state = .loading ticket) :
    provider.loader.state = .loading ticket := by
  unfold Provider.poll at h
  split at h
  · exact h
  · exact h
  · exact h
  · exact loading_of_settle h
  · exact loading_of_settle h

/-- A request begins a load when the loader is idle. -/
theorem loading_of_load (h : provider.load.state.loader.state = .loading ticket) :
    provider.loader.state = .loading ticket ∨
      provider.loader.state = .idle ∧ provider.load.result = .ok ticket := by
  unfold Provider.load Loader.load at h ⊢
  split at h
  next => exact Or.inl h
  next => exact Or.inl h
  next hidle =>
    cases h
    exact Or.inr ⟨hidle, rfl⟩

theorem begun_by_request (h : provider.loader.Sound) {errand : Errand}
    (hbefore : provider.loader.isUnderWay ticket = false)
    (hafter : (provider.perform errand).loader.isUnderWay ticket = true) :
    errand = .request ∧ provider.loader.state = .idle ∧ provider.load.result = .ok ticket := by
  have hnot : provider.loader.state ≠ .loading ticket := by
    rw [ne_eq, ← h ticket, hbefore]
    exact Bool.false_ne_true
  rw [(provider.progress_perform errand).sound h ticket] at hafter
  cases errand with
  | request =>
      rcases loading_of_load hafter with hsame | hidle
      · exact absurd hsame hnot
      · exact ⟨rfl, hidle⟩
  | poll other => exact absurd (loading_of_poll hafter) hnot
  | openGate => exact absurd hafter hnot

theorem load_of_loading (h : provider.loader.state = .loading ticket) :
    provider.load = .done provider ticket := by
  simp only [Provider.load, Loader.load, h]
  rfl

theorem exists_ticket (h : provider.loader.Sound) :
    ∃ ticket, provider.load.result = .ok ticket ∧
      ticket < provider.load.state.loader.loads.size := by
  cases hstate : provider.loader.state with
  | idle =>
      refine ⟨provider.loader.loads.size, ?_⟩
      simp [Provider.load, Loader.load, hstate, Outcome.within]
  | loading ticket =>
      rw [load_of_loading hstate]
      exact ⟨ticket, rfl, Loader.lt_size_of_isUnderWay ((h ticket).mpr hstate)⟩
  | ready library =>
      refine ⟨provider.loader.loads.size, ?_⟩
      simp [Provider.load, Loader.load, hstate, Outcome.within, Outcome.done]

end

/-! ## Hosts are nothing but callers -/

end Provider

namespace Session

section

variable {α β : Type}

theorem provider_andThen {first : Outcome (Session Page) α}
    {next : Session Page → α → Outcome (Session Page) β}
    (h : ∀ session value,
      (next session value).state.platform.provider = session.platform.provider) :
    (first.andThen next).state.platform.provider = first.state.platform.provider := by
  unfold Outcome.andThen
  split
  · exact h _ _
  · rfl

theorem provider_concludeLoad (session : Session Page) (result : Except LoadError Library) :
    (session.concludeLoad result).state.platform.provider = session.platform.provider := by
  unfold concludeLoad
  dsimp only
  split
  · rfl
  · cases result with
    | error error => rfl
    | ok library =>
        dsimp only [makeReady?, Platform.makeRenderer]
        split
        next heq => split at heq <;> cases heq; rfl
        next heq => split at heq <;> cases heq; rfl

/-- A host drives the load it waits for and no other. -/
theorem provider_awaitLoad (session : Session Page) :
    session.awaitLoad.state.platform.provider =
      session.platform.provider.performAll (session.host.load.map Provider.Errand.poll).toList := by
  unfold awaitLoad
  cases session.host.load with
  | none => rfl
  | some ticket =>
      refine provider_andThen fun next value => ?_
      cases value with
      | none => rfl
      | some result => exact provider_concludeLoad next result

theorem provider_create (platform : Platform Page) (index : Platform.SurfaceIndex)
    (autostart : Bool) : ∃ ticket, platform.provider.load.result = .ok ticket ∧
      (create platform index autostart).state.platform.provider =
        platform.provider.performAll [.request, .poll ticket] := by
  obtain ⟨ticket, hticket⟩ : ∃ ticket, platform.provider.load.result = .ok ticket := by
    unfold Provider.load Loader.load
    split <;> exact ⟨_, rfl⟩
  refine ⟨ticket, hticket, ?_⟩
  simp only [create, Outcome.andThen, Outcome.after, Outcome.within, hticket]
  exact (provider_andThen fun _ _ => rfl).trans (provider_awaitLoad _)

theorem provider_undergo (session : Session Page) (event : Event Page)
    (hown : ∀ platform, event ≠ .elsewhere platform) :
    (session.undergo event).state.platform.provider = session.platform.provider ∨
      ∃ ticket, session.host.load = some ticket ∧
        (session.undergo event).state.platform.provider =
          session.platform.provider.performAll [.poll ticket] := by
  have hwait : ∀ next : Session Page,
      next.platform.provider = session.awaitLoad.state.platform.provider →
      next.platform.provider = session.platform.provider ∨
        ∃ ticket, session.host.load = some ticket ∧
          next.platform.provider = session.platform.provider.performAll [.poll ticket] := by
    intro next hnext
    rw [provider_awaitLoad] at hnext
    cases hload : session.host.load with
    | none =>
        rw [hload] at hnext
        exact Or.inl hnext
    | some ticket =>
        rw [hload] at hnext
        exact Or.inr ⟨ticket, rfl, hnext⟩
  cases event with
  | reset root => exact Or.inl rfl
  | patch ops => exact Or.inl rfl
  | poll => exact hwait _ (provider_andThen fun _ _ => rfl)
  | step =>
      simp only [undergo, Outcome.map, Session.step]
      cases session.host.state with
      | disposed => exact Or.inl rfl
      | ready => exact Or.inl rfl
      | uninitialized =>
          refine hwait _ ((provider_andThen fun next state => ?_).trans
            (provider_andThen fun _ _ => rfl))
          split <;> rfl
  | resize => exact Or.inl rfl
  | startLoop => exact Or.inl rfl
  | stopLoop => exact Or.inl rfl
  | dispose =>
      refine Or.inl ?_
      simp only [undergo, Session.dispose]
      split <;> rfl
  | elsewhere platform => exact absurd rfl (hown platform)

end

end Session

namespace Provider

/-- What can be said of a provider after errands in the course of which so many loads were begun
and so many failed. -/
structure Orderly (start now : Provider Page) (begun failed : Nat) : Prop where
  /-- At most one load is under way, and the phase names it. -/
  single : ∀ ticket, now.loader.isUnderWay ticket = true ↔ now.loader.state = .loading ticket
  /-- Whoever asks while a load is under way gets its ticket and changes nothing. -/
  joins : ∀ ticket, now.loader.isUnderWay ticket = true → now.load = .done now ticket
  /-- Only a request begins a load, and only when there is none under way and no library. -/
  begins : ∀ errand ticket, now.loader.isUnderWay ticket = false →
    (now.perform errand).loader.isUnderWay ticket = true →
    errand = .request ∧ now.loader.state = .idle ∧ now.load.result = .ok ticket
  /-- Every request gets a ticket. -/
  grants : ∃ ticket, now.load.result = .ok ticket ∧ ticket < now.load.state.loader.loads.size
  /-- A ticket is answered when it is polled, unless its load is under way and waits at the gate. -/
  answers : ∀ ticket < now.loader.loads.size,
    (∃ result, (now.poll ticket).result = .ok (some result)) ∨
      (now.poll ticket).result = .ok none ∧ now.page.gateClosed = true ∧
        now.loader.isUnderWay ticket = true ∧
        (now.poll ticket).state.loader.isUnderWay ticket = true
  /-- Everybody with the same ticket gets the same answer, however late. -/
  agrees : ∀ ticket result, (now.poll ticket).result = .ok (some result) → ∀ errands,
    (((now.poll ticket).state.performAll errands).poll ticket).result = .ok (some result)
  /-- The answer that ends a load is the library that is kept, or leaves nothing behind. -/
  ends : ∀ ticket result, now.loader.isUnderWay ticket = true →
    (now.poll ticket).result = .ok (some result) →
    (now.poll ticket).state.loader.isLoading = false ∧
      (now.poll ticket).state.loader.library? = result.toOption
  /-- All loads but the last one failed. -/
  counts : begun = failed + now.loader.isEngaged.toNat
  imports : now.page.imports ≤ start.page.imports + failed + 1
  /-- A library that was found stays for good, and the page is not asked again. -/
  keeps : ∀ library, now.loader.library? = some library → ∀ errands,
    (now.performAll errands).loader.library? = some library ∧
      (now.performAll errands).page = { now.page with
        gateClosed := (now.performAll errands).page.gateClosed } ∧
      ∀ site : Site Page, @performAll site now errands = @performAll Page.instSite now errands

/-- Loads come one at a time, whatever order requests, polls and the opening of the gate come in.
Hosts add nothing to that: a new host asks and polls once, and from then on polls its own ticket at
most. -/
theorem single_flight (config : LoaderConfig) (page : Page) (errands : List Errand) :
    let start : Provider Page := ⟨page, { config }⟩
    Orderly start (start.performAll errands) (start.begun errands) (start.failed errands) ∧
      (∀ (platform : Platform Page) (index : Platform.SurfaceIndex) (autostart : Bool),
        ∃ ticket, platform.provider.load.result = .ok ticket ∧
          (Session.create platform index autostart).state.platform.provider =
            platform.provider.performAll [.request, .poll ticket]) ∧
      ∀ (session : Session Page) (event : Session.Event Page),
        (∀ platform, event ≠ .elsewhere platform) →
        (session.undergo event).state.platform.provider = session.platform.provider ∨
          ∃ ticket, session.host.load = some ticket ∧
            (session.undergo event).state.platform.provider =
              session.platform.provider.performAll [.poll ticket] := by
  intro start
  refine ⟨?_, Session.provider_create, Session.provider_undergo⟩
  have hstart : start.loader.Sound := by
    intro ticket
    simp [start, Loader.isUnderWay]
  have hsound := sound_performAll hstart errands
  have hcounts := begun_performAll hstart errands
  have himports := imports_performAll hstart errands
  have hidle : start.loader.isEngaged.toNat = 0 := rfl
  have hnone : start.loader.importsLeft = 0 := rfl
  rw [hidle, Nat.add_zero] at hcounts
  rw [hnone, Nat.add_zero] at himports
  have hbool := (start.performAll errands).loader.isEngaged.toNat_le
  refine
    { single := hsound
      joins := fun ticket hunder => load_of_loading ((hsound ticket).mp hunder)
      begins := fun errand ticket => begun_by_request hsound
      grants := exists_ticket hsound
      answers := fun ticket => answer_or_waits
      agrees := fun ticket result => answer_lasts
      ends := fun ticket result => ended_of_answer
      counts := hcounts
      imports := by omega
      keeps := ?_ }
  intro library hlibrary later
  obtain ⟨hstate, hpage, hsites⟩ :=
    performAll_of_ready hsound (Loader.state_of_library? hlibrary) later
  exact ⟨by rw [Loader.library?, hstate], hpage, hsites⟩

/-- Two loads one after the other: the first is shared and waits at the gate, both fail, and each of
them asks for the module. -/
theorem single_flight_retried :
    let start : Provider Page :=
      ⟨{ gateClosed := true }, { config := { moduleUrl := some "m", fallbackSources := ["s"] } }⟩
    let errands : List Errand :=
      [.request, .poll 0, .request, .openGate, .poll 0, .request, .poll 0, .poll 1]
    Orderly start (start.performAll errands) 2 2 ∧ (start.performAll errands).page.imports = 2 :=
  ⟨(single_flight { moduleUrl := some "m", fallbackSources := ["s"] } { gateClosed := true } _).1,
    rfl⟩

end Provider

end LiveScene
