import LiveScene.Proofs.SingleFlight

/-! # The answer does not depend on who asks

A provider that started out idle answers every ticket with what can be foreseen from the page it
started with and from the gate. It does not matter how many loads there were before, who drove them
and which tags they left behind.
-/

namespace LiveScene

namespace Page

variable {base page : Page}

theorem trials_openGate (timeout : UInt64) (attempts : List LoadError) (sources : List String) :
    base.openGate.trials timeout attempts sources = base.trials timeout attempts sources := by
  induction sources generalizing attempts with
  | nil => rfl
  | cons source rest ih =>
      have hsame : base.openGate.trial timeout source = base.trial timeout source := rfl
      simp only [trials, hsame]
      cases base.trial timeout source with
      | ok library => rfl
      | error error => exact ih _

/-- An answer that could be given before the gate was opened is given afterwards too. -/
theorem verdict_openGate {config : LoaderConfig} {result : Except LoadError Library}
    (h : base.verdict config = some result) : base.openGate.verdict config = some result := by
  unfold verdict at h ⊢
  simp only [trials_openGate]
  split at h
  next hglobal =>
    rw [← h]
    exact if_pos hglobal
  next hglobal =>
    refine (if_neg hglobal).trans ?_
    rw [← h]
    cases hurl : config.moduleUrl with
    | none => rfl
    | some url =>
        cases hgate : base.gateClosed with
        | true => simp [hurl, hgate] at h
        | false => rfl

theorem Trails.openGate (h : base.Trails page) : base.openGate.Trails page.openGate :=
  { h with gateClosed := rfl }

end Page

/-- What a load has come to agrees with what could be foreseen. -/
def Load.Fits (config : LoaderConfig) (base : Page) : Load → Prop
  | .immediate library => base.verdict config = some (.ok library)
  | .unstarted => True
  | .importing url => config.moduleUrl = some url ∧ base.isGlobal = false
  | .resolved result => base.verdict config = some result

theorem Load.Fits.openGate {config : LoaderConfig} {base : Page} {load : Load}
    (h : load.Fits config base) : load.Fits config base.openGate := by
  cases load with
  | immediate library => exact Page.verdict_openGate h
  | unstarted => trivial
  | importing url => exact h
  | resolved result => exact Page.verdict_openGate h

namespace Provider

/-- Tickets are not taken back. -/
theorem Progress.size_le {provider next : Provider Page} (h : provider.Progress next) :
    provider.loader.loads.size ≤ next.loader.loads.size := by
  cases h with
  | stays => exact Nat.le_refl _
  | opens => exact Nat.le_refl _
  | begins => simp
  | serves => simp
  | hands => simp [Loader.setLoad]
  | waits => simp [Loader.setLoad]
  | ends => simp [Loader.finish, Loader.setLoad]

/-- All that a provider has answered or will answer agrees with what could be foreseen. -/
structure Tells (config : LoaderConfig) (base : Page) (provider : Provider Page) : Prop where
  config_eq : provider.loader.config = config
  sound : provider.loader.Sound
  loads : ∀ (ticket : Ticket) (load : Load), provider.loader.loads[ticket]? = some load →
    load.Fits config base
  ready : ∀ library, provider.loader.state = .ready library →
    base.verdict config = some (.ok library)
  /-- Before the library is found the page is as good as it was. -/
  trails : (∀ library, provider.loader.state ≠ .ready library) → base.Trails provider.page

namespace Tells

variable {config : LoaderConfig} {base : Page} {provider : Provider Page} {ticket : Ticket}

theorem fresh (config : LoaderConfig) (page : Page) : Tells config page ⟨page, { config }⟩ where
  config_eq := rfl
  sound := fun ticket => by simp [Loader.isUnderWay]
  loads := fun _ _ hload => by simp at hload
  ready := fun _ hready => by cases hready
  trails := fun _ => .refl page

theorem openGate (h : provider.Tells config base) :
    Tells config base.openGate { provider with page := provider.page.openGate } :=
  { h with
    loads := fun ticket load hload => (h.loads ticket load hload).openGate
    ready := fun library hready => Page.verdict_openGate (h.ready library hready)
    trails := fun hnot => (h.trails hnot).openGate }

theorem load (h : provider.Tells config base) : provider.load.state.Tells config base := by
  have hpush : ∀ load : Load, load.Fits config base → ∀ (ticket : Ticket) (entry : Load),
      (provider.loader.loads.push load)[ticket]? = some entry → entry.Fits config base := by
    intro load hfits ticket entry hentry
    rw [Array.getElem?_push] at hentry
    split at hentry
    next =>
      cases hentry
      exact hfits
    next => exact h.loads ticket entry hentry
  have hsound := provider.progress_load.sound h.sound
  unfold Provider.load Loader.load at hsound ⊢
  split at hsound
  next => exact h
  next library hstate => exact { h with sound := hsound, loads := hpush _ (h.ready library hstate) }
  next hstate =>
    exact
      { h with
        sound := hsound
        loads := hpush _ trivial
        ready := fun _ hready => by cases hready
        trails := fun _ => h.trails fun library hready => by simp [hstate] at hready }

theorem loads_setLoad (h : provider.Tells config base) (ticket : Ticket) {new : Load}
    (hfits : new.Fits config base) (other : Ticket) (load : Load)
    (hload : (provider.loader.setLoad ticket new).loads[other]? = some load) :
    load.Fits config base := by
  rw [Loader.setLoad, Array.getElem?_setIfInBounds] at hload
  split at hload
  next =>
    split at hload
    next =>
      cases hload
      exact hfits
    next => cases hload
  next => exact h.loads other load hload

/-- Whatever is found for a load is what could be foreseen. -/
theorem settle (h : provider.Tells config base) {load : Load}
    (hload : provider.loader.loads[ticket]? = some load) (hunder : load.isUnderWay = true)
    {search : Page × Log × Search} (hforesees : base.Foresees config search) :
    (provider.settle ticket search).result = .ok (base.verdict config) ∧
      (provider.settle ticket search).state.Tells config base := by
  obtain ⟨page, log, found⟩ := search
  obtain ⟨hanswer, himporting, htrails⟩ := hforesees
  cases found with
  | importing url =>
      refine ⟨congrArg Except.ok hanswer, h.config_eq, ?_,
        h.loads_setLoad ticket (himporting url rfl), h.ready,
        fun _ => htrails fun _ heq => by cases heq⟩
      exact h.sound.setLoad hload _ hunder.symm
  | finished result =>
      refine ⟨congrArg Except.ok hanswer, h.config_eq, ?_, h.loads_setLoad ticket hanswer.symm, ?_,
        fun hnot => ?_⟩
      · refine h.sound.finish ?_ result
        rw [Loader.isUnderWay, hload]
        exact hunder
      · intro library hready
        cases result with
        | ok other =>
            cases hready
            exact hanswer.symm
        | error error => cases hready
      · refine htrails fun library heq => hnot library ?_
        cases heq
        rfl

/-- Whoever holds a ticket is told what could be foreseen. -/
theorem poll (h : provider.Tells config base) (hticket : ticket < provider.loader.loads.size) :
    (provider.poll ticket).result = .ok (base.verdict config) ∧
      (provider.poll ticket).state.Tells config base := by
  have hload := Array.getElem?_eq_getElem hticket
  have hfits := h.loads ticket _ hload
  have hready : ∀ load : Load, provider.loader.loads[ticket]? = some load →
      load.isUnderWay = true → ∀ library, provider.loader.state ≠ .ready library := by
    intro load hload hunder library hready
    rw [h.sound.state_eq hload hunder] at hready
    cases hready
  unfold Provider.poll
  rw [h.config_eq]
  generalize provider.loader.loads[ticket] = load at hload hfits
  rw [hload]
  cases load with
  | immediate library =>
      refine ⟨congrArg Except.ok hfits.symm, ?_⟩
      exact
        { h with
          sound := h.sound.setLoad hload _ rfl
          loads := h.loads_setLoad ticket hfits }
  | unstarted => exact h.settle hload rfl (h.trails (hready _ hload rfl)).startSearch
  | importing url =>
      exact h.settle hload rfl
        ((h.trails (hready _ hload rfl)).resumeSearch hfits.1 hfits.2)
  | resolved result => exact ⟨congrArg Except.ok hfits.symm, h⟩

end Tells

end Provider

end LiveScene
