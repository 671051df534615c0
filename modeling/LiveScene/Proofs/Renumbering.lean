import LiveScene.Proofs.Lifecycle
import LiveScene.Proofs.Verdicts

/-! # Sessions that differ in numbers only

Tickets and renderers are numbered for all hosts together, so the numbers a host gets depend on the
others. Nothing else about it does: two sessions whose hosts agree but for these numbers, whose
surfaces agree and whose loads are answered alike go on alike. What a session changes on its
platform is its own surface, the loader and the count of renderers.
-/

namespace LiveScene

/-- When the first step ends without a fault, so does the second, in a state and with a result that
are related. -/
def Outcome.Matches {σ τ α β : Type} (outcome : Outcome σ α) (other : Outcome τ β)
    (R : σ → α → τ → β → Prop) : Prop :=
  ∀ value, outcome.result = .ok value →
    ∃ value', other.result = .ok value' ∧ R outcome.state value other.state value'

namespace Outcome.Matches

variable {σ σ' τ τ' α β γ δ : Type} {outcome : Outcome σ α} {other : Outcome τ β}
  {R : σ → α → τ → β → Prop}

theorem done {state : σ} {value : α} {state' : τ} {value' : β} (h : R state value state' value') :
    (Outcome.done state value).Matches (Outcome.done state' value') R := by
  intro first hfirst
  cases hfirst
  exact ⟨value', rfl, h⟩

theorem andThen (h : outcome.Matches other R) {next : σ → α → Outcome σ γ}
    {next' : τ → β → Outcome τ δ} {S : σ → γ → τ → δ → Prop}
    (hnext : ∀ state value state' value', R state value state' value' →
      (next state value).Matches (next' state' value') S) :
    (outcome.andThen next).Matches (other.andThen next') S := by
  intro last hlast
  obtain ⟨value, hresult, hvalue, hstate⟩ := ok_of_andThen hlast
  obtain ⟨value', hresult', hrelated⟩ := h value hresult
  obtain ⟨last', hlast', hend⟩ := hnext _ _ _ _ hrelated last hvalue
  rw [hstate, andThen_of_ok hresult']
  exact ⟨last', hlast', hend⟩

theorem map_left (h : outcome.Matches other R) {f : α → γ} {S : σ → γ → τ → β → Prop}
    (himp : ∀ state value state' value', R state value state' value' →
      S state (f value) state' value') : (outcome.map f).Matches other S := by
  intro last hlast
  cases hresult : outcome.result with
  | error fault =>
      rw [Outcome.map, hresult] at hlast
      cases hlast
  | ok value =>
      obtain ⟨value', hresult', hrelated⟩ := h value hresult
      rw [Outcome.map, hresult] at hlast
      cases hlast
      exact ⟨value', hresult', himp _ _ _ _ hrelated⟩

theorem map (h : outcome.Matches other R) {f : α → γ} {f' : β → δ} {S : σ → γ → τ → δ → Prop}
    (himp : ∀ state value state' value', R state value state' value' →
      S state (f value) state' (f' value')) : (outcome.map f).Matches (other.map f') S := by
  refine map_left (R := fun state value state' value' => S state (f value) state' value') ?_
    fun _ _ _ _ hrelated => hrelated
  intro value hresult
  obtain ⟨value', hresult', hrelated⟩ := h value hresult
  refine ⟨f' value', ?_, himp _ _ _ _ hrelated⟩
  rw [Outcome.map, hresult']
  rfl

theorem after (h : outcome.Matches other R) (log log' : Log) :
    (outcome.after log).Matches (other.after log') R := h

theorem within (h : outcome.Matches other R) {put : σ → σ'} {put' : τ → τ'}
    {S : σ' → α → τ' → β → Prop}
    (himp : ∀ state value state' value', R state value state' value' →
      S (put state) value (put' state') value') :
    (outcome.within put).Matches (other.within put') S := by
  intro value hresult
  obtain ⟨value', hresult', hrelated⟩ := h value hresult
  exact ⟨value', hresult', himp _ _ _ _ hrelated⟩

/-- Steps that the other side takes no part in. -/
theorem andThen_left {P : σ → Prop} (h : outcome.Ensures P) {next : σ → α → Outcome σ γ}
    {S : σ → γ → τ → β → Prop}
    (hnext : ∀ state value, P state → (next state value).Matches other S) :
    (outcome.andThen next).Matches other S := by
  intro last hlast
  obtain ⟨value, hresult, hvalue, hstate⟩ := ok_of_andThen hlast
  rw [hstate]
  exact hnext _ value (h value hresult) last hvalue

/-- A step that only one side takes after both have taken one. -/
theorem stutter (h : outcome.Matches other R) {next : σ → α → Outcome σ γ}
    {S : σ → γ → τ → β → Prop}
    (hnext : ∀ state value state' value', R state value state' value' →
      (next state value).Matches (Outcome.done state' value') S) :
    (outcome.andThen next).Matches other S := by
  intro last hlast
  obtain ⟨value, hresult, hvalue, hstate⟩ := ok_of_andThen hlast
  obtain ⟨value', hresult', hrelated⟩ := h value hresult
  obtain ⟨last', hlast', hend⟩ := hnext _ _ _ _ hrelated last hvalue
  cases hlast'
  rw [hstate]
  exact ⟨value', hresult', hend⟩

/-- What holds of either step alone can be used for the two together. -/
theorem ensures (h : outcome.Matches other R) {P : σ → Prop} {Q : τ → Prop}
    (hfirst : outcome.Ensures P) (hsecond : other.Ensures Q) :
    outcome.Matches other fun state value state' value' =>
      R state value state' value' ∧ P state ∧ Q state' := by
  intro value hresult
  obtain ⟨value', hresult', hrelated⟩ := h value hresult
  exact ⟨value', hresult', hrelated, hfirst value hresult, hsecond value' hresult'⟩

end Outcome.Matches

/-! ## Hosts without their numbers -/

def Renderer.unnumbered (renderer : Renderer) : Renderer :=
  { renderer with serial := 0 }

theorem Renderer.releases_unnumbered (handles : List Handle) (renderer : Renderer) :
    handles.foldl (fun r handle => r.call (.release handle)) renderer.unnumbered =
      (handles.foldl (fun r handle => r.call (.release handle)) renderer).unnumbered := by
  induction handles generalizing renderer with
  | nil => rfl
  | cons handle rest ih => exact ih (renderer.call (.release handle))

def Canvas.unnumbered (canvas : Canvas) : Canvas :=
  { canvas with renderer := canvas.renderer.unnumbered }

theorem Canvas.resize_unnumbered (canvas : Canvas) (surface : Surface) :
    canvas.unnumbered.resize surface = (canvas.resize surface).within Canvas.unnumbered := by
  unfold Canvas.resize
  by_cases hskip : (!canvas.tracker.observing || surface.size.isEmpty) = true
  · rw [if_pos hskip]
    exact if_pos hskip
  · rw [if_neg hskip]
    refine (if_neg hskip).trans ?_
    change Outcome.note (Outcome.map _ (Outcome.within _ (canvas.graph.fitCamera _))) _ = _
    rcases canvas.graph.fitCamera surface.size.aspect with ⟨state, fault | value, log⟩ <;> rfl

namespace Host

/-- The host but for the numbers of its load and its renderer. -/
def unnumbered (host : Host) : Host :=
  { host with
    load := host.load.map fun _ => 0
    renderer := host.renderer.map Renderer.unnumbered }

variable (host : Host)

theorem canvas?_unnumbered : host.unnumbered.canvas? = host.canvas?.map Canvas.unnumbered := by
  simp only [canvas?, unnumbered]
  cases host.renderer with
  | none => rfl
  | some renderer => cases host.graph <;> rfl

theorem releaseHandles_unnumbered :
    host.unnumbered.releaseHandles = host.releaseHandles.unnumbered := by
  unfold releaseHandles
  cases hrenderer : host.renderer with
  | none => simp [unnumbered, hrenderer]
  | some renderer =>
      cases hgraph : host.graph with
      | none => simp [unnumbered, hrenderer, hgraph]
      | some g => simp [unnumbered, hrenderer, hgraph, Renderer.releases_unnumbered]

theorem resizeTo_unnumbered (surface : Surface) :
    host.unnumbered.resizeTo surface = (host.resizeTo surface).within unnumbered := by
  unfold resizeTo
  rw [canvas?_unnumbered]
  cases host.canvas? with
  | none => rfl
  | some canvas =>
      simp only [Option.map_some, Canvas.resize_unnumbered]
      rfl

theorem applyToGraph_unnumbered (ops : List Op) :
    host.unnumbered.applyToGraph ops = (host.applyToGraph ops).within unnumbered := by
  have hgraph : host.unnumbered.graph = host.graph := rfl
  unfold applyToGraph
  rw [hgraph]
  cases host.graph with
  | none => rfl
  | some g =>
      refine Outcome.within_andThen unnumbered ((g.applyAll ops).within host.setGraph) ?_
      intro host' report
      rw [releaseHandles_unnumbered]
      rfl

theorem showTree_unnumbered (surface : Surface) (root : Descriptor) :
    host.unnumbered.showTree surface root = (host.showTree surface root).within unnumbered := by
  have hgraph : host.unnumbered.graph = host.graph := rfl
  unfold showTree
  rw [hgraph]
  cases host.graph with
  | none => rfl
  | some g =>
      refine Outcome.within_andThen unnumbered
        (((g.clear.buildTree root).after g.clearLog).within host.setGraph) ?_
      intro host' report
      rw [releaseHandles_unnumbered, resizeTo_unnumbered]
      rfl

theorem flush_unnumbered (surface : Surface) :
    host.unnumbered.flush surface = (host.flush surface).within unnumbered := by
  have hrest : ∀ (first first' : Outcome Host Report) (ops : List Op) (log : Report → Log),
      first' = first.within unnumbered →
      (first'.andThen fun host report => (host.applyToGraph ops).map report.add).note
          (fun _ report => log report) =
        ((first.andThen fun host report => (host.applyToGraph ops).map report.add).note
          fun _ report => log report).within unnumbered := by
    intro first first' ops log hfirst
    rw [hfirst, Outcome.within_andThen unnumbered first fun host' report => by
      rw [applyToGraph_unnumbered]; rfl]
    exact Outcome.within_note unnumbered _ fun _ _ => rfl
  have hpending : host.unnumbered.pending = host.pending := rfl
  unfold flush
  dsimp only
  rw [hpending]
  by_cases hempty : host.pending.isEmpty = true
  · rw [if_pos hempty, if_pos hempty]
    rfl
  · rw [if_neg hempty, if_neg hempty]
    cases host.pending.root with
    | none =>
        exact congrArg (Outcome.map fun _ => ())
          (hrest (.done { host with pending := {} } {}) _ host.pending.ops _ rfl)
    | some root =>
        have hshown := showTree_unnumbered { host with pending := {} } surface root
        exact congrArg (Outcome.map fun _ => ()) (hrest _ _ host.pending.ops _ hshown)

theorem drawFrame_unnumbered :
    host.unnumbered.drawFrame = host.drawFrame.within unnumbered := by
  unfold drawFrame RenderLoop.step
  have hloop : host.unnumbered.loop = host.loop := rfl
  have hgraph : host.unnumbered.graph = host.graph := rfl
  rw [hloop, hgraph]
  by_cases hstopped : (!host.loop.running) = true
  · rw [if_pos hstopped, if_pos hstopped]
    rfl
  · rw [if_neg hstopped, if_neg hstopped]
    cases hrenderer : host.renderer with
    | none => simp [unnumbered, hrenderer, Outcome.within, Outcome.done]
    | some renderer =>
        cases hgraph : host.graph with
        | none => simp [unnumbered, hrenderer, hgraph, Outcome.within, Outcome.done]
        | some g =>
            have hdisposed : renderer.unnumbered.isDisposed = renderer.isDisposed := rfl
            cases hframe : g.frame? with
            | none => simp [unnumbered, hrenderer, hgraph, hframe, Outcome.within, Outcome.done]
            | some frame =>
                simp only [unnumbered, hrenderer, hframe, Option.map_some, Renderer.render,
                  hdisposed]
                cases renderer.isDisposed <;> rfl

/-- The part of becoming ready that is up to the host. -/
def equip (host : Host) (surface : Surface) (library : Library) (renderer : Renderer) :
    Outcome Host Unit :=
  let startLog := if host.autostart then host.loop.startLog else #[]
  let host := { host with loop := if host.autostart then host.loop.start else host.loop }
  let attached := (Canvas.attach ⟨host.resize, renderer, Graph.empty⟩ surface).within host.setCanvas
  (attached.after startLog).andThen fun host _ =>
    (Host.flush { host with state := .ready } surface).after
      (Log.info ("Scene host for " ++ host.label ++ " ready (" ++ library.name ++ ")"))

theorem equip_unnumbered (surface : Surface) (library : Library) (renderer : Renderer) :
    host.unnumbered.equip surface library renderer.unnumbered =
      (host.equip surface library renderer).within unnumbered := by
  have hattach := Canvas.resize_unnumbered
    ⟨{ host.resize with observing := true }, renderer, Graph.empty⟩ surface
  unfold equip
  dsimp only
  refine Eq.trans ?_ (Outcome.within_andThen unnumbered _ fun host' value => ?_)
  · congr 1
    exact congrArg (Outcome.after _) (congrArg (Outcome.within _) hattach)
  · exact congrArg (Outcome.after _) (flush_unnumbered { host' with state := .ready } surface)

/-- A step that does not look at the numbers, nor moves the host to another surface, load or
phase. -/
structure Steady {α : Type} (step : Host → Outcome Host α) : Prop where
  unnumbered : ∀ host, step host.unnumbered = (step host).within Host.unnumbered
  stays : ∀ host, (step host).Ensures fun next =>
    next.surface = host.surface ∧ next.load = host.load ∧ next.state = host.state

variable {host}

theorem stays_of_sketch_eq {next : Host} (h : next.sketch = host.sketch) :
    next.surface = host.surface ∧ next.load = host.load ∧ next.state = host.state :=
  ⟨congrArg Sketch.surface h, congrArg Sketch.load h, congrArg Sketch.state h⟩

theorem steady_reset (surface : Surface) (root : Descriptor) :
    Steady fun host => host.reset surface root where
  unnumbered := by
    intro host
    have hstate : host.unnumbered.state = host.state := rfl
    unfold reset
    rw [hstate]
    cases host.state with
    | uninitialized => rfl
    | ready => exact congrArg (Outcome.map Delivery.applied) (host.showTree_unnumbered surface root)
    | disposed => rfl
  stays := by
    intro host
    unfold reset
    split
    · exact .always ⟨rfl, rfl, rfl⟩
    · exact ((host.sketch_showTree surface root).mono fun _ => stays_of_sketch_eq).map _
    · exact .always ⟨rfl, rfl, rfl⟩

theorem steady_patch (ops : List Op) : Steady fun host => host.patch ops where
  unnumbered := by
    intro host
    have hstate : host.unnumbered.state = host.state := rfl
    unfold patch
    rw [hstate]
    cases host.state with
    | uninitialized => rfl
    | ready => exact congrArg (Outcome.map Delivery.applied) (host.applyToGraph_unnumbered ops)
    | disposed => rfl
  stays := by
    intro host
    unfold patch
    split
    · exact .always ⟨rfl, rfl, rfl⟩
    · exact ((host.sketch_applyToGraph ops).mono fun _ => stays_of_sketch_eq).map _
    · exact .always ⟨rfl, rfl, rfl⟩

theorem steady_resizeTo (surface : Surface) : Steady fun host => host.resizeTo surface where
  unnumbered := fun host => host.resizeTo_unnumbered surface
  stays := fun host => .always (stays_of_sketch_eq (host.sketch_resizeTo surface))

theorem steady_drawFrame : Steady drawFrame where
  unnumbered := drawFrame_unnumbered
  stays := fun host => .always (stays_of_sketch_eq host.sketch_drawFrame)

end Host

/-! ## What a session changes around it -/

namespace Platform

variable {π : Type}

/-- A platform that changed at most in its loader, its renderers and one of its surfaces, which is
still the same surface. -/
structure Yields (index : SurfaceIndex) (before after : Platform π) : Prop where
  elsewhere : ∀ other, other ≠ index → after.surfaces[other]? = before.surfaces[other]?
  names : after.surfaces.map (fun surface => (surface.id, surface.graphics)) =
    before.surfaces.map fun surface => (surface.id, surface.graphics)
  pixelRatio : after.pixelRatio = before.pixelRatio
  refuses : after.refusesRenderers = before.refusesRenderers

theorem Yields.trans {index : SurfaceIndex} {first second third : Platform π}
    (h : Yields index first second) (h' : Yields index second third) :
    Yields index first third where
  elsewhere := fun other hne => (h'.elsewhere other hne).trans (h.elsewhere other hne)
  names := h'.names.trans h.names
  pixelRatio := h'.pixelRatio.trans h.pixelRatio
  refuses := h'.refuses.trans h.refuses

theorem yields_modifySurface (platform : Platform π) (index : SurfaceIndex)
    {f : Surface → Surface} (hf : ∀ surface, platform.surfaces[index]? = some surface →
      (f surface).id = surface.id ∧ (f surface).graphics = surface.graphics) :
    Yields index platform (platform.modifySurface index f) where
  elsewhere := by
    intro other hne
    simp [modifySurface, hne.symm]
  names := by
    apply List.ext_getElem?
    intro i
    simp only [modifySurface, List.getElem?_map, List.getElem?_modify]
    split
    next heq =>
      subst heq
      cases hentry : platform.surfaces[index]? with
      | none => rfl
      | some surface => simp [hf surface hentry]
    next => rw [id_map']
  pixelRatio := rfl
  refuses := rfl

theorem yields_provider (platform : Platform π) (index : SurfaceIndex) (provider : Provider π) :
    Yields index platform { platform with provider } :=
  ⟨fun _ _ => rfl, rfl, rfl, rfl⟩

end Platform

theorem SizeTracker.names_observe (tracker : SizeTracker) (surface : Surface) :
    (tracker.observe surface).id = surface.id ∧
      (tracker.observe surface).graphics = surface.graphics := by
  unfold SizeTracker.observe
  split <;> exact ⟨rfl, rfl⟩

theorem SizeTracker.names_unobserve (tracker : SizeTracker) (surface : Surface) :
    (tracker.unobserve surface).id = surface.id ∧
      (tracker.unobserve surface).graphics = surface.graphics := by
  unfold SizeTracker.unobserve
  split <;> exact ⟨rfl, rfl⟩

namespace Session

theorem equip_eq {π : Type} (session : Session π) (library : Library) (renderer : Renderer) :
    let observed := session.host.resize.observe session.surface
    session.equip library renderer =
      (session.host.equip observed library renderer).within fun host =>
        ⟨host, session.platform.modifySurface session.host.surface fun _ => observed⟩ :=
  rfl

theorem yields_equip {π : Type} (session : Session π) (library : Library) (renderer : Renderer) :
    session.platform.Yields session.host.surface
      (session.equip library renderer).state.platform := by
  refine session.platform.yields_modifySurface session.host.surface fun surface hsurface => ?_
  have hown : session.surface = surface := by
    rw [Session.surface, Platform.surface, hsurface]
    rfl
  rw [hown]
  exact session.host.resize.names_observe surface

theorem failed_or_ready {π : Type} (session : Session π) (result : Except LoadError Library) :
    ((∃ error, result = .error error) ∨ session.platform.refusesRenderers = true) ∨
      ∃ library, result = .ok library ∧ session.platform.refusesRenderers = false := by
  cases result with
  | error error => exact Or.inl (Or.inl ⟨error, rfl⟩)
  | ok library =>
      cases session.platform.refusesRenderers with
      | true => exact Or.inl (Or.inr rfl)
      | false => exact Or.inr ⟨library, rfl, rfl⟩

/-- A host that waits becomes ready when the library arrives and there is a renderer. -/
theorem concludeLoad_of_ready {π : Type} {session : Session π}
    (hstate : session.host.state = .uninitialized)
    (hrenderers : session.platform.refusesRenderers = false) (library : Library) :
    session.concludeLoad (.ok library) =
      equip
        ⟨{ session.host with load := none }, { session.platform with
          rendererCount := session.platform.rendererCount + 1 }⟩
        library
        { serial := session.platform.rendererCount
          pixelRatio := session.platform.pixelRatio
          initialSize := session.surface.size } := by
  simp only [concludeLoad, setHost, hstate, makeReady?, Platform.makeRenderer, hrenderers,
    Bool.false_eq_true, if_false, Except.map]
  rfl

/-- Otherwise it fails and waits no longer. -/
theorem concludeLoad_of_failed {π : Type} {session : Session π}
    (hstate : session.host.state = .uninitialized) {result : Except LoadError Library}
    (hfailed : (∃ error, result = .error error) ∨ session.platform.refusesRenderers = true) :
    ∃ log, session.concludeLoad result =
      ⟨session.setHost { session.host with load := none, loadFailed := true }, .ok (), log⟩ := by
  cases result with
  | error error =>
      simp only [concludeLoad, setHost, hstate]
      exact ⟨_, rfl⟩
  | ok library =>
      have hrefuses : session.platform.refusesRenderers = true := by
        rcases hfailed with ⟨error, herror⟩ | hrefuses
        · cases herror
        · exact hrefuses
      simp only [concludeLoad, setHost, hstate, makeReady?, Platform.makeRenderer, hrefuses,
        if_true, Except.map]
      exact ⟨_, rfl⟩

variable {config : LoaderConfig} {base : Page} {session next last : Session Page}

/-- A session whose load is answered as can be foreseen. -/
structure Informed (config : LoaderConfig) (base : Page) (session : Session Page) : Prop where
  tells : session.platform.provider.Tells config base
  ticket : ∀ ticket, session.host.load = some ticket →
    ticket < session.platform.provider.loader.loads.size

/-- What a session can come to. -/
structure Confined (config : LoaderConfig) (base : Page) (session next : Session Page) : Prop where
  surface : next.host.surface = session.host.surface
  alive : session.host.state ≠ .disposed → next.host.state ≠ .disposed
  yields : session.platform.Yields session.host.surface next.platform
  informed : next.Informed config base
  /-- Tickets of others stay good. -/
  tickets : session.platform.provider.loader.loads.size ≤
    next.platform.provider.loader.loads.size

theorem Confined.trans (h : Confined config base session next)
    (h' : Confined config base next last) : Confined config base session last where
  surface := h'.surface.trans h.surface
  alive := fun halive => h'.alive (h.alive halive)
  yields := h.yields.trans (h.surface ▸ h'.yields)
  informed := h'.informed
  tickets := Nat.le_trans h.tickets h'.tickets

/-- A step of the host alone. -/
theorem Informed.setHost (h : session.Informed config base) {host : Host}
    (hstays : host.surface = session.host.surface ∧ host.load = session.host.load ∧
      host.state = session.host.state) : Confined config base session (session.setHost host) where
  surface := hstays.1
  alive := fun halive => by
    rw [← hstays.2.2] at halive
    exact halive
  yields := ⟨fun _ _ => rfl, rfl, rfl, rfl⟩
  informed := ⟨h.tells, fun ticket hload => h.ticket ticket (hstays.2.1 ▸ hload)⟩
  tickets := Nat.le_refl _

theorem Informed.onHost {α : Type} (h : session.Informed config base)
    {step : Host → Outcome Host α} (hstep : Host.Steady step) :
    (session.onHost step).Ensures (Confined config base session) :=
  (hstep.stays session.host).within fun _ hstays => h.setHost hstays

theorem Informed.equip (h : session.Informed config base) (library : Library)
    (renderer : Renderer) (rendererCount : Nat) :
    (Session.equip
      ⟨{ session.host with load := none }, { session.platform with rendererCount }⟩ library
      renderer).Ensures (Confined config base session) := by
  intro value hresult
  have hyields := yields_equip
    ⟨{ session.host with load := none }, { session.platform with rendererCount }⟩ library renderer
  obtain ⟨hsurface, hstate, hload, -⟩ :=
    Host.Sketch.mk.inj (sketch_equip _ library renderer value hresult)
  refine ⟨hsurface, fun _ hgone => ?_,
    ⟨hyields.elsewhere, hyields.names, hyields.pixelRatio, hyields.refuses⟩,
    ⟨h.tells, fun ticket hticket => ?_⟩, Nat.le_refl _⟩
  · rw [hstate] at hgone
    cases hgone
  · rw [hload] at hticket
    cases hticket

theorem Informed.concludeLoad (h : session.Informed config base)
    (result : Except LoadError Library) :
    (session.concludeLoad result).Ensures (Confined config base session) := by
  have hfree : ∀ loadFailed : Bool, Confined config base session
      (session.setHost { session.host with load := none, loadFailed }) := by
    intro loadFailed
    refine ⟨rfl, fun halive => halive, ⟨fun _ _ => rfl, rfl, rfl, rfl⟩, ⟨h.tells, ?_⟩,
      Nat.le_refl _⟩
    intro ticket hticket
    cases hticket
  by_cases hstate : session.host.state = .uninitialized
  · rcases session.failed_or_ready result with hfailed | ⟨library, rfl, hrenderers⟩
    · obtain ⟨log, heq⟩ := concludeLoad_of_failed hstate hfailed
      rw [heq]
      exact .always (hfree true)
    · rw [concludeLoad_of_ready hstate hrenderers]
      exact h.equip library _ _
  · rw [concludeLoad_of_state_ne hstate]
    exact .always (hfree session.host.loadFailed)

theorem Informed.awaitLoad (h : session.Informed config base) :
    session.awaitLoad.Ensures (Confined config base session) := by
  have hrefl : Confined config base session session :=
    h.setHost ⟨rfl, rfl, rfl⟩
  unfold Session.awaitLoad
  cases hload : session.host.load with
  | none => exact .always hrefl
  | some ticket =>
      have hpoll := (h.tells.poll (h.ticket ticket hload)).2
      have hsize := (session.platform.provider.progress_poll ticket).size_le
      have hpolled : ∀ next : Session Page, next = { session with platform :=
          { session.platform with
            provider := (session.platform.provider.poll ticket).state } } →
          Confined config base session next := by
        rintro next rfl
        exact ⟨rfl, fun halive => halive, session.platform.yields_provider _ _,
          ⟨hpoll, fun other hother => Nat.lt_of_lt_of_le (h.ticket other hother) hsize⟩, hsize⟩
      refine .andThen (P := Confined config base session) (.always (hpolled _ rfl)) ?_
      intro next result hnext
      cases result with
      | none => exact .always hnext
      | some result =>
          exact ((hnext.informed.concludeLoad result).mono fun _ => hnext.trans).map _

theorem Informed.checkLibrary (h : session.Informed config base) :
    session.checkLibrary.Ensures (Confined config base session) :=
  h.awaitLoad.andThen fun _ _ hnext => .always hnext

theorem Informed.step (h : session.Informed config base) :
    session.step.Ensures (Confined config base session) := by
  unfold Session.step
  split
  · exact .always (h.setHost ⟨rfl, rfl, rfl⟩)
  · exact h.onHost Host.steady_drawFrame
  · refine h.checkLibrary.andThen fun next phase hnext => ?_
    split
    · exact (hnext.informed.onHost Host.steady_drawFrame).mono fun _ => hnext.trans
    · exact .always hnext

/-- The session of a new host that has been given a ticket. -/
def waiting (platform : Platform Page) (index : Platform.SurfaceIndex) (autostart : Bool)
    (ticket : Ticket) : Session Page where
  host :=
    { surface := index, surfaceId := (platform.surface index).id, autostart, load := some ticket }
  platform := { platform with provider := platform.provider.load.state }

theorem create_eq (platform : Platform Page) (index : Platform.SurfaceIndex) (autostart : Bool)
    {ticket : Ticket} (hticket : platform.provider.load.result = .ok ticket) :
    ∃ log, create platform index autostart =
      ((waiting platform index autostart ticket).checkLibrary.map fun _ => ()).after log := by
  simp only [create, Outcome.andThen, Outcome.after, Outcome.within, hticket]
  exact ⟨_, rfl⟩

theorem informed_waiting {platform : Platform Page} (h : platform.provider.Tells config base)
    (index : Platform.SurfaceIndex) (autostart : Bool) {ticket : Ticket}
    (hlt : ticket < platform.provider.load.state.loader.loads.size) :
    (waiting platform index autostart ticket).Informed config base := by
  refine ⟨h.load, fun other hother => ?_⟩
  cases hother
  exact hlt

/-- A new host changes nothing that it could not have changed later. -/
theorem create_confined {platform : Platform Page} (h : platform.provider.Tells config base)
    (index : Platform.SurfaceIndex) (autostart : Bool) :
    (create platform index autostart).Ensures (Confined config base
      ⟨{ surface := index, surfaceId := (platform.surface index).id, autostart }, platform⟩) := by
  obtain ⟨ticket, hticket, hlt⟩ := Provider.exists_ticket h.sound
  obtain ⟨log, hcreate⟩ := create_eq platform index autostart hticket
  have hinformed := informed_waiting h index autostart hlt
  have hasked : Confined config base
      ⟨{ surface := index, surfaceId := (platform.surface index).id, autostart }, platform⟩
      (waiting platform index autostart ticket) :=
    ⟨rfl, fun halive => halive, platform.yields_provider _ _, hinformed,
      platform.provider.progress_load.size_le⟩
  rw [hcreate]
  exact ((hinformed.checkLibrary.mono fun _ => hasked.trans).map _).after log

/-! ## Two sessions side by side -/

/-- Sessions that differ in numbers only, and in what does not concern their hosts. -/
structure Alike (session other : Session Page) : Prop where
  host : session.host.unnumbered = other.host.unnumbered
  surface : session.platform.surfaces[session.host.surface]? =
    other.platform.surfaces[other.host.surface]?
  pixelRatio : session.platform.pixelRatio = other.platform.pixelRatio
  refuses : session.platform.refusesRenderers = other.platform.refusesRenderers

namespace Alike

variable {session other : Session Page}

theorem surface_eq (h : session.Alike other) : session.surface = other.surface := by
  rw [Session.surface, Session.surface, Platform.surface, Platform.surface, h.surface]

theorem state_eq (h : session.Alike other) : session.host.state = other.host.state := by
  have hstate := congrArg Host.state h.host
  exact hstate

theorem resize_eq (h : session.Alike other) : session.host.resize = other.host.resize := by
  have hresize := congrArg Host.resize h.host
  exact hresize

/-- A step of the hosts alone. -/
theorem onHost (h : session.Alike other) {α : Type} {step : Host → Outcome Host α}
    (hstep : Host.Steady step) :
    (session.onHost step).Matches (other.onHost step) fun next value next' value' =>
      value = value' ∧ next.Alike next' := by
  have hsame : (step session.host).within Host.unnumbered =
      (step other.host).within Host.unnumbered := by
    rw [← hstep.unnumbered, ← hstep.unnumbered, h.host]
  intro value hvalue
  have hvalue' : (step other.host).result = .ok value :=
    (congrArg Outcome.result hsame).symm.trans hvalue
  have hfirst := hstep.stays session.host value hvalue
  have hsecond := hstep.stays other.host value hvalue'
  refine ⟨value, hvalue', rfl, congrArg Outcome.state hsame, ?_, h.pixelRatio, h.refuses⟩
  simp only [Session.onHost, Outcome.within, setHost, hfirst.1, hsecond.1]
  exact h.surface

theorem setHost (h : session.Alike other) {f : Host → Host}
    (hf : ∀ host, (f host).unnumbered = f host.unnumbered)
    (hsurface : ∀ host, (f host).surface = host.surface) :
    (session.setHost (f session.host)).Alike (other.setHost (f other.host)) := by
  refine ⟨?_, ?_, h.pixelRatio, h.refuses⟩
  · simp only [Session.setHost, hf, h.host]
  · simp only [Session.setHost, hsurface, h.surface]

theorem equip (h : session.Alike other) (library : Library) {renderer renderer' : Renderer}
    (hrenderer : renderer.unnumbered = renderer'.unnumbered) :
    (session.equip library renderer).Matches (other.equip library renderer')
      fun next _ next' _ => next.Alike next' := by
  have hsame : (session.host.equip (session.host.resize.observe session.surface) library
        renderer).within Host.unnumbered =
      (other.host.equip (other.host.resize.observe other.surface) library
        renderer').within Host.unnumbered := by
    rw [← Host.equip_unnumbered, ← Host.equip_unnumbered, h.host, hrenderer, h.resize_eq,
      h.surface_eq]
  intro value hvalue
  have hvalue' : (other.equip library renderer').result = .ok value :=
    (congrArg Outcome.result hsame).symm.trans hvalue
  have hfirst := congrArg Host.Sketch.surface (sketch_equip session library renderer value hvalue)
  have hsecond := congrArg Host.Sketch.surface (sketch_equip other library renderer' value hvalue')
  have hown : (session.equip library renderer).state.host.surface = session.host.surface := hfirst
  have hown' : (other.equip library renderer').state.host.surface = other.host.surface := hsecond
  refine ⟨value, hvalue', congrArg Outcome.state hsame, ?_, h.pixelRatio, h.refuses⟩
  rw [hown, hown', equip_eq, equip_eq]
  simp only [Outcome.within, Platform.modifySurface, List.getElem?_modify, if_true, h.surface,
    h.resize_eq, h.surface_eq]

/-- The end of a load makes both hosts ready, or makes both fail. -/
theorem concludeLoad (h : session.Alike other) (result : Except LoadError Library) :
    (session.concludeLoad result).Matches (other.concludeLoad result)
      fun next _ next' _ => next.Alike next' := by
  by_cases hstate : session.host.state = .uninitialized
  · have hstate' : other.host.state = .uninitialized := h.state_eq ▸ hstate
    rcases session.failed_or_ready result with hfailed | ⟨library, rfl, hrenderers⟩
    · obtain ⟨log, heq⟩ := concludeLoad_of_failed hstate hfailed
      obtain ⟨log', heq'⟩ := concludeLoad_of_failed hstate' (h.refuses ▸ hfailed)
      rw [heq, heq']
      exact fun _ _ => ⟨(), rfl,
        h.setHost (f := fun host => { host with load := none, loadFailed := true })
          (fun _ => rfl) fun _ => rfl⟩
    · rw [concludeLoad_of_ready hstate hrenderers,
        concludeLoad_of_ready hstate' (h.refuses ▸ hrenderers)]
      have hfree := h.setHost (f := fun host => { host with load := none }) (fun _ => rfl)
        fun _ => rfl
      have hcounted : Alike
          ⟨{ session.host with load := none }, { session.platform with
            rendererCount := session.platform.rendererCount + 1 }⟩
          ⟨{ other.host with load := none }, { other.platform with
            rendererCount := other.platform.rendererCount + 1 }⟩ :=
        ⟨hfree.host, hfree.surface, hfree.pixelRatio, hfree.refuses⟩
      refine hcounted.equip library ?_
      simp only [Renderer.unnumbered, h.pixelRatio, h.surface_eq]
  · have hstate' : other.host.state ≠ .uninitialized := h.state_eq ▸ hstate
    rw [concludeLoad_of_state_ne hstate, concludeLoad_of_state_ne hstate']
    exact .done (h.setHost (f := fun host => { host with load := none }) (fun _ => rfl)
      fun _ => rfl)

theorem awaitLoad (h : session.Alike other) (hfirst : session.Informed config base)
    (hsecond : other.Informed config base) :
    session.awaitLoad.Matches other.awaitLoad fun next value next' value' =>
      value = value' ∧ next.Alike next' := by
  have hload : session.host.load.isSome = other.host.load.isSome := by
    have hload := congrArg (fun host : Host => host.load.isSome) h.host
    simpa [Host.unnumbered] using hload
  unfold Session.awaitLoad
  cases hticket : session.host.load with
  | none =>
      have hnone : other.host.load = none := by
        rw [← Option.not_isSome_iff_eq_none, ← hload, hticket]
        exact Bool.false_ne_true
      rw [hnone]
      exact .done ⟨rfl, h⟩
  | some ticket =>
      rw [hticket] at hload
      obtain ⟨ticket', hticket'⟩ := Option.isSome_iff_exists.mp hload.symm
      rw [hticket']
      have hanswer := (hfirst.tells.poll (hfirst.ticket ticket hticket)).1
      have hanswer' := (hsecond.tells.poll (hsecond.ticket ticket' hticket')).1
      -- Both polls are answered with what can be foreseen.
      refine Outcome.Matches.andThen
        (R := fun next value next' value' => value = value' ∧ next.Alike next') ?_ ?_
      · intro value hvalue
        exact ⟨value, hanswer'.trans (hanswer.symm.trans hvalue), rfl,
          ⟨h.host, h.surface, h.pixelRatio, h.refuses⟩⟩
      · rintro next value next' _ ⟨rfl, halike⟩
        cases value with
        | none => exact .done ⟨rfl, halike⟩
        | some result => exact (halike.concludeLoad result).map fun _ _ _ _ hnext => ⟨rfl, hnext⟩

theorem checkLibrary (h : session.Alike other) (hfirst : session.Informed config base)
    (hsecond : other.Informed config base) :
    session.checkLibrary.Matches other.checkLibrary fun next value next' value' =>
      value = value' ∧ next.Alike next' := by
  refine (h.awaitLoad hfirst hsecond).andThen ?_
  rintro next _ next' _ ⟨-, halike⟩
  exact .done ⟨halike.state_eq, halike⟩

theorem step (h : session.Alike other) (hfirst : session.Informed config base)
    (hsecond : other.Informed config base) :
    session.step.Matches other.step fun next value next' value' =>
      value = value' ∧ next.Alike next' := by
  unfold Session.step
  rw [← h.state_eq]
  cases session.host.state with
  | disposed => exact .done ⟨rfl, h⟩
  | ready => exact h.onHost Host.steady_drawFrame
  | uninitialized =>
      refine (h.checkLibrary hfirst hsecond).andThen ?_
      rintro next phase next' _ ⟨rfl, halike⟩
      split
      · exact halike.onHost Host.steady_drawFrame
      · exact .done ⟨rfl, halike⟩

theorem reset (h : session.Alike other) (root : Descriptor) :
    (session.reset root).Matches (other.reset root) fun next value next' value' =>
      value = value' ∧ next.Alike next' := by
  unfold Session.reset
  rw [h.surface_eq]
  exact h.onHost (Host.steady_reset other.surface root)

theorem patch (h : session.Alike other) (ops : List Op) :
    (session.patch ops).Matches (other.patch ops) fun next value next' value' =>
      value = value' ∧ next.Alike next' :=
  h.onHost (Host.steady_patch ops)

theorem resize (h : session.Alike other) :
    session.resize.Matches other.resize fun next value next' value' =>
      value = value' ∧ next.Alike next' := by
  unfold Session.resize
  rw [h.surface_eq]
  exact h.onHost (Host.steady_resizeTo other.surface)

/-- The surfaces that two hosts leave behind. -/
theorem surface_dispose (h : session.Alike other) :
    session.dispose.state.platform.surfaces[session.host.surface]? =
      other.dispose.state.platform.surfaces[other.host.surface]? := by
  by_cases hstate : session.host.state = .disposed
  · have hstate' : other.host.state = .disposed := h.state_eq ▸ hstate
    simp only [Session.dispose, hstate, hstate', if_true, Outcome.done, h.surface]
  · have hstate' : other.host.state ≠ .disposed := h.state_eq ▸ hstate
    simp only [Session.dispose, hstate, hstate', if_false, Platform.retire,
      Platform.modifySurface, List.getElem?_modify, if_true, h.surface, h.resize_eq]

end Alike

theorem create_alike {platform other : Platform Page} (h : platform.provider.Tells config base)
    (h' : other.provider.Tells config base) {index : Platform.SurfaceIndex}
    (hsurface : platform.surfaces[index]? = other.surfaces[index]?)
    (hpixelRatio : platform.pixelRatio = other.pixelRatio)
    (hrefuses : platform.refusesRenderers = other.refusesRenderers) (autostart : Bool) :
    (create platform index autostart).Matches (create other index autostart)
      fun next _ next' _ => next.Alike next' := by
  obtain ⟨ticket, hticket, hlt⟩ := Provider.exists_ticket h.sound
  obtain ⟨ticket', hticket', hlt'⟩ := Provider.exists_ticket h'.sound
  obtain ⟨log, hcreate⟩ := create_eq platform index autostart hticket
  obtain ⟨log', hcreate'⟩ := create_eq other index autostart hticket'
  have halike : (waiting platform index autostart ticket).Alike
      (waiting other index autostart ticket') := by
    refine ⟨?_, hsurface, hpixelRatio, hrefuses⟩
    simp only [waiting, Host.unnumbered, Platform.surface, hsurface, Option.map_some,
      Option.map_none]
  rw [hcreate, hcreate']
  exact ((halike.checkLibrary (informed_waiting h index autostart hlt)
    (informed_waiting h' index autostart hlt')).map fun _ _ _ _ hnext => hnext.2).after log log'

theorem yields_dispose {π : Type} (session : Session π) :
    session.platform.Yields session.host.surface session.dispose.state.platform := by
  unfold Session.dispose
  dsimp only
  split
  · exact ⟨fun _ _ => rfl, rfl, rfl, rfl⟩
  · have hyields := session.platform.yields_modifySurface session.host.surface
      fun surface _ => session.host.resize.names_unobserve surface
    exact ⟨hyields.elsewhere, hyields.names, hyields.pixelRatio, hyields.refuses⟩

theorem provider_dispose {π : Type} (session : Session π) :
    session.dispose.state.platform.provider = session.platform.provider := by
  unfold Session.dispose
  dsimp only
  split <;> rfl

/-- A step that sessions with foreseeable answers take alike, each within its bounds. -/
structure Tame {α : Type} (config : LoaderConfig) (base : Page)
    (step : Session Page → Outcome (Session Page) α) : Prop where
  confined : ∀ session, session.Informed config base →
    (step session).Ensures (Confined config base session)
  alike : ∀ session other, session.Informed config base → other.Informed config base →
    session.Alike other →
    (step session).Matches (step other) fun next value next' value' =>
      value = value' ∧ next.Alike next'

theorem tame_reset (root : Descriptor) : Tame config base fun session => session.reset root where
  confined := fun session h => h.onHost (Host.steady_reset session.surface root)
  alike := fun _ _ _ _ h => h.reset root

theorem tame_patch (ops : List Op) : Tame config base fun session => session.patch ops where
  confined := fun _ h => h.onHost (Host.steady_patch ops)
  alike := fun _ _ _ _ h => h.patch ops

theorem tame_resize : Tame config base Session.resize where
  confined := fun session h => h.onHost (Host.steady_resizeTo session.surface)
  alike := fun _ _ _ _ h => h.resize

theorem tame_step : Tame config base Session.step where
  confined := fun _ h => h.step
  alike := fun _ _ hfirst hsecond h => h.step hfirst hsecond

end Session

end LiveScene
