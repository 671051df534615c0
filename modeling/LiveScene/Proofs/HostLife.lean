import LiveScene.Host.Session
import LiveScene.Proofs.Journal

/-! # The life of a host

A host waits, then serves, then is gone. While it serves, nothing that its graph gave up is left
over between two calls, and its renderer was asked to do nothing out of order. When it is disposed
of, all handles of the graph go back before the renderer is disposed of, and nobody calls the
renderer again.
-/

namespace LiveScene

/-- If a step ends without a fault, the state after it has a property. -/
def Outcome.Ensures {σ α : Type} (outcome : Outcome σ α) (P : σ → Prop) : Prop :=
  ∀ value, outcome.result = .ok value → P outcome.state

namespace Outcome.Ensures

variable {σ τ α β : Type} {outcome : Outcome σ α} {P Q : σ → Prop} {R : τ → Prop}

theorem always (h : P outcome.state) : outcome.Ensures P := fun _ _ => h

theorem mono (h : outcome.Ensures P) (himp : ∀ state, P state → Q state) : outcome.Ensures Q :=
  fun value hresult => himp _ (h value hresult)

theorem andThen (h : outcome.Ensures P) {next : σ → α → Outcome σ β}
    (hnext : ∀ state value, P state → (next state value).Ensures Q) :
    (outcome.andThen next).Ensures Q := by
  rcases outcome with ⟨state, fault | value, log⟩
  · intro value hresult
    cases hresult
  · exact hnext state value (h value rfl)

theorem map (h : outcome.Ensures P) (f : α → β) : (outcome.map f).Ensures P := by
  rcases outcome with ⟨state, fault | value, log⟩
  · intro value hresult
    cases hresult
  · exact always (h value rfl)

theorem note (h : outcome.Ensures P) (log : σ → α → Log) : (outcome.note log).Ensures P := by
  rcases outcome with ⟨state, fault | value, records⟩ <;> exact h

theorem after (h : outcome.Ensures P) (log : Log) : (outcome.after log).Ensures P := h

theorem within (h : outcome.Ensures P) {put : σ → τ} (hput : ∀ state, P state → R (put state)) :
    (outcome.within put).Ensures R :=
  fun value hresult => hput _ (h value hresult)

end Outcome.Ensures

/-! ## A canvas that is up to date -/

/-- The renderer serves the graph and has all that the graph gave up. -/
def Canvas.Settled (canvas : Canvas) : Prop :=
  canvas.renderer.Serves canvas.graph ∧ canvas.graph.released = []

theorem Canvas.Settled.resize {canvas : Canvas} (h : canvas.Settled) (surface : Surface) :
    (canvas.resize surface).Ensures Canvas.Settled := by
  unfold Canvas.resize
  split
  · exact .always h
  · have hleads : canvas.graph.account.Leads
        (canvas.graph.exec (.fit surface.size.aspect)).account :=
      canvas.graph.leads_exec (by simp)
    refine .note (.map (.always ⟨(h.1.setSize _).edit hleads ?_, ?_⟩) _) _
    · exact h.1.consistent.fitCamera _
    · exact (canvas.graph.released_fitCamera _).trans h.2

theorem Renderer.Serves.step {renderer : Renderer} {g : Graph} (h : renderer.Serves g)
    (loop : RenderLoop) :
    (loop.step (some renderer) (some g)).Ensures fun state =>
      ∃ renderer', state.2 = some renderer' ∧ renderer'.Serves g := by
  unfold RenderLoop.step
  split
  · exact .always ⟨renderer, rfl, h⟩
  · dsimp only
    split
    · exact .always ⟨renderer, rfl, h⟩
    next frame hframe =>
      have hdrawn := h.render hframe
      unfold Renderer.render
      cases renderer.isDisposed with
      | false => exact .always ⟨_, rfl, hdrawn⟩
      | true => exact .always ⟨_, rfl, hdrawn⟩

/-- A renderer whose last call was to dispose of it, after so many handles were given back to it,
each of them once. -/
def Renderer.Retired (renderer : Renderer) (drawn : Nat) : Prop :=
  ∃ front, renderer.calls.toList = front ++ [.dispose] ∧ .dispose ∉ front ∧
    (givenBack front).Perm (List.range' 1 drawn)

namespace Host

/-- A host that is ready, with a renderer that serves its graph. -/
def Serves (host : Host) (renderer : Renderer) (g : Graph) : Prop :=
  host.state = .ready ∧ host.renderer = some renderer ∧ host.graph = some g ∧ renderer.Serves g

/-- A host that is ready and has handed over all that its graph gave up. -/
def Settled (host : Host) : Prop :=
  ∃ renderer g, host.Serves renderer g ∧ g.released = []

variable {host : Host} {renderer : Renderer} {g : Graph}

theorem Serves.setGraph (h : host.Serves renderer g) {g' : Graph}
    (hleads : g.account.Leads g'.account) (hconsistent : g'.Consistent) :
    (host.setGraph g').Serves renderer g' :=
  ⟨h.1, h.2.1, rfl, h.2.2.2.edit hleads hconsistent⟩

theorem Serves.releaseHandles (h : host.Serves renderer g) :
    ∃ renderer', host.releaseHandles.Serves renderer' g.forgetReleased := by
  obtain ⟨hstate, hrenderer, hgraph, hserves⟩ := h
  unfold Host.releaseHandles
  rw [hrenderer, hgraph]
  exact ⟨_, hstate, rfl, rfl, hserves.release⟩

theorem Serves.settled_releaseHandles (h : host.Serves renderer g) :
    host.releaseHandles.Settled := by
  obtain ⟨renderer', hserves⟩ := h.releaseHandles
  exact ⟨renderer', _, hserves, rfl⟩

theorem settled_setCanvas (hstate : host.state = .ready) {canvas : Canvas}
    (hcanvas : canvas.Settled) : (host.setCanvas canvas).Settled :=
  ⟨_, _, ⟨hstate, rfl, rfl, hcanvas.1⟩, hcanvas.2⟩

theorem Settled.applyToGraph (h : host.Settled) (ops : List Op) :
    (host.applyToGraph ops).Ensures Settled := by
  obtain ⟨renderer, g, hserves, -⟩ := h
  have hleads : g.account.Leads (g.applyAll ops).state.account :=
    Graph.applyAll_induction (P := fun g' => g.account.Leads g'.account)
      (fun g' op hleads => hleads.trans (g'.leads_apply op)) ops .refl
  have hconsistent : (g.applyAll ops).state.Consistent :=
    Graph.applyAll_induction (fun _ op hg => hg.apply op) ops hserves.2.2.2.consistent
  have happlied : ((g.applyAll ops).within host.setGraph).Ensures
      fun host' => ∃ g', host'.Serves renderer g' :=
    .always ⟨_, hserves.setGraph hleads hconsistent⟩
  simp only [Host.applyToGraph, hserves.2.2.1]
  refine happlied.andThen ?_
  rintro host' report ⟨g', hserves'⟩
  exact .always hserves'.settled_releaseHandles

theorem Settled.resizeTo (h : host.Settled) (surface : Surface) :
    (host.resizeTo surface).Ensures Settled := by
  obtain ⟨renderer, g, ⟨hstate, hrenderer, hgraph, hserves⟩, hreleased⟩ := h
  have hcanvas : host.canvas? = some ⟨host.resize, renderer, g⟩ := by
    simp [canvas?, hrenderer, hgraph]
  have hsettled : Canvas.Settled ⟨host.resize, renderer, g⟩ := ⟨hserves, hreleased⟩
  simp only [Host.resizeTo, hcanvas]
  exact (hsettled.resize surface).within fun _ hcanvas' => settled_setCanvas hstate hcanvas'

theorem Settled.showTree (h : host.Settled) (surface : Surface) (root : Descriptor) :
    (host.showTree surface root).Ensures Settled := by
  obtain ⟨renderer, g, hserves, -⟩ := h
  have hcleared : g.account.Leads g.clear.account := g.leads_foldl_remove g.ids.reverse
  have hleads : g.account.Leads (g.clear.buildTree root).state.account :=
    Graph.buildTree_induction (P := fun g' => g.account.Leads g'.account)
      (fun g' op hleads => hleads.trans (g'.leads_apply op)) root hcleared
  have hconsistent : (g.clear.buildTree root).state.Consistent :=
    Graph.buildTree_induction (fun _ op hg => hg.apply op) root hserves.2.2.2.consistent.clear
  have hbuilt : (((g.clear.buildTree root).after g.clearLog).within host.setGraph).Ensures
      fun host' => ∃ g', host'.Serves renderer g' :=
    .always ⟨_, hserves.setGraph hleads hconsistent⟩
  simp only [Host.showTree, hserves.2.2.1]
  refine hbuilt.andThen ?_
  rintro host' report ⟨g', hserves'⟩
  exact (hserves'.settled_releaseHandles.resizeTo surface).map _

theorem Settled.flush (h : host.Settled) (surface : Surface) :
    (host.flush surface).Ensures Settled := by
  -- Whether anything is kept makes no difference to the renderer and the graph.
  have hkept : Settled { host with pending := {} } := h
  unfold Host.flush
  dsimp only
  split
  · exact .always hkept
  · refine .map (.note (.andThen (P := Settled) ?_ fun host' report hsettled => ?_) _) _
    · cases host.pending.root with
      | none => exact .always hkept
      | some root => exact hkept.showTree surface root
    · exact (hsettled.applyToGraph _).map _

theorem Settled.reset (h : host.Settled) (surface : Surface) (root : Descriptor) :
    (host.reset surface root).Ensures Settled := by
  obtain ⟨_, _, hserves, -⟩ := id h
  simp only [Host.reset, hserves.1]
  exact (h.showTree surface root).map _

theorem Settled.patch (h : host.Settled) (ops : List Op) : (host.patch ops).Ensures Settled := by
  obtain ⟨_, _, hserves, -⟩ := id h
  simp only [Host.patch, hserves.1]
  exact (h.applyToGraph ops).map _

theorem Settled.drawFrame (h : host.Settled) : host.drawFrame.Ensures Settled := by
  obtain ⟨renderer, g, ⟨hstate, hrenderer, hgraph, hserves⟩, hreleased⟩ := h
  unfold Host.drawFrame
  rw [hrenderer, hgraph]
  refine (hserves.step host.loop).within ?_
  rintro ⟨loop, shown⟩ ⟨renderer', rfl, hserves'⟩
  exact ⟨renderer', g, ⟨hstate, rfl, rfl, hserves'⟩, hreleased⟩

/-- Before a host gives up its renderer, every handle that was ever drawn goes back to it. -/
theorem Serves.disposedRenderer? (h : host.Serves renderer g) :
    ∃ last, Session.disposedRenderer? host = some last ∧ Orderly last.calls.toList ∧
      last.Retired g.lastHandle := by
  have hconsistent := h.2.2.2.consistent
  have hcleared : (host.setGraph g.clear).Serves renderer g.clear :=
    h.setGraph (g.leads_foldl_remove g.ids.reverse) hconsistent.clear
  obtain ⟨final, -, hfinal, -, hserves⟩ := hcleared.releaseHandles
  have hcalls : (final.call .dispose).calls.toList = final.calls.toList ++ [.dispose] := by
    simp [Renderer.call]
  refine ⟨final.call .dispose, ?_, ?_, final.calls.toList, hcalls, hserves.working, ?_⟩
  · rw [Session.disposedRenderer?, h.2.2.1, Option.map_some]
    exact congrArg (Option.map (·.call .dispose)) hfinal
  · rw [hcalls]
    exact hserves.orderly.append hserves.working (List.pairwise_singleton _ _)
      (by simp [RendererCall.uses])
  · -- Nothing is owned in a graph that was cleared, so all handles drawn were given back.
    obtain ⟨released, hclear⟩ := hconsistent.clear_eq
    have hnone : ∀ id, g.clear.forgetReleased.handle? id = none := by
      intro id
      rw [hclear]
      rfl
    have hdrawn : g.clear.lastHandle = g.lastHandle := by rw [hclear]
    refine (List.perm_ext_iff_of_nodup hserves.orderly.nodup_givenBack List.nodup_range').mpr ?_
    intro (handle : Nat)
    have hback : handle ∈ givenBack final.calls.toList ↔ 1 ≤ handle ∧ handle ≤ g.lastHandle := by
      rw [← hdrawn]
      have hexhaustive := hserves.balanced.exhaustive handle
      simp only [Graph.account, hnone, reduceCtorEq, exists_false, false_or] at hexhaustive
      simpa [Graph.forgetReleased] using hexhaustive
    rw [hback, List.mem_range'_1]
    omega

end Host

namespace Session

variable {π : Type}

/-- All renderers that were disposed of, and the renderer of the host. -/
def renderers (session : Session π) : List Renderer :=
  session.platform.retired ++ session.host.renderer.toList

/-- A host in a phase in which it has no renderer and no graph. -/
def Bare (phase : HostPhase) (retired : List Renderer) (session : Session π) : Prop :=
  session.host.state = phase ∧ session.host.renderer = none ∧ session.host.graph = none ∧
    session.platform.retired = retired

/-- A host that is ready and up to date. -/
def Serving (retired : List Renderer) (session : Session π) : Prop :=
  session.host.Settled ∧ session.platform.retired = retired

/-- How far a host has come. When it was made, some renderers had been disposed of before. -/
inductive Stage (before : List Renderer) (session : Session π) : Prop
  | waiting (h : session.Bare .uninitialized before)
  | serving (h : session.Serving before)
  | gone (own : List Renderer) (h : session.Bare .disposed (before ++ own))
      (honce : own.length ≤ 1) (horderly : ∀ renderer ∈ own, Orderly renderer.calls.toList)

variable {session : Session π} {before retired : List Renderer}

/-! ## Becoming ready -/

theorem equip_serving {renderer : Renderer} (hnew : renderer.calls = #[])
    (hretired : session.platform.retired = retired) (library : Library) :
    (session.equip library renderer).Ensures (Serving retired) := by
  have hcanvas : Canvas.Settled
      ⟨{ session.host.resize with observing := true }, renderer, .empty⟩ :=
    ⟨Renderer.serves_empty hnew, rfl⟩
  simp only [equip]
  refine .within (P := Host.Settled) ?_ fun host hsettled => ⟨hsettled, hretired⟩
  refine .andThen (P := fun host => Host.Settled { host with state := .ready }) ?_ ?_
  · refine .after (.within (hcanvas.resize _) fun canvas hcanvas' => ?_) _
    exact @Host.settled_setCanvas { session.host with state := .ready } rfl _ hcanvas'
  · intro host _ hsettled
    exact hsettled.flush _

theorem makeReady?_cases (hretired : session.platform.retired = retired) (library : Library) :
    (∃ error, session.makeReady? library = .error error) ∨
      ∃ outcome, session.makeReady? library = .ok outcome ∧ outcome.Ensures (Serving retired) := by
  unfold makeReady? Platform.makeRenderer
  cases session.platform.refusesRenderers with
  | true => exact Or.inl ⟨_, rfl⟩
  | false => exact Or.inr ⟨_, rfl, equip_serving rfl hretired library⟩

/-- A host that waits becomes ready, or goes on waiting when there is no renderer to be had. -/
theorem Bare.concludeLoad (h : session.Bare .uninitialized before)
    (result : Except LoadError Library) : (session.concludeLoad result).Ensures (Stage before) := by
  have hstate : ¬ session.host.state ≠ .uninitialized := not_not_intro h.1
  unfold Session.concludeLoad
  dsimp only [setHost]
  rw [if_neg hstate]
  cases result with
  | error error => exact .always (.waiting h)
  | ok library =>
      have hcases := @makeReady?_cases π { session with host := { session.host with load := none } }
        before h.2.2.2 library
      rcases hcases with ⟨error, heq⟩ | ⟨outcome, heq, hserving⟩
      · simp only [heq]
        exact .always (.waiting h)
      · simp only [heq]
        exact hserving.mono fun _ => .serving

/-- A host that is ready or gone takes no notice of a load. -/
theorem concludeLoad_of_state_ne (hstate : session.host.state ≠ .uninitialized)
    (result : Except LoadError Library) :
    session.concludeLoad result =
      .done (session.setHost { session.host with load := none }) () := by
  unfold concludeLoad
  dsimp only [setHost]
  rw [if_pos hstate]

section

variable [Site π]

/-- Polling changes the loader and the site, and hands over the result when there is one. -/
theorem awaitLoad_ensures {P : Session π → Prop} (hsame : P session)
    (hprovider : ∀ provider, P ⟨session.host, { session.platform with provider }⟩)
    (hconclude : ∀ provider result, (concludeLoad
      ⟨session.host, { session.platform with provider }⟩ result).Ensures P) :
    session.awaitLoad.Ensures P := by
  unfold awaitLoad
  split
  · exact .always hsame
  next ticket _ =>
    refine .andThen (P := fun session' =>
      ∃ provider, session' = ⟨session.host, { session.platform with provider }⟩) ?_ ?_
    · exact .always ⟨_, rfl⟩
    · rintro _ (_ | result) ⟨provider, rfl⟩
      · exact .always (hprovider provider)
      · exact (hconclude provider result).map _

theorem awaitLoad_of_state_ne {P : Session π → Prop}
    (hstate : session.host.state ≠ .uninitialized)
    (hkeeps : ∀ load provider,
      P ⟨{ session.host with load }, { session.platform with provider }⟩) :
    session.awaitLoad.Ensures P := by
  refine awaitLoad_ensures (hkeeps session.host.load session.platform.provider)
    (hkeeps session.host.load) fun provider result => ?_
  rw [@concludeLoad_of_state_ne π ⟨session.host, { session.platform with provider }⟩ hstate]
  exact .always (hkeeps none provider)

theorem Stage.checkLibrary (h : Stage before session) :
    session.checkLibrary.Ensures (Stage before) := by
  have hawait : session.awaitLoad.Ensures (Stage before) := by
    cases h with
    | waiting h =>
        refine awaitLoad_ensures (.waiting h) (fun _ => .waiting h) fun provider => ?_
        exact @Bare.concludeLoad π ⟨session.host, { session.platform with provider }⟩ before h
    | serving h =>
        obtain ⟨⟨_, _, hserves, -⟩, -⟩ := id h
        exact awaitLoad_of_state_ne (by simp [hserves.1]) fun _ _ => .serving h
    | gone own h honce horderly =>
        exact awaitLoad_of_state_ne (by simp [h.1]) fun _ _ => .gone own h honce horderly
  exact hawait.andThen fun session' _ h' => .always h'

end

/-! ## Everything that can happen -/

/-- What can happen to a host: a call of its own, or a change of what it shares with others. -/
inductive Event (π : Type) where
  | reset (root : Descriptor)
  | patch (ops : List Op)
  | poll
  | step
  | resize
  | startLoop
  | stopLoop
  | dispose
  | elsewhere (platform : Platform π)

/-- The renderers that were disposed of are kept track of for this host alone. -/
def undergo [Site π] (session : Session π) : Event π → Outcome (Session π) Unit
  | .reset root => (session.reset root).map fun _ => ()
  | .patch ops => (session.patch ops).map fun _ => ()
  | .poll => session.checkLibrary.map fun _ => ()
  | .step => session.step.map fun _ => ()
  | .resize => session.resize.map fun _ => ()
  | .startLoop => session.startLoop.map fun _ => ()
  | .stopLoop => session.stopLoop
  | .dispose => session.dispose
  | .elsewhere platform =>
    .done { session with platform := { platform with retired := session.platform.retired } } ()

/-- Up to the first event that ends in a fault. -/
def undergoAll [Site π] (session : Session π) : List (Event π) → Outcome (Session π) Unit
  | [] => .done session ()
  | event :: rest => (session.undergo event).andThen fun session _ => session.undergoAll rest

/-- A host from the moment it is made. -/
def life [Site π] (platform : Platform π) (index : Platform.SurfaceIndex) (autostart : Bool)
    (events : List (Event π)) : Outcome (Session π) Unit :=
  (create platform index autostart).andThen fun session _ => session.undergoAll events

theorem Bare.drawFrame {phase : HostPhase} (h : session.Bare phase retired) :
    (session.onHost Host.drawFrame).Ensures (Bare phase retired) := by
  obtain ⟨hstate, hrenderer, hgraph, hretired⟩ := h
  unfold onHost Host.drawFrame RenderLoop.step
  rw [hrenderer, hgraph]
  split
  · exact .always ⟨hstate, rfl, rfl, hretired⟩
  · exact .always ⟨hstate, rfl, rfl, hretired⟩

theorem Bare.resize {phase : HostPhase} (h : session.Bare phase retired) :
    session.resize.Ensures (Bare phase retired) := by
  have hcanvas : session.host.canvas? = none := by simp [Host.canvas?, h.2.1]
  simp only [Session.resize, onHost, Host.resizeTo, hcanvas]
  exact .always h

/-- Nothing happens any more to a host that is gone. -/
theorem Bare.undergo [Site π] (h : session.Bare .disposed retired) (event : Event π) :
    (session.undergo event).Ensures (Bare .disposed retired) := by
  cases event with
  | reset root =>
      simp only [Session.undergo, Session.reset, onHost, Host.reset, h.1]
      exact .always h
  | patch ops =>
      simp only [Session.undergo, Session.patch, onHost, Host.patch, h.1]
      exact .always h
  | poll =>
      have hawait : session.awaitLoad.Ensures (Bare .disposed retired) :=
        awaitLoad_of_state_ne (by simp [h.1]) fun _ _ => h
      exact (hawait.andThen fun _ _ h' => .always h').map _
  | step =>
      simp only [Session.undergo, Session.step, h.1]
      exact .always h
  | resize => exact h.resize.map _
  | startLoop => exact .always h
  | stopLoop => exact .always h
  | dispose =>
      simp only [Session.undergo, Session.dispose, h.1]
      exact .always h
  | elsewhere platform => exact .always h

theorem Bare.undergoAll [Site π] (h : session.Bare .disposed retired) (events : List (Event π)) :
    (session.undergoAll events).Ensures (Bare .disposed retired) := by
  induction events generalizing session with
  | nil => exact .always h
  | cons event rest ih => exact (h.undergo event).andThen fun session' _ h' => ih h'

theorem Serving.onHost {α : Type} (h : session.Serving retired) {step : Host → Outcome Host α}
    (hstep : (step session.host).Ensures Host.Settled) :
    (session.onHost step).Ensures (Serving retired) :=
  hstep.within fun _ hsettled => ⟨hsettled, h.2⟩

theorem Stage.drawFrame (h : Stage before session) :
    (session.onHost Host.drawFrame).Ensures (Stage before) := by
  cases h with
  | waiting h => exact h.drawFrame.mono fun _ => .waiting
  | serving h => exact (h.onHost h.1.drawFrame).mono fun _ => .serving
  | gone own h honce horderly => exact h.drawFrame.mono fun _ h' => .gone own h' honce horderly

theorem dispose_of_serves {renderer : Renderer} {g : Graph}
    (h : session.host.Serves renderer g) :
    ∃ last, session.dispose.state.Bare .disposed (session.platform.retired ++ [last]) ∧
      Orderly last.calls.toList ∧ last.Retired g.lastHandle := by
  obtain ⟨last, hlast, horderly, hretired⟩ := h.disposedRenderer?
  refine ⟨last, ?_, horderly, hretired⟩
  simp only [Session.dispose, h.1]
  exact ⟨rfl, rfl, rfl, by simp [Platform.retire, hlast, Platform.modifySurface]⟩

theorem Bare.dispose (h : session.Bare .uninitialized retired) :
    session.dispose.state.Bare .disposed retired := by
  have hnone : disposedRenderer? session.host = none := by
    simp [disposedRenderer?, Host.releaseHandles, h.2.1]
  simp only [Session.dispose, h.1]
  exact ⟨rfl, rfl, rfl, by simp [Platform.retire, hnone, Platform.modifySurface, h.2.2.2]⟩

theorem Bare.stage_undergo [Site π] (h : session.Bare .uninitialized before) (event : Event π) :
    (session.undergo event).Ensures (Stage before) := by
  have hstage : Stage before session := .waiting h
  cases event with
  | reset root =>
      simp only [Session.undergo, Session.reset, Session.onHost, Host.reset, h.1]
      exact .always (.waiting ⟨rfl, h.2⟩)
  | patch ops =>
      simp only [Session.undergo, Session.patch, Session.onHost, Host.patch, h.1]
      exact .always (.waiting ⟨rfl, h.2⟩)
  | poll => exact hstage.checkLibrary.map _
  | step =>
      simp only [Session.undergo, Session.step, h.1]
      refine .map (hstage.checkLibrary.andThen fun session' state h' => ?_) _
      split
      · exact h'.drawFrame
      · exact .always h'
  | resize => exact (h.resize.mono fun _ => .waiting).map _
  | startLoop => exact .always (.waiting h)
  | stopLoop => exact .always (.waiting h)
  | dispose =>
      refine .always (.gone [] ?_ (Nat.zero_le 1) (by simp))
      rw [List.append_nil]
      exact h.dispose
  | elsewhere platform => exact .always (.waiting h)

theorem Serving.undergo [Site π] (h : session.Serving before) (event : Event π) :
    (session.undergo event).Ensures (Stage before) := by
  obtain ⟨⟨renderer, g, hserves, -⟩, hbefore⟩ := id h
  cases event with
  | reset root =>
      exact ((h.onHost (h.1.reset session.surface root)).mono fun _ => .serving).map _
  | patch ops => exact ((h.onHost (h.1.patch ops)).mono fun _ => .serving).map _
  | poll => exact (Stage.serving h).checkLibrary.map _
  | step =>
      simp only [Session.undergo, Session.step, hserves.1]
      exact (Stage.serving h).drawFrame.map _
  | resize => exact ((h.onHost (h.1.resizeTo session.surface)).mono fun _ => .serving).map _
  | startLoop => exact .always (.serving h)
  | stopLoop => exact .always (.serving h)
  | dispose =>
      obtain ⟨last, hgone, horderly, -⟩ := dispose_of_serves hserves
      exact .always (.gone [last] (hbefore ▸ hgone) (Nat.le_refl 1) (by simpa using horderly))
  | elsewhere platform => exact .always (.serving h)

theorem Stage.undergo [Site π] (h : Stage before session) (event : Event π) :
    (session.undergo event).Ensures (Stage before) := by
  cases h with
  | waiting h => exact h.stage_undergo event
  | serving h => exact h.undergo event
  | gone own h honce horderly =>
      exact (h.undergo event).mono fun _ h' => .gone own h' honce horderly

theorem Stage.undergoAll [Site π] (h : Stage before session) (events : List (Event π)) :
    (session.undergoAll events).Ensures (Stage before) := by
  induction events generalizing session with
  | nil => exact .always h
  | cons event rest ih => exact (h.undergo event).andThen fun session' _ h' => ih h'

theorem stage_create [Site π] (platform : Platform π) (index : Platform.SurfaceIndex)
    (autostart : Bool) : (create platform index autostart).Ensures (Stage platform.retired) := by
  unfold create
  refine .andThen (P := Bare .uninitialized platform.retired) (.always ⟨rfl, rfl, rfl, rfl⟩) ?_
  intro session ticket h
  have hstage : Stage platform.retired
      (session.setHost { session.host with load := some ticket }) := .waiting h
  exact hstage.checkLibrary.map _

theorem stage_life [Site π] (platform : Platform π) (index : Platform.SurfaceIndex)
    (autostart : Bool) (events : List (Event π)) :
    (life platform index autostart events).Ensures (Stage platform.retired) :=
  (stage_create platform index autostart).andThen fun _ _ h => h.undergoAll events

/-- What happens to a host, taken apart. -/
theorem life_append [Site π] (platform : Platform π) (index : Platform.SurfaceIndex)
    (autostart : Bool) (earlier later : List (Event π)) :
    life platform index autostart (earlier ++ later) =
      (life platform index autostart earlier).andThen fun session _ => session.undergoAll later := by
  have hparts : ∀ session : Session π, session.undergoAll (earlier ++ later) =
      (session.undergoAll earlier).andThen fun session _ => session.undergoAll later := by
    intro session
    induction earlier generalizing session with
    | nil => simp only [List.nil_append, Session.undergoAll, Outcome.done_andThen]
    | cons event rest ih =>
        simp only [List.cons_append, Session.undergoAll, ih, Outcome.andThen_assoc]
  simp only [life, hparts, Outcome.andThen_assoc]

/-- What a host has is in order, and it has at most one renderer in its life. -/
theorem Stage.renderers_eq (h : Stage before session) :
    ∃ own, session.renderers = before ++ own ∧ own.length ≤ 1 ∧
      ∀ renderer ∈ own, Orderly renderer.calls.toList := by
  cases h with
  | waiting h => exact ⟨[], by simp [renderers, h.2.1, h.2.2.2], Nat.zero_le 1, by simp⟩
  | serving h =>
      obtain ⟨⟨renderer, g, hserves, -⟩, hbefore⟩ := h
      exact ⟨[renderer], by simp [renderers, hserves.2.1, hbefore], Nat.le_refl 1,
        by simpa using hserves.2.2.2.orderly⟩
  | gone own h honce horderly =>
      exact ⟨own, by simp [renderers, h.2.1, h.2.2.2], honce, horderly⟩

theorem Stage.released_eq_nil (h : Stage before session) {g : Graph}
    (hgraph : session.host.graph = some g) : g.released = [] := by
  cases h with
  | waiting h => simp [h.2.2.1] at hgraph
  | serving h =>
      obtain ⟨⟨renderer, g', hserves, hreleased⟩, -⟩ := h
      rw [hserves.2.2.1] at hgraph
      exact Option.some.inj hgraph ▸ hreleased
  | gone own h _ _ => simp [h.2.2.1] at hgraph

theorem Stage.serving_of_ready (h : Stage before session) (hready : session.host.state = .ready) :
    session.Serving before := by
  cases h with
  | waiting h => simp [h.1] at hready
  | serving h => exact h
  | gone own h _ _ => simp [h.1] at hready

/-- The resources of a host over its life, whatever happens to it and around it. Between two calls
nothing that the graph gave up is left over. The host has at most one renderer; no handle is given
back to it twice, and no frame it gets draws with a handle that was given back before. When the host
is ready as it is disposed of, every handle that its graph drew is given back once, and then the
renderer is disposed of, once and as the last thing it is asked to do, however the life goes on. -/
theorem resources_in_order [Site π] (platform : Platform π) (index : Platform.SurfaceIndex)
    (autostart : Bool) (events : List (Event π))
    (hfaultless : (life platform index autostart events).result = .ok ()) :
    let session := (life platform index autostart events).state
    (∀ g, session.host.graph = some g → g.released = []) ∧
    ∃ own, session.renderers = platform.retired ++ own ∧ own.length ≤ 1 ∧
      (∀ renderer ∈ own, (givenBack renderer.calls.toList).Nodup ∧
        ∀ before frame after, renderer.calls.toList = before ++ .render frame :: after →
          ∀ command ∈ frame.draw,
            command.geometry ∉ givenBack before ∧ command.material ∉ givenBack before) ∧
      ∀ earlier later, events = earlier ++ .dispose :: later →
        (life platform index autostart earlier).state.host.state = .ready →
        ∃ g renderer, (life platform index autostart earlier).state.host.graph = some g ∧
          own = [renderer] ∧ renderer.Retired g.lastHandle := by
  intro session
  have hstage : Stage platform.retired session := stage_life _ _ _ _ () hfaultless
  obtain ⟨own, hown, honce, horderly⟩ := hstage.renderers_eq
  refine ⟨fun g => hstage.released_eq_nil, own, hown, honce, ?_, ?_⟩
  · intro renderer hrenderer
    have horder := horderly renderer hrenderer
    exact ⟨horder.nodup_givenBack, fun before frame after hsplit command hcommand =>
      horder.not_mem_of_frame hsplit hcommand⟩
  · rintro earlier later rfl hready
    rw [life_append] at hfaultless
    obtain ⟨_, hearlier, hrest, hsession⟩ := Outcome.ok_of_andThen hfaultless
    obtain ⟨⟨renderer, g, hserves, -⟩, hbefore⟩ :=
      (stage_life _ _ _ _ _ hearlier).serving_of_ready hready
    obtain ⟨last, hgone, -, hretired⟩ := dispose_of_serves hserves
    -- Nothing happens to the host and its renderer after that.
    have hend : session.Bare .disposed (platform.retired ++ [last]) := by
      dsimp only [session]
      rw [life_append, hsession]
      rw [hbefore] at hgone
      exact Outcome.Ensures.andThen (.always hgone) (fun _ _ h => h.undergoAll later) _ hrest
    refine ⟨g, last, hserves.2.2.1, ?_, hretired⟩
    rw [renderers, hend.2.1, hend.2.2.2, Option.toList_none, List.append_nil] at hown
    exact (List.append_cancel_left hown).symm

/-- A host that draws a box, gets it anew in another width, and is disposed of after the next frame:
the two handles of the box and that of its material are given back. -/
theorem resources_in_order_box :
    let page : Page := { isGlobal := true }
    let platform : Platform Page :=
      { provider := ⟨page, { config := {} }⟩, surfaces := [{ id := 1, size := ⟨640, 480⟩ }] }
    let root : Descriptor := .node ⟨1⟩ .scene []
      [.node ⟨2⟩ .perspectiveCamera [("active", .bool true)] [],
        .node ⟨3⟩ .mesh [] [.node ⟨4⟩ .boxGeometry [] [], .node ⟨5⟩ .basicMaterial [] []]]
    let events : List (Event Page) :=
      [.reset root, .step, .patch [.setProp ⟨4⟩ "width" (.number 2)], .step]
    let session := (life platform 0 true (events ++ [.dispose, .step])).state
    (life platform 0 true (events ++ [.dispose, .step])).result = .ok () ∧
      ∃ renderer, session.renderers = [renderer] ∧ renderer.Retired 3 := by
  intro page platform root events session
  have hfaultless : (life platform 0 true (events ++ [.dispose, .step])).result = .ok () := by
    decide +kernel
  have hready : (life platform 0 true events).state.host.state = .ready := by decide +kernel
  have hdrawn : (life platform 0 true events).state.host.graph.map Graph.lastHandle = some 3 := by
    decide +kernel
  obtain ⟨-, own, hown, -, -, hdisposed⟩ := resources_in_order platform 0 true _ hfaultless
  obtain ⟨g, renderer, hgraph, rfl, hretired⟩ := hdisposed events [.step] rfl hready
  rw [hgraph, Option.map_some, Option.some.injEq] at hdrawn
  exact ⟨hfaultless, renderer, hown, hdrawn ▸ hretired⟩

end Session

end LiveScene
