import LiveScene.Host.Registry
import LiveScene.Proofs.Renumbering

/-! # Hosts of one registry keep to themselves

The hosts of a registry share a loader, and whoever polls it first drives the load for all. Still no
host can tell whether there are others: what is answered to the calls for a surface, whether its
loop has stopped, and what becomes of its host are the same when all calls for other surfaces are
left out, in whatever order the hosts are visited in a frame.
-/

namespace LiveScene.Directory

/-! ## What can happen to a directory -/

/-- An order to visit hosts in. -/
structure VisitOrder where
  arrange : List SurfaceId → List SurfaceId
  perm : ∀ ids, (arrange ids).Perm ids

def VisitOrder.ascending : VisitOrder :=
  ⟨fun ids => ids, fun _ => .rfl⟩

inductive Event where
  | tree (index : Platform.SurfaceIndex) (root : Descriptor)
  | patch (index : Platform.SurfaceIndex) (ops : List Op)
  | layoutChanged (id : SurfaceId)
  | endHost (id : SurfaceId)
  /-- The surface gets another size, without anybody being told. -/
  | layOut (index : Platform.SurfaceIndex) (size : Size)
  | frame (order : VisitOrder)
  | openGate

inductive Reply where
  | delivered (delivery : Delivery)
  | resized (result : ResizeResult)
  | ended (found : Bool)
  | stopped (ids : List SurfaceId)
  | silent
deriving DecidableEq

/-- Runs one frame of some hosts. -/
def runHosts (directory : Directory Page) (ids : List SurfaceId) :
    Outcome (Directory Page) (List SurfaceId) :=
  ids.foldl
    (fun outcome id => outcome.andThen fun directory stopped => directory.runHostFrame stopped id)
    (.done directory [])

def answer (directory : Directory Page) : Event → Outcome (Directory Page) Reply
  | .tree index root => (directory.sendTree index root).map .delivered
  | .patch index ops => (directory.sendPatch index ops).map .delivered
  | .layoutChanged id => (directory.layoutChanged id).map .resized
  | .endHost id => (directory.endHost id).map .ended
  | .layOut index size =>
    .done { directory with platform := directory.platform.layOut index size } .silent
  | .frame order =>
    (directory.runHosts (order.arrange directory.registry.surfaceIds)).map .stopped
  | .openGate =>
    .done { directory with platform := { directory.platform with
      provider := { directory.platform.provider with
        page := directory.platform.provider.page.openGate } } } .silent

/-- The registry itself visits its hosts in ascending order. -/
theorem answer_frame_ascending (directory : Directory Page) :
    directory.answer (.frame .ascending) = directory.runFrame.map .stopped :=
  rfl

/-- Up to the first event that ends in a fault. -/
def answerAll (directory : Directory Page) : List Event → Outcome (Directory Page) (List Reply)
  | [] => .done directory []
  | event :: rest =>
    (directory.answer event).andThen fun directory reply =>
      (directory.answerAll rest).map (reply :: ·)

/-! ## Soundness -/

section

variable {config : LoaderConfig} {base : Page} {ids : List SurfaceId}

/-- A directory on surfaces with some ids, with a loader whose answers can be foreseen. -/
structure Sound (config : LoaderConfig) (base : Page) (ids : List SurfaceId)
    (directory : Directory Page) : Prop where
  tells : directory.platform.provider.Tells config base
  names : directory.platform.surfaces.map (fun surface => (surface.id, surface.graphics)) =
    ids.map fun id => (id, true)
  /-- A host shows the surface it is filed under and is not disposed of. -/
  hosts : ∀ id host, directory.host? id = some host →
    ids[host.surface]? = some id ∧ host.state ≠ .disposed ∧ ∀ ticket, host.load = some ticket →
      ticket < directory.platform.provider.loader.loads.size

/-- A directory in which nothing has changed that matters to a surface. -/
structure Spares (ids : List SurfaceId) (s : SurfaceId) (before after : Directory Page) : Prop where
  host : after.host? s = before.host? s
  surface : ∀ index : Platform.SurfaceIndex, ids[index]? = some s →
    after.platform.surfaces[index]? = before.platform.surfaces[index]?
  pixelRatio : after.platform.pixelRatio = before.platform.pixelRatio
  refuses : after.platform.refusesRenderers = before.platform.refusesRenderers
  autostart : after.registry.autostart = before.registry.autostart

/-- What a step for one surface can change. -/
structure Changes (config : LoaderConfig) (base : Page) (ids : List SurfaceId) (id : SurfaceId)
    (before after : Directory Page) : Prop where
  sound : after.Sound config base ids
  spares : ∀ s, s ≠ id → Spares ids s before after

theorem Sound.changes_self {directory : Directory Page} (h : directory.Sound config base ids)
    (id : SurfaceId) : Changes config base ids id directory directory :=
  ⟨h, fun _ _ => ⟨rfl, fun _ _ => rfl, rfl, rfl, rfl⟩⟩

theorem Changes.trans {id : SurfaceId} {first second third : Directory Page}
    (h : Changes config base ids id first second) (h' : Changes config base ids id second third) :
    Changes config base ids id first third where
  sound := h'.sound
  spares := by
    intro s hne
    have hs := h.spares s hne
    have hs' := h'.spares s hne
    exact ⟨hs'.host.trans hs.host,
      fun index hindex => (hs'.surface index hindex).trans (hs.surface index hindex),
      hs'.pixelRatio.trans hs.pixelRatio, hs'.refuses.trans hs.refuses,
      hs'.autostart.trans hs.autostart⟩

theorem endHost_eq {π : Type} {directory : Directory π} {id : SurfaceId} {host : Host}
    (hhost : directory.host? id = some host) :
    directory.endHost id =
      ⟨{ registry := { directory.registry with hosts := directory.registry.hosts.erase id }
         platform := (Session.dispose ⟨host, directory.platform⟩).state.platform },
        .ok true, (Session.dispose ⟨host, directory.platform⟩).log⟩ := by
  have hresult : (Session.dispose ⟨host, directory.platform⟩).result = .ok () := by
    unfold Session.dispose
    dsimp only
    split <;> rfl
  simp only [endHost, hhost, Outcome.map, Outcome.within, hresult, Except.map]

theorem host?_file {π : Type} (directory : Directory π) (id other : SurfaceId)
    (session : Session π) :
    (directory.file id session).host? other =
      if id = other then some session.host else directory.host? other := by
  simp only [file, host?, Std.ExtTreeMap.getElem?_insert, Std.compare_eq_iff_eq]

theorem mem_surfaceIds {π : Type} (directory : Directory π) (id : SurfaceId) :
    id ∈ directory.registry.surfaceIds ↔ (directory.host? id).isSome = true := by
  rw [Registry.surfaceIds, Std.ExtTreeMap.mem_keys, Std.ExtTreeMap.mem_iff_isSome_getElem?, host?]

/-- There is one list without repetition that holds nothing else than one id. -/
theorem eq_of_forall_eq {s : SurfaceId} {first second : List SurfaceId} (hfirst : first.Nodup)
    (hsecond : second.Nodup) (hall : ∀ id ∈ first, id = s) (hall' : ∀ id ∈ second, id = s)
    (hmem : s ∈ first ↔ s ∈ second) : first = second := by
  have heq := List.eq_replicate_iff.mpr ⟨rfl, hall⟩
  have heq' := List.eq_replicate_iff.mpr ⟨rfl, hall'⟩
  rw [heq, List.nodup_replicate] at hfirst
  rw [heq', List.nodup_replicate] at hsecond
  rw [heq, heq', List.mem_replicate, List.mem_replicate] at hmem
  rw [heq, heq']
  congr 1
  simp only [and_true] at hmem
  omega

theorem index_eq (hdistinct : ids.Nodup) {s : SurfaceId} {index place : Platform.SurfaceIndex}
    (hindex : ids[index]? = some s) (hplace : ids[place]? = some s) : index = place := by
  have hlt := (List.getElem?_eq_some_iff.mp hindex).1
  exact (List.getElem?_inj hlt hdistinct).mp (hindex.trans hplace.symm)

variable {directory : Directory Page} {id : SurfaceId} {index : Platform.SurfaceIndex}

theorem Sound.exists_surface (h : directory.Sound config base ids)
    (hindex : ids[index]? = some id) :
    ∃ surface, directory.platform.surfaces[index]? = some surface ∧ surface.id = id ∧
      surface.graphics = true := by
  have hname := congrArg (fun names => names[index]?) h.names
  simp only [List.getElem?_map, hindex, Option.map_some, Option.map_eq_some_iff,
    Prod.mk.injEq] at hname
  exact hname

theorem Sound.surface_eq (h : directory.Sound config base ids) (hindex : ids[index]? = some id) :
    (directory.platform.surface index).id = id ∧
      (directory.platform.surface index).graphics = true := by
  obtain ⟨surface, hsurface, hnames⟩ := h.exists_surface hindex
  rw [Platform.surface, hsurface]
  exact hnames

theorem Sound.surface_eq_none (h : directory.Sound config base ids) (hindex : ids[index]? = none) :
    directory.platform.surfaces[index]? = none := by
  have hname := congrArg (fun names => names[index]?) h.names
  simpa only [List.getElem?_map, hindex, Option.map_none, Option.map_eq_none_iff] using hname

theorem Sound.informed (h : directory.Sound config base ids) {host : Host}
    (hhost : directory.host? id = some host) :
    Session.Informed config base ⟨host, directory.platform⟩ :=
  ⟨h.tells, (h.hosts id host hhost).2.2⟩

/-- A platform on which only one surface was touched. -/
theorem Sound.yields (h : directory.Sound config base ids)
    (hindex : ids[index]? = some id) {next : Directory Page}
    (hyields : directory.platform.Yields index next.platform)
    (htells : next.platform.provider.Tells config base)
    (htickets : directory.platform.provider.loader.loads.size ≤
      next.platform.provider.loader.loads.size)
    (hhosts : ∀ other, other ≠ id → next.host? other = directory.host? other)
    (hown : ∀ host, next.host? id = some host →
      ids[host.surface]? = some id ∧ host.state ≠ .disposed ∧ ∀ ticket, host.load = some ticket →
        ticket < next.platform.provider.loader.loads.size)
    (hautostart : next.registry.autostart = directory.registry.autostart) :
    Changes config base ids id directory next where
  sound := by
    refine ⟨htells, hyields.names.trans h.names, fun other host hhost => ?_⟩
    by_cases hne : other = id
    · subst hne
      exact hown host hhost
    · rw [hhosts other hne] at hhost
      obtain ⟨hsurface, halive, hticket⟩ := h.hosts other host hhost
      exact ⟨hsurface, halive,
        fun ticket hload => Nat.lt_of_lt_of_le (hticket ticket hload) htickets⟩
  spares := by
    intro s hne
    refine ⟨hhosts s hne, fun other hother => hyields.elsewhere other ?_, hyields.pixelRatio,
      hyields.refuses, hautostart⟩
    rintro rfl
    rw [hindex] at hother
    exact hne (Option.some.inj hother).symm

theorem Sound.file (h : directory.Sound config base ids) {host : Host}
    (hindex : ids[host.surface]? = some id) (halive : host.state ≠ .disposed)
    {next : Session Page}
    (hnext : Session.Confined config base ⟨host, directory.platform⟩ next) :
    Changes config base ids id directory (directory.file id next) := by
  refine h.yields hindex hnext.yields hnext.informed.tells hnext.tickets ?_ ?_ rfl
  · intro other hne
    rw [host?_file, if_neg hne.symm]
  · intro host' hhost'
    rw [host?_file, if_pos rfl] at hhost'
    cases hhost'
    exact ⟨hnext.surface ▸ hindex, hnext.alive halive, hnext.informed.ticket⟩

/-! ## Steps for one surface -/

namespace Sound

theorem onHost {α : Type} (h : directory.Sound config base ids)
    {step : Session Page → Outcome (Session Page) α} (hstep : Session.Tame config base step)
    (id : SurfaceId) :
    (directory.onHost id step).Ensures (Changes config base ids id directory) := by
  unfold Directory.onHost
  cases hhost : directory.host? id with
  | none => exact .always (h.changes_self id)
  | some host =>
      obtain ⟨hindex, halive, -⟩ := h.hosts id host hhost
      exact ((hstep.confined _ (h.informed hhost)).within
        fun next hnext => h.file hindex halive hnext).map _

theorem ensureHost_eq (h : directory.Sound config base ids) (hindex : ids[index]? = some id) :
    directory.ensureHost index =
      if (directory.host? id).isSome then .done directory true
      else
        ((Session.create directory.platform index directory.registry.autostart).within
          (directory.file id)).map fun _ => true := by
  obtain ⟨hid, hgraphics⟩ := h.surface_eq hindex
  simp only [Directory.ensureHost, hid, hgraphics, Bool.not_true, Bool.false_eq_true, if_false]

theorem ensureHost (h : directory.Sound config base ids) (hindex : ids[index]? = some id) :
    (directory.ensureHost index).Ensures (Changes config base ids id directory) := by
  rw [h.ensureHost_eq hindex]
  split
  · exact .always (h.changes_self id)
  · exact ((Session.create_confined h.tells index directory.registry.autostart).within
      fun next hnext => h.file hindex (by simp) hnext).map _

theorem deliver (h : directory.Sound config base ids) (hindex : ids[index]? = some id)
    {send : Session Page → Outcome (Session Page) Delivery}
    (hsend : Session.Tame config base send) :
    (directory.deliver index send).Ensures (Changes config base ids id directory) := by
  refine (h.ensureHost hindex).andThen fun next found hnext => ?_
  split
  · rw [(hnext.sound.surface_eq hindex).1]
    exact ((hnext.sound.onHost hsend id).mono fun _ => hnext.trans).map _
  · exact .always hnext

/-- Nobody is at a place without a surface. -/
theorem deliver_of_none (h : directory.Sound config base ids) (hindex : ids[index]? = none)
    (send : Session Page → Outcome (Session Page) Delivery) :
    (directory.deliver index send).state = directory := by
  have hsurface := h.surface_eq_none hindex
  simp [Directory.deliver, Directory.ensureHost, Platform.surface, hsurface, Outcome.andThen,
    Outcome.after, Outcome.done]

theorem endHost (h : directory.Sound config base ids) (id : SurfaceId) :
    (directory.endHost id).Ensures (Changes config base ids id directory) := by
  cases hhost : directory.host? id with
  | none =>
      simp only [Directory.endHost, hhost]
      exact .always (h.changes_self id)
  | some host =>
      have hprovider := Session.provider_dispose ⟨host, directory.platform⟩
      rw [endHost_eq hhost]
      refine .always (h.yields (h.hosts id host hhost).1
        (Session.yields_dispose ⟨host, directory.platform⟩) ?_ ?_ ?_ ?_ rfl)
      · exact hprovider ▸ h.tells
      · exact Nat.le_of_eq (congrArg (fun provider => provider.loader.loads.size) hprovider.symm)
      · intro other hne
        simp [host?, Std.ExtTreeMap.getElem?_erase, hne.symm]
      · intro host' hhost'
        simp [host?] at hhost'

theorem layOut (h : directory.Sound config base ids) (hindex : ids[index]? = some id)
    (size : Size) : Changes config base ids id directory
      { directory with platform := directory.platform.layOut index size } :=
  h.yields hindex (directory.platform.yields_modifySurface index fun _ _ => ⟨rfl, rfl⟩) h.tells
    (Nat.le_refl _) (fun _ _ => rfl) (h.hosts id) rfl

theorem layOut_of_none (h : directory.Sound config base ids) (hindex : ids[index]? = none)
    (size : Size) :
    { directory with platform := directory.platform.layOut index size } = directory := by
  have hsurfaces : directory.platform.surfaces.modify index
      (fun surface => { surface with size }) = directory.platform.surfaces := by
    apply List.ext_getElem?
    intro other
    rw [List.getElem?_modify]
    split
    next heq => rw [← heq, h.surface_eq_none hindex]; rfl
    next => rw [id_map']
  simp only [Platform.layOut, Platform.modifySurface, hsurfaces]

end Sound

/-! ## A directory and one without the other surfaces -/

/-- A directory beside one that has at most the host of a single surface, where nobody can tell from
that surface which of the two it is in. -/
structure Alike (config : LoaderConfig) (base : Page) (ids : List SurfaceId) (s : SurfaceId)
    (directory solo : Directory Page) : Prop where
  left : directory.Sound config base ids
  right : solo.Sound config base ids
  host : (directory.host? s).map Host.unnumbered = (solo.host? s).map Host.unnumbered
  surface : ∀ index : Platform.SurfaceIndex, ids[index]? = some s →
    directory.platform.surfaces[index]? = solo.platform.surfaces[index]?
  pixelRatio : directory.platform.pixelRatio = solo.platform.pixelRatio
  refuses : directory.platform.refusesRenderers = solo.platform.refusesRenderers
  autostart : directory.registry.autostart = solo.registry.autostart
  alone : ∀ id, id ≠ s → solo.host? id = none

namespace Alike

variable {s : SurfaceId} {solo next next' : Directory Page}

/-- Steps for other surfaces make no difference. -/
theorem changes (h : Alike config base ids s directory solo) (hne : s ≠ id)
    (hchanges : Changes config base ids id directory next) :
    Alike config base ids s next solo := by
  have hspares := hchanges.spares s hne
  exact
    { h with
      left := hchanges.sound
      host := (congrArg _ hspares.host).trans h.host
      surface := fun index hindex => (hspares.surface index hindex).trans (h.surface index hindex)
      pixelRatio := hspares.pixelRatio.trans h.pixelRatio
      refuses := hspares.refuses.trans h.refuses
      autostart := hspares.autostart.trans h.autostart }

/-- Steps for the surface itself leave the rest of either directory alone. -/
theorem of_changes (h : Alike config base ids s directory solo)
    (hnext : Changes config base ids s directory next)
    (hnext' : Changes config base ids s solo next')
    (hhost : (next.host? s).map Host.unnumbered = (next'.host? s).map Host.unnumbered)
    (hsurface : ∀ index : Platform.SurfaceIndex, ids[index]? = some s →
      next.platform.surfaces[index]? = next'.platform.surfaces[index]?)
    (hpixelRatio : next.platform.pixelRatio = next'.platform.pixelRatio)
    (hrefuses : next.platform.refusesRenderers = next'.platform.refusesRenderers)
    (hautostart : next.registry.autostart = next'.registry.autostart) :
    Alike config base ids s next next' :=
  ⟨hnext.sound, hnext'.sound, hhost, hsurface, hpixelRatio, hrefuses, hautostart,
    fun id hne => ((hnext'.spares id hne).host).trans (h.alone id hne)⟩

/-- The host of the surface is there in both directories or in neither. -/
theorem exists_host (h : Alike config base ids s directory solo) {host : Host}
    (hhost : directory.host? s = some host) :
    ∃ host', solo.host? s = some host' ∧ host'.surface = host.surface ∧
      Session.Alike ⟨host, directory.platform⟩ ⟨host', solo.platform⟩ := by
  have hsame := h.host
  rw [hhost, Option.map_some, eq_comm, Option.map_eq_some_iff] at hsame
  obtain ⟨host', hhost', hunnumbered⟩ := hsame
  have hindex : host'.surface = host.surface := by
    have hindex := congrArg Host.surface hunnumbered
    exact hindex
  refine ⟨host', hhost', hindex, hunnumbered.symm, ?_, h.pixelRatio, h.refuses⟩
  rw [hindex]
  exact h.surface _ (h.left.hosts s host hhost).1

theorem host?_eq_none (h : Alike config base ids s directory solo)
    (hhost : directory.host? s = none) : solo.host? s = none := by
  have hsame := h.host
  rw [hhost, Option.map_none, eq_comm, Option.map_eq_none_iff] at hsame
  exact hsame

theorem file (h : Alike config base ids s directory solo) (hdistinct : ids.Nodup)
    {host host' : Host} (hindex : ids[host.surface]? = some s)
    (hindex' : ids[host'.surface]? = some s) (halive : host.state ≠ .disposed)
    (halive' : host'.state ≠ .disposed) {session session' : Session Page}
    (hconfined : Session.Confined config base ⟨host, directory.platform⟩ session)
    (hconfined' : Session.Confined config base ⟨host', solo.platform⟩ session')
    (halike : session.Alike session') :
    Alike config base ids s (directory.file s session) (solo.file s session') := by
  refine h.of_changes (h.left.file hindex halive hconfined)
    (h.right.file hindex' halive' hconfined') ?_ ?_ halike.pixelRatio halike.refuses h.autostart
  · rw [host?_file, host?_file, if_pos rfl, if_pos rfl, Option.map_some, Option.map_some,
      halike.host]
  · intro index hplace
    have hsurface := halike.surface
    rw [hconfined.surface, hconfined'.surface] at hsurface
    dsimp only at hsurface
    rw [index_eq hdistinct hindex hplace, index_eq hdistinct hindex' hplace] at hsurface
    exact hsurface

theorem onHost {α : Type} (h : Alike config base ids s directory solo) (hdistinct : ids.Nodup)
    {step : Session Page → Outcome (Session Page) α} (hstep : Session.Tame config base step) :
    (directory.onHost s step).Matches (solo.onHost s step) fun next value next' value' =>
      value = value' ∧ Alike config base ids s next next' := by
  unfold Directory.onHost
  cases hhost : directory.host? s with
  | none =>
      rw [h.host?_eq_none hhost]
      exact .done ⟨rfl, h⟩
  | some host =>
      obtain ⟨host', hhost', -, halike⟩ := h.exists_host hhost
      obtain ⟨hindex, halive, -⟩ := h.left.hosts s host hhost
      obtain ⟨hindex', halive', -⟩ := h.right.hosts s host' hhost'
      have hinformed := h.left.informed hhost
      have hinformed' := h.right.informed hhost'
      rw [hhost']
      refine Outcome.Matches.map (Outcome.Matches.within
        ((hstep.alike _ _ hinformed hinformed' halike).ensures (hstep.confined _ hinformed)
          (hstep.confined _ hinformed'))
        (S := fun next value next' value' =>
          value = value' ∧ Alike config base ids s next next') ?_) ?_
      · rintro session value session' _ ⟨⟨rfl, hsessions⟩, hconfined, hconfined'⟩
        exact ⟨rfl, h.file hdistinct hindex hindex' halive halive' hconfined hconfined' hsessions⟩
      · rintro _ _ _ _ ⟨rfl, hnext⟩
        exact ⟨rfl, hnext⟩

theorem ensureHost (h : Alike config base ids s directory solo) (hdistinct : ids.Nodup)
    (hindex : ids[index]? = some s) :
    (directory.ensureHost index).Matches (solo.ensureHost index) fun next value next' value' =>
      value = value' ∧ Alike config base ids s next next' := by
  rw [h.left.ensureHost_eq hindex, h.right.ensureHost_eq hindex]
  cases hhost : directory.host? s with
  | some host =>
      obtain ⟨host', hhost', -⟩ := h.exists_host hhost
      rw [hhost']
      exact .done ⟨rfl, h⟩
  | none =>
      rw [h.host?_eq_none hhost, ← h.autostart]
      refine Outcome.Matches.map (Outcome.Matches.within
        ((Session.create_alike h.left.tells h.right.tells (h.surface index hindex) h.pixelRatio
          h.refuses directory.registry.autostart).ensures
          (Session.create_confined h.left.tells index directory.registry.autostart)
          (Session.create_confined h.right.tells index directory.registry.autostart))
        (S := fun next _ next' _ => Alike config base ids s next next') ?_) ?_
      · rintro session _ session' _ ⟨hsessions, hconfined, hconfined'⟩
        exact h.file hdistinct hindex hindex (by simp) (by simp) hconfined hconfined' hsessions
      · exact fun _ _ _ _ hnext => ⟨rfl, hnext⟩

theorem deliver (h : Alike config base ids s directory solo) (hdistinct : ids.Nodup)
    (hindex : ids[index]? = some s) {send : Session Page → Outcome (Session Page) Delivery}
    (hsend : Session.Tame config base send) :
    (directory.deliver index send).Matches (solo.deliver index send) fun next value next' value' =>
      value = value' ∧ Alike config base ids s next next' := by
  refine (h.ensureHost hdistinct hindex).andThen ?_
  rintro next found next' _ ⟨rfl, hnext⟩
  rw [(hnext.left.surface_eq hindex).1, (hnext.right.surface_eq hindex).1]
  split
  · refine (hnext.onHost hdistinct hsend).map ?_
    rintro _ _ _ _ ⟨rfl, hlast⟩
    exact ⟨rfl, hlast⟩
  · exact .done ⟨rfl, hnext⟩

theorem endHost (h : Alike config base ids s directory solo) (hdistinct : ids.Nodup) :
    (directory.endHost s).Matches (solo.endHost s) fun next value next' value' =>
      value = value' ∧ Alike config base ids s next next' := by
  cases hhost : directory.host? s with
  | none =>
      simp only [Directory.endHost, hhost, h.host?_eq_none hhost]
      exact .done ⟨rfl, h⟩
  | some host =>
      obtain ⟨host', hhost', hindex, halike⟩ := h.exists_host hhost
      have hend := endHost_eq hhost
      have hend' := endHost_eq hhost'
      have hchanges := h.left.endHost s true (by rw [hend])
      have hchanges' := h.right.endHost s true (by rw [hend'])
      have hyields := Session.yields_dispose ⟨host, directory.platform⟩
      have hyields' := Session.yields_dispose ⟨host', solo.platform⟩
      intro value hvalue
      rw [hend] at hvalue hchanges ⊢
      rw [hend'] at hchanges' ⊢
      refine ⟨true, rfl, (Except.ok.inj hvalue).symm, h.of_changes hchanges hchanges' ?_ ?_ ?_ ?_
        h.autostart⟩
      · simp [host?]
      · intro index hplace
        have hsurface := halike.surface_dispose
        dsimp only at hsurface
        rw [hindex, index_eq hdistinct (h.left.hosts s host hhost).1 hplace] at hsurface
        exact hsurface
      · exact hyields.pixelRatio.trans (h.pixelRatio.trans hyields'.pixelRatio.symm)
      · exact hyields.refuses.trans (h.refuses.trans hyields'.refuses.symm)

theorem layOut (h : Alike config base ids s directory solo) (hindex : ids[index]? = some s)
    (size : Size) :
    Alike config base ids s { directory with platform := directory.platform.layOut index size }
      { solo with platform := solo.platform.layOut index size } := by
  refine h.of_changes (h.left.layOut hindex size) (h.right.layOut hindex size) h.host ?_
    h.pixelRatio h.refuses h.autostart
  intro other hother
  simp only [Platform.layOut, Platform.modifySurface, List.getElem?_modify, h.surface other hother]

theorem openGate (h : Alike config base ids s directory solo) :
    Alike config base.openGate ids s
      { directory with platform := { directory.platform with
        provider := { directory.platform.provider with
          page := directory.platform.provider.page.openGate } } }
      { solo with platform := { solo.platform with
        provider := { solo.platform.provider with
          page := solo.platform.provider.page.openGate } } } :=
  { h with
    left := ⟨h.left.tells.openGate, h.left.names, h.left.hosts⟩
    right := ⟨h.right.tells.openGate, h.right.names, h.right.hosts⟩ }

/-! ## Frames -/

/-- Whether the loop of the surface has stopped shows in the same way. -/
def Shows (config : LoaderConfig) (base : Page) (ids : List SurfaceId) (s : SurfaceId)
    (directory : Directory Page) (stopped : List SurfaceId) (solo : Directory Page)
    (stopped' : List SurfaceId) : Prop :=
  stopped' = stopped.filter (· == s) ∧ Alike config base ids s directory solo

theorem runHostFrame (h : Alike config base ids s directory solo) (hdistinct : ids.Nodup)
    (stopped : List SurfaceId) :
    (directory.runHostFrame stopped s).Matches (solo.runHostFrame (stopped.filter (· == s)) s)
      (Shows config base ids s) := by
  refine (h.onHost hdistinct Session.tame_step).map ?_
  rintro next result next' _ ⟨rfl, hnext⟩
  refine ⟨?_, hnext⟩
  split
  · simp
  · rfl

/-- The frame of another host leaves no trace. -/
theorem runHostFrame_other (h : Alike config base ids s directory solo) (hne : s ≠ id)
    (stopped : List SurfaceId) :
    (directory.runHostFrame stopped id).Matches (.done solo (stopped.filter (· == s)))
      (Shows config base ids s) := by
  have hother : (directory.onHost id Session.step).Matches (.done solo ())
      fun next _ next' _ => Alike config base ids s next next' :=
    fun value hvalue => ⟨(), rfl, h.changes hne (h.left.onHost Session.tame_step id value hvalue)⟩
  change Outcome.Matches _ ((Outcome.done solo ()).map fun _ => stopped.filter (· == s)) _
  refine hother.map fun next result next' _ hnext => ⟨?_, hnext⟩
  split
  · simp [hne.symm]
  · rfl

theorem runHosts (h : Alike config base ids s directory solo) (hdistinct : ids.Nodup)
    (order : List SurfaceId) :
    (directory.runHosts order).Matches (solo.runHosts (order.filter (· == s)))
      (Shows config base ids s) := by
  -- By induction on the hosts still to be visited, from any outcomes of those that were.
  have hrest : ∀ (order : List SurfaceId) (outcome outcome' : Outcome (Directory Page) _),
      outcome.Matches outcome' (Shows config base ids s) →
      (order.foldl (fun outcome id => outcome.andThen fun directory stopped =>
        directory.runHostFrame stopped id) outcome).Matches
      ((order.filter (· == s)).foldl (fun outcome id => outcome.andThen fun directory stopped =>
        directory.runHostFrame stopped id) outcome') (Shows config base ids s) := by
    intro order
    induction order with
    | nil => exact fun _ _ hmatches => hmatches
    | cons id rest ih =>
        intro outcome outcome' hmatches
        by_cases hid : id = s
        · subst hid
          rw [List.filter_cons_of_pos (by simp), List.foldl_cons, List.foldl_cons]
          refine ih _ _ (hmatches.andThen ?_)
          rintro next stopped next' _ ⟨rfl, hnext⟩
          exact hnext.runHostFrame hdistinct stopped
        · rw [List.filter_cons_of_neg (by simpa using hid), List.foldl_cons]
          refine ih _ _ (hmatches.stutter ?_)
          rintro next stopped next' _ ⟨rfl, hnext⟩
          exact hnext.runHostFrame_other (Ne.symm hid) stopped
  exact hrest order _ _ (.done ⟨rfl, h⟩)

/-- Without others around there is only one order. -/
theorem arrange_eq (h : Alike config base ids s directory solo) (order : VisitOrder) :
    order.arrange solo.registry.surfaceIds =
      (order.arrange directory.registry.surfaceIds).filter (· == s) := by
  have hnodup : ∀ registry : Registry, (order.arrange registry.surfaceIds).Nodup :=
    fun registry => (order.perm _).nodup_iff.mpr Std.ExtTreeMap.nodup_keys
  refine eq_of_forall_eq (hnodup _) ((hnodup _).filter _) (fun id hid => ?_)
    (fun id hid => beq_iff_eq.mp (List.mem_filter.mp hid).2) ?_
  · by_contra hne
    rw [(order.perm _).mem_iff, mem_surfaceIds, h.alone id hne] at hid
    cases hid
  · have hisSome := congrArg Option.isSome h.host
    rw [Option.isSome_map, Option.isSome_map] at hisSome
    rw [List.mem_filter, (order.perm _).mem_iff, (order.perm _).mem_iff, mem_surfaceIds,
      mem_surfaceIds, hisSome]
    simp

end Alike

/-! ## Whole runs -/

/-- Whether an event is for a surface or for everybody. -/
def Event.concerns (ids : List SurfaceId) (s : SurfaceId) : Event → Bool
  | .tree index _ => ids[index]? == some s
  | .patch index _ => ids[index]? == some s
  | .layoutChanged id => id == s
  | .endHost id => id == s
  | .layOut index _ => ids[index]? == some s
  | .frame _ => true
  | .openGate => true

/-- What of a reply is about a surface. -/
def Reply.about (s : SurfaceId) : Reply → Reply
  | .stopped ids => .stopped (ids.filter (· == s))
  | reply => reply

/-- The replies to events that concern a surface, as far as they are about it. -/
def repliesAbout (ids : List SurfaceId) (s : SurfaceId) (events : List Event)
    (replies : List Reply) : List Reply :=
  ((events.zip replies).filter fun pair => pair.1.concerns ids s).map fun pair => pair.2.about s

/-- What the gate has come to. -/
def Event.gated (base : Page) : Event → Page
  | .openGate => base.openGate
  | _ => base

theorem Alike.answer_of_concerns {s : SurfaceId} {solo : Directory Page}
    (h : Alike config base ids s directory solo) (hdistinct : ids.Nodup) {event : Event}
    (hevent : event.concerns ids s = true) :
    (directory.answer event).Matches (solo.answer event) fun next reply next' reply' =>
      reply' = reply.about s ∧ Alike config (event.gated base) ids s next next' := by
  have hsame : ∀ {α : Type} {outcome outcome' : Outcome (Directory Page) α} (f : α → Reply),
      (∀ value, (f value).about s = f value) →
      (outcome.Matches outcome' fun next value next' value' =>
        value = value' ∧ Alike config base ids s next next') →
      (outcome.map f).Matches (outcome'.map f) fun next reply next' reply' =>
        reply' = reply.about s ∧ Alike config base ids s next next' := by
    intro α outcome outcome' f hf hmatches
    refine hmatches.map ?_
    rintro next value next' _ ⟨rfl, hnext⟩
    exact ⟨(hf value).symm, hnext⟩
  cases event with
  | tree index root =>
      exact hsame .delivered (fun _ => rfl)
        (h.deliver hdistinct (beq_iff_eq.mp hevent) (Session.tame_reset root))
  | patch index ops =>
      exact hsame .delivered (fun _ => rfl)
        (h.deliver hdistinct (beq_iff_eq.mp hevent) (Session.tame_patch ops))
  | layoutChanged id =>
      cases beq_iff_eq.mp hevent
      refine hsame .resized (fun _ => rfl) ((h.onHost hdistinct Session.tame_resize).map ?_)
      rintro _ _ _ _ ⟨rfl, hnext⟩
      exact ⟨rfl, hnext⟩
  | endHost id =>
      cases beq_iff_eq.mp hevent
      exact hsame .ended (fun _ => rfl) (h.endHost hdistinct)
  | layOut index size => exact .done ⟨rfl, h.layOut (beq_iff_eq.mp hevent) size⟩
  | frame order =>
      simp only [answer]
      rw [h.arrange_eq order]
      refine (h.runHosts hdistinct _).map ?_
      rintro next stopped next' _ ⟨rfl, hnext⟩
      exact ⟨rfl, hnext⟩
  | openGate => exact .done ⟨rfl, h.openGate⟩

/-- Events for other surfaces make no difference. -/
theorem Alike.answer_of_not_concerns {s : SurfaceId} {solo : Directory Page}
    (h : Alike config base ids s directory solo) {event : Event}
    (hevent : event.concerns ids s = false) :
    (directory.answer event).Ensures fun next => Alike config base ids s next solo := by
  have hdeliver : ∀ (index : Platform.SurfaceIndex)
      (send : Session Page → Outcome (Session Page) Delivery), Session.Tame config base send →
      (ids[index]? == some s) = false →
      (directory.deliver index send).Ensures fun next => Alike config base ids s next solo := by
    intro index send hsend hindex
    cases hid : ids[index]? with
    | none =>
        refine .always ?_
        rw [h.left.deliver_of_none hid]
        exact h
    | some id =>
        have hne : s ≠ id := by
          rintro rfl
          simp [hid] at hindex
        exact (h.left.deliver hid hsend).mono fun _ => h.changes hne
  cases event with
  | tree index root => exact (hdeliver index _ (Session.tame_reset root) hevent).map _
  | patch index ops => exact (hdeliver index _ (Session.tame_patch ops) hevent).map _
  | layoutChanged id =>
      have hne : s ≠ id := fun heq => beq_eq_false_iff_ne.mp hevent heq.symm
      exact (((h.left.onHost Session.tame_resize id).mono fun _ => h.changes hne).map _).map _
  | endHost id =>
      have hne : s ≠ id := fun heq => beq_eq_false_iff_ne.mp hevent heq.symm
      exact ((h.left.endHost id).mono fun _ => h.changes hne).map _
  | layOut index size =>
      refine .always ?_
      cases hid : ids[index]? with
      | none =>
          have hsame := h.left.layOut_of_none hid size
          simp only [answer, hsame]
          exact h
      | some id =>
          have hne : s ≠ id := by
            rintro rfl
            simp [Event.concerns, hid] at hevent
          exact h.changes hne (h.left.layOut hid size)
  | frame order => cases hevent
  | openGate => cases hevent

/-- Leaving out the events for other surfaces. -/
theorem Alike.answerAll {s : SurfaceId} {solo : Directory Page}
    (h : Alike config base ids s directory solo) (hdistinct : ids.Nodup) (events : List Event) :
    (directory.answerAll events).Matches (solo.answerAll (events.filter (·.concerns ids s)))
      fun next replies next' replies' => replies' = repliesAbout ids s events replies ∧
        ∃ base, Alike config base ids s next next' := by
  induction events generalizing base directory solo with
  | nil => exact .done ⟨rfl, base, h⟩
  | cons event rest ih =>
      cases hevent : event.concerns ids s with
      | true =>
          rw [List.filter_cons_of_pos hevent]
          refine (h.answer_of_concerns hdistinct hevent).andThen ?_
          rintro next reply next' _ ⟨rfl, hnext⟩
          refine (ih hnext).map ?_
          rintro _ replies _ _ ⟨rfl, hlast⟩
          refine ⟨?_, hlast⟩
          simp [repliesAbout, hevent]
      | false =>
          rw [List.filter_cons_of_neg (by simp [hevent])]
          refine .andThen_left (h.answer_of_not_concerns hevent) fun next reply hnext => ?_
          refine (ih hnext).map_left ?_
          rintro _ replies _ _ ⟨rfl, hlast⟩
          refine ⟨?_, hlast⟩
          simp [repliesAbout, hevent]

/-! ## Who has a host -/

def Event.sends (ids : List SurfaceId) (id : SurfaceId) : Event → Bool
  | .tree index _ => ids[index]? == some id
  | .patch index _ => ids[index]? == some id
  | _ => false

def Event.ends (id : SurfaceId) : Event → Bool
  | .endHost other => other == id
  | _ => false

/-- Whether something was sent to a surface since its host was ended last. -/
def Served (ids : List SurfaceId) (id : SurfaceId) (events : List Event) : Prop :=
  ∃ before event after, events = before ++ event :: after ∧ event.sends ids id = true ∧
    ∀ later ∈ after, later.ends id = false

theorem isSome_onHost {π α : Type} (directory : Directory π) (id other : SurfaceId)
    (step : Session π → Outcome (Session π) α) :
    ((directory.onHost id step).state.host? other).isSome = (directory.host? other).isSome := by
  unfold onHost
  cases hhost : directory.host? id with
  | none => rfl
  | some host =>
      simp only [Outcome.map, Outcome.within, host?_file]
      split
      next heq => rw [← heq, hhost]; rfl
      next => rfl

theorem isSome_endHost {π : Type} (directory : Directory π) (id other : SurfaceId) :
    ((directory.endHost id).state.host? other).isSome =
      ((directory.host? other).isSome && !(id == other)) := by
  cases hhost : directory.host? id with
  | none =>
      simp only [endHost, hhost, Outcome.done]
      by_cases heq : id = other
      · subst heq
        rw [hhost]
        rfl
      · simp [heq]
  | some host =>
      rw [endHost_eq hhost]
      by_cases heq : id = other
      · simp [host?, heq]
      · simp [host?, Std.ExtTreeMap.getElem?_erase, heq]

theorem Sound.isSome_ensureHost (h : directory.Sound config base ids)
    (hindex : ids[index]? = some id) (other : SurfaceId) :
    ((directory.ensureHost index).state.host? other).isSome =
      (id == other || (directory.host? other).isSome) := by
  rw [h.ensureHost_eq hindex]
  split
  next hsome =>
    by_cases heq : id = other
    · subst heq
      simp [Outcome.done, hsome]
    · simp [Outcome.done, heq]
  next =>
    simp only [Outcome.map, Outcome.within, host?_file]
    by_cases heq : id = other <;> simp [heq]

theorem Sound.isSome_deliver (h : directory.Sound config base ids) (index : Platform.SurfaceIndex)
    (send : Session Page → Outcome (Session Page) Delivery) (other : SurfaceId) :
    (directory.deliver index send).Ensures fun next => (next.host? other).isSome =
      (ids[index]? == some other || (directory.host? other).isSome) := by
  cases hid : ids[index]? with
  | none =>
      refine .always ?_
      rw [h.deliver_of_none hid]
      rfl
  | some id =>
      refine .andThen (P := fun next => (next.host? other).isSome =
        (id == other || (directory.host? other).isSome))
        (.always (h.isSome_ensureHost hid other)) fun next found hnext => ?_
      split
      · refine .map (.always ?_) _
        rw [isSome_onHost]
        exact hnext
      · exact .always hnext

theorem isSome_runHosts (directory : Directory Page) (order : List SurfaceId) (other : SurfaceId) :
    (directory.runHosts order).Ensures fun next =>
      (next.host? other).isSome = (directory.host? other).isSome := by
  have hrest : ∀ (order : List SurfaceId) (outcome : Outcome (Directory Page) (List SurfaceId)),
      (outcome.Ensures fun next => (next.host? other).isSome = (directory.host? other).isSome) →
      (order.foldl (fun outcome id => outcome.andThen fun directory stopped =>
        directory.runHostFrame stopped id) outcome).Ensures fun next =>
          (next.host? other).isSome = (directory.host? other).isSome := by
    intro order
    induction order with
    | nil => exact fun _ houtcome => houtcome
    | cons id rest ih =>
        intro outcome houtcome
        refine ih _ (houtcome.andThen fun next stopped hnext => .map (.always ?_) _)
        rw [isSome_onHost]
        exact hnext
  exact hrest order _ (.always rfl)

theorem Sound.isSome_answer (h : directory.Sound config base ids) (event : Event)
    (id : SurfaceId) :
    (directory.answer event).Ensures fun next => (next.host? id).isSome =
      (event.sends ids id || (directory.host? id).isSome && !event.ends id) := by
  have hkeeps : ∀ {next : Directory Page},
      (next.host? id).isSome = (directory.host? id).isSome →
      (next.host? id).isSome = (false || (directory.host? id).isSome && !false) := by
    intro next hnext
    rw [hnext, Bool.not_false, Bool.and_true, Bool.false_or]
  cases event with
  | tree index root =>
      refine .map ((h.isSome_deliver index _ id).mono fun next hnext => ?_) _
      simp [hnext, Event.sends, Event.ends]
  | patch index ops =>
      refine .map ((h.isSome_deliver index _ id).mono fun next hnext => ?_) _
      simp [hnext, Event.sends, Event.ends]
  | layoutChanged other =>
      exact .map (.map (.always (hkeeps (directory.isSome_onHost other id _))) _) _
  | endHost other =>
      refine .always ?_
      simp only [Event.sends, Event.ends, Bool.false_or]
      exact directory.isSome_endHost other id
  | layOut index size => exact .always (hkeeps rfl)
  | frame order => exact .map ((directory.isSome_runHosts _ id).mono fun _ => hkeeps) _
  | openGate => exact .always (hkeeps rfl)

theorem served_cons {id : SurfaceId} {event : Event} {rest : List Event} :
    Served ids id (event :: rest) ↔
      Served ids id rest ∨ event.sends ids id = true ∧ ∀ later ∈ rest, later.ends id = false := by
  constructor
  · rintro ⟨before, payload, after, hsplit, hsends, hafter⟩
    cases before with
    | nil =>
        cases hsplit
        exact Or.inr ⟨hsends, hafter⟩
    | cons first before =>
        cases hsplit
        exact Or.inl ⟨before, payload, after, rfl, hsends, hafter⟩
  · rintro (⟨before, payload, after, rfl, hsends, hafter⟩ | ⟨hsends, hafter⟩)
    · exact ⟨event :: before, payload, after, rfl, hsends, hafter⟩
    · exact ⟨[], event, rest, rfl, hsends, hafter⟩

theorem Alike.answer {s : SurfaceId} {solo : Directory Page}
    (h : Alike config base ids s directory solo) (hdistinct : ids.Nodup) (event : Event) :
    (directory.answer event).Ensures fun next =>
      ∃ base solo, Alike config base ids s next solo := by
  intro reply hreply
  cases hevent : event.concerns ids s with
  | true =>
      obtain ⟨_, _, _, hnext⟩ := h.answer_of_concerns hdistinct hevent reply hreply
      exact ⟨_, _, hnext⟩
  | false => exact ⟨base, solo, h.answer_of_not_concerns hevent reply hreply⟩

/-- A surface has a host when something was sent to it since its host was ended last. -/
theorem Alike.isSome_answerAll {s : SurfaceId} {solo : Directory Page}
    (h : Alike config base ids s directory solo) (hdistinct : ids.Nodup) (events : List Event) :
    (directory.answerAll events).Ensures fun next => (next.host? s).isSome = true ↔
      Served ids s events ∨
        (directory.host? s).isSome = true ∧ ∀ event ∈ events, event.ends s = false := by
  induction events generalizing base directory solo with
  | nil =>
      refine .always ⟨fun hsome => Or.inr ⟨hsome, by simp⟩, ?_⟩
      rintro (⟨before, event, after, hsplit, -⟩ | ⟨hsome, -⟩)
      · simp at hsplit
      · exact hsome
  | cons event rest ih =>
      have hnext : (directory.answer event).Ensures fun next =>
          (∃ base solo, Alike config base ids s next solo) ∧ (next.host? s).isSome =
            (event.sends ids s || (directory.host? s).isSome && !event.ends s) :=
        fun reply hreply =>
          ⟨h.answer hdistinct event reply hreply, h.left.isSome_answer event s reply hreply⟩
      refine hnext.andThen ?_
      rintro next reply ⟨⟨base, solo, halike⟩, hsome⟩
      refine .map ((ih halike).mono fun last hlast => ?_) _
      rw [hlast, served_cons, hsome]
      simp only [Bool.or_eq_true, Bool.and_eq_true, Bool.not_eq_true', List.forall_mem_cons]
      tauto

/-- Hosts of one registry do not notice each other. Take any run without a fault, and for some
surface leave out all events for other surfaces: that run has no fault either, the replies are those
that were given about the surface before, and its host ends up the same, but for the numbers of its
ticket and its renderer. At any time those surfaces have a host that something was sent to since
their host was ended last; it shows its surface and is not disposed of. -/
theorem hosts_isolated (config : LoaderConfig) (platform : Platform Page) (autostart : Bool)
    (hfresh : platform.provider.loader = { config })
    (hgraphics : ∀ surface ∈ platform.surfaces, surface.graphics = true)
    (hdistinct : (platform.surfaces.map (·.id)).Nodup) (events : List Event)
    (replies : List Reply)
    (hfaultless : (answerAll ⟨{ autostart }, platform⟩ events).result = .ok replies) :
    let start : Directory Page := ⟨{ autostart }, platform⟩
    let ids := platform.surfaces.map (·.id)
    let last := (start.answerAll events).state
    (∀ s, let alone := start.answerAll (events.filter (·.concerns ids s))
      alone.result = .ok (repliesAbout ids s events replies) ∧
        (alone.state.host? s).map Host.unnumbered = (last.host? s).map Host.unnumbered) ∧
      ∀ id, ((last.host? id).isSome = true ↔ Served ids id events) ∧
        ∀ host, last.host? id = some host →
          ids[host.surface]? = some id ∧ host.state ≠ .disposed := by
  intro start ids last
  have hsound : start.Sound config platform.provider.page ids := by
    refine ⟨?_, ?_, fun id host hhost => ?_⟩
    · have htells := Provider.Tells.fresh config platform.provider.page
      rw [← hfresh] at htells
      exact htells
    · simp only [ids, List.map_map]
      exact List.map_congr_left fun surface hsurface => by simp [hgraphics surface hsurface]
    · simp [start, host?] at hhost
  have halike : ∀ s, Alike config platform.provider.page ids s start start := fun s =>
    ⟨hsound, hsound, rfl, fun _ _ => rfl, rfl, rfl, rfl, fun id _ => by simp [start, host?]⟩
  refine ⟨fun s => ?_, fun id => ?_⟩
  · obtain ⟨_, hresult, rfl, base, hlast⟩ :=
      (halike s).answerAll hdistinct events replies hfaultless
    exact ⟨hresult, hlast.host.symm⟩
  · have hregistered := (halike id).isSome_answerAll hdistinct events replies hfaultless
    obtain ⟨_, -, -, base, hlast⟩ := (halike id).answerAll hdistinct events replies hfaultless
    refine ⟨hregistered.trans ?_, fun host hhost => ?_⟩
    · simp [start, host?]
    · obtain ⟨hindex, halive, -⟩ := hlast.left.hosts id host hhost
      exact ⟨hindex, halive⟩

/-- Two hosts whose load waits at the gate until it is opened. The second one is visited first and
so drives the load for both, but the first could not tell. -/
theorem hosts_isolated_reversed :
    let platform : Platform Page :=
      { provider := ⟨{ gateClosed := true, moduleArrives := true }, { config := {} }⟩
        surfaces := [{ id := 1 }, { id := 2 }] }
    let start : Directory Page := ⟨{ autostart := false }, platform⟩
    let reversed : VisitOrder := ⟨List.reverse, List.reverse_perm⟩
    let events : List Event :=
      [.tree 0 (.node ⟨1⟩ .mesh [] []), .patch 1 [], .frame reversed, .openGate, .frame reversed,
        .endHost 2]
    (start.answerAll events).result =
        .ok [.delivered .buffered, .delivered .buffered, .stopped [], .silent, .stopped [2, 1],
          .ended true] ∧
      (start.answerAll (events.filter (·.concerns [1, 2] 1))).result =
        .ok [.delivered .buffered, .stopped [], .silent, .stopped [1]] := by
  intro platform start reversed events
  have hrun : (start.answerAll events).result =
      .ok [.delivered .buffered, .delivered .buffered, .stopped [], .silent, .stopped [2, 1],
        .ended true] := by
    decide +kernel
  exact ⟨hrun, ((hosts_isolated {} platform false rfl (by decide) (by decide) events _ hrun).1 1).1⟩

end

end LiveScene.Directory

/-! ## The registry that everybody uses -/

namespace LiveScene.Desk

variable {π : Type} {desk : Desk π}

/-- Without a registry in the slot, or while somebody else uses it, nothing is done. -/
theorem lend_of_unfilled {α : Type} (hslot : ∀ registry, desk.slot ≠ .filled registry)
    (step : Directory π → Outcome (Directory π) α) : desk.lend step = .done desk none := by
  unfold lend
  split
  next registry hfilled => exact absurd hfilled (hslot registry)
  next => rfl

/-- Whoever uses the registry does not get to it a second time: what is sent is refused, no host is
ended and no frame is run. -/
theorem refuses_of_inUse [Site π] (hslot : desk.slot = .inUse) :
    (∀ index root, desk.sendTree index root = .done desk .rejected) ∧
      (∀ index ops, desk.sendPatch index ops = .done desk .rejected) ∧
      (∀ id, desk.endHost id = .done desk false) ∧ desk.runFrame = .done desk [] := by
  have hlend : ∀ {α : Type} (otherwise : α) (step : Directory π → Outcome (Directory π) α),
      desk.lendOr otherwise step = .done desk otherwise := by
    intro α otherwise step
    rw [lendOr, lend_of_unfilled (by simp [hslot])]
    rfl
  exact ⟨fun _ _ => hlend _ _, fun _ _ => hlend _ _, fun _ => hlend _ _, hlend _ _⟩

end LiveScene.Desk
