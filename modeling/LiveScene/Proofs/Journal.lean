import LiveScene.Host.Basic
import LiveScene.Proofs.Receiving
import LiveScene.Proofs.Traversal

/-! # What a renderer is asked to do

The journal of a renderer is in order when no call uses a handle that was given back before it, be it
to draw or to give it back again, and when no call comes after the renderer was disposed of. A
renderer serves a graph when its journal is in order and the handles it got back are those that were
taken from the graph.
-/

namespace LiveScene

namespace RendererCall

/-- The handles that have to be good when a call is made. -/
def uses : RendererCall → List Handle
  | .release handle => [handle]
  | .render frame => frame.draw.flatMap fun command => [command.geometry, command.material]
  | _ => []

def released? : RendererCall → Option Handle
  | .release handle => some handle
  | _ => none

/-- A call leaves the renderer in use and the handles of another call good. -/
def Allows (earlier later : RendererCall) : Prop :=
  earlier ≠ .dispose ∧ ∀ handle, earlier = .release handle → handle ∉ later.uses

end RendererCall

/-- The handles given back in a list of calls, in order. -/
def givenBack (calls : List RendererCall) : List Handle :=
  calls.filterMap RendererCall.released?

theorem mem_givenBack_iff {calls : List RendererCall} {handle : Handle} :
    handle ∈ givenBack calls ↔ .release handle ∈ calls := by
  rw [givenBack, List.mem_filterMap]
  constructor
  · rintro ⟨call, hcall, hreleased⟩
    cases call <;> cases hreleased
    exact hcall
  · exact fun hcall => ⟨_, hcall, rfl⟩

/-- Every call is allowed by all calls before it. -/
def Orderly (calls : List RendererCall) : Prop :=
  calls.Pairwise RendererCall.Allows

namespace Orderly

variable {calls : List RendererCall}

theorem nodup_givenBack (h : Orderly calls) : (givenBack calls).Nodup := by
  refine List.Pairwise.filterMap _ ?_ h
  intro earlier later hallows handle hhandle other hother heq
  cases earlier <;> cases hhandle
  cases later <;> cases hother
  exact hallows.2 _ rfl (by simp [RendererCall.uses, heq])

/-- What a frame draws was not given back before it. -/
theorem not_mem_of_frame (h : Orderly calls) {before after : List RendererCall} {frame : Frame}
    (hsplit : calls = before ++ .render frame :: after) {command : DrawCommand}
    (hcommand : command ∈ frame.draw) :
    command.geometry ∉ givenBack before ∧ command.material ∉ givenBack before := by
  have hallows : ∀ call ∈ before, call.Allows (.render frame) := fun call hcall =>
    (List.pairwise_append.mp (hsplit ▸ h)).2.2 call hcall _ List.mem_cons_self
  have hfresh : ∀ handle ∈ (RendererCall.render frame).uses, handle ∉ givenBack before :=
    fun handle huse hmem => (hallows _ (mem_givenBack_iff.mp hmem)).2 handle rfl huse
  exact ⟨hfresh _ (List.mem_flatMap.mpr ⟨command, hcommand, by simp⟩),
    hfresh _ (List.mem_flatMap.mpr ⟨command, hcommand, by simp⟩)⟩

theorem append (h : Orderly calls) (hworking : .dispose ∉ calls) {more : List RendererCall}
    (hmore : Orderly more)
    (hfresh : ∀ call ∈ more, ∀ handle ∈ call.uses, handle ∉ givenBack calls) :
    Orderly (calls ++ more) := by
  refine List.pairwise_append.mpr ⟨h, hmore, fun earlier hearlier later hlater => ⟨?_, ?_⟩⟩
  · rintro rfl
    exact hworking hearlier
  · rintro handle rfl huse
    exact hfresh later hlater handle huse (mem_givenBack_iff.mpr hearlier)

end Orderly

namespace Renderer

/-- A renderer that is in use, and that got back what was taken from a graph. -/
structure Serves (renderer : Renderer) (g : Graph) : Prop where
  orderly : Orderly renderer.calls.toList
  working : .dispose ∉ renderer.calls.toList
  consistent : g.Consistent
  balanced : g.account.Balanced (givenBack renderer.calls.toList)

theorem serves_empty {renderer : Renderer} (hnew : renderer.calls = #[]) :
    renderer.Serves .empty := by
  refine ⟨?_, ?_, Graph.consistent_empty, ?_⟩
  · rw [hnew]
    exact List.Pairwise.nil
  · simp [hnew]
  · rw [hnew]
    exact Graph.balanced_empty

theorem calls_foldl_release (renderer : Renderer) (handles : List Handle) :
    (handles.foldl (fun renderer handle => renderer.call (.release handle)) renderer).calls.toList =
      renderer.calls.toList ++ handles.map .release := by
  induction handles generalizing renderer with
  | nil => simp
  | cons handle rest ih =>
      rw [List.foldl_cons, ih]
      simp [call]

namespace Serves

variable {renderer : Renderer} {g : Graph}

/-- A graph may be edited while it is shown. -/
theorem edit (h : renderer.Serves g) {g' : Graph} (hleads : g.account.Leads g'.account)
    (hconsistent : g'.Consistent) : renderer.Serves g' :=
  { h with
    consistent := hconsistent
    balanced := h.balanced.leads hleads }

/-- A call that gives nothing back and ends nothing. -/
theorem call (h : renderer.Serves g) {call : RendererCall} (hkeeps : call.released? = none)
    (hworking : call ≠ .dispose)
    (hfresh : ∀ handle ∈ call.uses, handle ∉ givenBack renderer.calls.toList) :
    (renderer.call call).Serves g := by
  have hcalls : (renderer.call call).calls.toList = renderer.calls.toList ++ [call] := by
    simp [Renderer.call]
  have hback : givenBack (renderer.calls.toList ++ [call]) = givenBack renderer.calls.toList := by
    simp [givenBack, hkeeps]
  refine ⟨?_, ?_, h.consistent, ?_⟩
  · rw [hcalls]
    refine h.orderly.append h.working (List.pairwise_singleton _ _) ?_
    intro other hother
    rw [List.mem_singleton.mp hother]
    exact hfresh
  · rw [hcalls, List.mem_append, List.mem_singleton, not_or]
    exact ⟨h.working, hworking.symm⟩
  · rw [hcalls, hback]
    exact h.balanced

theorem setSize (h : renderer.Serves g) (size : Size) : (renderer.call (.setSize size)).Serves g :=
  h.call rfl (by simp) (by simp [RendererCall.uses])

/-- A frame of the graph draws with handles that are owned, none of which was given back. -/
theorem render (h : renderer.Serves g) {frame : Frame} (hframe : g.frame? = some frame) :
    (renderer.call (.render frame)).Serves g := by
  refine h.call rfl (by simp) ?_
  have hdraw : frame.draw = g.visits.1.filterMap g.drawCommand? := by
    simp only [Graph.frame?, Option.bind_eq_bind, Option.bind_eq_some_iff] at hframe
    obtain ⟨_, -, _, -, _, -, hframe⟩ := hframe
    cases Option.some.inj hframe
    rfl
  intro handle huse hmem
  obtain ⟨command, hcommand, hhandle⟩ := List.mem_flatMap.mp huse
  rw [hdraw, List.mem_filterMap] at hcommand
  obtain ⟨visit, -, hcommand⟩ := hcommand
  obtain ⟨⟨geometry, hgeometry⟩, ⟨material, hmaterial⟩⟩ := Graph.owned_of_drawCommand? hcommand
  have howned : ∃ id, g.handle? id = some handle := by
    simp only [List.mem_cons, List.not_mem_nil, or_false] at hhandle
    rcases hhandle with rfl | rfl
    · exact ⟨geometry, hgeometry⟩
    · exact ⟨material, hmaterial⟩
  obtain ⟨id, hid⟩ := howned
  exact h.balanced.disjoint id handle hid (List.mem_append_left _ hmem)

/-- What the graph gave up is handed over. -/
theorem release (h : renderer.Serves g) :
    Serves (g.released.foldl (fun renderer handle => renderer.call (.release handle)) renderer)
      g.forgetReleased := by
  have hcalls := renderer.calls_foldl_release g.released
  have hback : givenBack (renderer.calls.toList ++ g.released.map .release) =
      givenBack renderer.calls.toList ++ g.released := by
    simp [givenBack, RendererCall.released?, Function.comp_def]
  obtain ⟨-, hnodup, hdisjoint⟩ := List.nodup_append.mp h.balanced.nodup
  refine ⟨?_, ?_, h.consistent.forgetReleased, ?_⟩
  · rw [hcalls]
    refine h.orderly.append h.working ?_ ?_
    · refine List.pairwise_map.mpr (hnodup.imp ?_)
      intro handle other hne
      refine ⟨by simp, fun released heq => ?_⟩
      cases heq
      simpa [RendererCall.uses] using hne
    · intro call hcall handle huse hmem
      obtain ⟨released, hreleased, rfl⟩ := List.mem_map.mp hcall
      rw [RendererCall.uses, List.mem_singleton] at huse
      exact hdisjoint handle hmem released hreleased huse
  · simp [hcalls, h.working]
  · rw [hcalls, hback]
    exact h.balanced.take

end Serves

end Renderer

end LiveScene
