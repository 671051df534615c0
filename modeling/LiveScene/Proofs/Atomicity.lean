import LiveScene.Proofs.Batches
import LiveScene.Proofs.Runs

/-! # Ignored operations

An operation that is ignored changes nothing at all, so the same graph comes out of a batch when the
ignored operations are left out of it.
-/

namespace LiveScene.Graph

/-- An operation is ignored without a trace, or it is not ignored. -/
theorem Consistent.apply_cases {g : Graph} (hg : g.Consistent) (op : Op) :
    (∃ issue, g.apply op = .done g (.error issue)) ∨
      ∀ issue, (g.apply op).result ≠ .ok (.error issue) := by
  cases op with
  | create id kind properties =>
      rcases g.create_cases id kind properties with hrefused | ⟨g', -, heq⟩
      · exact Or.inl hrefused
      · refine Or.inr fun issue => ?_
        simp only [Graph.apply, heq, Outcome.map]
        cases (g'.setProps id properties).result <;> simp [Except.map]
  | attach parent child =>
      rcases hg.attach_cases parent child with ⟨issue, heq⟩ | ⟨g', node, kind, -, heq⟩
      · exact Or.inl ⟨issue, by simp only [Graph.apply, heq]⟩
      · exact Or.inr fun issue => by simp [Graph.apply, heq, Outcome.done]
  | detach parent child =>
      by_cases hparent : g.parent? child = some parent
      · obtain ⟨node, kind, -, -, -, heq⟩ := hg.detach_of_parent? hparent
        exact Or.inr fun issue => by simp [Graph.apply, heq, Outcome.done]
      · obtain ⟨issue, heq⟩ := hg.detach_of_parent?_ne hparent
        exact Or.inl ⟨issue, by simp only [Graph.apply, heq]⟩
  | setProp id key value =>
      rcases g.setProp_cases id key value with hrefused | ⟨-, hresult⟩
      · exact Or.inl hrefused
      · exact Or.inr hresult
  | unsetProp id key =>
      rcases g.unsetProp_cases id key with ⟨issue, heq⟩ | ⟨-, hresult⟩
      · exact Or.inl ⟨issue, by simp only [Graph.apply, heq]⟩
      · exact Or.inr fun issue => by simp [Graph.apply, hresult, Outcome.done]
  | delete id =>
      rcases g.delete_cases id with hrefused | ⟨-, hresult, -⟩
      · exact Or.inl hrefused
      · exact Or.inr fun issue => by simp [Graph.apply, hresult]

theorem Consistent.state_of_issue {g : Graph} (hg : g.Consistent) {op : Op} {issue : Issue}
    (hissue : (g.apply op).result = .ok (.error issue)) : (g.apply op).state = g := by
  rcases hg.apply_cases op with ⟨issue', heq⟩ | hnot
  · rw [heq]
    rfl
  · exact absurd hissue (hnot issue)

/-- A batch without the operations that are ignored when it is applied. What stands behind a fault
is never reached and stays. -/
def accepted (g : Graph) : List Op → List Op
  | [] => []
  | op :: rest =>
    match (g.apply op).result with
    | .ok (.ok ()) => op :: accepted (g.apply op).state rest
    | .ok (.error _) => accepted (g.apply op).state rest
    | .error _ => op :: rest

/-- What a batch comes to when its first operation ends in a fault. -/
theorem applyAll_of_fault {g : Graph} {op : Op} {fault : Fault}
    (hresult : (g.apply op).result = .error fault) (rest : List Op) :
    (g.applyAll (op :: rest)).result = .error fault := by
  have hrecord : (g.record {} op).result = .error fault := by
    simp only [record, Outcome.map, Outcome.note, hresult, Except.map]
  rw [applyAll_cons, Outcome.andThen_of_error hrecord]

/-- What a batch comes to when its first operation gets a verdict. -/
theorem applyAll_of_verdict {g : Graph} {op : Op} {verdict : Verdict}
    (hresult : (g.apply op).result = .ok verdict) (rest : List Op) :
    (g.applyAll (op :: rest)).state = ((g.apply op).state.applyAll rest).state ∧
      (g.applyAll (op :: rest)).result =
        ((g.apply op).state.applyAll rest).result.map (Report.count {} verdict).add := by
  have hrecord : (g.record {} op).result = .ok (Report.count {} verdict) := by
    simp only [record, Outcome.map, Outcome.note, hresult, Except.map]
  have hstate : (g.record {} op).state = (g.apply op).state := by
    simp only [record, Outcome.map, Outcome.note, hresult]
  rw [applyAll_cons, Outcome.andThen_of_ok hrecord, hstate]
  exact ⟨rfl, rfl⟩

/-- Leaving the ignored operations out changes the report on a batch in one number only. -/
theorem Consistent.applyAll_accepted {g : Graph} (hg : g.Consistent) (ops : List Op) :
    (g.applyAll (g.accepted ops)).state = (g.applyAll ops).state ∧
      (g.applyAll (g.accepted ops)).result =
        (g.applyAll ops).result.map fun report => { report with ignored := 0 } := by
  induction ops generalizing g with
  | nil => exact ⟨rfl, rfl⟩
  | cons op rest ih =>
      obtain ⟨hstate, hreport⟩ := ih (hg.apply op)
      cases hresult : (g.apply op).result with
      | error fault =>
          simp only [accepted, hresult, applyAll_of_fault hresult]
          exact ⟨trivial, rfl⟩
      | ok verdict =>
          obtain ⟨hstate₁, hresult₁⟩ := applyAll_of_verdict hresult rest
          cases verdict with
          | ok _ =>
              obtain ⟨hstate₂, hresult₂⟩ :=
                applyAll_of_verdict hresult ((g.apply op).state.accepted rest)
              simp only [accepted, hresult, hstate₁, hresult₁, hstate₂, hresult₂, hstate, hreport,
                true_and]
              cases ((g.apply op).state.applyAll rest).result <;> rfl
          | error issue =>
              -- An ignored operation leaves the graph as it was, so it may as well not be there.
              have hsame := hg.state_of_issue hresult
              rw [hsame] at hstate hreport hstate₁ hresult₁
              simp only [accepted, hresult, hsame, hstate₁, hresult₁, hstate, hreport, true_and]
              cases (g.applyAll rest).result with
              | error fault => rfl
              | ok report => simp [Except.map, Report.count, Report.add]

theorem accepted_sublist (g : Graph) (ops : List Op) : (g.accepted ops).Sublist ops := by
  induction ops generalizing g with
  | nil => exact List.Sublist.refl _
  | cons op rest ih =>
      unfold accepted
      split
      next => exact (ih _).cons_cons op
      next => exact (ih _).cons op
      next => exact List.Sublist.refl _

/-- As many operations are left in a batch as the report on it counts as applied. -/
theorem length_accepted {g : Graph} {ops : List Op} {report : Report}
    (hreport : (g.applyAll ops).result = .ok report) :
    (g.accepted ops).length = report.applied := by
  induction ops generalizing g report with
  | nil =>
      cases Except.ok.inj hreport
      rfl
  | cons op rest ih =>
      cases hresult : (g.apply op).result with
      | error fault =>
          rw [applyAll_of_fault hresult] at hreport
          cases hreport
      | ok verdict =>
          rw [(applyAll_of_verdict hresult rest).2] at hreport
          cases hrest : ((g.apply op).state.applyAll rest).result with
          | error fault =>
              rw [hrest] at hreport
              cases hreport
          | ok rest' =>
              rw [hrest] at hreport
              cases Except.ok.inj hreport
              cases verdict with
              | ok _ =>
                  simp only [accepted, hresult, List.length_cons, ih hrest, Report.add, Report.count]
                  omega
              | error issue =>
                  simp only [accepted, hresult, ih hrest, Report.add, Report.count]
                  omega

/-- An operation that is ignored leaves the graph as it was in every part. The ignored operations
of a batch can therefore be left out of it: the same graph comes out, with the same number of
operations applied and none ignored. -/
theorem ignored_without_trace (commands : List Command) :
    (∀ op issue, ((run commands).apply op).result = .ok (.error issue) →
      ((run commands).apply op).state = run commands) ∧
    ∀ ops, ((run commands).accepted ops).Sublist ops ∧
      (∀ report, ((run commands).applyAll ops).result = .ok report →
        ((run commands).accepted ops).length = report.applied) ∧
      ((run commands).applyAll ((run commands).accepted ops)).state =
        ((run commands).applyAll ops).state ∧
      ((run commands).applyAll ((run commands).accepted ops)).result =
        ((run commands).applyAll ops).result.map fun report => { report with ignored := 0 } := by
  have hg := consistent_run commands
  refine ⟨fun op issue hissue => ?_, fun ops => ?_⟩
  · exact hg.state_of_issue hissue
  · exact ⟨accepted_sublist _ ops, fun _ => length_accepted, hg.applyAll_accepted ops⟩

/-- Attaching a mesh to a geometry is ignored, alone and between two other operations. -/
theorem ignored_without_trace_geometry :
    let g := run [.apply (.create ⟨1⟩ .boxGeometry []), .apply (.create ⟨2⟩ .mesh [])]
    let ops := [.attach ⟨2⟩ ⟨1⟩, .attach ⟨1⟩ ⟨2⟩, .delete ⟨1⟩]
    (g.apply (.attach ⟨1⟩ ⟨2⟩)).state = g ∧
      (g.accepted ops).length = 2 ∧
      (g.applyAll [.attach ⟨2⟩ ⟨1⟩, .delete ⟨1⟩]).state = (g.applyAll ops).state := by
  intro g ops
  obtain ⟨hsingle, hbatch⟩ := ignored_without_trace
    [.apply (.create ⟨1⟩ .boxGeometry []), .apply (.create ⟨2⟩ .mesh [])]
  obtain ⟨-, hlength, hstate, -⟩ := hbatch ops
  exact ⟨hsingle _ (.invalidLink ⟨1⟩ ⟨2⟩ .noChildren) rfl, hlength ⟨2, 1⟩ rfl, hstate⟩

end LiveScene.Graph
