import LiveScene.Edit.Batch

/-! # Batches taken apart

Applying a list of operations is applying its parts one after the other, with the reports added up
and nothing done after a fault. This holds of the whole outcome, log records included.
-/

namespace LiveScene

namespace Outcome

variable {σ α β γ : Type}

/-- Goes on from an outcome whose result is known to be there. -/
theorem andThen_of_ok {outcome : Outcome σ α} {value : α} (hresult : outcome.result = .ok value)
    (next : σ → α → Outcome σ β) :
    outcome.andThen next = (next outcome.state value).after outcome.log := by
  simp only [andThen, hresult]

theorem andThen_of_error {outcome : Outcome σ α} {fault : Fault}
    (hresult : outcome.result = .error fault) (next : σ → α → Outcome σ β) :
    outcome.andThen next = ⟨outcome.state, .error fault, outcome.log⟩ := by
  simp only [andThen, hresult]

/-- A step that ended without a fault went through both of its parts. -/
theorem ok_of_andThen {outcome : Outcome σ α} {next : σ → α → Outcome σ β} {value : β}
    (hresult : (outcome.andThen next).result = .ok value) :
    ∃ first, outcome.result = .ok first ∧ (next outcome.state first).result = .ok value ∧
      (outcome.andThen next).state = (next outcome.state first).state := by
  rcases outcome with ⟨state, fault | first, log⟩
  · cases hresult
  · exact ⟨first, rfl, hresult, rfl⟩

theorem done_andThen (state : σ) (value : α) (next : σ → α → Outcome σ β) :
    (done state value).andThen next = next state value := by
  simp [andThen, done, after]

theorem andThen_assoc (outcome : Outcome σ α) (next : σ → α → Outcome σ β)
    (last : σ → β → Outcome σ γ) :
    (outcome.andThen next).andThen last =
      outcome.andThen fun state value => (next state value).andThen last := by
  cases hfirst : outcome.result with
  | error fault => simp only [andThen, hfirst]
  | ok value =>
      rw [andThen_of_ok hfirst, andThen_of_ok hfirst]
      cases hsecond : (next outcome.state value).result with
      | error fault => simp only [andThen, after, hsecond]
      | ok value' => simp only [andThen, after, hsecond, Array.append_assoc]

theorem map_andThen (outcome : Outcome σ α) (next : σ → α → Outcome σ β) (f : β → γ) :
    (outcome.andThen next).map f = outcome.andThen fun state value => (next state value).map f := by
  cases hresult : outcome.result with
  | error fault =>
      rw [andThen_of_error hresult, andThen_of_error hresult]
      rfl
  | ok value =>
      rw [andThen_of_ok hresult, andThen_of_ok hresult]
      rfl

theorem andThen_map (outcome : Outcome σ α) (f : α → β) (next : σ → β → Outcome σ γ) :
    (outcome.map f).andThen next = outcome.andThen fun state value => next state (f value) := by
  cases hresult : outcome.result with
  | error fault => simp only [andThen, map, hresult, Except.map]
  | ok value => simp only [andThen, map, hresult, Except.map]

theorem map_map (outcome : Outcome σ α) (f : α → β) (h : β → γ) :
    (outcome.map f).map h = outcome.map fun value => h (f value) := by
  cases hresult : outcome.result <;> simp [map, hresult, Except.map]

end Outcome

namespace Report

theorem add_zero (report : Report) : report.add {} = report := rfl

theorem add_assoc (a b c : Report) : (a.add b).add c = a.add (b.add c) := by
  simp [add, Nat.add_assoc]

/-- Counting a verdict adds a report on it alone. -/
theorem count_eq_add (report : Report) (verdict : Verdict) :
    report.count verdict = report.add (count {} verdict) := by
  rcases verdict with _ | _ <;> rfl

end Report

namespace Graph

/-- Applying one operation, with a report on it alone. -/
theorem record_eq_map (g : Graph) (report : Report) (op : Op) :
    g.record report op = (g.record {} op).map report.add := by
  simp only [record, Outcome.map_map, ← Report.count_eq_add]

theorem foldl_recordAfter (ops : List Op) (outcome : Outcome Graph Report) :
    ops.foldl recordAfter outcome =
      outcome.andThen fun g report => (g.applyAll ops).map report.add := by
  induction ops generalizing outcome with
  | nil =>
      rcases outcome with ⟨g, fault | report, log⟩
      · rfl
      · simp [applyAll, Outcome.andThen, Outcome.done, Outcome.map, Outcome.after, Except.map,
          Report.add_zero]
  | cons op rest ih =>
      have hcons : ∀ g : Graph, g.applyAll (op :: rest) =
          (g.record {} op).andThen fun g report => (g.applyAll rest).map report.add := by
        intro g
        rw [applyAll, List.foldl_cons, ih, recordAfter, Outcome.done_andThen]
      rw [List.foldl_cons, ih, recordAfter, Outcome.andThen_assoc]
      congr 1
      funext g report
      rw [hcons, Outcome.map_andThen, record_eq_map, Outcome.andThen_map]
      simp only [Outcome.map_map, ← Report.add_assoc]

/-- The first operation is applied, then the rest. -/
theorem applyAll_cons (g : Graph) (op : Op) (rest : List Op) :
    g.applyAll (op :: rest) =
      (g.record {} op).andThen fun g report => (g.applyAll rest).map report.add := by
  rw [applyAll, List.foldl_cons, foldl_recordAfter, recordAfter, Outcome.done_andThen]

theorem applyAll_append (g : Graph) (ops more : List Op) :
    g.applyAll (ops ++ more) =
      (g.applyAll ops).andThen fun g report => (g.applyAll more).map report.add := by
  rw [applyAll, List.foldl_append, foldl_recordAfter, ← applyAll]

end Graph

end LiveScene
