import LiveScene.Log

/-! # Outcomes of steps

A step on a state gives a new state, log records and a result. A projection that cannot be formed
is a fault: it ends the step at once, while everything done up to that point stays done.
-/

namespace LiveScene

/-- What is wrong with the parameters of a projection. -/
inductive Fault where
  | nearEqualsFar
  | zeroAspect
  | leftEqualsRight
  | bottomEqualsTop
deriving DecidableEq, Repr

def Fault.message : Fault → String
  | .nearEqualsFar => "The near-plane and far-plane must not be superimposed."
  | .zeroAspect => "The aspect ratio must not be zero."
  | .leftEqualsRight => "The left corner must not be equal to the right corner."
  | .bottomEqualsTop =>
    "assertion `left != right` failed: The top corner must not be equal to the bottom corner."

structure Outcome (σ α : Type) where
  state : σ
  result : Except Fault α
  log : Log := #[]

namespace Outcome

variable {σ τ α β : Type}

/-- A step that succeeds without a word. -/
def done (state : σ) (value : α) : Outcome σ α :=
  ⟨state, .ok value, #[]⟩

/-- The same outcome after some records. -/
def after (log : Log) (outcome : Outcome σ α) : Outcome σ α :=
  { outcome with log := log ++ outcome.log }

/-- The same outcome followed by some records, unless it is a fault. -/
def note (outcome : Outcome σ α) (log : σ → α → Log) : Outcome σ α :=
  match outcome.result with
  | .ok value => { outcome with log := outcome.log ++ log outcome.state value }
  | .error _ => outcome

/-- Goes on from an outcome, unless it is a fault. -/
def andThen (outcome : Outcome σ α) (next : σ → α → Outcome σ β) : Outcome σ β :=
  match outcome.result with
  | .ok value => (next outcome.state value).after outcome.log
  | .error fault => ⟨outcome.state, .error fault, outcome.log⟩

def map (f : α → β) (outcome : Outcome σ α) : Outcome σ β :=
  ⟨outcome.state, outcome.result.map f, outcome.log⟩

/-- The outcome for a larger state of which the step saw a part. -/
def within (put : σ → τ) (outcome : Outcome σ α) : Outcome τ α :=
  ⟨put outcome.state, outcome.result, outcome.log⟩

end Outcome

end LiveScene
