import Mathlib.Data.List.Basic

/-! Deterministic machines driven by a list of inputs. A run folds the step function;
`Along` says that a guard holds wherever the run takes a step, and the rules below
carry an invariant through runs, with or without such a guard. A machine that is driven
by a stream of inputs halts if it makes progress from some point on. -/

namespace Tasklite.Library.Machine

variable {σ ι : Type*} (step : σ → ι → σ)

/-- The state after all inputs. -/
def run (start : σ) (inputs : List ι) : σ := inputs.foldl step start

/-- Every step of the run meets the guard in the state in which it is taken. -/
def Along (guard : σ → ι → Prop) : σ → List ι → Prop
  | _, [] => True
  | state, input :: rest => guard state input ∧ Along guard (step state input) rest

@[simp] theorem run_nil (start : σ) : run step start [] = start := rfl

@[simp] theorem run_cons (start : σ) (input : ι) (rest : List ι) :
    run step start (input :: rest) = run step (step start input) rest := rfl

theorem run_append (start : σ) (before after : List ι) :
    run step start (before ++ after) = run step (run step start before) after :=
  List.foldl_append

variable {step}

theorem along_append {guard : σ → ι → Prop} {start : σ} {before after : List ι} :
    Along step guard start (before ++ after) ↔
      Along step guard start before ∧ Along step guard (run step start before) after := by
  induction before generalizing start with
  | nil => simp [Along]
  | cons input rest ih => simp [Along, ih, and_assoc]

/-- An invariant that every step preserves holds after every run. -/
theorem run_invariant {invariant : σ → Prop} {start : σ} (initial : invariant start)
    (preserved : ∀ state input, invariant state → invariant (step state input)) (inputs : List ι) :
    invariant (run step start inputs) := by
  induction inputs generalizing start with
  | nil => exact initial
  | cons input rest ih => exact ih (preserved start input initial)

/-- An invariant that every guarded step preserves holds after every guarded run. -/
theorem run_invariant_along {invariant : σ → Prop} {guard : σ → ι → Prop} {start : σ}
    (initial : invariant start)
    (preserved : ∀ state input, guard state input → invariant state → invariant (step state input))
    {inputs : List ι} (guarded : Along step guard start inputs) :
    invariant (run step start inputs) := by
  induction inputs generalizing start with
  | nil => exact initial
  | cons input rest ih => exact ih (preserved start input guarded.1 initial) guarded.2

/-- The same when the guard is about the inputs alone. -/
theorem run_invariant_of_mem {invariant : σ → Prop} {guard : ι → Prop} {start : σ}
    (initial : invariant start)
    (preserved : ∀ state input, guard input → invariant state → invariant (step state input))
    {inputs : List ι} (guarded : ∀ input ∈ inputs, guard input) : invariant (run step start inputs) := by
  induction inputs generalizing start with
  | nil => exact initial
  | cons input rest ih =>
    apply ih (preserved start input (guarded input List.mem_cons_self) initial)
    exact fun other member => guarded other (List.mem_cons_of_mem _ member)

section Streams

/-- The state before the input of a number. -/
def reach (step : σ → ι → σ) (start : σ) (inputs : ℕ → ι) : ℕ → σ
  | 0 => start
  | n + 1 => step (reach step start inputs n) (inputs n)

variable {start : σ} {inputs : ℕ → ι}

/-- A machine halts if from some point on every step halts it or makes the measure smaller. -/
theorem halts_of_progress {measure : σ → ℕ} {halted : σ → Prop} {n : ℕ}
    (progress : ∀ k ≥ n, ¬ halted (reach step start inputs k) → halted (reach step start inputs (k + 1)) ∨
      measure (reach step start inputs (k + 1)) < measure (reach step start inputs k)) :
    ∃ k, halted (reach step start inputs k) := by
  induction bound : measure (reach step start inputs n) using Nat.strongRecOn generalizing n with
  | _ bound ih =>
    by_cases ended : halted (reach step start inputs n)
    · exact ⟨n, ended⟩
    · rcases progress n (Nat.le_refl n) ended with halts | smaller
      · exact ⟨n + 1, halts⟩
      · exact ih _ (bound ▸ smaller) (fun k later => progress k (by omega)) rfl

end Streams

end Tasklite.Library.Machine
