import Mathlib.Order.Defs.PartialOrder
import Mathlib.Order.Defs.Unbundled
import Mathlib.Data.List.Basic

/-! Programs that change a state, may raise, and may not end within the steps they are
given, with the rules by which one reasons about them: what holds wherever a program
ends, and what every run of it does to the state. -/

namespace Tasklite.Library

/-- A program takes a state to what it returned or raised and the state it left, or does not end. -/
def Program (ε σ α : Type) : Type := σ → Option (Except ε α × σ)

namespace Program

variable {ε σ α β : Type}

instance : Monad (Program ε σ) where
  pure a := fun s => some (.ok a, s)
  bind first next := fun s => match first s with
    | none => none
    | some (.error e, after) => some (.error e, after)
    | some (.ok a, after) => next a after

instance : MonadStateOf σ (Program ε σ) where
  get := fun s => some (.ok s, s)
  set s := fun _ => some (.ok ⟨⟩, s)
  modifyGet f := fun s => some (.ok (f s).1, (f s).2)

instance : MonadExceptOf ε (Program ε σ) where
  throw e := fun s => some (.error e, s)
  tryCatch body handler := fun s => match body s with
    | some (.error e, after) => handler e after
    | ended => ended

/-- What is raised in the end takes the place of what was raised before. -/
instance : MonadFinally (Program ε σ) where
  tryFinally' body final := fun s => match body s with
    | none => none
    | some (.ok a, after) => match final (some a) after with
        | none => none
        | some (.ok b, left) => some (.ok (a, b), left)
        | some (.error e, left) => some (.error e, left)
    | some (.error e, after) => match final none after with
        | none => none
        | some (.ok _, left) => some (.error e, left)
        | some (.error raised, left) => some (.error raised, left)

/-- What was raised. -/
def raisedBy : Except ε α → Option ε
  | .error e => some e
  | .ok _ => none

/-- Run a program and go on with how it ended. -/
def attempt (program : Program ε σ α) : Program ε σ (Except ε α) := fun s =>
  (program s).map fun (ended, after) => (.ok ended, after)

/-- Run a body again until it is done; without steps left the loop has not ended. -/
def loop (body : β → Program ε σ (ForInStep β)) : ℕ → β → Program ε σ β
  | 0, _ => fun _ => none
  | fuel + 1, b => do
      match ← body b with
      | .done b => return b
      | .yield b => loop body fuel b

section Precondition

/-- Wherever the program ends from `s`, `post` holds of how it ended and of the state. -/
def wp (program : Program ε σ α) (post : Except ε α → σ → Prop) (s : σ) : Prop :=
  match program s with
  | none => True
  | some (ended, after) => post ended after

variable {post other : Except ε α → σ → Prop} {program : Program ε σ α} {s : σ}

theorem wp_iff : wp program post s ↔ ∀ ended after, program s = some (ended, after) → post ended after := by
  unfold wp
  rcases program s with _ | ⟨ended, after⟩ <;> simp

/-- A program that ends does so as its precondition says. -/
theorem ends_of_wp (holds : wp program post s) (ends : (program s).isSome = true) :
    ∃ ended after, program s = some (ended, after) ∧ post ended after := by
  obtain ⟨⟨ended, after⟩, ran⟩ := Option.isSome_iff_exists.mp ends
  exact ⟨ended, after, ran, wp_iff.mp holds ended after ran⟩

theorem wp_mono (holds : wp program post s) (weaker : ∀ ended after, post ended after → other ended after) :
    wp program other s := by
  rw [wp_iff] at holds ⊢
  intro ended after ran
  exact weaker ended after (holds ended after ran)

theorem wp_and (holds : wp program post s) (also : wp program other s) :
    wp program (fun ended after => post ended after ∧ other ended after) s := by
  rw [wp_iff] at holds also ⊢
  intro ended after ran
  exact ⟨holds ended after ran, also ended after ran⟩

@[simp]
theorem wp_pure (a : α) : wp (pure a : Program ε σ α) post s ↔ post (.ok a) s :=
  Iff.rfl

@[simp]
theorem wp_throw (e : ε) : wp (throw e : Program ε σ α) post s ↔ post (.error e) s :=
  Iff.rfl

@[simp]
theorem wp_get {post : Except ε σ → σ → Prop} : wp (get : Program ε σ σ) post s ↔ post (.ok s) s :=
  Iff.rfl

@[simp]
theorem wp_set {post : Except ε PUnit → σ → Prop} (t : σ) :
    wp (set t : Program ε σ PUnit) post s ↔ post (.ok ⟨⟩) t :=
  Iff.rfl

@[simp]
theorem wp_modify {post : Except ε PUnit → σ → Prop} (change : σ → σ) :
    wp (modify change : Program ε σ PUnit) post s ↔ post (.ok ⟨⟩) (change s) :=
  Iff.rfl

@[simp]
theorem wp_bind {post : Except ε β → σ → Prop} (next : α → Program ε σ β) :
    wp (program >>= next) post s ↔ wp program (fun ended after => match ended with
      | .ok a => wp (next a) post after
      | .error e => post (.error e) after) s := by
  unfold wp
  simp only [Bind.bind]
  rcases program s with _ | ⟨e | a, after⟩ <;> rfl

theorem wp_get_bind {post : Except ε β → σ → Prop} (next : σ → Program ε σ β) :
    wp (get >>= next) post s ↔ wp (next s) post s :=
  Iff.rfl

theorem wp_modify_bind {post : Except ε β → σ → Prop} (change : σ → σ) (next : PUnit → Program ε σ β) :
    wp (modify change >>= next) post s ↔ wp (next ⟨⟩) post (change s) :=
  Iff.rfl

@[simp]
theorem wp_tryCatch (handler : ε → Program ε σ α) :
    wp (tryCatch program handler) post s ↔ wp program (fun ended after => match ended with
      | .ok a => post (.ok a) after
      | .error e => wp (handler e) post after) s := by
  unfold wp
  simp only [tryCatch, tryCatchThe, MonadExceptOf.tryCatch]
  rcases program s with _ | ⟨e | a, after⟩ <;> rfl

/-- What is raised at the end takes the place of how it ended before. -/
def overridden (ended : Except ε α) : Except ε β → Except ε α
  | .ok _ => ended
  | .error e => .error e

@[simp]
theorem wp_tryFinally (final : Program ε σ β) :
    wp (tryFinally program final) post s ↔ wp program (fun ended after =>
      wp final (fun closing left => post (overridden ended closing) left) after) s := by
  unfold wp
  simp only [tryFinally, Functor.map, tryFinally']
  rcases program s with _ | ⟨e | a, after⟩
  · rfl
  all_goals
    simp only
    rcases final after with _ | ⟨raised | b, left⟩ <;> rfl

@[simp]
theorem wp_ite (condition : Prop) [Decidable condition] (otherwise : Program ε σ α) :
    wp (if condition then program else otherwise) post s ↔
      if condition then wp program post s else wp otherwise post s := by
  split <;> rfl

@[simp]
theorem wp_attempt {post : Except ε (Except ε α) → σ → Prop} :
    wp (attempt program) post s ↔ wp program (fun ended after => post (.ok ended) after) s := by
  unfold wp attempt
  rcases program s with _ | ⟨ended, after⟩ <;> rfl

/-- What every turn of a loop keeps up, and what the last turn makes of it. -/
theorem wp_loop {body : β → Program ε σ (ForInStep β)} {post : Except ε β → σ → Prop} (inv : β → σ → Prop)
    (turn : ∀ b s, inv b s → wp (body b) (fun ended after => match ended with
      | .ok (.yield next) => inv next after
      | .ok (.done last) => post (.ok last) after
      | .error e => post (.error e) after) s)
    (fuel : ℕ) {b : β} {s : σ} (start : inv b s) : wp (loop body fuel b) post s := by
  induction fuel generalizing b s with
  | zero => trivial
  | succ fuel ih =>
    rw [loop, wp_bind]
    refine wp_mono (turn b s start) fun ended after holds => ?_
    rcases ended with e | ⟨next | last⟩
    · exact holds
    · simpa using holds
    · exact ih holds

end Precondition

section Moves

/-- Wherever the program ends, the state has moved along `r`. -/
def Moves (r : σ → σ → Prop) (program : Program ε σ α) : Prop := ∀ s, wp program (fun _ after => r s after) s

variable {r : σ → σ → Prop} [IsPreorder σ r] {program : Program ε σ α}

theorem moves_pure (a : α) : Moves r (pure a : Program ε σ α) := fun s => by simpa using refl s

theorem moves_throw (e : ε) : Moves r (throw e : Program ε σ α) := fun s => by simpa using refl s

theorem moves_get : Moves r (get : Program ε σ σ) := fun s => by simpa using refl s

omit [IsPreorder σ r] in
theorem moves_modify {change : σ → σ} (moved : ∀ s, r s (change s)) :
    Moves r (modify change : Program ε σ PUnit) := fun s => by simpa using moved s

theorem Moves.bind (first : Moves r program) {next : α → Program ε σ β} (rest : ∀ a, Moves r (next a)) :
    Moves r (program >>= next) := by
  intro s
  rw [wp_bind]
  refine wp_mono (first s) fun ended after moved => ?_
  cases ended with
  | error e => exact moved
  | ok a => exact wp_mono (rest a after) fun _ _ further => IsTrans.trans _ _ _ moved further

theorem Moves.catching (body : Moves r program) {handler : ε → Program ε σ α} (handled : ∀ e, Moves r (handler e)) :
    Moves r (tryCatch program handler) := by
  intro s
  rw [wp_tryCatch]
  refine wp_mono (body s) fun ended after moved => ?_
  cases ended with
  | ok a => exact moved
  | error e => exact wp_mono (handled e after) fun _ _ further => IsTrans.trans _ _ _ moved further

theorem Moves.finally (body : Moves r program) {final : Program ε σ β} (closing : Moves r final) :
    Moves r (tryFinally program final) := by
  intro s
  rw [wp_tryFinally]
  refine wp_mono (body s) fun ended after moved => ?_
  refine wp_mono (closing after) fun last left further => ?_
  cases last <;> exact IsTrans.trans _ _ _ moved further

omit [IsPreorder σ r] in
theorem Moves.branch {condition : Prop} [Decidable condition] {otherwise : Program ε σ α}
    (yes : condition → Moves r program) (no : ¬ condition → Moves r otherwise) :
    Moves r (if condition then program else otherwise) := by
  split
  · exact yes ‹_›
  · exact no ‹_›

theorem moves_loop {body : β → Program ε σ (ForInStep β)} (turn : ∀ b, Moves r (body b)) (fuel : ℕ) (b : β) :
    Moves r (loop body fuel b) := by
  intro s
  refine wp_loop (fun _ now => r s now) (fun b now moved => ?_) fuel (refl s)
  refine wp_mono (turn b now) fun ended after further => ?_
  rcases ended with e | ⟨next | last⟩ <;> exact IsTrans.trans _ _ _ moved further

end Moves

section Costs

/-- Wherever the program ends, the measure has grown by the price at most. -/
def Costs (measure : σ → ℕ) (price : ℕ) (program : Program ε σ α) : Prop :=
  ∀ s, wp program (fun _ after => measure after ≤ measure s + price) s

variable {measure : σ → ℕ} {price more : ℕ} {program : Program ε σ α}

theorem costs_pure (a : α) : Costs measure 0 (pure a : Program ε σ α) := fun _ => Nat.le_add_right _ _

theorem costs_get : Costs measure 0 (get : Program ε σ σ) := fun _ => Nat.le_add_right _ _

theorem costs_modify {change : σ → σ} (free : ∀ s, measure (change s) = measure s) :
    Costs measure 0 (modify change : Program ε σ PUnit) := fun s => Nat.le_of_eq (free s)

theorem Costs.mono (cheap : Costs measure price program) (less : price ≤ more) : Costs measure more program := by
  intro s
  refine wp_mono (cheap s) fun _ after bound => ?_
  omega

theorem Costs.bind (first : Costs measure price program) {next : α → Program ε σ β}
    (rest : ∀ a, Costs measure more (next a)) : Costs measure (price + more) (program >>= next) := by
  intro s
  rw [wp_bind]
  refine wp_mono (first s) fun ended after bound => ?_
  cases ended with
  | error e => dsimp only; omega
  | ok a =>
    refine wp_mono (rest a after) fun _ left further => ?_
    omega

theorem Costs.branch {condition : Prop} [Decidable condition] {otherwise : Program ε σ α}
    (yes : Costs measure price program) (no : Costs measure price otherwise) :
    Costs measure price (if condition then program else otherwise) := by
  split
  · exact yes
  · exact no

theorem costs_loop {body : β → Program ε σ (ForInStep β)} (turn : ∀ b, Costs measure 0 (body b)) (fuel : ℕ) (b : β) :
    Costs measure 0 (loop body fuel b) := by
  intro s
  refine wp_loop (fun _ now => measure now ≤ measure s) (fun b now bound => ?_) fuel (Nat.le_refl _)
  refine wp_mono (turn b now) fun ended after further => ?_
  rcases ended with e | ⟨next | last⟩ <;> dsimp only <;> omega

end Costs

section Log

variable {κ : Type} (log : σ → List κ) (escapes : κ → Option ε)

/-- The last that these calls let escape. -/
def lastEscape (made : List κ) : Option ε := (made.filterMap escapes).getLast?

/-- A program lets through what its calls let escape and adds nothing: it raises the last of it. -/
def Tells (program : Program ε σ α) : Prop :=
  ∀ s, wp program (fun ended after => ∃ made, log after = log s ++ made ∧
    raisedBy ended = lastEscape escapes made) s

/-- A handler lets the exception go on, unless its own calls let another escape. -/
def Passes (e : ε) (program : Program ε σ α) : Prop :=
  ∀ s, wp program (fun ended after => ∃ made, log after = log s ++ made ∧
    raisedBy ended = (lastEscape escapes made).or (some e)) s

variable {log escapes} {program : Program ε σ α}

theorem lastEscape_append (made more : List κ) :
    lastEscape escapes (made ++ more) = (lastEscape escapes more).or (lastEscape escapes made) := by
  unfold lastEscape
  rw [List.filterMap_append, List.getLast?_append]

theorem tells_pure (a : α) : Tells log escapes (pure a : Program ε σ α) := fun s => ⟨[], by simp, rfl⟩

theorem tells_get : Tells log escapes (get : Program ε σ σ) := fun s => ⟨[], by simp, rfl⟩

theorem tells_modify {change : σ → σ} (quiet : ∀ s, log (change s) = log s) :
    Tells log escapes (modify change : Program ε σ PUnit) := fun s => ⟨[], by simp [quiet], rfl⟩

theorem Tells.bind (first : Tells log escapes program) {next : α → Program ε σ β}
    (rest : ∀ a, Tells log escapes (next a)) : Tells log escapes (program >>= next) := by
  intro s
  rw [wp_bind]
  refine wp_mono (first s) fun ended after ⟨made, logged, told⟩ => ?_
  cases ended with
  | error e => exact ⟨made, logged, told⟩
  | ok a =>
    refine wp_mono (rest a after) fun last left ⟨more, further, told'⟩ => ?_
    refine ⟨made ++ more, by rw [further, logged, List.append_assoc], ?_⟩
    rw [lastEscape_append, ← told, told']
    exact (Option.or_none).symm

theorem passes_throw (e : ε) : Passes log escapes e (throw e : Program ε σ α) :=
  fun s => ⟨[], by simp, rfl⟩

/-- What is raised before an exception goes on takes its place. -/
theorem Passes.after {e : ε} (clean : Tells log escapes program) {next : α → Program ε σ β}
    (rest : ∀ a, Passes log escapes e (next a)) : Passes log escapes e (program >>= next) := by
  intro s
  rw [wp_bind]
  refine wp_mono (clean s) fun ended after ⟨made, logged, told⟩ => ?_
  cases ended with
  | error raised => exact ⟨made, logged, by rw [← told]; rfl⟩
  | ok a =>
    refine wp_mono (rest a after) fun last left ⟨more, further, told'⟩ => ?_
    refine ⟨made ++ more, by rw [further, logged, List.append_assoc], ?_⟩
    rw [lastEscape_append, told', ← told]
    cases lastEscape escapes more <;> rfl

theorem Tells.catching (body : Tells log escapes program) {handler : ε → Program ε σ α}
    (handled : ∀ e, Passes log escapes e (handler e)) : Tells log escapes (tryCatch program handler) := by
  intro s
  rw [wp_tryCatch]
  refine wp_mono (body s) fun ended after ⟨made, logged, told⟩ => ?_
  cases ended with
  | ok a => exact ⟨made, logged, told⟩
  | error e =>
    refine wp_mono (handled e after) fun last left ⟨more, further, told'⟩ => ?_
    refine ⟨made ++ more, by rw [further, logged, List.append_assoc], ?_⟩
    rw [lastEscape_append, told', ← told]
    rfl

theorem Tells.finally (body : Tells log escapes program) {final : Program ε σ β}
    (closing : Tells log escapes final) : Tells log escapes (tryFinally program final) := by
  intro s
  rw [wp_tryFinally]
  refine wp_mono (body s) fun ended after ⟨made, logged, told⟩ => ?_
  refine wp_mono (closing after) fun last left ⟨more, further, told'⟩ => ?_
  have whole : log left = log s ++ (made ++ more) := by rw [further, logged, List.append_assoc]
  cases last with
  | error raised =>
    refine ⟨made ++ more, whole, ?_⟩
    rw [lastEscape_append, ← told']
    rfl
  | ok b =>
    refine ⟨made ++ more, whole, ?_⟩
    rw [lastEscape_append, ← told', ← told]
    rfl

theorem Tells.branch {condition : Prop} [Decidable condition] {otherwise : Program ε σ α}
    (yes : Tells log escapes program) (no : Tells log escapes otherwise) :
    Tells log escapes (if condition then program else otherwise) := by
  split
  · exact yes
  · exact no

theorem tells_loop {body : β → Program ε σ (ForInStep β)} (turn : ∀ b, Tells log escapes (body b)) (fuel : ℕ)
    (b : β) : Tells log escapes (loop body fuel b) := by
  induction fuel generalizing b with
  | zero => exact fun s => trivial
  | succ fuel ih =>
    rw [loop]
    refine (turn b).bind fun turned => ?_
    cases turned with
    | done last => exact tells_pure last
    | yield next => exact ih next

end Log

end Program

end Tasklite.Library
