import Mathlib.Data.List.Basic

/-! Texts that are put together from segments behind a doubled mark. A segment without the mark is read off the front;
what stands in front of the first doubled mark may hold marks itself, and then it takes in whole segments. -/

namespace Tasklite.Library.Segments

variable {β : Type} {mark : β} {front other later more before after : List β}

/-- Nothing, or something that begins with the mark. -/
def Opens (mark : β) (later : List β) : Prop := ∀ first ∈ later.head?, first = mark

/-- A front without the mark ends where the mark begins. -/
theorem front_eq (free : mark ∉ front) (unmarked : mark ∉ other) (opens : Opens mark later) (begins : Opens mark more)
    (same : front ++ later = other ++ more) : front = other ∧ later = more := by
  rw [List.append_eq_append_iff] at same
  rcases same with ⟨gap, longer, behind⟩ | ⟨gap, longer, behind⟩
  · cases gap with
    | nil => exact ⟨by rw [longer, List.append_nil], behind⟩
    | cons head tail =>
      have first : head = mark := opens head (by rw [behind]; rfl)
      exact absurd (by simp [longer, first]) unmarked
  · cases gap with
    | nil => exact ⟨by rw [longer, List.append_nil], behind.symm⟩
    | cons head tail =>
      have first : head = mark := begins head (by rw [behind]; rfl)
      exact absurd (by simp [longer, first]) free

/-- The mark stands behind a front without it. -/
theorem behind_front (free : mark ∉ front) (same : front ++ later = before ++ mark :: after) :
    ∃ gap, before = front ++ gap ∧ later = gap ++ mark :: after := by
  rw [List.append_eq_append_iff] at same
  rcases same with ⟨gap, longer, behind⟩ | ⟨gap, longer, behind⟩
  · exact ⟨gap, longer, behind⟩
  · cases gap with
    | nil => exact ⟨[], by rw [longer, List.append_nil, List.append_nil], behind.symm⟩
    | cons head tail =>
      rw [List.cons_append, List.cons_eq_cons] at behind
      exact absurd (by simp [longer, behind.1]) free

/-- A doubled mark stands in front of a segment without the mark, or behind it. -/
theorem doubled_mark (filled : front ≠ []) (free : mark ∉ front)
    (same : mark :: mark :: (front ++ later) = before ++ mark :: mark :: after) :
    before = [] ∧ after = front ++ later ∨
      ∃ gap, before = mark :: mark :: (front ++ gap) ∧ later = gap ++ mark :: mark :: after := by
  match before with
  | [] =>
    rw [List.nil_append, List.cons_eq_cons, List.cons_eq_cons] at same
    exact .inl ⟨rfl, same.2.2.symm⟩
  | [single] =>
    rw [List.cons_append, List.nil_append, List.cons_eq_cons, List.cons_eq_cons] at same
    cases front with
    | nil => exact absurd rfl filled
    | cons head tail =>
      rw [List.cons_append, List.cons_eq_cons] at same
      exact absurd (by simp [same.2.2.1]) free
  | first :: second :: before =>
    rw [List.cons_append, List.cons_append, List.cons_eq_cons, List.cons_eq_cons] at same
    obtain ⟨gap, longer, behind⟩ := behind_front free same.2.2
    exact .inr ⟨gap, by rw [← same.1, ← same.2.1, longer], behind⟩

/-- Two texts with a doubled mark: it is the same one, or the front of one text takes in what is behind the mark of
the other. -/
theorem doubled_mark_cases (filled : ∃ head ∈ later.head?, head ≠ mark) (given : ∃ head ∈ more.head?, head ≠ mark)
    (same : front ++ mark :: mark :: later = other ++ mark :: mark :: more) :
    front = other ∧ later = more ∨
      (∃ gap, other = front ++ mark :: mark :: gap ∧ later = gap ++ mark :: mark :: more) ∨
      ∃ gap, front = other ++ mark :: mark :: gap ∧ more = gap ++ mark :: mark :: later := by
  have takes : ∀ {later more gap : List β}, (∃ head ∈ later.head?, head ≠ mark) →
      mark :: mark :: later = gap ++ mark :: mark :: more → gap = [] ∧ later = more ∨
        ∃ rest, gap = mark :: mark :: rest ∧ later = rest ++ mark :: mark :: more := by
    intro later more gap filled behind
    match gap with
    | [] =>
      rw [List.nil_append, List.cons_eq_cons, List.cons_eq_cons] at behind
      exact .inl ⟨rfl, behind.2.2⟩
    | [single] =>
      rw [List.cons_append, List.nil_append, List.cons_eq_cons, List.cons_eq_cons] at behind
      obtain ⟨head, opens, different⟩ := filled
      rw [behind.2.2, List.head?_cons, Option.mem_some_iff] at opens
      exact absurd opens.symm different
    | first :: second :: rest =>
      rw [List.cons_append, List.cons_append, List.cons_eq_cons, List.cons_eq_cons] at behind
      exact .inr ⟨rest, by rw [← behind.1, ← behind.2.1], behind.2.2⟩
  rw [List.append_eq_append_iff] at same
  rcases same with ⟨gap, longer, behind⟩ | ⟨gap, longer, behind⟩
  · rcases takes filled behind with ⟨rfl, equal⟩ | ⟨rest, rfl, equal⟩
    · exact .inl ⟨by rw [longer, List.append_nil], equal⟩
    · exact .inr (.inl ⟨rest, longer, equal⟩)
  · rcases takes given behind with ⟨rfl, equal⟩ | ⟨rest, rfl, equal⟩
    · exact .inl ⟨by rw [longer, List.append_nil], equal.symm⟩
    · exact .inr (.inr ⟨rest, longer, equal⟩)

end Tasklite.Library.Segments
