import Mathlib.Data.List.Infix
import Mathlib.Logic.Function.Basic

/-! Codes that send every letter to a word such that no word opens another. A text is read back from
its code word by word, so one text opens another when its code does. -/

namespace Tasklite.Library

/-- No word is empty, and no word opens the word of another letter. -/
structure PrefixCode {α β : Type} (word : α → List β) : Prop where
  nonempty : ∀ letter, word letter ≠ []
  separate : ∀ first second, word first <+: word second → first = second

namespace PrefixCode

variable {α β γ : Type} {word : α → List β}

/-- Two codes that open alike open with the same letter. -/
theorem head_eq (code : PrefixCode word) {first second : α} {rest more : List β}
    (opens : word first ++ rest <+: word second ++ more) : first = second := by
  have left : word first <+: word second ++ more := (List.prefix_append _ _).trans opens
  have right : word second <+: word second ++ more := List.prefix_append _ _
  cases List.prefix_or_prefix_of_prefix left right with
  | inl opens => exact code.separate first second opens
  | inr opens => exact (code.separate second first opens).symm

/-- One text opens another exactly when its code does. -/
theorem flatMap_prefix_iff (code : PrefixCode word) {left right : List α} :
    left.flatMap word <+: right.flatMap word ↔ left <+: right := by
  constructor
  · intro opens
    induction left generalizing right with
    | nil => exact List.nil_prefix
    | cons first rest ih =>
      cases right with
      | nil =>
        rw [List.flatMap_cons, List.flatMap_nil, List.prefix_nil, List.append_eq_nil_iff] at opens
        exact absurd opens.1 (code.nonempty first)
      | cons second more =>
        rw [List.flatMap_cons, List.flatMap_cons] at opens
        have same : first = second := code.head_eq opens
        subst same
        rw [List.prefix_append_right_inj] at opens
        exact (List.prefix_cons_inj first).mpr (ih opens)
  · rintro ⟨rest, rfl⟩
    rw [List.flatMap_append]
    exact List.prefix_append _ _

theorem flatMap_injective (code : PrefixCode word) : Function.Injective (List.flatMap word) := by
  intro left right same
  have there : left <+: right := code.flatMap_prefix_iff.mp (same ▸ List.prefix_rfl)
  have back : right <+: left := code.flatMap_prefix_iff.mp (same ▸ List.prefix_rfl)
  exact there.eq_of_length_le back.length_le

/-- A prefix code whose words are coded in turn is one. -/
theorem comp (code : PrefixCode word) {deep : β → List γ} (inner : PrefixCode deep) :
    PrefixCode (fun letter => (word letter).flatMap deep) where
  nonempty letter none := by
    rw [List.flatMap_eq_nil_iff] at none
    obtain ⟨first, member⟩ := List.exists_mem_of_ne_nil _ (code.nonempty letter)
    exact inner.nonempty first (none first member)
  separate first second opens := code.separate first second (inner.flatMap_prefix_iff.mp opens)

/-- Words that are read off the front of any text are a prefix code. -/
theorem of_read {read : List β → Option α} (nonempty : ∀ letter, word letter ≠ [])
    (reads : ∀ letter rest, read (word letter ++ rest) = some letter) : PrefixCode word where
  nonempty := nonempty
  separate first second opens := by
    obtain ⟨rest, split⟩ := opens
    have left := reads first rest
    have right := reads second []
    rw [List.append_nil, ← split, left] at right
    exact Option.some.inj right

/-- What follows a word is determined with it. -/
theorem split_eq (code : PrefixCode word) {first second : α} {rest more : List β}
    (same : word first ++ rest = word second ++ more) : first = second ∧ rest = more := by
  have opens : word first ++ rest <+: word second ++ more := by rw [same]
  have letters : first = second := code.head_eq opens
  subst letters
  exact ⟨rfl, List.append_cancel_left same⟩

/-- Words of two codes, one after the other between brackets. -/
theorem pair (code : PrefixCode word) {δ : Type} {other : δ → List β} (partner : PrefixCode other)
    (opening between closing : List β) :
    PrefixCode fun letters : α × δ => opening ++ word letters.1 ++ between ++ other letters.2 ++ closing where
  nonempty letters none := by
    simp only [List.append_eq_nil_iff] at none
    exact code.nonempty letters.1 none.1.1.1.2
  separate first second opens := by
    obtain ⟨rest, split⟩ := opens
    simp only [List.append_assoc] at split
    obtain ⟨front, later⟩ := code.split_eq (List.append_cancel_left split)
    obtain ⟨back, -⟩ := partner.split_eq (List.append_cancel_left later)
    exact Prod.ext front back

/-- Words between separators are read back, as long as the separator is not empty. -/
theorem intercalate_injective (code : PrefixCode word) {separator : List β} (visible : separator ≠ []) :
    Function.Injective fun letters : List α => separator.intercalate (letters.map word) := by
  have longer : ∀ first second others, separator.intercalate ((first :: second :: others).map word) =
      word first ++ (separator ++ separator.intercalate ((second :: others).map word)) := by
    intro first second others
    simp [List.intercalate]
  have single : ∀ first, separator.intercalate ([first].map word) = word first ++ [] := by
    intro first
    simp [List.intercalate]
  have filled : ∀ first others, separator.intercalate ((first :: others).map word) ≠ [] := by
    intro first others none
    cases others with
    | nil => exact code.nonempty first (by rw [single, List.append_nil] at none; exact none)
    | cons second others =>
      rw [longer, List.append_eq_nil_iff] at none
      exact code.nonempty first none.1
  intro left
  induction left with
  | nil =>
    intro right same
    cases right with
    | nil => rfl
    | cons first others => exact absurd same.symm (filled first others)
  | cons first rest ih =>
    intro right same
    cases right with
    | nil => exact absurd same (filled first rest)
    | cons other more =>
      dsimp only at same
      cases rest with
      | nil =>
        cases more with
        | nil =>
          rw [single, single] at same
          rw [(code.split_eq same).1]
        | cons second others =>
          rw [single, longer] at same
          exact absurd (List.append_eq_nil_iff.mp (code.split_eq same).2.symm).1 visible
      | cons second others =>
        cases more with
        | nil =>
          rw [single, longer] at same
          exact absurd (List.append_eq_nil_iff.mp (code.split_eq same).2).1 visible
        | cons third further =>
          rw [longer, longer] at same
          obtain ⟨front, later⟩ := code.split_eq same
          rw [front, ih (List.append_cancel_left later)]

/-- Words that end in a letter which does not occur before. -/
theorem terminated (mark : β) : PrefixCode fun text : {letters : List β // mark ∉ letters} => text.1 ++ [mark] where
  nonempty text none := by simp at none
  separate first second opens := by
    obtain ⟨first, unmarked⟩ := first
    obtain ⟨second, absent⟩ := second
    obtain ⟨rest, split⟩ := opens
    dsimp only at split
    rw [List.append_assoc, List.singleton_append] at split
    have same : first = second := by
      rw [List.append_eq_append_iff] at split
      rcases split with ⟨gap, longer, behind⟩ | ⟨gap, longer, behind⟩
      · cases gap with
        | nil => rw [longer, List.append_nil]
        | cons head tail =>
          rw [List.cons_append, List.cons_eq_cons] at behind
          have inside : mark ∈ second := by simp [longer, behind.1]
          exact absurd inside absent
      · cases gap with
        | nil => rw [longer, List.append_nil]
        | cons head tail =>
          rw [List.cons_append, List.cons_eq_cons] at behind
          have inside : mark ∈ first := by simp [longer, behind.1]
          exact absurd inside unmarked
    subst same
    rfl

end PrefixCode

/-- Where a letter stands in no word but at its front, a word of the code begins wherever it occurs. -/
theorem flatMap_split_at_front {α β : Type} {word : α → List β} {mark : β} {text : List α}
    (front : ∀ letter ∈ text, mark ∉ (word letter).tail) {before after : List β}
    (split : text.flatMap word = before ++ mark :: after) :
    ∃ left letter right, text = left ++ letter :: right ∧ before = left.flatMap word ∧
      mark :: after = word letter ++ right.flatMap word ∧ word letter ≠ [] := by
  induction text generalizing before with
  | nil => simp at split
  | cons first rest ih =>
    have later : ∀ gap, before = word first ++ gap → rest.flatMap word = gap ++ mark :: after →
        ∃ left letter right, first :: rest = left ++ letter :: right ∧ before = left.flatMap word ∧
          mark :: after = word letter ++ right.flatMap word ∧ word letter ≠ [] := by
      intro gap opens behind
      obtain ⟨left, letter, right, texts, befores, afters, filled⟩ :=
        ih (fun letter member => front letter (List.mem_cons_of_mem _ member)) behind
      exact ⟨first :: left, letter, right, by rw [texts, List.cons_append],
        by rw [opens, befores, List.flatMap_cons], afters, filled⟩
    rw [List.flatMap_cons, List.append_eq_append_iff] at split
    rcases split with ⟨gap, opens, behind⟩ | ⟨more, inside, behind⟩
    · exact later gap opens behind
    · cases more with
      | nil => exact later [] (by rw [inside, List.append_nil, List.append_nil]) behind.symm
      | cons head tail =>
        rw [List.cons_append] at behind
        obtain ⟨rfl, afters⟩ := List.cons_eq_cons.mp behind
        cases before with
        | nil =>
          rw [List.nil_append] at inside
          refine ⟨[], first, rest, rfl, rfl, ?_, by simp [inside]⟩
          rw [inside, List.cons_append, afters]
        | cons head before =>
          have member : mark ∈ (word first).tail := by simp [inside]
          exact absurd member (front first List.mem_cons_self)

end Tasklite.Library
