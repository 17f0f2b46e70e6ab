import Tasklite.Library.PrefixCode
import Tasklite.Utils.Encoding

/-! File names of uids. The replacements run one after another over the whole text. No replacement writes a
character that a later one looks for, so every character of the uid meets exactly one of them. -/

namespace Tasklite.Utils.FileNames
open Tasklite.Library Encoding

/-- The replacements in the order in which they run. -/
def replacements : List (Char × String) := ('%', "%25") :: fsEscapeChars

/-- What a table of replacements makes of a character that meets only one of them. -/
def replaced (table : List (Char × String)) (c : Char) : List Char :=
  (table.lookup c).elim [c] String.toList

/-- One character in a file name. -/
def fsEscape (c : Char) : List Char := replaced replacements c

/-- The lock of a uid: a file of its name in the directory of the pipes. -/
def lockPath (ipcDir jobUid : String) : String × String := (ipcDir, encodeJobUidFilename jobUid ++ ".lock")

section Table

theorem replaced_of_not_mem {table : List (Char × String)} {c : Char} (foreign : ∀ escape ∈ table, escape.1 ≠ c) :
    replaced table c = [c] := by
  have absent : table.lookup c = none := by
    rw [List.lookup_eq_none_iff]
    intro escape member
    rw [bne_iff_ne]
    exact (foreign escape member).symm
  rw [replaced, absent]
  rfl

theorem replaced_cases (table : List (Char × String)) (c : Char) :
    (replaced table c = [c] ∧ ∀ escape ∈ table, escape.1 ≠ c) ∨
      ∃ escape ∈ table, escape.1 = c ∧ replaced table c = escape.2.toList := by
  induction table with
  | nil => exact Or.inl ⟨rfl, by simp⟩
  | cons first rest ih =>
    by_cases same : first.1 = c
    · right
      refine ⟨first, List.mem_cons_self, same, ?_⟩
      rw [replaced, List.lookup_cons, ← same]
      simp
    · have skip : replaced (first :: rest) c = replaced rest c := by
        rw [replaced, List.lookup_cons, beq_eq_false_iff_ne.mpr (Ne.symm same)]
        rfl
      rw [skip]
      rcases ih with ⟨plain, foreign⟩ | ⟨escape, member, key, escaped⟩
      · left
        refine ⟨plain, fun escape member => ?_⟩
        rcases List.mem_cons.mp member with rfl | member
        · exact same
        · exact foreign escape member
      · exact Or.inr ⟨escape, List.mem_cons_of_mem _ member, key, escaped⟩

/-- One replacement after another is one pass, when none writes what a later one looks for. -/
theorem foldl_replaceChar {table : List (Char × String)}
    (blind : table.Pairwise fun early late => late.1 ∉ early.2.toList) (text : List Char) :
    table.foldl (fun text escape => replaceChar escape.1 escape.2 text) text = text.flatMap (replaced table) := by
  induction table generalizing text with
  | nil => exact (List.flatMap_singleton' text).symm
  | cons first rest ih =>
    rw [List.foldl_cons, ih blind.of_cons, replaceChar, List.flatMap_assoc]
    apply List.flatMap_congr
    intro c _
    by_cases same : c = first.1
    · have untouched : ∀ letters : List Char, (∀ letter ∈ letters, ∀ escape ∈ rest, escape.1 ≠ letter) →
          letters.flatMap (replaced rest) = letters := by
        intro letters foreign
        calc letters.flatMap (replaced rest) = letters.flatMap (fun letter => [letter]) :=
              List.flatMap_congr fun letter member => replaced_of_not_mem (foreign letter member)
          _ = letters := List.flatMap_singleton' letters
      rw [if_pos same, untouched, replaced, List.lookup_cons, same]
      · simp
      · intro letter member escape later equal
        exact List.rel_of_pairwise_cons blind later (equal ▸ member)
    · rw [if_neg same, List.flatMap_singleton, replaced, replaced, List.lookup_cons,
        beq_eq_false_iff_ne.mpr same]

end Table

section Names

theorem encodeJobUidFilename_eq (jobUid : String) :
    encodeJobUidFilename jobUid = String.ofList (jobUid.toList.flatMap fsEscape) := by
  have blind : replacements.Pairwise fun early late => late.1 ∉ early.2.toList := by decide
  rw [encodeJobUidFilename]
  exact congrArg String.ofList (foldl_replaceChar blind jobUid.toList)

theorem toList_encodeJobUidFilename (jobUid : String) :
    (encodeJobUidFilename jobUid).toList = jobUid.toList.flatMap fsEscape := by
  rw [encodeJobUidFilename_eq, String.toList_ofList]

/-- Every escape opens with a percent sign, and the characters behind it are kept as they are. -/
theorem escape_shape : ∀ escape ∈ replacements, escape.2.toList.head? = some '%' ∧
    (∀ c ∈ escape.2.toList.tail, fsEscape c = [c]) := by
  have shaped : (replacements.all fun escape => escape.2.toList.head? == some '%' &&
      escape.2.toList.tail.all fun c => fsEscape c == [c]) = true := by decide
  simpa using shaped

theorem fsEscape_cases (c : Char) :
    (fsEscape c = [c] ∧ ∀ escape ∈ replacements, escape.1 ≠ c) ∨
      ∃ escape ∈ replacements, escape.1 = c ∧ fsEscape c = escape.2.toList := replaced_cases replacements c

theorem prefixCode_fsEscape : PrefixCode fsEscape where
  nonempty c none := by
    rcases fsEscape_cases c with ⟨plain, -⟩ | ⟨escape, member, -, escaped⟩
    · rw [plain] at none
      cases none
    · have opens := (escape_shape escape member).1
      rw [← escaped, none] at opens
      cases opens
  separate first second opens := by
    have distinct : ∀ escape ∈ replacements, ∀ other ∈ replacements,
        escape.2.toList.isPrefixOf other.2.toList → escape.1 = other.1 := by decide
    have length : ∀ escape ∈ replacements, escape.2.toList.length = 3 := by decide
    have percent : ∃ escape ∈ replacements, escape.1 = '%' := ⟨('%', "%25"), by decide⟩
    rcases fsEscape_cases first with ⟨plain, foreign⟩ | ⟨escape, member, key, escaped⟩ <;>
      rcases fsEscape_cases second with ⟨plain', foreign'⟩ | ⟨other, member', key', escaped'⟩
    · rw [plain, plain'] at opens
      exact (List.cons_prefix_cons.mp opens).1
    · -- a kept character is not the percent sign of an escape
      rw [plain, escaped'] at opens
      have front := (escape_shape other member').1
      obtain ⟨rest, split⟩ := opens
      rw [← split, List.cons_append, List.head?_cons, Option.some.injEq] at front
      obtain ⟨escape, member, key⟩ := percent
      exact absurd (key.trans front.symm) (foreign escape member)
    · rw [escaped, plain'] at opens
      have long := opens.length_le
      rw [length escape member] at long
      simp at long
    · rw [escaped, escaped'] at opens
      rw [← key, ← key']
      exact distinct escape member other member' (List.isPrefixOf_iff_prefix.mpr opens)

theorem encodeJobUidFilename_injective : Function.Injective encodeJobUidFilename := by
  intro left right same
  have letters : left.toList.flatMap fsEscape = right.toList.flatMap fsEscape := by
    rw [← toList_encodeJobUidFilename, ← toList_encodeJobUidFilename, same]
  exact String.toList_injective (prefixCode_fsEscape.flatMap_injective letters)

/-- No reserved character is left in a file name. -/
theorem not_reserved {jobUid : String} {c : Char} (member : c ∈ (encodeJobUidFilename jobUid).toList) :
    c ∉ fsEscapeChars.map Prod.fst := by
  have clean : ∀ escape ∈ replacements, ∀ c ∈ escape.2.toList, c ∉ fsEscapeChars.map Prod.fst := by
    have cleared : (replacements.all fun escape => escape.2.toList.all fun c =>
        !(fsEscapeChars.map Prod.fst).contains c) = true := by decide
    intro escape listed c member reserved
    have apart := List.all_eq_true.mp (List.all_eq_true.mp cleared escape listed) c member
    rw [List.contains_iff_mem.mpr reserved] at apart
    cases apart
  rw [toList_encodeJobUidFilename, List.mem_flatMap] at member
  obtain ⟨source, -, member⟩ := member
  rcases fsEscape_cases source with ⟨plain, foreign⟩ | ⟨escape, entry, -, escaped⟩
  · rw [plain, List.mem_singleton] at member
    subst member
    intro reserved
    obtain ⟨escape, entry, key⟩ := List.mem_map.mp reserved
    exact foreign escape (List.mem_cons_of_mem _ entry) key
  · exact clean escape entry c (escaped ▸ member)

/-- A percent sign in a file name opens an escape. -/
theorem percent_opens {jobUid : String} {before after : List Char}
    (split : (encodeJobUidFilename jobUid).toList = before ++ '%' :: after) :
    ∃ escape ∈ replacements, escape.2.toList <+: '%' :: after := by
  have tails : ∀ escape ∈ replacements, '%' ∉ escape.2.toList.tail := by decide
  rw [toList_encodeJobUidFilename] at split
  have front : ∀ c ∈ jobUid.toList, '%' ∉ (fsEscape c).tail := by
    intro c _
    rcases fsEscape_cases c with ⟨plain, -⟩ | ⟨escape, member, -, escaped⟩
    · simp [plain]
    · rw [escaped]
      exact tails escape member
  obtain ⟨left, c, right, -, -, behind, -⟩ := flatMap_split_at_front front split
  rcases fsEscape_cases c with ⟨plain, foreign⟩ | ⟨escape, member, -, escaped⟩
  · rw [plain, List.singleton_append, List.cons.injEq] at behind
    exact absurd behind.1 (foreign ('%', "%25") List.mem_cons_self)
  · refine ⟨escape, member, ?_⟩
    rw [behind, escaped]
    exact List.prefix_append _ _

/-- The names are those of one pass, distinct for distinct uids, and free of reserved characters; so are the
locks, which are files of one directory. -/
theorem lock_names_distinct :
    (∀ jobUid, encodeJobUidFilename jobUid = String.ofList (jobUid.toList.flatMap fsEscape)) ∧
      Function.Injective encodeJobUidFilename ∧
      (∀ jobUid, ∀ c ∈ (encodeJobUidFilename jobUid).toList,
        c ∉ ['/', '\\', '\x00', '*', '?', '[', ']', ':']) ∧
      (∀ jobUid before after, (encodeJobUidFilename jobUid).toList = before ++ '%' :: after →
        ∃ escape ∈ ('%', "%25") :: fsEscapeChars, escape.2.toList <+: '%' :: after) ∧
      (∀ ipcDir, Function.Injective (lockPath ipcDir)) := by
  refine ⟨encodeJobUidFilename_eq, encodeJobUidFilename_injective, fun _ _ => not_reserved,
    fun _ _ _ => percent_opens, fun ipcDir left right same => ?_⟩
  rw [lockPath, lockPath, Prod.mk.injEq] at same
  have names := same.2
  rw [← String.toList_inj, String.toList_append, String.toList_append, List.append_cancel_right_eq,
    String.toList_inj] at names
  exact encodeJobUidFilename_injective names

end Names

end Tasklite.Utils.FileNames
