import Mathlib.Data.List.Chain
import Mathlib.Logic.Relation
import Mathlib.Order.RelClasses
import Tasklite.Library.Graph

/-! What the depth-first search finds. Its path is a walk in the graph and its grey nodes
are those on the path, so what it collects lies on cycles; nodes that are left behind
without a cycle are well-founded, so an empty result means that there is none. The loop
over an explicit stack does what the recursive search does. -/

namespace Tasklite.Library.Graph

variable {α : Type*} [DecidableEq α] (nodes : List α) (successors : α → List α)

/-- An edge of the graph that the nodes span. -/
def Follows (node next : α) : Prop := node ∈ nodes ∧ next ∈ nodes ∧ next ∈ successors node

def OnCycle (node : α) : Prop := Relation.TransGen (Follows nodes successors) node node

variable {nodes successors} {walk : Walk α}

section Path

/-- The path leads along edges, holds what is grey, each node once, and what has been collected lies on cycles. -/
structure Pathed (nodes : List α) (successors : α → List α) (walk : Walk α) : Prop where
  inside : ∀ frame ∈ walk.frames, frame.1 ∈ nodes
  ahead : ∀ frame ∈ walk.frames, ∀ next ∈ frame.2, next ∈ successors frame.1
  chain : (walk.frames.map Prod.fst).IsChain fun node parent => Follows nodes successors parent node
  grey : ∀ node, walk.colour node = .grey ↔ node ∈ walk.frames.map Prod.fst
  distinct : (walk.frames.map Prod.fst).Nodup
  cycles : ∀ node ∈ walk.cycles, OnCycle nodes successors node

omit [DecidableEq α] in
theorem pathed_start : Pathed nodes successors (⟨[], fun _ => .white, []⟩ : Walk α) :=
  ⟨by simp, by simp, by simp, by simp, by simp, by simp⟩

omit [DecidableEq α] in
theorem reached_along {edge : α → α → Prop} {first : α} {rest : List α} (chain : (first :: rest).IsChain edge) :
    ∀ node ∈ first :: rest, Relation.ReflTransGen edge first node := by
  induction rest generalizing first with
  | nil =>
    intro node member
    rw [List.mem_singleton.mp member]
  | cons second others ih =>
    rw [List.isChain_cons_cons] at chain
    intro node member
    rcases List.mem_cons.mp member with rfl | later
    · exact Relation.ReflTransGen.refl
    · exact (ih chain.2 node later).head chain.1

theorem dropWhile_met {path : List α} {next : α} (met : next ∈ path) :
    ∃ rest, path.dropWhile (· ≠ next) = next :: rest := by
  induction path with
  | nil => cases met
  | cons first rest ih =>
    by_cases here : first = next
    · exact ⟨rest, by simp [here]⟩
    · obtain ⟨found, same⟩ := ih (by simpa [Ne.symm here] using met)
      exact ⟨found, by simpa [here] using same⟩

/-- What an edge back to a node of the path closes. -/
theorem onCycle_of_closed {path : List α} {last next : α}
    (chain : (last :: path).IsChain fun node parent => Follows nodes successors parent node)
    (edge : Follows nodes successors last next) (met : next ∈ last :: path) {node : α}
    (member : node ∈ (last :: path).reverse.dropWhile (· ≠ next)) : OnCycle nodes successors node := by
  have forward : (last :: path).reverse.IsChain (Follows nodes successors) := List.isChain_reverse.mpr chain
  obtain ⟨rest, closed⟩ := dropWhile_met (List.mem_reverse.mpr met)
  have part := forward.suffix (List.dropWhile_suffix fun other => decide (other ≠ next))
  have onPath : node ∈ last :: path := List.mem_reverse.mp ((List.dropWhile_suffix _).subset member)
  rw [closed] at part member
  have toNode : Relation.ReflTransGen (Follows nodes successors) next node := reached_along part node member
  have toLast : Relation.ReflTransGen (Follows nodes successors) node last := by
    rw [← Relation.reflTransGen_swap]
    exact reached_along chain node onPath
  exact Relation.TransGen.trans_left (Relation.TransGen.tail' toLast edge) toNode

theorem update_grey_iff {colour : α → Colour} {path : List α} {next : α}
    (grey : ∀ node, colour node = .grey ↔ node ∈ path) (node : α) :
    Function.update colour next .grey node = .grey ↔ node ∈ next :: path := by
  by_cases same : node = next
  · simp [same]
  · simp [same, grey]

theorem update_black_iff {colour : α → Colour} {path : List α} {last : α}
    (grey : ∀ node, colour node = .grey ↔ node ∈ last :: path) (absent : last ∉ path) (node : α) :
    Function.update colour last .black node = .grey ↔ node ∈ path := by
  by_cases same : node = last
  · simp [same, absent]
  · simp [same, grey]

theorem update_ne_white {colour : α → Colour} {node other : α} {shade : Colour} (dark : shade ≠ .white)
    (visited : colour other ≠ .white) : Function.update colour node shade other ≠ .white := by
  by_cases same : other = node
  · simpa [same] using dark
  · simpa [same] using visited

theorem update_grey_black_iff {colour : α → Colour} {node : α} (white : colour node = .white) (other : α) :
    Function.update colour node .grey other = .black ↔ colour other = .black := by
  by_cases same : other = node
  · simp [same, white]
  · simp [same]

/-- What the end of the path closes with a grey successor is a part of the path. -/
theorem closedPart_of_mem {frames : List (α × List α)} {next : α} (met : next ∈ frames.map Prod.fst) :
    closedPart frames next = (frames.map Prod.fst).reverse.dropWhile (· ≠ next) := by
  unfold closedPart
  exact if_pos (List.mem_reverse.mpr met)

theorem pathed_advance (pathed : Pathed nodes successors walk) :
    Pathed nodes successors (advance nodes successors walk) := by
  obtain ⟨inside, ahead, chain, grey, distinct, cycles⟩ := pathed
  unfold advance
  split
  · exact ⟨inside, ahead, chain, grey, distinct, cycles⟩
  · rename_i node frames shape
    rw [shape] at inside ahead chain grey distinct
    rw [List.map_cons, List.nodup_cons] at distinct
    refine ⟨fun frame member => inside frame (List.mem_cons_of_mem _ member),
      fun frame member => ahead frame (List.mem_cons_of_mem _ member), chain.tail,
      update_black_iff grey distinct.1, distinct.2, cycles⟩
  · rename_i node next rest frames shape
    rw [shape] at inside ahead chain grey distinct
    have stays : ∀ frame ∈ (node, rest) :: frames, frame.1 ∈ nodes := by
      intro frame member
      rcases List.mem_cons.mp member with rfl | deeper
      · exact inside (node, next :: rest) List.mem_cons_self
      · exact inside frame (List.mem_cons_of_mem _ deeper)
    have further : ∀ frame ∈ (node, rest) :: frames, ∀ other ∈ frame.2, other ∈ successors frame.1 := by
      intro frame member other left
      rcases List.mem_cons.mp member with rfl | deeper
      · exact ahead (node, next :: rest) List.mem_cons_self other (List.mem_cons_of_mem _ left)
      · exact ahead frame (List.mem_cons_of_mem _ deeper) other left
    split
    · exact ⟨stays, further, chain, grey, distinct, cycles⟩
    · rename_i within
      rw [not_not] at within
      have edge : Follows nodes successors node next := ⟨inside (node, next :: rest) List.mem_cons_self, within,
        ahead (node, next :: rest) List.mem_cons_self next List.mem_cons_self⟩
      split
      · rename_i colour
        have met := (grey next).mp colour
        refine ⟨stays, further, chain, grey, distinct, fun other member => ?_⟩
        rw [shape, closedPart_of_mem met] at member
        rcases List.mem_append.mp member with earlier | last
        · rcases List.mem_append.mp earlier with old | closed
          · exact cycles other old
          · exact onCycle_of_closed chain edge met closed
        · rw [List.mem_singleton.mp last]
          obtain ⟨others, begins⟩ := dropWhile_met (List.mem_reverse.mpr met)
          exact onCycle_of_closed chain edge met (begins ▸ List.mem_cons_self)
      · rename_i colour
        have fresh : next ∉ node :: frames.map Prod.fst := by
          intro met
          rw [(grey next).mpr met] at colour
          cases colour
        refine ⟨fun frame member => ?_, fun frame member => ?_, ?_, update_grey_iff grey,
          List.nodup_cons.mpr ⟨fresh, distinct⟩, cycles⟩
        · rcases List.mem_cons.mp member with rfl | deeper
          · exact within
          · exact stays frame deeper
        · rcases List.mem_cons.mp member with rfl | deeper
          · exact fun other left => left
          · exact further frame deeper
        · exact List.isChain_cons_cons.mpr ⟨edge, chain⟩
      · exact ⟨stays, further, chain, grey, distinct, cycles⟩

/-- A search is opened at a node that has not been visited. -/
def opened (successors : α → List α) (walk : Walk α) (root : α) : Walk α := { walk with
  frames := [(root, successors root)]
  colour := Function.update walk.colour root .grey }

theorem pathed_opened (pathed : Pathed nodes successors walk) (closed : walk.frames = []) {root : α}
    (member : root ∈ nodes) : Pathed nodes successors (opened successors walk root) := by
  have grey := pathed.grey
  rw [closed] at grey
  refine ⟨?_, ?_, List.isChain_singleton root, update_grey_iff grey, List.nodup_singleton root, pathed.cycles⟩
  · intro frame only
    rw [List.mem_singleton.mp only]
    exact member
  · intro frame only next left
    rw [List.mem_singleton.mp only] at left ⊢
    exact left

end Path

section Finish

/-- A round uses up one unit of work, as long as the path is not empty. -/
theorem work_advance (pathed : Pathed nodes successors walk) (going : walk.frames ≠ []) :
    remainingWork nodes successors (advance nodes successors walk) + 1 =
      remainingWork nodes successors walk := by
  unfold advance
  split
  · exact absurd ‹_› going
  · rename_i node frames shape
    have grey : walk.colour node = .grey := (pathed.grey node).mpr (by simp [shape])
    have unvisited : nodes.toFinset.filter
        (fun other => Function.update walk.colour node .black other = .white) =
        nodes.toFinset.filter fun other => walk.colour other = .white := by
      apply Finset.filter_congr
      intro other _
      by_cases same : other = node
      · simp [same, grey]
      · simp [same]
    simp only [remainingWork, unvisited, shape, List.map_cons, List.sum_cons, List.length_nil]
    omega
  · rename_i node next rest frames shape
    split
    · exact work_pass shape
    · rename_i within
      rw [not_not] at within
      split
      · exact work_pass shape
      · exact work_visit shape within ‹_›
      · exact work_pass shape

theorem iterate_closed (closed : walk.frames = []) (count : ℕ) : (advance nodes successors)^[count] walk = walk := by
  apply Function.iterate_fixed
  unfold advance
  rw [closed]

theorem pathed_iterate (pathed : Pathed nodes successors walk) (count : ℕ) :
    Pathed nodes successors ((advance nodes successors)^[count] walk) :=
  Function.Iterate.rec (Pathed nodes successors) pathed (fun _ => pathed_advance) count

/-- With a round for every unit of work the search comes to its end. -/
theorem frames_of_iterate (pathed : Pathed nodes successors walk) {count : ℕ}
    (enough : remainingWork nodes successors walk ≤ count) :
    ((advance nodes successors)^[count] walk).frames = [] := by
  induction count generalizing walk with
  | zero =>
    by_contra going
    have less := work_advance pathed going
    omega
  | succ count ih =>
    by_cases going : walk.frames = []
    · rw [iterate_closed going]
      exact going
    · have less := work_advance pathed going
      rw [Function.iterate_succ_apply]
      exact ih (pathed_advance pathed) (by omega)

theorem work_opened {root : α} (member : root ∈ nodes) :
    remainingWork nodes successors (opened successors walk root) ≤ rounds nodes successors := by
  have visited : nodes.toFinset.filter (fun node => (opened successors walk root).colour node = .white) ⊆
      nodes.toFinset.erase root := by
    intro node white
    rw [Finset.mem_filter] at white
    refine Finset.mem_erase.mpr ⟨fun same => ?_, white.1⟩
    simp [same, opened] at white
  have fewer : ∑ node ∈ nodes.toFinset with (opened successors walk root).colour node = .white,
      ((successors node).length + 1) ≤ ∑ node ∈ nodes.toFinset.erase root, ((successors node).length + 1) :=
    Finset.sum_le_sum_of_subset visited
  have whole := Finset.add_sum_erase _ (fun node => (successors node).length + 1) (List.mem_toFinset.mpr member)
  have path : ((opened successors walk root).frames.map fun frame => frame.2.length + 1).sum =
      (successors root).length + 1 := by simp [opened]
  unfold remainingWork rounds
  rw [path]
  omega

/-- Every search from a root ends, and the path is empty again. -/
theorem pathed_explore (pathed : Pathed nodes successors walk) (closed : walk.frames = []) {root : α}
    (member : root ∈ nodes) : Pathed nodes successors (explore nodes successors walk root) ∧
      (explore nodes successors walk root).frames = [] := by
  unfold explore
  split
  · have start := pathed_opened pathed closed member
    exact ⟨pathed_iterate start _, frames_of_iterate start (work_opened member)⟩
  · exact ⟨pathed, closed⟩

theorem pathed_foldl {roots : List α} (inside : ∀ root ∈ roots, root ∈ nodes)
    (pathed : Pathed nodes successors walk) (closed : walk.frames = []) :
    Pathed nodes successors (roots.foldl (explore nodes successors) walk) ∧
      (roots.foldl (explore nodes successors) walk).frames = [] := by
  induction roots generalizing walk with
  | nil => exact ⟨pathed, closed⟩
  | cons root rest ih =>
    rw [List.forall_mem_cons] at inside
    obtain ⟨next, ended⟩ := pathed_explore pathed closed inside.1
    exact ih inside.2 next ended

/-- Everything that is found lies on a cycle. -/
theorem onCycle_of_findCycles {node : α} (found : node ∈ findCycles nodes successors) :
    OnCycle nodes successors node :=
  (pathed_foldl (fun _ member => member) pathed_start rfl).1.cycles node found

end Finish

section Order

/-- Each successor of a node of the path is still ahead, has been left behind, or is next on the path. -/
def Passed (nodes : List α) (successors : α → List α) (colour : α → Colour) : Option α → List (α × List α) → Prop
  | _, [] => True
  | above, (node, rest) :: frames =>
      (∀ next ∈ successors node, next ∈ nodes → next ∈ rest ∨ colour next = .black ∨ above = some next) ∧
        Passed nodes successors colour (some node) frames

/-- Nodes that were left behind have only finite descents, and the path has passed what it should. -/
structure Sorted (nodes : List α) (successors : α → List α) (walk : Walk α) : Prop where
  black : ∀ node, walk.colour node = .black → Acc (fun next node => Follows nodes successors node next) node
  passed : Passed nodes successors walk.colour none walk.frames

omit [DecidableEq α] in
theorem passed_mono {colour later : α → Colour} (grown : ∀ node, colour node = .black → later node = .black)
    {above : Option α} {frames : List (α × List α)} (passed : Passed nodes successors colour above frames) :
    Passed nodes successors later above frames := by
  induction frames generalizing above with
  | nil => trivial
  | cons frame rest ih =>
    refine ⟨fun next follows inside => ?_, ih passed.2⟩
    rcases passed.1 next follows inside with left | behind | onward
    · exact .inl left
    · exact .inr (.inl (grown next behind))
    · exact .inr (.inr onward)

omit [DecidableEq α] in
/-- The node above has been left behind. -/
theorem passed_pop {colour : α → Colour} {node : α} {frames : List (α × List α)} (behind : colour node = .black)
    (passed : Passed nodes successors colour (some node) frames) : Passed nodes successors colour none frames := by
  cases frames with
  | nil => trivial
  | cons frame rest =>
    refine ⟨fun next follows inside => ?_, passed.2⟩
    rcases passed.1 next follows inside with left | before | onward
    · exact .inl left
    · exact .inr (.inl before)
    · rw [← Option.some.inj onward]
      exact .inr (.inl behind)

theorem sorted_advance (sorted : Sorted nodes successors walk)
    (quiet : (advance nodes successors walk).cycles = []) :
    Sorted nodes successors (advance nodes successors walk) := by
  obtain ⟨black, passed⟩ := sorted
  rcases shape : walk.frames with _ | ⟨⟨node, _ | ⟨next, rest⟩⟩, frames⟩
  · have stays : advance nodes successors walk = walk := iterate_closed shape 1
    rw [stays]
    exact ⟨black, passed⟩
  · have stepped : advance nodes successors walk = { walk with
        frames := frames, colour := Function.update walk.colour node .black } := by simp [advance, shape]
    rw [stepped]
    rw [shape] at passed
    have blackened : ∀ other, walk.colour other = .black →
        Function.update walk.colour node .black other = .black := by
      intro other behind
      by_cases same : other = node
      · simp [same]
      · simp [same, behind]
    have ended : Acc (fun next node => Follows nodes successors node next) node := by
      constructor
      rintro next ⟨-, inside, follows⟩
      rcases passed.1 next follows inside with left | behind | onward
      · cases left
      · exact black next behind
      · cases onward
    refine ⟨fun other behind => ?_, passed_pop (by simp) (passed_mono blackened passed.2)⟩
    by_cases same : other = node
    · exact same ▸ ended
    · exact black other (by simpa [same] using behind)
  · rw [shape] at passed
    have onward : (next ∉ nodes ∨ walk.colour next = .black) →
        Passed nodes successors walk.colour none ((node, rest) :: frames) := by
      intro done
      refine ⟨fun other follows inside => ?_, passed.2⟩
      rcases passed.1 other follows inside with left | behind | above
      · rcases List.mem_cons.mp left with rfl | later
        · exact .inr (.inl (done.resolve_left (not_not.mpr inside)))
        · exact .inl later
      · exact .inr (.inl behind)
      · cases above
    by_cases inside : next ∈ nodes
    · cases colour : walk.colour next with
      | grey => simp [advance, shape, inside, colour] at quiet
      | black =>
        have stepped : advance nodes successors walk = { walk with frames := (node, rest) :: frames } := by
          simp [advance, shape, inside, colour]
        rw [stepped]
        exact ⟨black, onward (.inr colour)⟩
      | white =>
        have stepped : advance nodes successors walk = { walk with
            frames := (next, successors next) :: (node, rest) :: frames
            colour := Function.update walk.colour next .grey } := by
          simp [advance, shape, inside, colour]
        rw [stepped]
        have greyed : ∀ other, walk.colour other = .black →
            Function.update walk.colour next .grey other = .black := by
          intro other behind
          have different : other ≠ next := by
            intro same
            rw [same, colour] at behind
            cases behind
          simp [different, behind]
        refine ⟨fun other behind => black other ?_, fun other follows _ => .inl follows, ?_,
          passed_mono greyed passed.2⟩
        · by_cases same : other = next
          · simp [same] at behind
          · simpa [same] using behind
        · intro other follows within
          rcases passed.1 other follows within with left | behind | above
          · rcases List.mem_cons.mp left with rfl | later
            · exact .inr (.inr rfl)
            · exact .inl later
          · exact .inr (.inl (greyed other behind))
          · cases above
    · have stepped : advance nodes successors walk = { walk with frames := (node, rest) :: frames } := by
        simp [advance, shape, inside]
      rw [stepped]
      exact ⟨black, onward (.inl inside)⟩

theorem sorted_iterate (sorted : Sorted nodes successors walk) {count : ℕ}
    (quiet : ((advance nodes successors)^[count] walk).cycles = []) :
    Sorted nodes successors ((advance nodes successors)^[count] walk) := by
  induction count with
  | zero => exact sorted
  | succ count ih =>
    rw [Function.iterate_succ_apply'] at quiet ⊢
    apply sorted_advance (ih _) quiet
    by_contra found
    exact advance_keeps found quiet

/-- What has been visited stays visited. -/
theorem visited_advance {node : α} (visited : walk.colour node ≠ .white) :
    (advance nodes successors walk).colour node ≠ .white := by
  unfold advance
  split
  · exact visited
  · exact update_ne_white (by decide) visited
  · split
    · exact visited
    · split
      · exact visited
      · exact update_ne_white (by decide) visited
      · exact visited

theorem visited_iterate {node : α} (visited : walk.colour node ≠ .white) (count : ℕ) :
    ((advance nodes successors)^[count] walk).colour node ≠ .white :=
  Function.Iterate.rec (fun walk : Walk α => walk.colour node ≠ .white) visited (fun _ => visited_advance) count

theorem visited_explore {root node : α} (visited : node = root ∨ walk.colour node ≠ .white) :
    (explore nodes successors walk root).colour node ≠ .white := by
  unfold explore
  split
  · apply visited_iterate
    rcases visited with rfl | before
    · simp
    · by_cases same : node = root
      · simp [same]
      · simpa [same] using before
  · rename_i seen
    rcases visited with rfl | before
    · exact seen
    · exact before

theorem sorted_explore {root : α} (sorted : Sorted nodes successors walk)
    (quiet : (explore nodes successors walk root).cycles = []) :
    Sorted nodes successors (explore nodes successors walk root) := by
  unfold explore at quiet ⊢
  split at quiet
  · rename_i white
    rw [if_pos white]
    have start : Sorted nodes successors (opened successors walk root) := by
      refine ⟨fun node behind => sorted.black node ?_, fun next follows _ => .inl follows, trivial⟩
      by_cases same : node = root
      · simp [opened, same] at behind
      · simpa [opened, same] using behind
    exact sorted_iterate start quiet
  · rename_i seen
    rw [if_neg seen]
    exact sorted

/-- A search without a result visits every node and leaves it behind. -/
theorem sorted_foldl {roots : List α} (inside : ∀ root ∈ roots, root ∈ nodes)
    (pathed : Pathed nodes successors walk) (closed : walk.frames = []) (sorted : Sorted nodes successors walk)
    (quiet : (roots.foldl (explore nodes successors) walk).cycles = []) :
    Sorted nodes successors (roots.foldl (explore nodes successors) walk) ∧
      ∀ node, node ∈ roots ∨ walk.colour node ≠ .white →
        (roots.foldl (explore nodes successors) walk).colour node ≠ .white := by
  induction roots generalizing walk with
  | nil => exact ⟨sorted, by simp⟩
  | cons root rest ih =>
    rw [List.forall_mem_cons] at inside
    rw [List.foldl_cons] at quiet ⊢
    obtain ⟨next, ended⟩ := pathed_explore pathed closed inside.1
    have none : (explore nodes successors walk root).cycles = [] := by
      by_contra found
      have kept : ∀ (roots : List α) (walk : Walk α), walk.cycles ≠ [] →
          (roots.foldl (explore nodes successors) walk).cycles ≠ [] := by
        intro roots
        induction roots with
        | nil => exact fun _ found => found
        | cons root others ih => exact fun walk found => ih _ (explore_keeps found)
      exact kept rest _ found quiet
    obtain ⟨finish, visited⟩ := ih inside.2 next ended (sorted_explore sorted none) quiet
    refine ⟨finish, fun node reached => visited node ?_⟩
    rcases reached with listed | before
    · rcases List.mem_cons.mp listed with rfl | later
      · exact .inr (visited_explore (.inl rfl))
      · exact .inl later
    · exact .inr (visited_explore (.inr before))

omit [DecidableEq α] in
theorem not_onCycle_of_acc {node : α}
    (acc : Acc (fun next node => Follows nodes successors node next) node) : ¬ OnCycle nodes successors node := by
  induction acc with
  | intro node _ ih =>
    intro cycle
    obtain ⟨next, edge, rest⟩ := Relation.TransGen.head'_iff.mp cycle
    exact ih next edge (Relation.TransGen.tail' rest edge)

/-- The result is empty exactly when the graph has no cycle. -/
theorem findCycles_eq_nil_iff : findCycles nodes successors = [] ↔ ∀ node, ¬ OnCycle nodes successors node := by
  constructor
  · intro quiet node cycle
    have begins : Pathed nodes successors (⟨[], fun _ => .white, []⟩ : Walk α) := pathed_start
    have start : Sorted nodes successors (⟨[], fun _ => .white, []⟩ : Walk α) := by
      refine ⟨fun node behind => ?_, trivial⟩
      cases behind
    obtain ⟨pathed, closed⟩ := pathed_foldl (fun root (member : root ∈ nodes) => member) begins rfl
    obtain ⟨sorted, visited⟩ := sorted_foldl (fun root (member : root ∈ nodes) => member) begins rfl start
      quiet
    have inside : node ∈ nodes := by
      obtain ⟨next, edge, -⟩ := Relation.TransGen.head'_iff.mp cycle
      exact edge.1
    refine not_onCycle_of_acc (sorted.black node ?_) cycle
    cases colour : (nodes.foldl (explore nodes successors) ⟨[], fun _ => .white, []⟩).colour node with
    | black => rfl
    | white => exact absurd colour (visited node (.inl inside))
    | grey =>
      have onPath := (pathed.grey node).mp colour
      rw [closed] at onPath
      cases onPath
  · intro acyclic
    by_contra found
    obtain ⟨node, member⟩ := List.exists_mem_of_ne_nil _ found
    exact acyclic node (onCycle_of_findCycles member)

end Order

section Recursion

/-- What one call of the recursive search hands on to the next. -/
structure Findings (α : Type*) where
  colour : α → Colour
  cycles : List α

def Walk.findings (walk : Walk α) : Findings α := ⟨walk.colour, walk.cycles⟩

/-- The search over a stack with these findings so far. -/
def Findings.along (found : Findings α) (frames : List (α × List α)) : Walk α :=
  ⟨frames, found.colour, found.cycles⟩

def Findings.enter (found : Findings α) (node : α) : Findings α :=
  { found with colour := Function.update found.colour node .grey }

def Findings.leave (found : Findings α) (node : α) : Findings α :=
  { found with colour := Function.update found.colour node .black }

/-- A node's turn in the loop over the successors of the node that `path` ends with, nearest first. -/
def look (nodes : List α) (call : Findings α → α → Findings α) (path : List α) (found : Findings α) (next : α) :
    Findings α :=
  if next ∉ nodes then found
  else match found.colour next with
    | .grey => { found with cycles := found.cycles ++ path.reverse.dropWhile (· ≠ next) ++ [next] }
    | .white => call found next
    | .black => found

/-- The recursive search from a node, called from the nodes of `path`, at most `depth` calls deep. -/
def call (nodes : List α) (successors : α → List α) : ℕ → List α → Findings α → α → Findings α
  | 0, _, found, _ => found
  | depth + 1, path, found, node =>
      ((successors node).foldl (look nodes (call nodes successors depth (node :: path)) (node :: path))
        (found.enter node)).leave node

def begin (nodes : List α) (successors : α → List α) (depth : ℕ) (found : Findings α) (root : α) : Findings α :=
  if found.colour root = .white then call nodes successors depth [] found root else found

/-- The nodes of the cycles that the recursive search finds. -/
def recursiveCycles (nodes : List α) (successors : α → List α) (depth : ℕ) : List α :=
  (nodes.foldl (begin nodes successors depth) ⟨fun _ => .white, []⟩).cycles

/-- The nodes that have not been visited. -/
def unvisited (nodes : List α) (colour : α → Colour) : Finset α :=
  nodes.toFinset.filter fun node => colour node = .white

theorem unvisited_iterate (count : ℕ) :
    unvisited nodes ((advance nodes successors)^[count] walk).colour ⊆ unvisited nodes walk.colour := by
  intro node member
  simp only [unvisited, Finset.mem_filter] at member ⊢
  refine ⟨member.1, ?_⟩
  by_contra visited
  exact visited_iterate visited count member.2

theorem unvisited_enter {colour : α → Colour} {node : α} (inside : node ∈ nodes) (white : colour node = .white) :
    (unvisited nodes (Function.update colour node .grey)).card < (unvisited nodes colour).card := by
  apply Finset.card_lt_card
  refine Finset.ssubset_iff_subset_ne.mpr ⟨fun other member => ?_, fun same => ?_⟩
  · simp only [unvisited, Finset.mem_filter] at member ⊢
    refine ⟨member.1, ?_⟩
    by_cases here : other = node
    · rw [here]
      exact white
    · simpa [here] using member.2
  · have present : node ∈ unvisited nodes colour := by simp [unvisited, inside, white]
    rw [← same] at present
    simp [unvisited] at present

/-- Calls of this depth do what the stack does until the node that was entered is left. -/
def Calls (nodes : List α) (successors : α → List α) (depth : ℕ) : Prop :=
  ∀ (node : α) (frames : List (α × List α)) (found : Findings α),
    Pathed nodes successors ((found.enter node).along ((node, successors node) :: frames)) →
    found.colour node = .white → (unvisited nodes found.colour).card ≤ depth →
    ∃ count, (advance nodes successors)^[count] ((found.enter node).along ((node, successors node) :: frames)) =
      (call nodes successors depth (frames.map Prod.fst) found node).along frames

/-- The stack works through what is left of a node's successors as the loop with its calls does. -/
theorem iterate_eq_looked {depth : ℕ} (calls : Calls nodes successors depth) {node : α} {rest : List α}
    {frames : List (α × List α)} {found : Findings α}
    (pathed : Pathed nodes successors (found.along ((node, rest) :: frames)))
    (few : (unvisited nodes found.colour).card ≤ depth) {path : List α}
    (onPath : path = node :: frames.map Prod.fst) :
    ∃ count, (advance nodes successors)^[count] (found.along ((node, rest) :: frames)) =
      (rest.foldl (look nodes (call nodes successors depth path) path) found).along ((node, []) :: frames) := by
  induction rest generalizing found with
  | nil => exact ⟨0, rfl⟩
  | cons next rest ih =>
    have stepped := pathed_advance pathed
    by_cases inside : next ∈ nodes
    · cases colour : found.colour next with
      | white =>
        have entered : advance nodes successors (found.along ((node, next :: rest) :: frames)) =
            (found.enter next).along ((next, successors next) :: (node, rest) :: frames) := by
          simp [advance, Findings.along, Findings.enter, inside, colour]
        rw [entered] at stepped
        obtain ⟨inner, returned⟩ := calls next ((node, rest) :: frames) found stepped colour few
        have after := pathed_iterate stepped inner
        have less : (unvisited nodes ((found.enter next).along
            ((next, successors next) :: (node, rest) :: frames)).colour).card ≤ depth :=
          (unvisited_enter inside colour).le.trans few
        have fewer := (Finset.card_le_card (@unvisited_iterate α _ nodes successors _ inner)).trans less
        rw [returned] at after fewer
        obtain ⟨count, finish⟩ := ih after fewer
        refine ⟨count + (inner + 1), ?_⟩
        rw [Function.iterate_add_apply, Function.iterate_succ_apply, entered, returned, finish]
        simp [look, inside, colour, onPath]
      | grey =>
        have met := (pathed.grey next).mp colour
        have closed : advance nodes successors (found.along ((node, next :: rest) :: frames)) =
            (look nodes (call nodes successors depth path) path found next).along ((node, rest) :: frames) := by
          have part := closedPart_of_mem met
          simp only [Findings.along] at part
          simp [advance, Findings.along, look, inside, colour, part, onPath]
        rw [closed] at stepped
        have same : (look nodes (call nodes successors depth path) path found next).colour = found.colour := by
          simp [look, inside, colour]
        obtain ⟨count, finish⟩ := ih stepped (same ▸ few)
        refine ⟨count + 1, ?_⟩
        rw [Function.iterate_succ_apply, closed, finish, List.foldl_cons]
      | black =>
        have passed : advance nodes successors (found.along ((node, next :: rest) :: frames)) =
            found.along ((node, rest) :: frames) := by
          simp [advance, Findings.along, inside, colour]
        rw [passed] at stepped
        obtain ⟨count, finish⟩ := ih stepped few
        refine ⟨count + 1, ?_⟩
        rw [Function.iterate_succ_apply, passed, finish]
        simp [look, inside, colour]
    · have passed : advance nodes successors (found.along ((node, next :: rest) :: frames)) =
          found.along ((node, rest) :: frames) := by
        simp [advance, Findings.along, inside]
      rw [passed] at stepped
      obtain ⟨count, finish⟩ := ih stepped few
      refine ⟨count + 1, ?_⟩
      rw [Function.iterate_succ_apply, passed, finish]
      simp [look, inside]

theorem calls_all (depth : ℕ) : Calls nodes successors depth := by
  induction depth with
  | zero =>
    intro node frames found pathed white few
    have inside : node ∈ nodes := pathed.inside (node, successors node) List.mem_cons_self
    have less := unvisited_enter inside white
    omega
  | succ depth ih =>
    intro node frames found pathed white few
    have inside : node ∈ nodes := pathed.inside (node, successors node) List.mem_cons_self
    have less : (unvisited nodes (found.enter node).colour).card < (unvisited nodes found.colour).card :=
      unvisited_enter inside white
    obtain ⟨count, looked⟩ := iterate_eq_looked ih pathed (by omega) rfl
    refine ⟨count + 1, ?_⟩
    rw [Function.iterate_succ_apply', looked]
    rfl

/-- Once the path is empty, further rounds change nothing. -/
theorem iterate_eq_of_closed {first second : ℕ} (one : ((advance nodes successors)^[first] walk).frames = [])
    (other : ((advance nodes successors)^[second] walk).frames = []) :
    (advance nodes successors)^[first] walk = (advance nodes successors)^[second] walk := by
  rcases le_total first second with less | less
  · rw [← Nat.sub_add_cancel less, Function.iterate_add_apply, iterate_closed one]
  · rw [← Nat.sub_add_cancel less, Function.iterate_add_apply, iterate_closed other]

theorem findings_explore {depth : ℕ} (pathed : Pathed nodes successors walk) (closed : walk.frames = []) {root : α}
    (member : root ∈ nodes) (enough : nodes.length ≤ depth) :
    (explore nodes successors walk root).findings = begin nodes successors depth walk.findings root := by
  unfold explore begin
  by_cases white : walk.colour root = .white
  · have few : (unvisited nodes walk.findings.colour).card ≤ depth :=
      ((Finset.card_filter_le _ _).trans (List.toFinset_card_le nodes)).trans enough
    have start := pathed_opened pathed closed member
    obtain ⟨count, returned⟩ := calls_all depth root [] walk.findings start white few
    have ended := frames_of_iterate start (work_opened member)
    have same := iterate_eq_of_closed ended
      (show ((advance nodes successors)^[count] (opened successors walk root)).frames = [] from
        congrArg Walk.frames returned)
    rw [if_pos white, if_pos (show walk.findings.colour root = .white from white)]
    exact congrArg Walk.findings (same.trans returned)
  · rw [if_neg white, if_neg (show ¬ walk.findings.colour root = .white from white)]

/-- The search over an explicit stack finds what the recursive one does, in the same order. -/
theorem findCycles_eq_recursive {depth : ℕ} (enough : nodes.length ≤ depth) :
    findCycles nodes successors = recursiveCycles nodes successors depth := by
  have along : ∀ (roots : List α) (walk : Walk α), (∀ root ∈ roots, root ∈ nodes) → Pathed nodes successors walk →
      walk.frames = [] → (roots.foldl (explore nodes successors) walk).findings =
        roots.foldl (begin nodes successors depth) walk.findings := by
    intro roots
    induction roots with
    | nil => exact fun _ _ _ _ => rfl
    | cons root rest ih =>
      intro walk inside pathed closed
      rw [List.forall_mem_cons] at inside
      obtain ⟨next, ended⟩ := pathed_explore pathed closed inside.1
      rw [List.foldl_cons, List.foldl_cons, ih _ inside.2 next ended,
        findings_explore pathed closed inside.1 enough]
  exact congrArg Findings.cycles (along nodes ⟨[], fun _ => .white, []⟩ (fun _ member => member) pathed_start rfl)

end Recursion

end Tasklite.Library.Graph
