import Tasklite.Library.Cycles

/-! Which members of cycles the search reports. It enters every node along one way: from the first root that leads
there, and on from every node to the first successor that still leads there past the nodes of the way so far. What is
reported are the parts of these ways that an edge back closes. -/

namespace Tasklite.Library.Graph

variable {α : Type*} (nodes : List α) (successors : α → List α)

/-- Edges lead from a node to the target past those of the path. -/
def LeadsPast (path : List α) (node target : α) : Prop :=
  node ∉ path ∧
    Relation.ReflTransGen (fun first second => Follows nodes successors first second ∧ second ∉ path) node target

/-- Where a path, nearest node first, can be continued: the roots, or the successors of its last node. -/
def continuations : List α → List α
  | [] => nodes
  | node :: _ => successors node

/-- The first node with which a path can be continued to the target. -/
def FirstLeading (path : List α) (next target : α) : Prop :=
  ∃ before after, continuations nodes successors path = before ++ next :: after ∧ next ∈ nodes ∧
    LeadsPast nodes successors path next target ∧
    ∀ other ∈ before, other ∈ nodes → ¬ LeadsPast nodes successors path other target

/-- The beginnings of the way to a node, nearest node first. -/
inductive Way (target : α) : List α → Prop
  | none : Way target []
  | onward {path : List α} {next : α} : Way target path → path.head? ≠ some target →
      FirstLeading nodes successors path next target → Way target (next :: path)

/-- An edge back from the end of the path closes a cycle through the node. -/
def Closes (path : List α) (node : α) : Prop :=
  ∃ last ∈ path.head?, ∃ next ∈ successors last, ∃ later earlier,
    path = later ++ next :: earlier ∧ node ∈ later ++ [next]

variable {nodes successors} {path other : List α} {node next target : α}

section Uniqueness

theorem firstLeading_unique (first : FirstLeading nodes successors path node target)
    (second : FirstLeading nodes successors path next target) : node = next := by
  obtain ⟨before, after, candidates, inside, leads, others⟩ := first
  obtain ⟨front, rest, same, within, reaches, foreign⟩ := second
  rw [candidates, List.append_eq_append_iff] at same
  rcases same with ⟨gap, longer, behind⟩ | ⟨gap, longer, behind⟩
  · cases gap with
    | nil => exact (List.cons_eq_cons.mp behind).1
    | cons head tail =>
      rw [List.cons_append, List.cons_eq_cons] at behind
      exact absurd leads (foreign node (by simp [longer, behind.1]) inside)
  · cases gap with
    | nil => exact (List.cons_eq_cons.mp behind).1.symm
    | cons head tail =>
      rw [List.cons_append, List.cons_eq_cons] at behind
      exact absurd reaches (others next (by simp [longer, behind.1]) within)

theorem way_unique_of_length (first : Way nodes successors target path) (second : Way nodes successors target other)
    (sizes : path.length = other.length) : path = other := by
  induction first generalizing other with
  | none => exact (List.length_eq_zero_iff.mp sizes.symm).symm
  | onward way going leading ih =>
    cases second with
    | none => cases sizes
    | onward before further leads =>
      have same := ih before (Nat.succ.inj sizes)
      subst same
      rw [firstLeading_unique leading leads]

/-- A way is not continued behind its target. -/
theorem way_suffix (way : Way nodes successors target path) (suffix : other <:+ path) :
    Way nodes successors target other ∧ (other ≠ path → other.head? ≠ some target) := by
  induction way with
  | none =>
    rw [List.suffix_nil] at suffix
    exact ⟨suffix ▸ Way.none, fun different => absurd suffix different⟩
  | onward before going leading ih =>
    rename_i earlier last
    rcases List.suffix_cons_iff.mp suffix with same | shorter
    · exact ⟨same ▸ before.onward going leading, fun different => absurd same different⟩
    · obtain ⟨inner, stops⟩ := ih shorter
      refine ⟨inner, fun _ => ?_⟩
      by_cases whole : other = earlier
      · exact whole ▸ going
      · exact stops whole

/-- There is one way to a node. -/
theorem way_unique (first : Way nodes successors target (target :: path))
    (second : Way nodes successors target (target :: other)) : path = other := by
  have ordered : ∀ {path other : List α}, path.length ≤ other.length → Way nodes successors target (target :: path) →
      Way nodes successors target (target :: other) → path = other := by
    intro path other shorter first second
    have suffix := List.drop_suffix (other.length - path.length) (target :: other)
    obtain ⟨inner, stops⟩ := way_suffix second suffix
    have sizes : (target :: path).length = ((target :: other).drop (other.length - path.length)).length := by
      simp only [List.length_drop, List.length_cons]
      omega
    have same := way_unique_of_length first inner sizes
    by_cases whole : (target :: other).drop (other.length - path.length) = target :: other
    · exact List.tail_eq_of_cons_eq (same.trans whole)
    · exact absurd (same ▸ rfl) (stops whole)
  rcases le_total path.length other.length with less | less
  · exact ordered less first second
  · exact (ordered less second first).symm

end Uniqueness

section Invariant

variable (nodes successors)

/-- Edges out of what has been left behind lead to it, or to the path. -/
def Shut (path : List α) (behind : α → Prop) : Prop :=
  ∀ node next, behind node → Follows nodes successors node next → behind next ∨ next ∈ path

/-- The path was continued with the node when all candidates before it had been left behind. -/
def Chosen (colour : α → Colour) (path : List α) (node : α) : Prop :=
  ∃ before after, continuations nodes successors path = before ++ node :: after ∧
    ∃ behind : α → Prop, (∀ other, behind other → colour other = .black) ∧ Shut nodes successors path behind ∧
      ∀ other ∈ before, other ∈ nodes → behind other ∨ other ∈ path

/-- Every node of the path was chosen so. -/
def Staged (colour : α → Colour) : List α → Prop
  | [] => True
  | node :: path => Chosen nodes successors colour path node ∧ Staged colour path

/-- The successors that the path is done with have been visited, and what they close is reported. -/
def Looked (colour : α → Colour) (cycles : List α) : List (α × List α) → Prop
  | [] => True
  | (node, rest) :: frames =>
      (∃ done, successors node = done ++ rest ∧ ∀ next ∈ done, (next ∈ nodes → colour next ≠ .white) ∧
        ∀ later earlier, node :: frames.map Prod.fst = later ++ next :: earlier →
          ∀ member ∈ later ++ [next], member ∈ cycles) ∧ Looked colour cycles frames

/-- The path is the beginning of a way, and what is reported are the parts of ways that have been closed. -/
structure Routed (walk : Walk α) : Prop where
  staged : Staged nodes successors walk.colour (walk.frames.map Prod.fst)
  looked : Looked nodes successors walk.colour walk.cycles walk.frames
  shut : Shut nodes successors (walk.frames.map Prod.fst) fun node => walk.colour node = .black
  behind : ∀ node, walk.colour node = .black → ∃ path, Way nodes successors node (node :: path) ∧
    ∀ member, Closes successors (node :: path) member → member ∈ walk.cycles
  sound : ∀ member ∈ walk.cycles, ∃ target path, Way nodes successors target (target :: path) ∧
    Closes successors (target :: path) member

variable {nodes successors} {colour later : α → Colour} {cycles more : List α} {frames : List (α × List α)}

theorem routed_start : Routed nodes successors (⟨[], fun _ => .white, []⟩ : Walk α) :=
  ⟨trivial, trivial, nofun, nofun, nofun⟩

theorem target_notMem (leads : LeadsPast nodes successors path node target) : target ∉ path := by
  rcases Relation.ReflTransGen.cases_tail leads.2 with same | ⟨last, -, edge⟩
  · exact same ▸ leads.1
  · exact edge.2

/-- What has been left behind leads to nothing else past the path. -/
theorem behind_of_leadsPast {behind : α → Prop} (shut : Shut nodes successors path behind) (left : behind node)
    (leads : LeadsPast nodes successors path node target) : behind target := by
  obtain ⟨-, along⟩ := leads
  induction along with
  | refl => exact left
  | tail _ edge ih =>
    rcases shut _ _ ih edge.1 with inside | met
    · exact inside
    · exact absurd met edge.2

/-- None of the candidates before the chosen one leads to what has not been left behind. -/
theorem firstLeading_of_chosen (chosen : Chosen nodes successors colour path node) (inside : node ∈ nodes)
    (leads : LeadsPast nodes successors path node target) (ahead : colour target ≠ .black) :
    FirstLeading nodes successors path node target := by
  obtain ⟨before, after, candidates, behind, black, shut, done⟩ := chosen
  refine ⟨before, after, candidates, inside, leads, ?_⟩
  intro other member within reaches
  rcases done other member within with left | met
  · exact ahead (black target (behind_of_leadsPast shut left reaches))
  · exact reaches.1 met

/-- A path whose nodes were chosen is the beginning of the way to what its end leads to past it. -/
theorem way_of_staged (staged : Staged nodes successors colour (node :: path))
    (chain : (node :: path).IsChain fun node parent => Follows nodes successors parent node)
    (distinct : (node :: path).Nodup) (inside : node ∈ nodes)
    (leads : LeadsPast nodes successors path node target) (ahead : colour target ≠ .black) :
    Way nodes successors target (node :: path) := by
  have first := firstLeading_of_chosen staged.1 inside leads ahead
  induction path generalizing node with
  | nil => exact Way.none.onward nofun first
  | cons parent earlier ih =>
    rw [List.isChain_cons_cons] at chain
    rw [List.nodup_cons] at distinct
    have edge : Follows nodes successors parent node ∧ node ∉ earlier :=
      ⟨chain.1, fun member => distinct.1 (List.mem_cons_of_mem _ member)⟩
    have further : Relation.ReflTransGen
        (fun first second => Follows nodes successors first second ∧ second ∉ earlier) node target :=
      leads.2.lift id fun _ _ step => ⟨step.1, fun member => step.2 (List.mem_cons_of_mem _ member)⟩
    have through : LeadsPast nodes successors earlier parent target :=
      ⟨(List.nodup_cons.mp distinct.2).1, further.head edge⟩
    have start := firstLeading_of_chosen staged.2.1 chain.1.1 through ahead
    refine (ih staged.2 chain.2 distinct.2 chain.1.1 through start).onward ?_ first
    intro same
    exact target_notMem leads (by simp [Option.some.inj same])

theorem shut_mono {behind grown : α → Prop} (shut : Shut nodes successors path behind)
    (same : ∀ node, grown node ↔ behind node) (longer : path ⊆ other) : Shut nodes successors other grown := by
  intro node next left edge
  rcases shut node next ((same node).mp left) edge with inside | met
  · exact .inl ((same next).mpr inside)
  · exact .inr (longer met)

theorem staged_mono (grown : ∀ node, colour node = .black → later node = .black)
    (staged : Staged nodes successors colour path) : Staged nodes successors later path := by
  induction path with
  | nil => trivial
  | cons node path ih =>
    obtain ⟨⟨before, after, candidates, behind, black, shut, done⟩, rest⟩ := staged
    exact ⟨⟨before, after, candidates, behind, fun other left => grown other (black other left), shut, done⟩, ih rest⟩

theorem looked_mono (visited : ∀ node, colour node ≠ .white → later node ≠ .white)
    (kept : ∀ member ∈ cycles, member ∈ more) (looked : Looked nodes successors colour cycles frames) :
    Looked nodes successors later more frames := by
  induction frames with
  | nil => trivial
  | cons frame frames ih =>
    obtain ⟨⟨done, split, seen⟩, rest⟩ := looked
    refine ⟨⟨done, split, fun next member => ⟨fun inside => visited next ((seen next member).1 inside), ?_⟩⟩, ih rest⟩
    exact fun front back same other closed => kept other ((seen next member).2 front back same other closed)

/-- One more successor that the end of the path is done with. -/
theorem looked_next {rest : List α} (looked : Looked nodes successors colour cycles ((node, next :: rest) :: frames))
    (visited : ∀ node, colour node ≠ .white → later node ≠ .white) (kept : ∀ member ∈ cycles, member ∈ more)
    (seen : next ∈ nodes → later next ≠ .white)
    (closed : ∀ front back, node :: frames.map Prod.fst = front ++ next :: back →
      ∀ member ∈ front ++ [next], member ∈ more) :
    Looked nodes successors later more ((node, rest) :: frames) := by
  obtain ⟨⟨done, split, before⟩, others⟩ := looked_mono visited kept looked
  refine ⟨⟨done ++ [next], by rw [split, List.append_assoc, List.singleton_append], ?_⟩, others⟩
  intro other member
  rcases List.mem_append.mp member with earlier | last
  · exact before other earlier
  · rw [List.mem_singleton.mp last]
    exact ⟨seen, closed⟩

variable {walk : Walk α} {rest : List α}

/-- The path of a search that has chosen its nodes is the way to its end. -/
theorem way_of_frames (pathed : Pathed nodes successors walk) (routed : Routed nodes successors walk)
    (shape : walk.frames = (node, rest) :: frames) :
    Way nodes successors node (node :: frames.map Prod.fst) := by
  have staged := routed.staged
  have chain := pathed.chain
  have distinct := pathed.distinct
  have inside := pathed.inside (node, rest) (by simp [shape])
  have grey := (pathed.grey node).mpr (by simp [shape])
  rw [shape, List.map_cons] at staged chain distinct
  refine way_of_staged staged chain distinct inside ⟨(List.nodup_cons.mp distinct).1, .refl⟩ ?_
  rw [grey]
  decide

/-- The end of the path is left behind: its successors are all behind it or on the path. -/
theorem routed_leave [DecidableEq α] (pathed : Pathed nodes successors walk) (routed : Routed nodes successors walk)
    (shape : walk.frames = (node, []) :: frames) :
    Routed nodes successors { walk with frames, colour := Function.update walk.colour node .black } := by
  have way := way_of_frames pathed routed shape
  have grey := pathed.grey
  obtain ⟨staged, looked, shut, behind, sound⟩ := routed
  rw [shape] at staged looked shut grey
  have black : ∀ other, Function.update walk.colour node .black other = .black ↔
      other = node ∨ walk.colour other = .black := by
    intro other
    by_cases same : other = node
    · simp [same]
    · simp [same]
  obtain ⟨⟨done, split, seen⟩, others⟩ := looked
  rw [List.append_nil] at split
  have visited : ∀ other, walk.colour other ≠ .white → Function.update walk.colour node .black other ≠ .white :=
    fun other dark => update_ne_white (by decide) dark
  have stays : ∀ next, walk.colour next = .black ∨ next ∈ node :: frames.map Prod.fst →
      Function.update walk.colour node .black next = .black ∨ next ∈ frames.map Prod.fst := by
    intro next reached
    rw [black]
    rcases reached with left | met
    · exact .inl (.inr left)
    · rcases List.mem_cons.mp met with same | below
      · exact .inl (.inl same)
      · exact .inr below
  refine ⟨staged_mono (fun other left => (black other).mpr (.inr left)) staged.2,
    looked_mono visited (fun _ member => member) others, ?_, ?_, sound⟩
  · intro other next left edge
    rcases (black other).mp left with rfl | before
    · have turned := (seen next (split ▸ edge.2.2)).1 edge.2.1
      cases colour : walk.colour next with
      | white => exact absurd colour turned
      | grey => exact stays next (.inr ((grey next).mp colour))
      | black => exact stays next (.inl colour)
    · exact stays next (shut other next before edge)
  · intro other left
    rcases (black other).mp left with rfl | before
    · refine ⟨_, way, ?_⟩
      rintro member ⟨last, ends, next, follows, front, back, same, closed⟩
      rw [List.head?_cons, Option.mem_some_iff] at ends
      subst ends
      exact (seen next (split ▸ follows)).2 front back same member closed
    · exact behind other before

/-- A successor that is no node, or has been left behind. -/
theorem routed_pass [DecidableEq α] (pathed : Pathed nodes successors walk) (routed : Routed nodes successors walk)
    (shape : walk.frames = (node, next :: rest) :: frames) (passed : next ∈ nodes → walk.colour next = .black) :
    Routed nodes successors { walk with frames := (node, rest) :: frames } := by
  have inside := pathed.inside
  have grey := pathed.grey
  obtain ⟨staged, looked, shut, behind, sound⟩ := routed
  rw [shape] at staged looked shut grey inside
  refine ⟨staged, looked_next looked (fun _ dark => dark) (fun _ member => member) ?_ ?_, shut, behind, sound⟩
  · intro within
    rw [passed within]
    decide
  · intro front back same
    have met : next ∈ ((node, next :: rest) :: frames).map Prod.fst := by
      rw [List.map_cons, same]
      simp
    have colour := (grey next).mpr met
    obtain ⟨frame, member, is⟩ := List.mem_map.mp met
    rw [passed (is ▸ inside frame member)] at colour
    cases colour

/-- What an edge back to a node of the path closes, from that node on. -/
theorem dropWhile_reverse [DecidableEq α] {front back : List α} (distinct : path.Nodup)
    (same : path = front ++ next :: back) : path.reverse.dropWhile (· ≠ next) = next :: front.reverse := by
  have fresh : next ∉ back := by
    rw [same, List.nodup_append] at distinct
    exact (List.nodup_cons.mp distinct.2.1).1
  rw [same, List.reverse_append, List.reverse_cons, List.append_assoc, List.singleton_append,
    List.dropWhile_append_of_pos]
  · simp
  · intro member earlier
    rw [List.mem_reverse] at earlier
    exact decide_eq_true fun met => fresh (met ▸ earlier)

/-- A successor on the path closes a cycle. -/
theorem routed_close [DecidableEq α] (pathed : Pathed nodes successors walk) (routed : Routed nodes successors walk)
    (shape : walk.frames = (node, next :: rest) :: frames) (colour : walk.colour next = .grey) :
    Routed nodes successors { walk with
      frames := (node, rest) :: frames
      cycles := walk.cycles ++ closedPart walk.frames next ++ [next] } := by
  have way := way_of_frames pathed routed shape
  have met := (pathed.grey next).mp colour
  have part := closedPart_of_mem met
  have distinct := pathed.distinct
  have ahead := pathed.ahead (node, next :: rest) (by simp [shape]) next List.mem_cons_self
  obtain ⟨staged, looked, shut, behind, sound⟩ := routed
  rw [shape] at staged looked shut met part distinct
  rw [List.map_cons] at met part distinct
  rw [shape, part]
  have kept : ∀ member ∈ walk.cycles, member ∈ walk.cycles ++
      (node :: frames.map Prod.fst).reverse.dropWhile (· ≠ next) ++ [next] := by
    intro member found
    rw [List.append_assoc]
    exact List.mem_append_left _ found
  refine ⟨staged, looked_next looked (fun _ dark => dark) kept ?_ ?_, shut, ?_, ?_⟩
  · intro _
    rw [colour]
    decide
  · intro front back same member closed
    rw [dropWhile_reverse distinct same]
    rcases List.mem_append.mp closed with later | last
    · simp [later]
    · simp [List.mem_singleton.mp last]
  · intro other left
    obtain ⟨path, leads, closes⟩ := behind other left
    exact ⟨path, leads, fun member closed => kept member (closes member closed)⟩
  · intro member found
    obtain ⟨front, back, same⟩ := List.append_of_mem met
    rw [dropWhile_reverse distinct same, List.append_assoc] at found
    rcases List.mem_append.mp found with before | closed
    · exact sound member before
    · refine ⟨node, frames.map Prod.fst, way, node, rfl, next, ahead, front, back, same, ?_⟩
      simp only [List.mem_append, List.mem_cons, List.mem_reverse, List.not_mem_nil, or_false] at closed ⊢
      tauto

/-- A successor that has not been visited is entered. -/
theorem routed_enter [DecidableEq α] (pathed : Pathed nodes successors walk) (routed : Routed nodes successors walk)
    (shape : walk.frames = (node, next :: rest) :: frames) (colour : walk.colour next = .white) :
    Routed nodes successors { walk with
      frames := (next, successors next) :: (node, rest) :: frames
      colour := Function.update walk.colour next .grey } := by
  have grey := pathed.grey
  obtain ⟨staged, looked, shut, behind, sound⟩ := routed
  rw [shape] at staged looked shut grey
  have black := update_grey_black_iff colour
  have visited : ∀ other, walk.colour other ≠ .white → Function.update walk.colour next .grey other ≠ .white :=
    fun other dark => update_ne_white (by decide) dark
  have chosen :
      Chosen nodes successors (Function.update walk.colour next .grey) (node :: frames.map Prod.fst) next := by
    obtain ⟨⟨done, split, seen⟩, -⟩ := looked
    refine ⟨done, rest, split, fun other => walk.colour other = .black, fun other left => (black other).mpr left,
      shut, ?_⟩
    intro other member within
    cases turned : walk.colour other with
    | white => exact absurd turned ((seen other member).1 within)
    | grey => exact .inr ((grey other).mp turned)
    | black => exact .inl turned
  refine ⟨⟨chosen, staged_mono (fun other left => (black other).mpr left) staged⟩, ⟨⟨[], rfl, nofun⟩, ?_⟩,
    shut_mono shut black (List.subset_cons_self _ _), fun other left => behind other ((black other).mp left), sound⟩
  refine looked_next looked visited (fun _ member => member) (fun _ => by simp) ?_
  intro front back same
  have met := (grey next).mpr (by rw [List.map_cons, same]; simp)
  rw [colour] at met
  cases met

theorem routed_advance [DecidableEq α] (pathed : Pathed nodes successors walk)
    (routed : Routed nodes successors walk) : Routed nodes successors (advance nodes successors walk) := by
  unfold advance
  split
  · exact routed
  · rename_i node frames shape
    exact routed_leave pathed routed shape
  · rename_i node next rest frames shape
    split
    · rename_i outside
      exact routed_pass pathed routed shape fun within => absurd within outside
    · split
      · rename_i colour
        exact routed_close pathed routed shape colour
      · rename_i colour
        exact routed_enter pathed routed shape colour
      · rename_i colour
        exact routed_pass pathed routed shape fun _ => colour

theorem routed_iterate [DecidableEq α] (pathed : Pathed nodes successors walk) (routed : Routed nodes successors walk)
    (count : ℕ) : Routed nodes successors ((advance nodes successors)^[count] walk) := by
  induction count with
  | zero => exact routed
  | succ count ih =>
    rw [Function.iterate_succ_apply']
    exact routed_advance (pathed_iterate pathed count) ih

/-- A search is opened at the first root that has not been visited. -/
theorem routed_opened [DecidableEq α] (routed : Routed nodes successors walk) (closed : walk.frames = []) {root : α}
    {before after : List α} (roots : nodes = before ++ root :: after)
    (done : ∀ other ∈ before, walk.colour other = .black) (white : walk.colour root = .white) :
    Routed nodes successors (opened successors walk root) := by
  obtain ⟨-, -, shut, behind, sound⟩ := routed
  rw [closed] at shut
  have black := update_grey_black_iff white
  have chosen : Chosen nodes successors (Function.update walk.colour root .grey) [] root :=
    ⟨before, after, roots, fun other => walk.colour other = .black, fun other left => (black other).mpr left, shut,
      fun other member _ => .inl (done other member)⟩
  exact ⟨⟨chosen, trivial⟩, ⟨⟨[], rfl, nofun⟩, trivial⟩, shut_mono shut black (List.nil_subset _),
    fun other left => behind other ((black other).mp left), sound⟩

/-- Between two searches every node that has been visited has been left behind. -/
theorem black_of_closed [DecidableEq α] (pathed : Pathed nodes successors walk) (closed : walk.frames = [])
    (visited : walk.colour node ≠ .white) : walk.colour node = .black := by
  cases colour : walk.colour node with
  | white => exact absurd colour visited
  | grey =>
    have onPath := (pathed.grey node).mp colour
    rw [closed] at onPath
    cases onPath
  | black => rfl

theorem routed_explore [DecidableEq α] (pathed : Pathed nodes successors walk) (routed : Routed nodes successors walk)
    (closed : walk.frames = []) {root : α} {before after : List α} (roots : nodes = before ++ root :: after)
    (done : ∀ other ∈ before, walk.colour other ≠ .white) :
    Routed nodes successors (explore nodes successors walk root) := by
  unfold explore
  split
  · rename_i white
    have member : root ∈ nodes := by simp [roots]
    have behind : ∀ other ∈ before, walk.colour other = .black := fun other earlier =>
      black_of_closed pathed closed (done other earlier)
    exact routed_iterate (pathed_opened pathed closed member) (routed_opened routed closed roots behind white) _
  · exact routed

/-- The search from every root in turn. -/
theorem routed_foldl [DecidableEq α] {before after : List α} (roots : nodes = before ++ after)
    (pathed : Pathed nodes successors walk) (routed : Routed nodes successors walk) (closed : walk.frames = [])
    (done : ∀ other ∈ before, walk.colour other ≠ .white) :
    Routed nodes successors (after.foldl (explore nodes successors) walk) ∧
      ∀ node ∈ nodes, (after.foldl (explore nodes successors) walk).colour node = .black := by
  induction after generalizing before walk with
  | nil =>
    rw [List.append_nil] at roots
    exact ⟨routed, fun node member => black_of_closed pathed closed (done node (roots ▸ member))⟩
  | cons root after ih =>
    have member : root ∈ nodes := by simp [roots]
    obtain ⟨next, ended⟩ := pathed_explore pathed closed member
    have longer : nodes = (before ++ [root]) ++ after := by simp [roots]
    rw [List.foldl_cons]
    refine ih longer next (routed_explore pathed routed closed roots done) ended ?_
    intro other member
    rcases List.mem_append.mp member with earlier | last
    · exact visited_explore (.inr (done other earlier))
    · exact visited_explore (.inl (List.mem_singleton.mp last))

/-- What is reported is exactly what an edge back closes on the way to some node. -/
theorem mem_findCycles_iff [DecidableEq α] {member : α} : member ∈ findCycles nodes successors ↔
    ∃ target path, Way nodes successors target (target :: path) ∧ Closes successors (target :: path) member := by
  obtain ⟨routed, black⟩ :=
    routed_foldl (List.nil_append nodes).symm (pathed_start : Pathed nodes successors _) routed_start rfl nofun
  constructor
  · exact routed.sound member
  · rintro ⟨target, path, way, closes⟩
    have inside : target ∈ nodes := by
      cases way with
      | onward _ _ leading =>
        obtain ⟨_, _, _, within, _⟩ := leading
        exact within
    obtain ⟨found, leads, reported⟩ := routed.behind target (black target inside)
    rw [way_unique way leads] at closes
    exact reported member closes

end Invariant

end Tasklite.Library.Graph
