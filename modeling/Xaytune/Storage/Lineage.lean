import Mathlib.Data.Prod.Lex
import Mathlib.Data.String.Basic
import Xaytune.Library.Graph
import Xaytune.Library.Topological
import Xaytune.Storage.Legality.Repository

/-!
# Lineage

A node names parents that are on record when it is created, so the table of nodes is
a construction order of the graph: its edges close no cycle and stay within one
experiment. That bounds the depth a traversal carries, which is what makes it end.
-/

namespace Xaytune.Storage

open Xaytune.Core Xaytune.Library Relation

/-! ## Queries -/

/-- The recursive part of a traversal: one generation up, or down, from a row. -/
def walkStep (edges : List (String × String)) (up : Bool) (row : String × Nat) :
    List (String × Nat) :=
  edges.filterMap fun edge =>
    if (if up then edge.2 else edge.1) = row.1 then
      some (if up then edge.1 else edge.2, row.2 + 1)
    else none

/-- `MIN(walk.depth)` of a node's rows. -/
def walkDepth (walk : List (String × Nat)) (node : ExperimentNode) : Nat :=
  ((walk.filter fun row => row.1 = node.id).map Prod.snd).min?.getD 0

section Traversals

variable {Time : Type} [LinearOrder Time]

/-- `(nodes[key].created_at, key)`. -/
def creation (createdAt : String → Time) (key : String) : Time ×ₗ String :=
  toLex (createdAt key, key)

/-- `_traverse`: the nodes above, or below, an id, nearest first and then by their creation. -/
def traverse (db : Db) (createdAt : String → Time) (fuel : Nat) (id : String) (up : Bool) :
    Option (List ExperimentNode) := do
  let initial := (walkStep db.edges up (id, 0)).dedup
  let walk ← recursiveUnion (walkStep db.edges up) fuel initial initial
  pure (ranked (fun node => toLex (walkDepth walk node, creation createdAt node.id))
    (db.nodes.rows.filter fun node => walk.any fun row => row.1 = node.id))

def ancestors (db : Db) (createdAt : String → Time) (fuel : Nat) (id : String) :
    Option (List ExperimentNode) :=
  traverse db createdAt fuel id true

def descendants (db : Db) (createdAt : String → Time) (fuel : Nat) (id : String) :
    Option (List ExperimentNode) :=
  traverse db createdAt fuel id false

end Traversals

def parentsIn (edges : List (String × String)) (id : String) : List String :=
  (edges.filter fun edge => edge.2 = id).map Prod.fst

/-- The ids of a node's ancestry closure, the node's own included. -/
def closureIds (db : Db) (fuel : Nat) (id : String) : Option (List String) :=
  recursiveUnion (parentsIn db.edges) fuel [id] [id]

/-- Each partial path, with what it visited, extended by the parents not visited on it. -/
def extendPath (parents : String → List String) (walked : List String × List String) :
    List (List String × List String) :=
  ((parents (walked.1.headD "")).filter fun parent => parent ∉ walked.2).map fun parent =>
    (parent :: walked.1, parent :: walked.2)

/-- The longest paths first, then by the ids along them. -/
def sortedPaths (paths : List (List ExperimentNode)) : List (List ExperimentNode) :=
  paths.insertionSort fun first second =>
    second.length < first.length ∨ (first.length = second.length ∧
      first.map ExperimentNode.id ≤ second.map ExperimentNode.id)

/-- Every path from a root to the node. -/
def lineagePaths (db : Db) (fuel : Nat) (id : String) : Option (List (List ExperimentNode)) := do
  let ids ← closureIds db fuel id
  let nodes := db.nodes.rows.filter fun node => node.id ∈ ids
  if id ∉ nodes.map ExperimentNode.id then pure []
  else do
    let parents := fun child =>
      if child ∈ ids then
        ((parentsIn db.edges child).filter fun parent => parent ∈ nodes.map ExperimentNode.id)
          |>.insertionSort (· ≤ ·)
      else []
    let complete ← explore (extendPath parents) fuel [([id], [id])]
    pure (sortedPaths (complete.map fun path => path.1.filterMap db.nodes.find?))

/-! ## The graph of a database -/

/-- The nodes stand in construction order and the edges are those they name. -/
structure Lineages (db : Db) : Prop where
  constructed : Constructed ExperimentNode.id ExperimentNode.parentIds
    (fun parent child => parent.experimentId = child.experimentId) db.nodes.rows
  edges : db.edges = edgesOf ExperimentNode.id ExperimentNode.parentIds db.nodes.rows

/-- One node is an immediate predecessor of another. -/
def Edge (db : Db) (parent child : String) : Prop := (parent, child) ∈ db.edges

/-- Edges between stored nodes that close no cycle. -/
structure Dag (db : Db) : Prop where
  above : ∀ parent child, Edge db parent child → ∃ node, db.nodes.find? parent = some node
  below : ∀ parent child, Edge db parent child → ∃ node, db.nodes.find? child = some node
  acyclic : ∀ id, ¬ TransGen (Edge db) id id

section Kept

variable {L : Licence} {d d' : Debt} {db db' : Db}

theorem Lineages.insert {row : ExperimentNode} {table : Table ExperimentNode.id}
    (lineages : Lineages db) (inserted : db.nodes.insert? row = some table)
    (lineage : Lineage db row) : Lineages ((db.setNodes table).addEdges row) where
  constructed := by
    have rows : table.rows = db.nodes.rows ++ [row] := Table.insert?_rows inserted
    show Constructed _ _ _ table.rows
    rw [rows]
    refine .snoc lineages.constructed (Table.insert?_fresh inserted) ?_
    intro parentId isParent
    obtain ⟨_, parent, found, sameExperiment⟩ := lineage.parents parentId isParent
    exact ⟨parent, Table.mem_of_find? found, Table.key_of_find? found, sameExperiment⟩
  edges := by
    have rows : table.rows = db.nodes.rows ++ [row] := Table.insert?_rows inserted
    show db.edges ++ _ = edgesOf _ _ table.rows
    rw [rows, edgesOf_snoc, lineages.edges]

theorem NodeMoves.lineage {old new : ExperimentNode} (moved : NodeMoves old new) :
    new.parentIds = old.parentIds ∧ new.experimentId = old.experimentId := by
  obtain ⟨_, _, _, _, rfl⟩ := moved
  exact ⟨rfl, rfl⟩

theorem Lineages.move {old new : ExperimentNode} (lineages : Lineages db)
    (found : db.nodes.find? new.id = some old) (moved : NodeMoves old new) :
    Lineages (db.setNodes (db.nodes.replace new)) := by
  obtain ⟨sameParents, sameExperiment⟩ := moved.lineage
  -- only the row of this id is rewritten
  have isOld : ∀ node ∈ db.nodes.rows, node.id = new.id → node = old := by
    intro node member same
    exact Table.eq_of_key_eq member (Table.mem_of_find? found)
      (same.trans (Table.key_of_find? found).symm)
  let rewrite := fun stored : ExperimentNode => if stored.id = new.id then new else stored
  have keys : ∀ node ∈ db.nodes.rows, (rewrite node).id = node.id := by
    intro node _
    by_cases same : node.id = new.id <;> simp [rewrite, same]
  have parents : ∀ node ∈ db.nodes.rows, (rewrite node).parentIds = node.parentIds := by
    intro node member
    by_cases same : node.id = new.id
    · simp only [rewrite, if_pos same, sameParents]
      rw [isOld node member same]
    · simp [rewrite, same]
  have experiments : ∀ node ∈ db.nodes.rows, (rewrite node).experimentId = node.experimentId := by
    intro node member
    by_cases same : node.id = new.id
    · simp only [rewrite, if_pos same, sameExperiment]
      rw [isOld node member same]
    · simp [rewrite, same]
  constructor
  · refine lineages.constructed.map keys parents ?_
    intro first isFirst second isSecond sameFirst
    rw [experiments first isFirst, experiments second isSecond, sameFirst]
  · show db.edges = edgesOf _ _ (db.nodes.rows.map rewrite)
    rw [edgesOf_map keys parents, lineages.edges]

theorem Write.lineages (write : Write L d db d' db') (lineages : Lineages db) : Lineages db' := by
  cases write with
  | insertNode row table inserted new => exact lineages.insert inserted new.lineage
  | moveNode old new found moved => exact lineages.move found moved
  | _ => exact ⟨lineages.constructed, lineages.edges⟩

theorem ReachableBy.lineages {checks : Checks} {allowed : Db → Op → Prop}
    (reached : ReachableBy checks allowed db) : Lineages db := by
  have start : Lineages Db.empty := ⟨.nil, rfl⟩
  exact ReachableBy.invariant (I := fun _ db => Lineages db) reached start
    fun _ _ _ _ _ _ _ _ write holds => Write.lineages write holds

/-- A node's edges name it as their child, and it names no parent twice. -/
theorem Write.edges_nodup (write : Write L d db d' db') (lineages : Lineages db)
    (keyed : db.edges.Nodup) : db'.edges.Nodup := by
  cases write with
  | insertNode row table inserted new =>
      refine List.nodup_append.mpr ⟨keyed, ?_, ?_⟩
      · exact new.lineage.distinct.map fun _ _ same => (Prod.mk.inj same).1
      · rintro edge member _ isNew rfl
        obtain ⟨parent, _, rfl⟩ := List.mem_map.mp isNew
        have known : (parent, row.id) ∈ db.edges := member
        rw [lineages.edges, mem_edgesOf] at known
        obtain ⟨node, isNode, same, _⟩ := known
        exact Table.insert?_fresh inserted node isNode same
  | _ => exact keyed

theorem ReachableBy.edges_nodup {checks : Checks} {allowed : Db → Op → Prop}
    (reached : ReachableBy checks allowed db) : db.edges.Nodup := by
  have start : Lineages Db.empty ∧ Db.empty.edges.Nodup := ⟨⟨.nil, rfl⟩, List.nodup_nil⟩
  have holds := ReachableBy.invariant (I := fun _ db => Lineages db ∧ db.edges.Nodup) reached start
    fun _ _ _ _ _ _ _ _ write holds => ⟨write.lineages holds.1, write.edges_nodup holds.1 holds.2⟩
  exact holds.2

end Kept

/-! ## What the construction order gives -/

section Graph

variable {db : Db}

/-- How many nodes were created before one. -/
def rankOf (db : Db) (id : String) : Nat := (db.nodes.rows.map ExperimentNode.id).idxOf id

theorem edge_iff (lineages : Lineages db) {parent child : String} :
    Edge db parent child ↔ ∃ node, db.nodes.find? child = some node ∧ parent ∈ node.parentIds := by
  rw [Edge, lineages.edges, mem_edgesOf]
  constructor
  · rintro ⟨node, member, rfl, named⟩
    exact ⟨node, Table.find?_of_mem member, named⟩
  · rintro ⟨node, found, named⟩
    exact ⟨node, Table.mem_of_find? found, Table.key_of_find? found, named⟩

theorem rankOf_lt (lineages : Lineages db) {parent child : String} (edge : Edge db parent child) :
    rankOf db parent < rankOf db child := by
  obtain ⟨node, found, named⟩ := (edge_iff lineages).mp edge
  have before := lineages.constructed.rank_lt (Table.mem_of_find? found) named
  rwa [Table.key_of_find? found] at before

theorem edge_stored (lineages : Lineages db) {parent child : String} (edge : Edge db parent child) :
    ∃ above below, db.nodes.find? parent = some above ∧ db.nodes.find? child = some below ∧
      above.experimentId = below.experimentId := by
  obtain ⟨node, found, named⟩ := (edge_iff lineages).mp edge
  obtain ⟨above, member, rfl, same⟩ := lineages.constructed.named (Table.mem_of_find? found) named
  exact ⟨above, node, Table.find?_of_mem member, found, same⟩

theorem Lineages.dag (lineages : Lineages db) : Dag db where
  above _ _ edge := by
    obtain ⟨above, _, found, _⟩ := edge_stored lineages edge
    exact ⟨above, found⟩
  below _ _ edge := by
    obtain ⟨_, below, _, found, _⟩ := edge_stored lineages edge
    exact ⟨below, found⟩
  acyclic := acyclic_of_rank (rankOf db) fun _ _ edge => rankOf_lt lineages edge

theorem incoming_edges (lineages : Lineages db) {id : String} {node : ExperimentNode}
    (found : db.nodes.find? id = some node) : parentsIn db.edges id = node.parentIds := by
  rw [parentsIn, lineages.edges, ← Table.key_of_find? found]
  exact edgesOf_into db.nodes.nodup (Table.mem_of_find? found)

/-! ## Traversals end -/

/-- One generation in the direction of a traversal. -/
def Generation (db : Db) (up : Bool) (near far : String) : Prop :=
  if up then Edge db far near else Edge db near far

theorem mem_walkStep {up : Bool} {row other : String × Nat} :
    other ∈ walkStep db.edges up row ↔
      Generation db up row.1 other.1 ∧ other.2 = row.2 + 1 := by
  obtain ⟨far, depth⟩ := other
  simp only [walkStep, List.mem_filterMap, Generation, Edge]
  cases up with
  | true =>
      simp only [if_true]
      constructor
      · rintro ⟨⟨parent, child⟩, member, same⟩
        split at same
        · rename_i isNear
          obtain ⟨rfl, rfl⟩ := Prod.mk.inj (Option.some.inj same)
          exact ⟨isNear ▸ member, rfl⟩
        · cases same
      · rintro ⟨member, rfl⟩
        exact ⟨(far, row.1), member, by simp⟩
  | false =>
      simp only [Bool.false_eq_true, if_false]
      constructor
      · rintro ⟨⟨parent, child⟩, member, same⟩
        split at same
        · rename_i isNear
          obtain ⟨rfl, rfl⟩ := Prod.mk.inj (Option.some.inj same)
          exact ⟨isNear ▸ member, rfl⟩
        · cases same
      · rintro ⟨member, rfl⟩
        exact ⟨(row.1, far), member, by simp⟩

/-- Some rank, no more than the nodes, falls with every generation up and rises with every one
down. -/
theorem Dag.exists_rank (dag : Dag db) : ∃ rank : String → Nat,
    (∀ parent child, Edge db parent child → rank parent < rank child) ∧
      ∀ id, rank id ≤ db.nodes.rows.length := by
  have inside : ∀ parent child, Edge db parent child →
      parent ∈ db.nodes.rows.map ExperimentNode.id := by
    intro parent child edge
    obtain ⟨node, found⟩ := dag.above parent child edge
    exact List.mem_map.mpr ⟨node, Table.mem_of_find? found, Table.key_of_find? found⟩
  obtain ⟨rank, increases, bounded⟩ := exists_rank_of_acyclic dag.acyclic inside
  refine ⟨rank, increases, fun id => ?_⟩
  have bound := bounded id
  rwa [List.length_map] at bound

theorem Dag.stored (dag : Dag db) {up : Bool} {near far : String}
    (generation : Generation db up near far) : ∃ node, db.nodes.find? far = some node := by
  cases up with
  | true => exact dag.above far near generation
  | false => exact dag.below near far generation

theorem generation_rank {rank : String → Nat}
    (increases : ∀ parent child, Edge db parent child → rank parent < rank child) {up : Bool}
    {near far : String} (generation : Generation db up near far) :
    if up then rank far < rank near else rank near < rank far := by
  cases up with
  | true => exact increases far near generation
  | false => exact increases near far generation

/-- A row of a traversal is a stored node at a depth the ranks bound. -/
theorem walk_bounded (dag : Dag db) {rank : String → Nat}
    (increases : ∀ parent child, Edge db parent child → rank parent < rank child) {up : Bool}
    {id : String} {row : String × Nat}
    (follows : Follows (walkStep db.edges up) (walkStep db.edges up (id, 0)) row) :
    TransGen (Generation db up) id row.1 ∧ (∃ node, db.nodes.find? row.1 = some node) ∧
      if up then rank row.1 + row.2 ≤ rank id else rank id + row.2 ≤ rank row.1 := by
  obtain ⟨first, isFirst, path⟩ := follows
  induction path with
  | refl =>
      obtain ⟨generation, depth⟩ := mem_walkStep.mp isFirst
      have ranks := generation_rank increases generation
      refine ⟨.single generation, dag.stored generation, ?_⟩
      cases up with
      | false =>
          simp only [Bool.false_eq_true, if_false] at ranks ⊢
          omega
      | true =>
          simp only [if_true] at ranks ⊢
          omega
  | @tail middle last _ isNext ih =>
      obtain ⟨generation, depth⟩ := mem_walkStep.mp isNext
      have ranks := generation_rank increases generation
      refine ⟨ih.1.tail generation, dag.stored generation, ?_⟩
      have bound := ih.2.2
      cases up with
      | false =>
          simp only [Bool.false_eq_true, if_false] at ranks bound ⊢
          omega
      | true =>
          simp only [if_true] at ranks bound ⊢
          omega

theorem follows_of_generations {up : Bool} {id far : String}
    (generations : TransGen (Generation db up) id far) :
    ∃ depth, Follows (walkStep db.edges up) (walkStep db.edges up (id, 0)) (far, depth) := by
  induction generations with
  | single generation =>
      exact ⟨1, (_, 1), mem_walkStep.mpr ⟨generation, rfl⟩, .refl⟩
  | tail _ generation ih =>
      obtain ⟨depth, first, isFirst, path⟩ := ih
      exact ⟨depth + 1, first, isFirst, path.tail (mem_walkStep.mpr ⟨generation, rfl⟩)⟩

/-- A traversal ends with exactly the nodes some generations away. -/
theorem traverse_ends {Time : Type} [LinearOrder Time] (createdAt : String → Time) (dag : Dag db)
    (id : String) (up : Bool) :
    ∃ enough nodes, (∀ fuel ≥ enough, traverse db createdAt fuel id up = some nodes) ∧
      ∀ node, node ∈ nodes ↔
        db.nodes.find? node.id = some node ∧ TransGen (Generation db up) id node.id := by
  obtain ⟨rank, increases, most⟩ := dag.exists_rank
  let ids := db.nodes.rows.map ExperimentNode.id
  let all :=
    ids.flatMap fun id => (List.range (db.nodes.rows.length + 1)).map fun depth => (id, depth)
  have bounded : ∀ row, Follows (walkStep db.edges up) (walkStep db.edges up (id, 0)) row →
      row ∈ all := by
    intro row follows
    obtain ⟨_, ⟨node, found⟩, depth⟩ := walk_bounded dag increases follows
    have isId : row.1 ∈ ids :=
      List.mem_map.mpr ⟨node, Table.mem_of_find? found, Table.key_of_find? found⟩
    have near := most row.1
    have far := most id
    simp only [all, List.mem_flatMap, List.mem_map, List.mem_range]
    refine ⟨row.1, isId, row.2, ?_, rfl⟩
    cases up <;> simp at depth <;> omega
  obtain ⟨walk, ends, exactly⟩ := recursiveUnion_ends bounded
  let nodes := ranked (fun node => toLex (walkDepth walk node, creation createdAt node.id))
    (db.nodes.rows.filter fun node => walk.any fun row => row.1 = node.id)
  refine ⟨all.length, nodes, ?_, ?_⟩
  · intro fuel enough
    simp only [traverse, ends fuel enough]
    rfl
  · intro node
    simp only [nodes, ranked_perm.mem_iff, List.mem_filter, List.any_eq_true, decide_eq_true_eq]
    constructor
    · rintro ⟨member, row, inWalk, isNode⟩
      have generations := (walk_bounded dag increases ((exactly row).mp inWalk)).1
      exact ⟨Table.find?_of_mem member, isNode ▸ generations⟩
    · rintro ⟨found, generations⟩
      obtain ⟨depth, follows⟩ := follows_of_generations generations
      exact ⟨Table.mem_of_find? found, (node.id, depth), (exactly _).mpr follows, rfl⟩

theorem mem_parentsIn {parent child : String} : parent ∈ parentsIn db.edges child ↔
    Edge db parent child := by
  simp only [parentsIn, List.mem_map, List.mem_filter, decide_eq_true_eq, Edge]
  constructor
  · rintro ⟨⟨_, _⟩, ⟨member, rfl⟩, rfl⟩
    exact member
  · intro member
    exact ⟨(parent, child), ⟨member, rfl⟩, rfl⟩

/-- A closure has an id and what is above it, whatever the edges are. -/
theorem closureIds_ends (db : Db) (id : String) :
    ∃ enough ids, (∀ fuel ≥ enough, closureIds db fuel id = some ids) ∧
      ∀ other, other ∈ ids ↔ ReflTransGen (Edge db) other id := by
  have bounded : ∀ row, Follows (parentsIn db.edges) [id] row →
      row ∈ id :: db.edges.map Prod.fst := by
    rintro row ⟨first, isFirst, path⟩
    rw [List.mem_singleton] at isFirst
    subst isFirst
    rcases path.cases_tail with same | ⟨child, _, isParent⟩
    · exact List.mem_cons.mpr (.inl same)
    · exact List.mem_cons_of_mem _ (List.mem_map.mpr ⟨_, mem_parentsIn.mp isParent, rfl⟩)
  obtain ⟨ids, ends, exactly⟩ := recursiveUnion_ends bounded
  refine ⟨_, ids, fun fuel enough => ends fuel enough, fun other => ?_⟩
  have generations : ReflTransGen (fun child parent => parent ∈ parentsIn db.edges child) id other ↔
      ReflTransGen (Edge db) other id := by
    rw [← reflTransGen_swap]
    simp only [mem_parentsIn]
  rw [exactly, ← generations]
  simp only [Follows, List.mem_singleton, exists_eq_left]

/-- The nodes of a closure. -/
def closureNodes (db : Db) (ids : List String) : List ExperimentNode :=
  db.nodes.rows.filter fun node => node.id ∈ ids

/-- A node's parents within its closure. -/
def closureParents (db : Db) (ids : List String) (child : String) : List String :=
  if child ∈ ids then
    ((parentsIn db.edges child).filter fun parent =>
      parent ∈ (closureNodes db ids).map ExperimentNode.id).insertionSort (· ≤ ·)
  else []

theorem mem_closureNodes {ids : List String} {node : ExperimentNode} :
    node ∈ closureNodes db ids ↔ db.nodes.find? node.id = some node ∧ node.id ∈ ids := by
  simp only [closureNodes, List.mem_filter, decide_eq_true_eq]
  exact and_congr_left fun _ => ⟨Table.find?_of_mem, Table.mem_of_find?⟩

theorem mem_closureParents {ids : List String} {child parent : String} :
    parent ∈ closureParents db ids child ↔ child ∈ ids ∧ Edge db parent child ∧
      parent ∈ (closureNodes db ids).map ExperimentNode.id := by
  unfold closureParents
  split
  · rename_i inside
    simp [List.mem_insertionSort, mem_parentsIn, inside]
  · rename_i outside
    simp [outside]

theorem closureParents_nodup (keyed : db.edges.Nodup) (ids : List String) (child : String) :
    (closureParents db ids child).Nodup := by
  unfold closureParents
  split
  · refine (List.perm_insertionSort _ _).nodup_iff.mpr (.filter _ ?_)
    refine List.Nodup.map_on ?_ (keyed.filter _)
    rintro ⟨parent, child⟩ member ⟨parent', child'⟩ member' rfl
    have isChild := of_decide_eq_true (List.mem_filter.mp member).2
    have isChild' := of_decide_eq_true (List.mem_filter.mp member').2
    exact Prod.ext rfl (isChild.trans isChild'.symm)
  · exact List.nodup_nil

/-- A leaf below a partial path ends with it. -/
theorem suffix_of_follows {parents : String → List String} {walked leaf : List String × List String}
    (follows : Follows (extendPath parents) [walked] leaf) : walked.1.IsSuffix leaf.1 := by
  obtain ⟨first, isFirst, path⟩ := follows
  rw [List.mem_singleton] at isFirst
  subst isFirst
  induction path with
  | refl => exact List.suffix_refl _
  | tail _ isNext ih =>
      obtain ⟨parent, _, rfl⟩ := List.mem_map.mp isNext
      exact ih.trans (List.suffix_cons _ _)

/-- Two extensions of a path have no leaf in common. -/
theorem extendPath_apart {parents : String → List String}
    (distinct : ∀ child, (parents child).Nodup)
    (walked : List String × List String) : (extendPath parents walked).Pairwise fun first second =>
      ∀ leaf, Follows (extendPath parents) [first] leaf →
        ¬ Follows (extendPath parents) [second] leaf := by
  refine List.pairwise_map.mpr (((distinct _).filter _).imp fun apart leaf first second => apart ?_)
  obtain ⟨before, isFirst⟩ := suffix_of_follows first
  obtain ⟨before', isSecond⟩ := suffix_of_follows second
  have tails := List.append_inj_right' (isFirst.trans isSecond.symm) rfl
  exact (List.cons.inj tails).1

/-- A path only grows by nodes it has not visited, so the search of all paths ends. -/
theorem paths_end (keyed : db.edges.Nodup) (ids : List String) (id : String) :
    ∃ enough complete, (∀ fuel ≥ enough,
        explore (extendPath (closureParents db ids)) fuel [([id], [id])] = some complete) ∧
      Finds (extendPath (closureParents db ids)) [([id], [id])] complete := by
  let nodes := (closureNodes db ids).map ExperimentNode.id
  refine explore_ends (fun walked => (nodes.filter fun other => other ∉ walked.2).length)
    (fun _ => True) ?_
      (fun walked _ => extendPath_apart (closureParents_nodup keyed ids) walked) trivial
  intro walked _ longer isLonger
  obtain ⟨parent, isParent, rfl⟩ := List.mem_map.mp isLonger
  obtain ⟨named, unvisited⟩ := List.mem_filter.mp isParent
  refine ⟨trivial, ?_⟩
  have fewer : ((nodes.filter fun other => other ∉ parent :: walked.2).Sublist
      (nodes.filter fun other => other ∉ walked.2)) := by
    refine List.monotone_filter_right nodes fun other isLeft => ?_
    rw [decide_eq_true_eq] at isLeft ⊢
    exact fun visited => isLeft (List.mem_cons_of_mem _ visited)
  apply Nat.lt_of_not_le
  intro asMany
  have isNode : parent ∈ nodes.filter fun other => other ∉ walked.2 :=
    List.mem_filter.mpr ⟨(mem_closureParents.mp named).2.2, unvisited⟩
  rw [← fewer.eq_of_length_le asMany] at isNode
  exact of_decide_eq_true (List.mem_filter.mp isNode).2 List.mem_cons_self

theorem lineagePaths_eq (fuel : Nat) (id : String) : lineagePaths db fuel id =
    (closureIds db fuel id).bind fun ids =>
      if id ∉ (closureNodes db ids).map ExperimentNode.id then some []
      else (explore (extendPath (closureParents db ids)) fuel [([id], [id])]).bind fun complete =>
        some (sortedPaths (complete.map fun path => path.1.filterMap db.nodes.find?)) := rfl

/-- `lineage_paths` ends, with the sorted leaves of its search. -/
theorem lineagePaths_ends (keyed : db.edges.Nodup) (id : String) :
    ∃ enough ids complete, (∀ other, other ∈ ids ↔ ReflTransGen (Edge db) other id) ∧
      Finds (extendPath (closureParents db ids)) [([id], [id])] complete ∧
      ∀ fuel ≥ enough, lineagePaths db fuel id =
        some (if id ∉ (closureNodes db ids).map ExperimentNode.id then []
          else sortedPaths (complete.map fun path => path.1.filterMap db.nodes.find?)) := by
  obtain ⟨enough, ids, closed, exactly⟩ := closureIds_ends db id
  obtain ⟨enough', complete, searched, finds⟩ := paths_end keyed ids id
  refine ⟨max enough enough', ids, complete, exactly, finds, fun fuel large => ?_⟩
  rw [lineagePaths_eq, closed fuel (le_of_max_le_left large), Option.bind_some,
    searched fuel (le_of_max_le_right large), Option.bind_some]
  exact (apply_ite some _ _ _).symm

end Graph

/-- Lineage is acyclic within one experiment and says what the nodes say, so that every question
about it is answered. -/
theorem lineage_is_dag {checks : Checks} {db : Db} {Time : Type} [LinearOrder Time]
    (createdAt : String → Time) (reached : Reachable checks db) :
    (∀ id, ¬ TransGen (Edge db) id id) ∧
    (∀ parent child, Edge db parent child → ∃ above below, db.nodes.find? parent = some above ∧
      db.nodes.find? child = some below ∧ above.experimentId = below.experimentId) ∧
    (∀ id node, db.nodes.find? id = some node → parentsIn db.edges id = node.parentIds) ∧
    ∀ id,
      (∃ enough nodes, (∀ fuel ≥ enough, ancestors db createdAt fuel id = some nodes) ∧
        ∀ node, node ∈ nodes ↔
          db.nodes.find? node.id = some node ∧ TransGen (Edge db) node.id id) ∧
      (∃ enough nodes, (∀ fuel ≥ enough, descendants db createdAt fuel id = some nodes) ∧
        ∀ node, node ∈ nodes ↔
          db.nodes.find? node.id = some node ∧ TransGen (Edge db) id node.id) ∧
      ∃ enough paths, ∀ fuel ≥ enough, lineagePaths db fuel id = some paths := by
  have lineages : Lineages db := ReachableBy.lineages reached
  refine ⟨?_, ?_, ?_, ?_⟩
  · exact lineages.dag.acyclic
  · exact fun _ _ edge => edge_stored lineages edge
  · exact fun _ _ found => incoming_edges lineages found
  · intro id
    obtain ⟨long, _, _, _, _, searched⟩ := lineagePaths_ends (ReachableBy.edges_nodup reached) id
    refine ⟨?_, traverse_ends createdAt lineages.dag id false, long, _, searched⟩
    obtain ⟨enough, nodes, ends, exactly⟩ := traverse_ends createdAt lineages.dag id true
    refine ⟨enough, nodes, ends, fun node => ?_⟩
    rw [exactly node, ← transGen_swap]
    rfl

/-- A call that creates a node of an experiment under these parents. -/
def nodeOf (experimentId id : String) (parentIds : List String) : Op :=
  .createNode { id := id, experimentId := experimentId, parentIds := parentIds
                candidateFingerprint := "" } ⟨"human", "operator", ""⟩ []

/-- A diamond, after calls whose parents are the node itself, repeated, missing or foreign. -/
def diamond : List Op :=
  [.createExperiment { id := "experiment" } ⟨"human", "operator", ""⟩ [],
    .createExperiment { id := "other" } ⟨"human", "operator", ""⟩ [],
    nodeOf "experiment" "root" [], nodeOf "other" "foreign" [],
    nodeOf "experiment" "self" ["self"], nodeOf "experiment" "twice" ["root", "root"],
    nodeOf "experiment" "lost" ["missing"], nodeOf "experiment" "far" ["foreign"],
    nodeOf "experiment" "left" ["root"], nodeOf "experiment" "right" ["root"],
    nodeOf "experiment" "merged" ["left", "right"]]

theorem lineage_is_dag_diamond :
    let db := execAll .permissive diamond Db.empty
    db.edges = [("root", "left"), ("root", "right"), ("left", "merged"), ("right", "merged")] ∧
      ¬ TransGen (Edge db) "merged" "merged" ∧
      ∃ enough paths, ∀ fuel ≥ enough, lineagePaths db fuel "merged" = some paths := by
  have dag := lineage_is_dag (fun _ => 0) (reachable_execAll .permissive diamond .start)
  exact ⟨by decide, dag.1 "merged", (dag.2.2.2 "merged").2.2⟩

end Xaytune.Storage
