import Xaytune.Storage.Lineage

/-!
# Orders, derivations and comparisons

What `ExperimentGraph` reads off a node's ancestry closure: the lineage in topological
order, every derivation from a root, and what two candidates have in common.
-/

namespace Xaytune.Storage

open Xaytune.Core Xaytune.Library Relation

/-! ## Lineage order -/

/-- Kahn's map: the children in a closure with their parents in it, then the nodes without any. -/
def remainingParents (db : Db) (ids : List String) : List (String × List String) :=
  let children := ((db.edges.map Prod.snd).dedup.filter fun child =>
    closureParents db ids child ≠ []).insertionSort (· ≤ ·)
  let roots := ((closureNodes db ids).map ExperimentNode.id).filter fun id => id ∉ children
  children.map (fun child => (child, closureParents db ids child)) ++ roots.map fun id => (id, [])

/-- A node of a closure under its id. -/
def closureNode (db : Db) (ids : List String) (key : String) : Option ExperimentNode :=
  (closureNodes db ids).find? fun node => node.id = key

section Order

variable {Time : Type} [LinearOrder Time]

/-- The ancestry closure in topological order, roots first. -/
def lineage (db : Db) (createdAt : String → Time) (fuel : Nat) (id : String) :
    Option (List ExperimentNode) := do
  let ids ← closureIds db fuel id
  if id ∉ (closureNodes db ids).map ExperimentNode.id then pure []
  else do
    let remaining := remainingParents db ids
    let order ← kahn (creation createdAt) fuel remaining
      (ranked (creation createdAt) (unblocked remaining))
    order.mapM (closureNode db ids)

end Order

section Closure

variable {db : Db} {ids : List String} {id : String}

theorem closureNode_eq {node : ExperimentNode} (member : node ∈ closureNodes db ids) :
    closureNode db ids node.id = some node := by
  obtain ⟨stored, inside⟩ := mem_closureNodes.mp member
  unfold closureNode
  cases found : (closureNodes db ids).find? fun other => other.id = node.id with
  | none =>
      have differs := List.find?_eq_none.mp found node member
      simp at differs
  | some other =>
      have same : other.id = node.id := by
        have holds := List.find?_some found
        exact of_decide_eq_true holds
      have isStored := (mem_closureNodes.mp (List.mem_of_find?_eq_some found)).1
      rw [same, stored] at isStored
      exact isStored.symm

/-- The ids of a closure's nodes are all of it, once its id is stored. -/
theorem Dag.mem_closureIds (dag : Dag db) {node : ExperimentNode}
    (found : db.nodes.find? id = some node)
    (exactly : ∀ other, other ∈ ids ↔ ReflTransGen (Edge db) other id) {other : String} :
    other ∈ (closureNodes db ids).map ExperimentNode.id ↔ ReflTransGen (Edge db) other id := by
  constructor
  · intro member
    obtain ⟨row, isRow, rfl⟩ := List.mem_map.mp member
    exact (exactly _).mp (mem_closureNodes.mp isRow).2
  · intro descends
    have stored : ∃ row, db.nodes.find? other = some row := by
      rcases descends.cases_head with rfl | ⟨child, edge, _⟩
      · exact ⟨node, found⟩
      · exact dag.above other child edge
    obtain ⟨row, isRow⟩ := stored
    have isKey := Table.key_of_find? isRow
    refine List.mem_map.mpr ⟨row, mem_closureNodes.mpr ⟨?_, ?_⟩, isKey⟩
    · rw [isKey]
      exact isRow
    · rw [isKey]
      exact (exactly other).mpr descends

theorem closureNodes_nodup : ((closureNodes db ids).map ExperimentNode.id).Nodup :=
  db.nodes.nodup.sublist (List.filter_sublist.map ExperimentNode.id)

/-- An unstored id of a graph has only itself above it, so nothing of its closure is stored. -/
theorem Dag.closureNodes_eq_nil (dag : Dag db) (missing : db.nodes.find? id = none)
    (exactly : ∀ other, other ∈ ids ↔ ReflTransGen (Edge db) other id) :
    closureNodes db ids = [] := by
  rw [List.eq_nil_iff_forall_not_mem]
  intro node member
  obtain ⟨stored, inside⟩ := mem_closureNodes.mp member
  rcases ((exactly node.id).mp inside).cases_tail with rfl | ⟨child, _, edge⟩
  · rw [missing] at stored
    cases stored
  · obtain ⟨row, isRow⟩ := dag.below child id edge
    rw [missing] at isRow
    cases isRow

/-- Keys of a closure read back as its nodes, in their order. -/
theorem mapM_closureNode {keys : List String}
    (inside : ∀ key ∈ keys, key ∈ (closureNodes db ids).map ExperimentNode.id) :
    ∃ nodes, keys.mapM (closureNode db ids) = some nodes ∧ nodes.map ExperimentNode.id = keys ∧
      ∀ node ∈ nodes, node ∈ closureNodes db ids := by
  induction keys with
  | nil => exact ⟨[], rfl, rfl, fun _ member => absurd member List.not_mem_nil⟩
  | cons key keys ih =>
      obtain ⟨nodes, read, isKeys, members⟩ := ih fun other member =>
        inside other (List.mem_cons_of_mem _ member)
      obtain ⟨node, member, rfl⟩ := List.mem_map.mp (inside key List.mem_cons_self)
      refine ⟨node :: nodes, ?_, ?_, List.forall_mem_cons.mpr ⟨member, members⟩⟩
      · rw [List.mapM_cons, closureNode_eq member, read]
        rfl
      · rw [List.map_cons, isKeys]

end Closure

/-! ## The lineage is the least topological order -/

section Lineage

variable {Time : Type} [LinearOrder Time] {createdAt : String → Time} {db : Db} {ids : List String}

omit [LinearOrder Time] in
theorem creation_injective : Function.Injective (creation createdAt) := by
  intro first second same
  exact (Prod.mk.inj (toLex.injective same)).2

theorem mem_remainingParents {entry : String × List String} : entry ∈ remainingParents db ids →
    entry.2 = closureParents db ids entry.1 := by
  intro member
  rcases List.mem_append.mp member with isChild | isRoot
  · obtain ⟨child, _, rfl⟩ := List.mem_map.mp isChild
    rfl
  · obtain ⟨root, inRoots, rfl⟩ := List.mem_map.mp isRoot
    obtain ⟨isNode, notChild⟩ := List.mem_filter.mp inRoots
    have notChild := of_decide_eq_true notChild
    rw [List.mem_insertionSort, List.mem_filter, List.mem_dedup] at notChild
    by_contra some
    apply notChild
    refine ⟨?_, decide_eq_true (Ne.symm some)⟩
    obtain ⟨parent, isParent⟩ := List.exists_mem_of_ne_nil _ (Ne.symm some)
    exact List.mem_map.mpr ⟨(parent, root), (mem_closureParents.mp isParent).2.1, rfl⟩

theorem remainingParents_fst : (remainingParents db ids).map Prod.fst =
    (((db.edges.map Prod.snd).dedup.filter fun child =>
      closureParents db ids child ≠ []).insertionSort (· ≤ ·)) ++
    ((closureNodes db ids).map ExperimentNode.id).filter fun id =>
      id ∉ ((db.edges.map Prod.snd).dedup.filter fun child =>
        closureParents db ids child ≠ []).insertionSort (· ≤ ·) := by
  simp [remainingParents, Function.comp_def]

theorem Dag.remaining_keys (dag : Dag db) {key : String} :
    key ∈ (remainingParents db ids).map Prod.fst ↔
      key ∈ (closureNodes db ids).map ExperimentNode.id := by
  rw [remainingParents_fst, List.mem_append, List.mem_filter, decide_eq_true_eq]
  constructor
  · rintro (isChild | ⟨isNode, -⟩)
    · rw [List.mem_insertionSort, List.mem_filter, decide_eq_true_eq] at isChild
      obtain ⟨parent, isParent⟩ := List.exists_mem_of_ne_nil _ isChild.2
      obtain ⟨inside, edge, -⟩ := mem_closureParents.mp isParent
      obtain ⟨node, found⟩ := dag.below parent key edge
      have isKey := Table.key_of_find? found
      refine List.mem_map.mpr ⟨node, mem_closureNodes.mpr ⟨?_, ?_⟩, isKey⟩
      · rw [isKey]
        exact found
      · rw [isKey]
        exact inside
    · exact isNode
  · intro isNode
    by_cases isChild : key ∈ ((db.edges.map Prod.snd).dedup.filter fun child =>
        closureParents db ids child ≠ []).insertionSort (· ≤ ·)
    · exact .inl isChild
    · exact .inr ⟨isNode, isChild⟩

theorem remaining_nodup : ((remainingParents db ids).map Prod.fst).Nodup := by
  rw [remainingParents_fst, List.nodup_append]
  refine ⟨?_, closureNodes_nodup.filter _, ?_⟩
  · exact (List.perm_insertionSort _ _).nodup_iff.mpr ((List.nodup_dedup _).filter _)
  · rintro child isChild _ isRoot rfl
    exact of_decide_eq_true (List.mem_filter.mp isRoot).2 isChild

theorem Dag.waits (dag : Dag db) : Waits ((closureNodes db ids).map ExperimentNode.id) (Edge db)
    (creation createdAt) [] (remainingParents db ids)
    (ranked (creation createdAt) (unblocked (remainingParents db ids))) := by
  apply waits_start
  · exact fun key => dag.remaining_keys
  · exact remaining_nodup
  · intro entry member earlier
    have isNode := dag.remaining_keys.mp (List.mem_map_of_mem member)
    obtain ⟨node, inside, isId⟩ := List.mem_map.mp isNode
    rw [mem_remainingParents member, mem_closureParents]
    constructor
    · rintro ⟨-, edge, isKey⟩
      exact ⟨isKey, edge⟩
    · rintro ⟨isKey, edge⟩
      exact ⟨isId ▸ (mem_closureNodes.mp inside).2, edge, isKey⟩

/-- The lineage of a node in any acyclic graph: its ancestry closure, each node once, every parent
before its children, and always the oldest ready node next, by creation time and id. -/
theorem lineage_is_least_topological_order (createdAt : String → Time) (dag : Dag db)
    (id : String) :
    ∃ enough order, (∀ fuel ≥ enough, lineage db createdAt fuel id = some order) ∧
      (order.map ExperimentNode.id).Nodup ∧
      (∀ node, node ∈ order ↔
        db.nodes.find? node.id = some node ∧ ReflTransGen (Edge db) node.id id) ∧
      (∀ earlier child later, order = earlier ++ child :: later →
        ∀ parent, Edge db parent child.id → parent ∈ earlier.map ExperimentNode.id) ∧
      ∀ other, LeastFirst (order.map ExperimentNode.id) (Edge db)
        (fun first second => toLex (createdAt first, first) < toLex (createdAt second, second)) []
          other ↔ other = order.map ExperimentNode.id := by
  obtain ⟨enough, ids, closed, exactly⟩ := closureIds_ends db id
  cases found : db.nodes.find? id with
  | none =>
      have empty := dag.closureNodes_eq_nil found exactly
      refine ⟨enough, [], fun fuel large => ?_, List.nodup_nil, fun node => ?_, ?_, fun other => ?_⟩
      · simp [lineage, closed fuel large, empty]
      · have none : node ∈ closureNodes db ids ↔ _ := mem_closureNodes
        rw [empty, exactly] at none
        exact none
      · intro earlier child later isOrder
        simp at isOrder
      · constructor
        · intro least
          cases least with
          | stop => rfl
          | take ready => exact absurd ready.isKey List.not_mem_nil
        · rintro rfl
          exact .stop fun key ready => absurd ready.isKey List.not_mem_nil
  | some node =>
      have waits : Waits ((closureNodes db ids).map ExperimentNode.id) (Edge db)
          (creation createdAt) [] (remainingParents db ids) _ := dag.waits
      obtain ⟨keys, ends, least⟩ := waits.ends creation_injective
      have inside := fun key member => (least.untaken key member).1
      obtain ⟨order, read, isKeys, members⟩ := mapM_closureNode inside
      have complete := least.complete dag.acyclic
      have isIn : id ∈ (closureNodes db ids).map ExperimentNode.id :=
        (dag.mem_closureIds found exactly).mpr .refl
      have isOrder : ∀ key, key ∈ keys ↔ key ∈ (closureNodes db ids).map ExperimentNode.id :=
        fun key => ⟨inside key, complete key⟩
      refine ⟨max enough (remainingParents db ids).length, order, fun fuel large => ?_, ?_, ?_,
        ?_, ?_⟩
      · simp only [lineage, closed fuel (le_of_max_le_left large), Option.bind_eq_bind,
          Option.bind_some, if_neg (not_not.mpr isIn), ends fuel (le_of_max_le_right large)]
        exact read
      · rw [isKeys]
        exact least.nodup
      · intro other
        rw [← exactly, ← mem_closureNodes]
        refine ⟨members other, fun member => ?_⟩
        have inOrder : other.id ∈ order.map ExperimentNode.id := by
          rw [isKeys]
          exact (isOrder other.id).mpr (List.mem_map_of_mem member)
        obtain ⟨same, isSame, isId⟩ := List.mem_map.mp inOrder
        have stored := (mem_closureNodes.mp (members same isSame)).1
        rw [isId, (mem_closureNodes.mp member).1] at stored
        exact Option.some.inj stored ▸ isSame
      · intro earlier child later isSplit parent edge
        have split : keys = earlier.map ExperimentNode.id ++ child.id ::
            later.map ExperimentNode.id := by
          rw [← isKeys, isSplit, List.map_append, List.map_cons]
        have isChild : ReflTransGen (Edge db) child.id id := by
          apply (dag.mem_closureIds found exactly).mp
          apply inside
          rw [split]
          exact List.mem_append_right _ List.mem_cons_self
        have isParent := (dag.mem_closureIds found exactly).mpr (isChild.head edge)
        simpa using least.ordered split parent isParent edge
      · intro other
        rw [isKeys]
        have sameKeys : LeastFirst keys (Edge db)
            (fun first second => creation createdAt first < creation createdAt second) [] keys :=
          least.congr isOrder
        constructor
        · exact fun isLeast => sameKeys.unique (fun _ _ less => not_lt_of_gt less) isLeast
        · rintro rfl
          exact sameKeys

end Lineage

theorem lineage_is_least_topological_order_diamond :
    let db := execAll .permissive diamond Db.empty
    let createdAt := fun id => if id = "right" then 0 else 1
    (∃ enough order, (∀ fuel ≥ enough, lineage db createdAt fuel "merged" = some order) ∧
      (order.map ExperimentNode.id).Nodup) ∧
      (lineage db createdAt 20 "merged").map (fun order => order.map ExperimentNode.id) =
        some ["root", "right", "left", "merged"] := by
  intro db createdAt
  have dag : Dag db := (ReachableBy.lineages (reachable_execAll .permissive diamond .start)).dag
  obtain ⟨enough, order, ends, nodup, _⟩ :=
    lineage_is_least_topological_order createdAt dag "merged"
  exact ⟨⟨enough, order, ends, nodup⟩, by decide⟩

/-! ## Derivations -/

/-- A path of stored nodes from one without a parent down to a node. -/
structure Derivation (db : Db) (id : String) (path : List ExperimentNode) : Prop where
  stored : ∀ node ∈ path, db.nodes.find? node.id = some node
  linked : path.IsChain fun parent child => Edge db parent.id child.id
  ends : path.getLast?.map ExperimentNode.id = some id
  root : ∀ first ∈ path.head?, ∀ parent, ¬ Edge db parent first.id

section Derivations

/-- A partial path: down to a node, each step from a parent, no node twice. -/
structure Trail (parents : String → List String) (id : String) (path : List String) : Prop where
  linked : path.IsChain fun parent child => parent ∈ parents child
  ends : path.getLast? = some id
  nodup : path.Nodup

variable {parents : String → List String} {db : Db} {ids path : List String} {id : String}

theorem Trail.start : Trail parents id [id] := ⟨.singleton id, rfl, List.nodup_singleton id⟩

theorem Trail.extend (trail : Trail parents id path) {parent : String}
    (isParent : parent ∈ parents (path.headD "")) (unvisited : parent ∉ path) :
    Trail parents id (parent :: path) := by
  cases path with
  | nil => cases trail.ends
  | cons head rest =>
      refine ⟨.cons_cons isParent trail.linked, ?_, List.nodup_cons.mpr ⟨unvisited, trail.nodup⟩⟩
      rw [List.getLast?_cons_cons]
      exact trail.ends

/-- The search meets exactly the partial paths. -/
theorem follows_extendPath {walked : List String × List String} :
    Follows (extendPath parents) [([id], [id])] walked ↔
      walked.2 = walked.1 ∧ Trail parents id walked.1 := by
  constructor
  · rintro ⟨first, isFirst, path⟩
    rw [List.mem_singleton] at isFirst
    subst isFirst
    induction path with
    | refl => exact ⟨rfl, .start⟩
    | @tail middle last _ isNext ih =>
        obtain ⟨parent, isParent, rfl⟩ := List.mem_map.mp isNext
        obtain ⟨named, unvisited⟩ := List.mem_filter.mp isParent
        obtain ⟨visited, trail⟩ := ih
        have unvisited := of_decide_eq_true unvisited
        rw [visited] at unvisited ⊢
        exact ⟨rfl, trail.extend named unvisited⟩
  · obtain ⟨path, seen⟩ := walked
    rintro ⟨visited, trail⟩
    have visited : seen = path := visited
    subst visited
    induction seen with
    | nil => cases trail.ends
    | cons parent rest ih =>
        cases rest with
        | nil =>
            have same : parent = id := Option.some.inj trail.ends
            subst same
            exact ⟨_, List.mem_singleton_self _, .refl⟩
        | cons child rest =>
            obtain ⟨unvisited, nodup⟩ := List.nodup_cons.mp trail.nodup
            obtain ⟨isParent, linked⟩ := List.isChain_cons_cons.mp trail.linked
            have ends : (child :: rest).getLast? = some id := by
              rw [← List.getLast?_cons_cons (a := parent)]
              exact trail.ends
            obtain ⟨first, isFirst, walk⟩ := ih rfl ⟨linked, ends, nodup⟩
            refine ⟨first, isFirst, walk.tail ?_⟩
            exact List.mem_map.mpr ⟨parent,
              List.mem_filter.mpr ⟨isParent, decide_eq_true unvisited⟩, rfl⟩

/-- Along a path every later node descends from the first. -/
theorem descends_of_linked {edge : String → String → Prop} {head : String} {rest : List String}
    (linked : (head :: rest).IsChain edge) : ∀ other ∈ rest, TransGen edge head other := by
  induction rest generalizing head with
  | nil => intro other member; cases member
  | cons next rest ih =>
      obtain ⟨isEdge, linked⟩ := List.isChain_cons_cons.mp linked
      intro other member
      rcases List.mem_cons.mp member with rfl | later
      · exact .single isEdge
      · exact .head isEdge (ih linked other later)

theorem Trail.stored (trail : Trail (closureParents db ids) id path)
    (isNode : id ∈ (closureNodes db ids).map ExperimentNode.id) :
    ∀ key ∈ path, key ∈ (closureNodes db ids).map ExperimentNode.id := by
  obtain ⟨linked, ends, -⟩ := trail
  induction path with
  | nil => cases ends
  | cons head rest ih =>
      cases rest with
      | nil =>
          have same : head = id := Option.some.inj ends
          subst same
          intro key member
          rw [List.mem_singleton] at member
          exact member ▸ isNode
      | cons next rest =>
          obtain ⟨isParent, linked⟩ := List.isChain_cons_cons.mp linked
          rw [List.getLast?_cons_cons] at ends
          intro key member
          rcases List.mem_cons.mp member with rfl | later
          · exact (mem_closureParents.mp isParent).2.2
          · exact ih linked ends key later

/-- Stored ids read back as nodes with those ids. -/
theorem filterMap_find (stored : ∀ key ∈ path, ∃ node, db.nodes.find? key = some node) :
    (path.filterMap db.nodes.find?).map ExperimentNode.id = path := by
  induction path with
  | nil => rfl
  | cons key rest ih =>
      obtain ⟨node, found⟩ := stored key List.mem_cons_self
      rw [List.filterMap_cons_some found, List.map_cons, Table.key_of_find? found,
        ih fun other member => stored other (List.mem_cons_of_mem _ member)]

theorem filterMap_map {nodes : List ExperimentNode}
    (stored : ∀ node ∈ nodes, db.nodes.find? node.id = some node) :
    (nodes.map ExperimentNode.id).filterMap db.nodes.find? = nodes := by
  induction nodes with
  | nil => rfl
  | cons node rest ih =>
      rw [List.map_cons, List.filterMap_cons_some (stored node List.mem_cons_self),
        ih fun other member => stored other (List.mem_cons_of_mem _ member)]

theorem find_of_closure {key : String}
    (isNode : key ∈ (closureNodes db ids).map ExperimentNode.id) :
    ∃ node, db.nodes.find? key = some node := by
  obtain ⟨node, member, rfl⟩ := List.mem_map.mp isNode
  exact ⟨node, (mem_closureNodes.mp member).1⟩

/-- In an acyclic graph a closure has every parent of what is in it. -/
theorem Dag.parents_iff (dag : Dag db)
    (exactly : ∀ other, other ∈ ids ↔ ReflTransGen (Edge db) other id)
    {parent child : String} (inside : child ∈ ids) :
    parent ∈ closureParents db ids child ↔ Edge db parent child := by
  rw [mem_closureParents]
  constructor
  · exact fun holds => holds.2.1
  · intro edge
    obtain ⟨row, found⟩ := dag.above parent child edge
    have isRow := Table.key_of_find? found
    refine ⟨inside, edge, List.mem_map.mpr ⟨row, mem_closureNodes.mpr ⟨?_, ?_⟩, isRow⟩⟩
    · rw [isRow]
      exact found
    · rw [isRow]
      exact (exactly parent).mpr (((exactly child).mp inside).head edge)

theorem Trail.inside (trail : Trail (closureParents db ids) id path)
    (isNode : id ∈ (closureNodes db ids).map ExperimentNode.id) : ∀ key ∈ path, key ∈ ids := by
  intro key member
  obtain ⟨node, isClosed, rfl⟩ := List.mem_map.mp (trail.stored isNode key member)
  exact (mem_closureNodes.mp isClosed).2

/-- There a partial path is complete when its first node has no parent at all. -/
theorem Dag.leaf_iff (dag : Dag db)
    (exactly : ∀ other, other ∈ ids ↔ ReflTransGen (Edge db) other id)
    (isNode : id ∈ (closureNodes db ids).map ExperimentNode.id) {head : String} {rest : List String}
    (trail : Trail (closureParents db ids) id (head :: rest)) :
    extendPath (closureParents db ids) (head :: rest, head :: rest) = [] ↔
      ∀ parent, ¬ Edge db parent head := by
  have linked : (head :: rest).IsChain (Edge db) :=
    trail.linked.imp fun _ _ isParent => (mem_closureParents.mp isParent).2.1
  have isParent : ∀ parent, parent ∈ closureParents db ids head ↔ Edge db parent head :=
    fun _ => dag.parents_iff exactly (trail.inside isNode head List.mem_cons_self)
  simp only [extendPath, List.map_eq_nil_iff, List.filter_eq_nil_iff, List.headD_cons,
    decide_eq_true_eq, not_not, isParent]
  constructor
  · intro visited parent edge
    rcases List.mem_cons.mp (visited parent edge) with rfl | later
    · exact dag.acyclic _ (.single edge)
    · exact dag.acyclic _ (.head edge (descends_of_linked linked parent later))
  · exact fun root parent edge => absurd edge (root parent)

/-- The ids along a derivation are a partial path. -/
theorem Derivation.trail {nodes : List ExperimentNode} (dag : Dag db)
    (exactly : ∀ other, other ∈ ids ↔ ReflTransGen (Edge db) other id)
    (derivation : Derivation db id nodes) :
    Trail (closureParents db ids) id (nodes.map ExperimentNode.id) := by
  obtain ⟨stored, linked, ends, -⟩ := derivation
  have linked : (nodes.map ExperimentNode.id).IsChain (Edge db) := (List.isChain_map _).mpr linked
  have last : (nodes.map ExperimentNode.id).getLast? = some id := by
    rw [List.getLast?_map]
    exact ends
  generalize nodes.map ExperimentNode.id = path at linked last
  clear stored ends
  -- going up the path, each node is above the last one
  have climbs : path.IsChain (fun parent child => parent ∈ closureParents db ids child) ∧
      path.Nodup ∧ ∀ head ∈ path.head?, head ∈ ids := by
    induction path with
    | nil => cases last
    | cons head rest ih =>
        cases rest with
        | nil =>
            have same : head = id := Option.some.inj last
            subst same
            refine ⟨.singleton head, List.nodup_singleton head, fun first isFirst => ?_⟩
            cases isFirst
            exact (exactly head).mpr .refl
        | cons next rest =>
            obtain ⟨isEdge, later⟩ := List.isChain_cons_cons.mp linked
            rw [List.getLast?_cons_cons] at last
            obtain ⟨links, nodup, isIn⟩ := ih later last
            have inside : next ∈ ids := isIn next rfl
            refine ⟨.cons_cons ((dag.parents_iff exactly inside).mpr isEdge) links,
              List.nodup_cons.mpr ⟨fun again => ?_, nodup⟩, fun first isFirst => ?_⟩
            · exact dag.acyclic _ (descends_of_linked linked head again)
            · cases isFirst
              exact (exactly head).mpr (((exactly next).mp inside).head isEdge)
  exact ⟨climbs.1, last, climbs.2.1⟩

theorem sortedPaths_perm {paths : List (List ExperimentNode)} : (sortedPaths paths).Perm paths :=
  List.perm_insertionSort _ _

theorem sortedPaths_pairwise {paths : List (List ExperimentNode)} :
    (sortedPaths paths).Pairwise fun first second =>
      second.length < first.length ∨ (first.length = second.length ∧
        first.map ExperimentNode.id ≤ second.map ExperimentNode.id) := by
  have total : Std.Total fun first second : List ExperimentNode =>
      second.length < first.length ∨ (first.length = second.length ∧
        first.map ExperimentNode.id ≤ second.map ExperimentNode.id) := by
    refine ⟨fun first second => ?_⟩
    have ids := le_total (first.map ExperimentNode.id) (second.map ExperimentNode.id)
    rcases Nat.lt_trichotomy first.length second.length with less | same | more
    · exact .inr (.inl less)
    · exact ids.imp (fun below => .inr ⟨same, below⟩) fun below => .inr ⟨same.symm, below⟩
    · exact .inl (.inl more)
  have transitive : IsTrans (List ExperimentNode) fun first second =>
      second.length < first.length ∨ (first.length = second.length ∧
        first.map ExperimentNode.id ≤ second.map ExperimentNode.id) := by
    refine ⟨fun first second third => ?_⟩
    rintro (less | ⟨same, below⟩) (less' | ⟨same', below'⟩)
    · exact .inl (less'.trans less)
    · exact .inl (same' ▸ less)
    · exact .inl (same ▸ less')
    · exact .inr ⟨same.trans same', below.trans below'⟩
  exact List.pairwise_insertionSort _ _

/-- On any edges the search ends, and no path it returns has a node twice; where they close no
cycle it returns every derivation of the node from a root, once, and nothing else. The longest
stand first, then by the ids along them. -/
theorem lineage_paths_are_all_derivations (keyed : db.edges.Nodup) (id : String) :
    ∃ enough paths, (∀ fuel ≥ enough, lineagePaths db fuel id = some paths) ∧
      (∀ path ∈ paths, (path.map ExperimentNode.id).Nodup) ∧ paths.Nodup ∧
      (paths.Pairwise fun first second => second.length < first.length ∨
        (first.length = second.length ∧
          first.map ExperimentNode.id ≤ second.map ExperimentNode.id)) ∧
      (Dag db → ∀ path, path ∈ paths ↔ Derivation db id path) := by
  obtain ⟨enough, ids, complete, exactly, finds, ends⟩ := lineagePaths_ends keyed id
  by_cases isNode : id ∈ (closureNodes db ids).map ExperimentNode.id
  · rw [if_neg (not_not.mpr isNode)] at ends
    let read := fun walked : List String × List String => walked.1.filterMap db.nodes.find?
    have trails : ∀ walked ∈ complete, walked.2 = walked.1 ∧
        Trail (closureParents db ids) id walked.1 :=
      fun walked member => follows_extendPath.mp ((finds.exactly walked).mp member).2
    have names : ∀ walked ∈ complete, (read walked).map ExperimentNode.id = walked.1 := by
      intro walked member
      apply filterMap_find
      exact fun key isKey => find_of_closure ((trails walked member).2.stored isNode key isKey)
    have isPath : ∀ path, path ∈ sortedPaths (complete.map read) ↔
        ∃ walked ∈ complete, read walked = path := by
      intro path
      rw [sortedPaths_perm.mem_iff, List.mem_map]
    refine ⟨enough, _, ends, ?_, ?_, sortedPaths_pairwise, fun dag path => ?_⟩
    · intro path member
      obtain ⟨walked, inComplete, rfl⟩ := (isPath path).mp member
      rw [names walked inComplete]
      exact (trails walked inComplete).2.nodup
    · refine sortedPaths_perm.nodup_iff.mpr (List.Nodup.map_on ?_ finds.nodup)
      intro first isFirst second isSecond same
      have ids : first.1 = second.1 := by
        rw [← names first isFirst, ← names second isSecond]
        exact congrArg _ same
      refine Prod.ext ids ?_
      rw [(trails first isFirst).1, (trails second isSecond).1, ids]
    · rw [isPath]
      constructor
      · rintro ⟨walked, member, rfl⟩
        obtain ⟨visited, trail⟩ := trails walked member
        have isLeaf := ((finds.exactly walked).mp member).1
        have isIds := names walked member
        obtain ⟨path, seen⟩ := walked
        have visited : seen = path := visited
        subst visited
        have isIds : (read (seen, seen)).map ExperimentNode.id = seen := isIds
        refine ⟨fun node isIn => ?_, ?_, ?_, ?_⟩
        · obtain ⟨key, _, found⟩ := List.mem_filterMap.mp isIn
          rw [Table.key_of_find? found]
          exact found
        · refine (List.isChain_map ExperimentNode.id).mp ?_
          rw [isIds]
          exact trail.linked.imp fun _ _ isParent => (mem_closureParents.mp isParent).2.1
        · rw [← List.getLast?_map, isIds]
          exact trail.ends
        · intro first isFirst
          have heads : seen.head? = some first.id := by
            rw [← isIds, List.head?_map, Option.mem_def.mp isFirst]
            rfl
          cases seen with
          | nil => cases heads
          | cons head rest =>
              have same : head = first.id := Option.some.inj heads
              subst same
              exact (dag.leaf_iff exactly isNode trail).mp isLeaf
      · intro derivation
        have trail := derivation.trail dag exactly
        refine ⟨(path.map ExperimentNode.id, path.map ExperimentNode.id), ?_,
          filterMap_map derivation.stored⟩
        refine (finds.exactly _).mpr ⟨?_, follows_extendPath.mpr ⟨rfl, trail⟩⟩
        cases path with
        | nil => cases derivation.ends
        | cons first rest =>
            exact (dag.leaf_iff exactly isNode trail).mpr (derivation.root first rfl)
  · rw [if_pos isNode] at ends
    refine ⟨enough, [], ends, fun _ member => absurd member List.not_mem_nil, List.nodup_nil,
      .nil, fun dag path => ?_⟩
    constructor
    · intro member
      cases member
    · intro derivation
      obtain ⟨node, isLast, isId⟩ := Option.map_eq_some_iff.mp derivation.ends
      have stored := derivation.stored node (List.mem_of_getLast? isLast)
      refine absurd (List.mem_map.mpr ⟨node, mem_closureNodes.mpr ⟨stored, ?_⟩, isId⟩) isNode
      rw [isId]
      exact (exactly id).mpr .refl

theorem lineage_paths_are_all_derivations_diamond :
    let db := execAll .permissive diamond Db.empty
    (∃ enough paths, (∀ fuel ≥ enough, lineagePaths db fuel "merged" = some paths) ∧ paths.Nodup) ∧
      (lineagePaths db 20 "merged").map (fun paths => paths.map fun path =>
        path.map ExperimentNode.id) =
        some [["root", "left", "merged"], ["root", "right", "merged"]] := by
  intro db
  obtain ⟨enough, paths, ends, _, nodup, _⟩ := lineage_paths_are_all_derivations
    (ReachableBy.edges_nodup (reachable_execAll .permissive diamond .start)) "merged"
  exact ⟨⟨enough, paths, ends, nodup⟩, by decide⟩

end Derivations

end Xaytune.Storage
