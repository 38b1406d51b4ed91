import Xaytune.Storage.Ancestry

/-!
# Comparing two candidates

`ExperimentGraph.compare`: the closures two nodes share and the lowest nodes of what they
share, those without another one among their descendants.
-/

namespace Xaytune.Storage

open Xaytune.Core Xaytune.Library Relation

/-- What two candidates share. -/
structure CandidateComparison where
  left : ExperimentNode
  right : ExperimentNode
  commonAncestors : List ExperimentNode
  nearestCommonAncestors : List ExperimentNode
  sameCandidate : Bool

/-- The node's ancestry including itself. -/
def ancestryClosure (db : Db) (fuel : Nat) (node : ExperimentNode) : Option (List ExperimentNode) :=
  (closureIds db fuel node.id).map (closureNodes db)

section Searches

variable {Time : Type} [LinearOrder Time] (db : Db) (createdAt : String → Time) (fuel : Nat)

/-- The nodes that no other of the common ids descends from. -/
def lowest (commonIds : List String) : List ExperimentNode → Option (List ExperimentNode)
  | [] => some []
  | node :: rest => do
      let below ← descendants db createdAt fuel node.id
      let rest ← lowest commonIds rest
      if below.any fun descendant => descendant.id ∈ commonIds then pure rest
      else pure (node :: rest)

/-- The ids in both closures, sorted. -/
def commonIds (leftClosure rightClosure : List ExperimentNode) : List String :=
  ((leftClosure.map ExperimentNode.id).filter fun id =>
    id ∈ rightClosure.map ExperimentNode.id).insertionSort (· ≤ ·)

/-- What two nodes of one experiment share, or the `LineageError` raised. -/
def compare (leftId rightId : String) : Option (Except String CandidateComparison) :=
  match db.nodes.find? leftId, db.nodes.find? rightId with
  | none, _ => some (.error ("node " ++ leftId ++ " does not exist"))
  | some _, none => some (.error ("node " ++ rightId ++ " does not exist"))
  | some left, some right =>
      if left.experimentId ≠ right.experimentId then
        some (.error ("nodes " ++ leftId ++ " and " ++ rightId ++
          " belong to different experiments; lineage is meaningful only within one"))
      else do
        let leftClosure ← ancestryClosure db fuel left
        let rightClosure ← ancestryClosure db fuel right
        let shared := commonIds leftClosure rightClosure
        let common := shared.filterMap fun id => leftClosure.find? fun node => node.id = id
        let nearest ← lowest db createdAt fuel shared common
        pure (.ok {
          left := left
          right := right
          commonAncestors := common
          nearestCommonAncestors := nearest
          sameCandidate := left.candidateFingerprint = right.candidateFingerprint })

end Searches

section Comparison

variable {db : Db} {Time : Type} [LinearOrder Time] (createdAt : String → Time)

/-- A node that both candidates are or descend from. -/
def CommonAncestor (db : Db) (leftId rightId : String) (node : ExperimentNode) : Prop :=
  db.nodes.find? node.id = some node ∧
    ReflTransGen (Edge db) node.id leftId ∧ ReflTransGen (Edge db) node.id rightId

/-- The lowest nodes are those without a common one strictly below. -/
theorem lowest_ends (dag : Dag db) (shared : List String) (nodes : List ExperimentNode) :
    ∃ enough nearest, (∀ fuel ≥ enough, lowest db createdAt fuel shared nodes = some nearest) ∧
      nearest.Sublist nodes ∧ ∀ node, node ∈ nearest ↔ node ∈ nodes ∧
        ∀ other, db.nodes.find? other.id = some other → other.id ∈ shared →
          ¬ TransGen (Edge db) node.id other.id := by
  induction nodes with
  | nil => exact ⟨0, [], fun fuel _ => rfl, .slnil, fun node => by simp⟩
  | cons node rest ih =>
      obtain ⟨enough, nearest, ends, isSublist, exactly⟩ := ih
      obtain ⟨enough', below, found, isBelow⟩ := traverse_ends createdAt dag node.id false
      have isBelow : ∀ other, other ∈ below ↔
          db.nodes.find? other.id = some other ∧ TransGen (Edge db) node.id other.id := isBelow
      have unfolds : ∀ fuel ≥ max enough enough', lowest db createdAt fuel shared (node :: rest) =
          if below.any fun descendant => descendant.id ∈ shared then some nearest
          else some (node :: nearest) := by
        intro fuel large
        simp only [lowest, descendants, found fuel (le_of_max_le_right large),
          ends fuel (le_of_max_le_left large), Option.bind_eq_bind, Option.bind_some]
        rfl
      by_cases hasLower : below.any (fun descendant => descendant.id ∈ shared) = true
      · refine ⟨max enough enough', nearest, fun fuel large => ?_, isSublist.cons node,
          fun other => ?_⟩
        · rw [unfolds fuel large, if_pos hasLower]
        · rw [exactly, List.mem_cons]
          constructor
          · exact fun holds => ⟨.inr holds.1, holds.2⟩
          · rintro ⟨rfl | later, isLowest⟩
            · obtain ⟨lower, member, isShared⟩ := List.any_eq_true.mp hasLower
              obtain ⟨stored, descends⟩ := (isBelow lower).mp member
              exact absurd descends (isLowest lower stored (of_decide_eq_true isShared))
            · exact ⟨later, isLowest⟩
      · refine ⟨max enough enough', node :: nearest, fun fuel large => ?_, isSublist.cons_cons node,
          fun other => ?_⟩
        · rw [unfolds fuel large, if_neg hasLower]
        · rw [List.mem_cons, List.mem_cons, exactly]
          constructor
          · rintro (rfl | ⟨later, isLowest⟩)
            · refine ⟨.inl rfl, fun lower stored isShared descends => hasLower ?_⟩
              exact List.any_eq_true.mpr
                ⟨lower, (isBelow lower).mpr ⟨stored, descends⟩, decide_eq_true isShared⟩
            · exact ⟨.inr later, isLowest⟩
          · rintro ⟨rfl | later, isLowest⟩
            · exact .inl rfl
            · exact .inr ⟨later, isLowest⟩

/-- Below every node of a set some node of it is lowest. -/
theorem Dag.exists_lowest (dag : Dag db) {common : ExperimentNode → Prop} {node : ExperimentNode}
    (isCommon : common node) : ∃ low, common low ∧ ReflTransGen (Edge db) node.id low.id ∧
      ∀ other, common other → ¬ TransGen (Edge db) low.id other.id := by
  obtain ⟨rank, increases, bounded⟩ := dag.exists_rank
  have climbs : ∀ {first second}, TransGen (Edge db) first second → rank first < rank second := by
    intro first second path
    induction path with
    | single edge => exact increases _ _ edge
    | tail _ edge ih => exact ih.trans (increases _ _ edge)
  -- the ranks are bounded, so going down ends
  induction left : db.nodes.rows.length - rank node.id using Nat.strongRecOn generalizing node with
  | _ left ih =>
      by_cases isLowest : ∀ other, common other → ¬ TransGen (Edge db) node.id other.id
      · exact ⟨node, isCommon, .refl, isLowest⟩
      · push Not at isLowest
        obtain ⟨other, isOther, descends⟩ := isLowest
        have rises := climbs descends
        have bound := bounded other.id
        obtain ⟨low, isLow, path, isLowest⟩ := ih _ (by omega) isOther rfl
        exact ⟨low, isLow, descends.to_reflTransGen.trans path, isLowest⟩

theorem mem_commonIds {ids ids' : List String} {id : String} :
    id ∈ commonIds (closureNodes db ids) (closureNodes db ids') ↔
      id ∈ (closureNodes db ids).map ExperimentNode.id ∧
        id ∈ (closureNodes db ids').map ExperimentNode.id := by
  simp only [commonIds, List.mem_insertionSort, List.mem_filter, decide_eq_true_eq]

theorem commonIds_sorted {ids ids' : List String} :
    (commonIds (closureNodes db ids) (closureNodes db ids')).Pairwise (· < ·) := by
  have sorted : (commonIds (closureNodes db ids) (closureNodes db ids')).Pairwise (· ≤ ·) :=
    List.pairwise_insertionSort _ _
  have nodup : (commonIds (closureNodes db ids) (closureNodes db ids')).Nodup :=
    (List.perm_insertionSort _ _).nodup_iff.mpr (closureNodes_nodup.filter _)
  exact sorted.imp₂ (fun _ _ below apart => lt_of_le_of_ne below apart) nodup

/-- Ids of a closure read back as the stored nodes. -/
theorem filterMap_closure {ids keys : List String}
    (inside : ∀ key ∈ keys, key ∈ (closureNodes db ids).map ExperimentNode.id) :
    keys.filterMap (fun key => (closureNodes db ids).find? fun node => node.id = key) =
      keys.filterMap db.nodes.find? := by
  refine List.filterMap_congr fun key member => ?_
  obtain ⟨node, isNode, rfl⟩ := List.mem_map.mp (inside key member)
  exact (closureNode_eq isNode).trans (mem_closureNodes.mp isNode).1.symm

variable {left right : ExperimentNode}

/-- A comparison ends with the stored nodes of the ids both closures have, in order, and the lowest
of them. -/
theorem compare_ends (dag : Dag db) (isLeft : db.nodes.find? left.id = some left)
    (isRight : db.nodes.find? right.id = some right)
    (together : left.experimentId = right.experimentId) :
    ∃ enough shared nearest, (∀ fuel ≥ enough, compare db createdAt fuel left.id right.id =
        some (.ok ⟨left, right, shared.filterMap db.nodes.find?, nearest,
          left.candidateFingerprint = right.candidateFingerprint⟩)) ∧
      (∀ fuel ≥ enough,
        lowest db createdAt fuel shared (shared.filterMap db.nodes.find?) = some nearest) ∧
      shared.Pairwise (· < ·) ∧
      (∀ id, id ∈ shared ↔ ReflTransGen (Edge db) id left.id ∧ ReflTransGen (Edge db) id right.id) ∧
      ∀ node, node ∈ nearest ↔ node ∈ shared.filterMap db.nodes.find? ∧
        ∀ other, db.nodes.find? other.id = some other → other.id ∈ shared →
          ¬ TransGen (Edge db) node.id other.id := by
  obtain ⟨enough, ids, closed, exactly⟩ := closureIds_ends db left.id
  obtain ⟨enough', ids', closed', exactly'⟩ := closureIds_ends db right.id
  let shared := commonIds (closureNodes db ids) (closureNodes db ids')
  obtain ⟨long, nearest, ends, -, isLowest⟩ :=
    lowest_ends createdAt dag shared (shared.filterMap db.nodes.find?)
  have read : shared.filterMap (fun id => (closureNodes db ids).find? fun node => node.id = id) =
      shared.filterMap db.nodes.find? :=
    filterMap_closure fun key member => (mem_commonIds.mp member).1
  refine ⟨max (max enough enough') long, shared, nearest, fun fuel large => ?_,
    fun fuel large => ends fuel (le_of_max_le_right large), commonIds_sorted, fun id => ?_,
      isLowest⟩
  · have leftEnds := closed fuel (le_of_max_le_left (le_of_max_le_left large))
    have rightEnds := closed' fuel (le_of_max_le_right (le_of_max_le_left large))
    have lowestEnds := ends fuel (le_of_max_le_right large)
    simp only [compare, isLeft, isRight, together, ne_eq, not_true_eq_false, if_false,
      ancestryClosure, leftEnds, rightEnds, Option.map_some, Option.bind_eq_bind, Option.bind_some]
    show (lowest db createdAt fuel shared (shared.filterMap _)).bind _ = _
    rw [read, lowestEnds]
    rfl
  · rw [mem_commonIds, dag.mem_closureIds isLeft exactly, dag.mem_closureIds isRight exactly']

/-- What two nodes of one experiment are found to share in an acyclic lineage: exactly their common
ancestors, the lowest of them, of which one is below every other, and the same either way round. -/
theorem comparison_finds_lowest_common_ancestors (dag : Dag db)
    (isLeft : db.nodes.find? left.id = some left) (isRight : db.nodes.find? right.id = some right)
    (together : left.experimentId = right.experimentId) :
    ∃ enough comparison mirrored,
      (∀ fuel ≥ enough, compare db createdAt fuel left.id right.id = some (.ok comparison) ∧
        compare db createdAt fuel right.id left.id = some (.ok mirrored)) ∧
      (∀ node, node ∈ comparison.commonAncestors ↔ CommonAncestor db left.id right.id node) ∧
      (comparison.commonAncestors.map ExperimentNode.id).Pairwise (· < ·) ∧
      (∀ node, node ∈ comparison.nearestCommonAncestors ↔ node ∈ comparison.commonAncestors ∧
        ∀ other ∈ comparison.commonAncestors, ¬ TransGen (Edge db) node.id other.id) ∧
      (comparison.commonAncestors ≠ [] → comparison.nearestCommonAncestors ≠ []) ∧
      (∀ node ∈ comparison.commonAncestors, ∃ low ∈ comparison.nearestCommonAncestors,
        ReflTransGen (Edge db) node.id low.id) ∧
      mirrored.commonAncestors = comparison.commonAncestors ∧
      mirrored.nearestCommonAncestors = comparison.nearestCommonAncestors := by
  obtain ⟨enough, shared, nearest, ends, lowestEnds, sorted, isShared, isNearest⟩ :=
    compare_ends createdAt dag isLeft isRight together
  obtain ⟨enough', shared', nearest', ends', lowestEnds', sorted', isShared', -⟩ :=
    compare_ends createdAt dag isRight isLeft together.symm
  -- both ways round the shared ids are one sorted list
  have sameIds : shared' = shared := by
    refine List.Perm.eq_of_pairwise (fun _ _ _ _ first second => absurd second (lt_asymm first))
      sorted' sorted ((List.perm_ext_iff_of_nodup ?_ ?_).mpr fun id => ?_)
    · exact sorted'.imp fun below => ne_of_lt below
    · exact sorted.imp fun below => ne_of_lt below
    · rw [isShared, isShared', and_comm]
  subst sameIds
  have sameNearest : nearest' = nearest := by
    have first := lowestEnds _ (le_max_left enough enough')
    rw [lowestEnds' _ (le_max_right enough enough')] at first
    exact Option.some.inj first
  subst sameNearest
  have isCommon : ∀ node, node ∈ shared'.filterMap db.nodes.find? ↔
      CommonAncestor db left.id right.id node := by
    intro node
    rw [List.mem_filterMap]
    constructor
    · rintro ⟨key, member, found⟩
      have isKey := Table.key_of_find? found
      subst isKey
      exact ⟨found, (isShared _).mp member⟩
    · rintro ⟨stored, above⟩
      exact ⟨node.id, (isShared _).mpr above, stored⟩
  have storedIds : ∀ key ∈ shared', ∃ node, db.nodes.find? key = some node := by
    intro key member
    rcases ((isShared key).mp member).1.cases_head with rfl | ⟨child, edge, _⟩
    · exact ⟨left, isLeft⟩
    · exact dag.above key child edge
  have nearestIff : ∀ node, node ∈ nearest' ↔ node ∈ shared'.filterMap db.nodes.find? ∧
      ∀ other ∈ shared'.filterMap db.nodes.find?, ¬ TransGen (Edge db) node.id other.id := by
    intro node
    rw [isNearest]
    refine and_congr_right fun _ => ?_
    constructor
    · intro isLowest other member
      obtain ⟨stored, above⟩ := (isCommon other).mp member
      exact isLowest other stored ((isShared _).mpr above)
    · intro isLowest other stored member
      exact isLowest other ((isCommon other).mpr ⟨stored, (isShared _).mp member⟩)
  have below : ∀ node ∈ shared'.filterMap db.nodes.find?, ∃ low ∈ nearest',
      ReflTransGen (Edge db) node.id low.id := by
    intro node member
    obtain ⟨low, isLow, path, isLowest⟩ : ∃ low, low ∈ shared'.filterMap db.nodes.find? ∧
        ReflTransGen (Edge db) node.id low.id ∧
        ∀ other ∈ shared'.filterMap db.nodes.find?, ¬ TransGen (Edge db) low.id other.id :=
      dag.exists_lowest member
    exact ⟨low, (nearestIff low).mpr ⟨isLow, isLowest⟩, path⟩
  refine ⟨max enough enough', _, _, fun fuel large => ⟨ends fuel (le_of_max_le_left large),
    ends' fuel (le_of_max_le_right large)⟩, isCommon, ?_, nearestIff, ?_, below, rfl, rfl⟩
  · have ids := filterMap_find storedIds
    exact ids.symm ▸ sorted
  · intro some
    obtain ⟨node, member⟩ := List.exists_mem_of_ne_nil _ some
    obtain ⟨low, isLow, _⟩ := below node member
    exact List.ne_nil_of_mem isLow

end Comparison

theorem comparison_finds_lowest_common_ancestors_diamond :
    let db := execAll .permissive diamond Db.empty
    ∃ enough comparison,
      (∀ fuel ≥ enough, compare db (fun _ => 0) fuel "left" "right" = some (.ok comparison)) ∧
      (comparison.commonAncestors ≠ [] → comparison.nearestCommonAncestors ≠ []) ∧
      ((compare db (fun _ => 0) 20 "merged" "left").bind fun answer =>
        answer.toOption.map fun comparison =>
        (comparison.commonAncestors.map ExperimentNode.id,
          comparison.nearestCommonAncestors.map ExperimentNode.id)) =
        some (["left", "root"], ["left"]) := by
  intro db
  have dag : Dag db := (ReachableBy.lineages (reachable_execAll .permissive diamond .start)).dag
  have left : ((db.nodes.find? "left").map ExperimentNode.experimentId) = some "experiment" := by
    decide
  have right : ((db.nodes.find? "right").map ExperimentNode.experimentId) = some "experiment" := by
    decide
  obtain ⟨leftNode, isLeft, leftOwner⟩ := Option.map_eq_some_iff.mp left
  obtain ⟨rightNode, isRight, rightOwner⟩ := Option.map_eq_some_iff.mp right
  have leftKey := Table.key_of_find? isLeft
  have rightKey := Table.key_of_find? isRight
  rw [← leftKey] at isLeft
  rw [← rightKey] at isRight
  obtain ⟨enough, comparison, _, ends, _, _, _, some, _⟩ :=
    comparison_finds_lowest_common_ancestors (fun _ => 0) dag isLeft isRight
      (leftOwner.trans rightOwner.symm)
  refine ⟨enough, comparison, fun fuel large => ?_, some, by decide⟩
  have answers := (ends fuel large).1
  rwa [leftKey, rightKey] at answers

end Xaytune.Storage
