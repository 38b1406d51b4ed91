import Mathlib.Data.List.Dedup
import Xaytune.Library.Fallible
import Xaytune.Trajectory.Reconcile

/-!
# Chunks and tails hold their events

The bytes of a chunk and of a tail read back as the events they were written from, a chain of
chunks loads to the events rolled into it, and a manifest built from the chain and its events
agrees with itself.
-/

namespace Xaytune.Trajectory

open Xaytune.Library

variable {formats : Formats}

/-! ## Lines -/

theorem lines_closed {line : Bytes} (plain : newline ∉ line) (rest : Bytes) :
    lines (closed line ++ rest) = line :: lines rest := by
  rw [closed, List.append_assoc]
  exact List.splitOn_append_cons_self_of_not_mem plain rest

theorem lines_plain {line : Bytes} (plain : newline ∉ line) : lines line = [line] :=
  List.splitOn_eq_singleton plain

theorem lines_flatMap {α : Type} {line : α → Bytes} {xs : List α}
    (plain : ∀ x ∈ xs, newline ∉ line x) {torn : Bytes} (tornPlain : newline ∉ torn) :
    lines ((xs.flatMap fun x => closed (line x)) ++ torn) = xs.map line ++ [torn] := by
  induction xs with
  | nil => exact lines_plain tornPlain
  | cons x xs ih =>
      obtain ⟨first, rest⟩ := List.forall_mem_cons.mp plain
      rw [List.flatMap_cons, List.append_assoc, lines_closed first, ih rest]
      rfl

section Bytes

variable (trajectoryId : AttemptId) (index : Nat) (previous : Option Digest)
  {events : List TrajectoryEvent} {data : Bytes}

theorem chunkBytes_ok_iff : chunkBytes formats trajectoryId index previous events = .ok data ↔
    ∃ lines, List.Forall₂ (fun event line => formats.chunkLine event = .ok line) events lines ∧
      closed (formats.headerLine ⟨index, previous, trajectoryId⟩) ++ lines.flatMap closed =
        data := by
  rw [chunkBytes, bind_eq_ok_iff]
  exact exists_congr fun lines => and_congr mapM_eq_ok_iff ⟨Except.ok.inj, congrArg Except.ok⟩

theorem chunkBytes_ok (unicode : ∀ event ∈ events, event.isUnicode = true) :
    ∃ data, chunkBytes formats trajectoryId index previous events = .ok data := by
  have each : ∀ event ∈ events, ∃ line, formats.chunkLine event = .ok line ∧ True :=
    fun event member =>
      (formats.chunkLine_ok event (unicode event member)).imp fun _ ran => ⟨ran, trivial⟩
  obtain ⟨lines, ran, _⟩ := exists_mapM each
  rw [chunkBytes, ran]
  exact ⟨_, rfl⟩

/-- A chunk with a text that has no bytes is not written. -/
theorem chunkBytes_raises (broken : ∃ event ∈ events, event.isUnicode = false) :
    chunkBytes formats trajectoryId index previous events = .error .unencodable := by
  have raises : ∀ event ∈ events, ∀ refused, formats.chunkLine event = .error refused →
      refused = .unencodable := by
    intro event _ refused fails
    cases unicode : event.isUnicode with
    | true =>
        obtain ⟨line, ran⟩ := formats.chunkLine_ok event unicode
        rw [ran] at fails
        cases fails
    | false =>
        rw [formats.chunkLine_raises event unicode] at fails
        exact (Except.error.inj fails).symm
  obtain ⟨refused, ran, rfl⟩ := exists_mapM_error raises <| broken.imp fun event both =>
    ⟨both.1, _, formats.chunkLine_raises event both.2⟩
  rw [chunkBytes, ran]
  rfl

theorem mapM_parseEvent {lines : List Bytes}
    (each : List.Forall₂ (fun event line => formats.chunkLine event = .ok line) events lines) :
    lines.mapM formats.parseEvent = some events := by
  induction each with
  | nil => rfl
  | cons first _ ih =>
      rw [List.mapM_cons, formats.parse_chunkLine _ _ first, ih]
      rfl

variable {trajectoryId index previous}

theorem parseChunk_chunkBytes
    (made : chunkBytes formats trajectoryId index previous events = .ok data) :
    parseChunk formats data = some (⟨index, previous, trajectoryId⟩, events) := by
  obtain ⟨written, each, rfl⟩ := (chunkBytes_ok_iff ..).mp made
  have plain : ∀ line ∈ written, newline ∉ line := by
    intro line member
    obtain ⟨event, _, isLine⟩ := exists_of_forall₂ each.flip member
    exact formats.newline_notMem_chunkLine event line isLine
  have split : lines (closed (formats.headerLine ⟨index, previous, trajectoryId⟩) ++
      written.flatMap closed) =
      formats.headerLine ⟨index, previous, trajectoryId⟩ :: (written ++ [[]]) := by
    rw [lines_closed (formats.newline_notMem_headerLine _)]
    have rest : lines (written.flatMap closed ++ []) = written.map id ++ [[]] :=
      lines_flatMap plain List.not_mem_nil
    rw [List.append_nil, List.map_id] at rest
    exact congrArg _ rest
  rw [parseChunk, split]
  simp only [List.getLast?_append, List.getLast?_singleton, Option.some_or, if_pos,
    List.dropLast_concat, formats.parse_headerLine, mapM_parseEvent each]
  rfl

theorem chunkBytes_ne_nil
    (made : chunkBytes formats trajectoryId index previous events = .ok data) :
    0 < data.length := by
  obtain ⟨written, _, rfl⟩ := (chunkBytes_ok_iff ..).mp made
  rw [closed, List.length_append, List.length_append]
  exact Nat.lt_of_lt_of_le (Nat.succ_pos _) (Nat.le_add_right _ _)

end Bytes

/-! ## Numbered events -/

/-- The events carry the sequences from a number on, without a gap. -/
def NumberedFrom (start : Nat) (events : List TrajectoryEvent) : Prop :=
  events.map TrajectoryEvent.sequence = List.range' start events.length

namespace NumberedFrom

variable {start : Nat} {events more : List TrajectoryEvent} {event : TrajectoryEvent}

theorem nil : NumberedFrom start [] := rfl

theorem getElem? (numbered : NumberedFrom start events) {place : Nat}
    (found : events[place]? = some event) : event.sequence = start + place := by
  obtain ⟨inside, rfl⟩ := List.getElem?_eq_some_iff.mp found
  have mapped := congrArg (fun sequences : List Nat => sequences[place]?) numbered
  simpa [List.getElem?_map, List.getElem?_range', inside] using mapped

theorem sequence_mem (numbered : NumberedFrom start events) (member : event ∈ events) :
    start ≤ event.sequence ∧ event.sequence < start + events.length := by
  have mapped : event.sequence ∈ events.map TrajectoryEvent.sequence := List.mem_map_of_mem member
  rw [numbered] at mapped
  exact List.mem_range'_1.mp mapped

theorem found (numbered : NumberedFrom 0 events) (member : event ∈ events) :
    events[event.sequence]? = some event := by
  obtain ⟨place, at_place⟩ := List.mem_iff_getElem?.mp member
  rw [numbered.getElem? at_place, Nat.zero_add, at_place]

theorem append_iff : NumberedFrom start (events ++ more) ↔
    NumberedFrom start events ∧ NumberedFrom (start + events.length) more := by
  unfold NumberedFrom
  rw [List.map_append, List.length_append, ← List.range'_append_1]
  constructor
  · intro same
    exact List.append_inj same (by simp)
  · rintro ⟨left, right⟩
    rw [left, right]

theorem take (numbered : NumberedFrom start events) (count : Nat) :
    NumberedFrom start (events.take count) := by
  rw [← List.take_append_drop count events] at numbered
  exact (append_iff.mp numbered).1

theorem drop (numbered : NumberedFrom 0 events) {count : Nat} (within : count ≤ events.length) :
    NumberedFrom count (events.drop count) := by
  rw [← List.take_append_drop count events] at numbered
  have behind := (append_iff.mp numbered).2
  rwa [List.length_take_of_le within, Nat.zero_add] at behind

theorem concat (numbered : NumberedFrom 0 events) (next : event.sequence = events.length) :
    NumberedFrom 0 (events ++ [event]) := by
  refine append_iff.mpr ⟨numbered, ?_⟩
  rw [Nat.zero_add]
  exact congrArg (fun sequence => [sequence]) next

end NumberedFrom

/-! ## The chain of chunks -/

/-- The chunks hold the events, each chunk named by its digest behind the one before it. -/
inductive Chain (formats : Formats) (trajectoryId : AttemptId) (view : View) :
    List ChunkRef → List TrajectoryEvent → Prop
  | nil : Chain formats trajectoryId view [] []
  | roll {refs : List ChunkRef} {events more : List TrajectoryEvent} {ref : ChunkRef}
      {data : Bytes} (chain : Chain formats trajectoryId view refs events)
      (index : ref.index = refs.length)
      (previous : ref.previous = refs.getLast?.map ChunkRef.digest)
      (first : ref.firstSequence = events.length)
      (last : ref.lastSequence + 1 = events.length + more.length)
      (made : chunkBytes formats trajectoryId ref.index ref.previous more = .ok data)
      (digest : ref.digest = formats.digestOf data)
      (bytes : ref.bytes = data.length)
      (held : view (.chunk ref.index ref.digest) = some data) :
      Chain formats trajectoryId view (refs ++ [ref]) (events ++ more)

/-- Everything one view holds another holds as well. -/
def Extends (view later : View) : Prop :=
  ∀ file data, view file = some data → later file = some data

theorem chunkProblems_concat (refs : List ChunkRef) (ref : ChunkRef) (position expected : Nat)
    (previous : Option Digest) :
    chunkProblems position expected previous (refs ++ [ref]) =
      chunkProblems position expected previous refs ++
        chunkProblems (position + refs.length)
          (refs.getLast?.elim expected fun last => last.lastSequence + 1)
          (refs.getLast?.elim previous fun last => some last.digest) [ref] := by
  induction refs generalizing position expected previous with
  | nil => rfl
  | cons first refs ih =>
      rw [List.cons_append, chunkProblems, chunkProblems, ih]
      have place : position + (first :: refs).length = position + 1 + refs.length := by
        rw [List.length_cons]
        omega
      rw [place]
      cases refs with
      | nil => simp only [List.append_assoc]; rfl
      | cons second refs =>
          simp only [List.append_assoc, List.getLast?_cons_cons]
          cases found : (second :: refs).getLast? with
          | none => exact absurd (List.getLast?_eq_none_iff.mp found) (List.cons_ne_nil _ _)
          | some last => rfl

namespace Chain

variable {trajectoryId : AttemptId} {view later : View} {refs : List ChunkRef}
  {events : List TrajectoryEvent}

theorem extend (chain : Chain formats trajectoryId view refs events) (wider : Extends view later) :
    Chain formats trajectoryId later refs events := by
  induction chain with
  | nil => exact .nil
  | roll _ index previous first last made digest bytes held ih =>
      exact .roll ih index previous first last made digest bytes (wider _ _ held)

theorem congr (chain : Chain formats trajectoryId view refs events)
    (same : ∀ index digest, later (.chunk index digest) = view (.chunk index digest)) :
    Chain formats trajectoryId later refs events := by
  induction chain with
  | nil => exact .nil
  | roll _ index previous first last made digest bytes held ih =>
      exact .roll ih index previous first last made digest bytes ((same _ _).trans held)

theorem next (chain : Chain formats trajectoryId view refs events) :
    nextSequence refs = events.length := by
  cases chain with
  | nil => rfl
  | roll chain index previous first last made digest bytes held =>
      rw [nextSequence, List.getLast?_concat, List.length_append]
      exact last

theorem problems (chain : Chain formats trajectoryId view refs events) :
    chunkProblems 0 0 none refs = [] := by
  induction chain with
  | nil => rfl
  | @roll refs events more ref data chain index previous first last made digest bytes held ih =>
      have before := chain.next
      rw [chunkProblems_concat, ih, List.nil_append, chunkProblems]
      cases found : refs.getLast? with
      | none =>
          obtain rfl := List.getLast?_eq_none_iff.mp found
          have started : events.length = 0 := before.symm
          simp [index, first, previous, chunkProblems, started]
      | some prior =>
          rw [nextSequence, found] at before
          simp [index, first, previous, chunkProblems, found, before]

/-- A chain loads to its events, without a problem. -/
theorem load (chain : Chain formats trajectoryId view refs events)
    (numbered : NumberedFrom 0 events) :
    loadEvents formats view trajectoryId refs = (events, []) := by
  induction chain with
  | nil => rfl
  | @roll refs events more ref data chain index previous first last made digest bytes held ih =>
      obtain ⟨front, back⟩ := NumberedFrom.append_iff.mp numbered
      have loaded := ih front
      have range : more.map TrajectoryEvent.sequence =
          List.range' ref.firstSequence (ref.lastSequence + 1 - ref.firstSequence) := by
        have room : ref.lastSequence + 1 - ref.firstSequence = more.length := by omega
        rw [room, first]
        rw [Nat.zero_add] at back
        exact back
      have chunk : loadChunk formats view trajectoryId ref = (more, []) := by
        rw [loadChunk, held]
        simp [← digest, ← bytes, parseChunk_chunkBytes made, range]
      simp only [loadEvents, Prod.mk.injEq] at loaded
      simp only [loadEvents, List.flatMap_append, List.flatMap_singleton, chunk, loaded.1,
        loaded.2, List.append_nil]

/-- The chunk a roll publishes continues the chain. -/
theorem advance (chain : Chain formats trajectoryId view refs events)
    {more : List TrajectoryEvent} {first last : TrajectoryEvent} {ref : ChunkRef} {data : Bytes}
    (numbered : NumberedFrom events.length more)
    (isFirst : more.head? = some first) (isLast : more.getLast? = some last)
    (written : chunkBytes formats trajectoryId refs.length
      (refs.getLast?.map ChunkRef.digest) more =
      .ok data)
    (made : chunkRef refs.length first.sequence last.sequence (formats.digestOf data)
      (refs.getLast?.map ChunkRef.digest) data.length more.length = .ok ref)
    (wider : Extends view later)
    (held : later (.chunk ref.index ref.digest) = some data) :
    Chain formats trajectoryId later (refs ++ [ref]) (events ++ more) := by
  unfold chunkRef at made
  split at made
  · split at made
    · split at made
      · cases made
        have start : first.sequence = events.length := by
          rw [List.head?_eq_getElem?] at isFirst
          exact numbered.getElem? isFirst
        have some_of : 0 < more.length := by
          cases more with
          | nil => cases isFirst
          | cons _ _ => exact Nat.succ_pos _
        have finish : last.sequence + 1 = events.length + more.length := by
          rw [List.getLast?_eq_getElem?] at isLast
          rw [numbered.getElem? isLast]
          omega
        exact .roll (chain.extend wider) rfl rfl start finish written rfl rfl held
      · cases made
    · cases made
  · cases made

end Chain

/-- The chunk of numbered events is one of its range. -/
theorem chunkRef_ok {start : Nat} {more : List TrajectoryEvent} {first last : TrajectoryEvent}
    (numbered : NumberedFrom start more) (isFirst : more.head? = some first)
    (isLast : more.getLast? = some last) {trajectoryId : AttemptId} {index : Nat}
    {previous : Option Digest} {data : Bytes}
    (written : chunkBytes formats trajectoryId index previous more = .ok data) (digest : Digest) :
    ∃ ref, chunkRef index first.sequence last.sequence digest previous data.length more.length =
      .ok ref ∧ ref.index = index ∧ ref.digest = digest ∧ ref.events = more.length ∧
      ref.bytes = data.length := by
  have start_eq : first.sequence = start := by
    rw [List.head?_eq_getElem?] at isFirst
    exact numbered.getElem? isFirst
  have some_of : 0 < more.length := by
    cases more with
    | nil => cases isFirst
    | cons _ _ => exact Nat.succ_pos _
  have finish : last.sequence + 1 = start + more.length := by
    rw [List.getLast?_eq_getElem?] at isLast
    rw [numbered.getElem? isLast]
    omega
  unfold chunkRef
  rw [dif_pos ⟨chunkBytes_ne_nil written, some_of⟩, dif_pos (by omega), dif_pos (by omega)]
  exact ⟨_, rfl, rfl, rfl, rfl, rfl⟩

/-! ## The content table -/

/-- One slot stands strictly before another. -/
def ContentReference.strictlyBefore (left right : Nat × ContentField) : Prop :=
  left.1 < right.1 ∨ (left.1 = right.1 ∧ left.2.rank < right.2.rank)

theorem ContentReference.strictlyBefore.ne {left right : Nat × ContentField}
    (strict : strictlyBefore left right) : left ≠ right := by
  rintro rfl
  rcases strict with less | ⟨_, less⟩ <;> exact Nat.lt_irrefl _ less

theorem ContentReference.strictlyBefore.before {left right : Nat × ContentField}
    (strict : strictlyBefore left right) : ContentReference.before left right := by
  rcases strict with less | ⟨same, less⟩
  · exact Or.inl less
  · exact Or.inr ⟨same, Nat.le_of_lt less⟩

theorem contents_ordered (body : EventBody) :
    (body.contents.map Prod.fst).Pairwise (fun left right => left.rank < right.rank) := by
  cases body with
  | modelCallFinished _ reply _ _ _ _ _ _ => cases reply <;> simp [EventBody.contents]
  | toolCallFinished _ _ output _ _ _ =>
      cases output <;> simp [EventBody.contents, ContentField.rank]
  | runTerminated _ _ answer _ _ => cases answer <;> simp [EventBody.contents]
  | _ => simp [EventBody.contents]

theorem contentReferences_ordered {start : Nat} {events : List TrajectoryEvent}
    (numbered : NumberedFrom start events) :
    ((contentReferences events).map ContentReference.key).Pairwise
      ContentReference.strictlyBefore := by
  have increasing : events.Pairwise fun left right => left.sequence < right.sequence := by
    have sequences : (events.map TrajectoryEvent.sequence).Pairwise (· < ·) := by
      rw [numbered]
      exact List.pairwise_lt_range'
    exact List.pairwise_map.mp sequences
  unfold contentReferences
  rw [List.map_flatMap, List.pairwise_flatMap]
  refine ⟨fun event _ => ?_, increasing.imp fun less left leftMem right rightMem => ?_⟩
  · rw [List.map_map, List.pairwise_map]
    exact (List.pairwise_map.mp (contents_ordered event.body)).imp fun less => Or.inr ⟨rfl, less⟩
  · obtain ⟨_, inLeft, rfl⟩ := List.mem_map.mp leftMem
    obtain ⟨_, inRight, rfl⟩ := List.mem_map.mp rightMem
    obtain ⟨_, _, rfl⟩ := List.mem_map.mp inLeft
    obtain ⟨_, _, rfl⟩ := List.mem_map.mp inRight
    exact Or.inl less

theorem contentProblems_nil {expected : Nat} (references : List ContentReference)
    {seen : List (Nat × ContentField)}
    (distinct : (references.map ContentReference.key).Nodup)
    (unseen : ∀ reference ∈ references, reference.key ∉ seen)
    (within : ∀ reference ∈ references, reference.sequence < expected) :
    contentProblems expected seen references = [] := by
  induction references generalizing seen with
  | nil => rfl
  | cons reference references ih =>
      rw [List.map_cons, List.nodup_cons] at distinct
      rw [contentProblems, if_neg (unseen reference List.mem_cons_self),
        if_neg (Nat.not_le_of_lt (within reference List.mem_cons_self)), List.nil_append,
        List.nil_append]
      refine ih distinct.2 (fun other member => ?_) fun other member =>
        within other (List.mem_cons_of_mem _ member)
      rw [List.mem_cons]
      rintro (same | known)
      · exact distinct.1 (same ▸ List.mem_map_of_mem member)
      · exact unseen other (List.mem_cons_of_mem _ member) known

theorem contentReferences_within {start : Nat} {events : List TrajectoryEvent}
    (numbered : NumberedFrom start events) {reference : ContentReference}
    (member : reference ∈ contentReferences events) :
    reference.sequence < start + events.length := by
  obtain ⟨event, inEvents, inEvent⟩ := List.mem_flatMap.mp member
  obtain ⟨_, _, rfl⟩ := List.mem_map.mp inEvent
  exact (numbered.sequence_mem inEvents).2

/-! ## Manifests -/

/-- A partial manifest with a reason, and with an unattested result exactly where evidence was
lost. -/
structure Sealing.Abandoned (sealing : Sealing) : Prop where
  left : sealing.completeness = .partially
  named : sealing.abandonment.isSome
  attestsNone : sealing.resultDigest = none
  unattested : sealing.unattestedResult.isSome =
    decide (sealing.abandonment = some .postCommitEvidenceLost)

/-- A partial manifest over a chain and events it reaches to agrees with itself. -/
theorem manifestBody_ok {trajectoryId : AttemptId} {view : View} {refs : List ChunkRef}
    {rolled events : List TrajectoryEvent} {sealing : Sealing} (record : TrajectoryOpenRecord)
    (chain : Chain formats trajectoryId view refs rolled) (numbered : NumberedFrom 0 events)
    (reached : events.length ≤ rolled.length) (abandoned : sealing.Abandoned) (now : String) :
    ∃ body : ManifestBody, manifestBody record refs events sealing now = .ok body ∧
      body.trajectoryId = record.trajectoryId ∧ body.chunks = refs ∧
      body.content = contentReferences events := by
  have ordered := contentReferences_ordered numbered
  have distinct : ((contentReferences events).map ContentReference.key).Nodup :=
    ordered.imp fun strict => strict.ne
  have table : contentProblems (nextSequence refs) [] (contentReferences events) = [] := by
    refine contentProblems_nil _ distinct (fun _ _ => List.not_mem_nil) fun reference member => ?_
    rw [chain.next]
    have := contentReferences_within numbered member
    omega
  have sorted : ((contentReferences events).map ContentReference.key).dedup.insertionSort
      ContentReference.before = (contentReferences events).map ContentReference.key := by
    rw [List.Nodup.dedup distinct]
    exact (ordered.imp fun strict => strict.before).insertionSort_eq
  obtain ⟨part, named, attestsNone, unattested⟩ := abandoned
  have some_reason : sealing.abandonment.isNone = false := by
    cases found : sealing.abandonment with
    | none => rw [found] at named; cases named
    | some _ => rfl
  unfold manifestBody TrajectoryManifestBody.validate
  rw [dif_pos (by simp [manifestProblems, part, some_reason, attestsNone, unattested,
    chain.problems, table, sorted])]
  exact ⟨_, rfl, rfl, rfl, rfl⟩

theorem manifestBody_fields {record : TrajectoryOpenRecord} {refs : List ChunkRef}
    {events : List TrajectoryEvent} {sealing : Sealing} {now : String} {body : ManifestBody}
    (made : manifestBody record refs events sealing now = .ok body) :
    body.trajectoryId = record.trajectoryId ∧ body.chunks = refs ∧
      body.resultDigest = sealing.resultDigest := by
  unfold manifestBody TrajectoryManifestBody.validate at made
  split at made
  · cases made
    exact ⟨rfl, rfl, rfl⟩
  · cases made

/-! ## Histories -/

theorem refusalsFrom_append {trajectoryId : AttemptId} (events more : List TrajectoryEvent)
    {before : List TrajectoryEvent} {finished : List Nat}
    (sound : refusalsFrom trajectoryId before finished (events ++ more) = []) :
    refusalsFrom trajectoryId before finished events = [] := by
  induction events generalizing before finished with
  | nil => rfl
  | cons event events ih =>
      rw [List.cons_append, refusalsFrom] at sound
      rw [refusalsFrom]
      by_cases next : event.sequence = before.length
      · rw [if_neg (not_not_intro next)] at sound ⊢
        obtain ⟨owner, rest⟩ := List.append_eq_nil_iff.mp sound
        obtain ⟨here, later⟩ := List.append_eq_nil_iff.mp rest
        rw [owner, here, ih later]
        rfl
      · rw [if_pos next] at sound
        exact absurd (List.append_eq_nil_iff.mp sound).2 (List.cons_ne_nil _ _)

/-- Every beginning of a causal history is one. -/
theorem structuralRefusals_of_isPrefix {trajectoryId : AttemptId}
    {beginning events : List TrajectoryEvent} (begins : beginning <+: events)
    (sound : structuralRefusals trajectoryId events = []) :
    structuralRefusals trajectoryId beginning = [] := by
  obtain ⟨more, rfl⟩ := begins
  exact refusalsFrom_append beginning more sound

/-- What is left of some events, the first of which are rolled: the rolled ones, and behind them
every event as long as all of them are one causal history. -/
structure Retains (trajectoryId : AttemptId) (rolled events left : List TrajectoryEvent) :
    Prop where
  longer : rolled <+: left
  begins : left <+: events
  causal : ∀ beginning, beginning <+: events → structuralRefusals trajectoryId beginning = [] →
    beginning <+: left
  tight : left = rolled ∨ structuralRefusals trajectoryId left = []

namespace Retains

variable {trajectoryId : AttemptId} {rolled events left other : List TrajectoryEvent}

/-- Only one list is left. -/
theorem unique (retains : Retains trajectoryId rolled events left)
    (others : Retains trajectoryId rolled events other) : left = other := by
  have within : ∀ {left other}, Retains trajectoryId rolled events left →
      Retains trajectoryId rolled events other → left <+: other := by
    intro left other retains others
    rcases retains.tight with rfl | sound
    · exact others.longer
    · exact others.causal left retains.begins sound
  exact (within retains others).eq_of_length_le (within others retains).length_le

/-- Once what is left is rolled, it is left again. -/
theorem rolledUp (retains : Retains trajectoryId rolled events left) :
    Retains trajectoryId left events left :=
  ⟨List.prefix_rfl, retains.begins, retains.causal, .inl rfl⟩

theorem all (left : List TrajectoryEvent) : Retains trajectoryId left left left :=
  ⟨List.prefix_rfl, List.prefix_rfl, fun _ begins _ => begins, .inl rfl⟩

/-- A causal history is left whole. -/
theorem of_sound (longer : rolled <+: events)
    (sound : structuralRefusals trajectoryId events = []) :
    Retains trajectoryId rolled events events :=
  ⟨longer, List.prefix_rfl, fun _ begins _ => begins, .inr sound⟩

end Retains

/-- What is kept of a tail behind the rolled events is what is left of all of them. -/
theorem continued_retains {trajectoryId : AttemptId} (tail : List TrajectoryEvent)
    {events : List TrajectoryEvent} {broke : Bool} (numbered : NumberedFrom events.length tail) :
    Retains trajectoryId events (events ++ tail) (continued trajectoryId events tail broke).1 := by
  induction tail generalizing events broke with
  | nil =>
      rw [List.append_nil]
      exact .all events
  | cons event tail ih =>
      have isFirst : (event :: tail)[0]? = some event := rfl
      have next : event.sequence = events.length := numbered.getElem? isFirst
      have rest : NumberedFrom (events ++ [event]).length tail := by
        rw [List.length_append]
        rw [← List.singleton_append] at numbered
        exact (NumberedFrom.append_iff.mp numbered).2
      rw [continued, List.append_cons events event tail]
      by_cases refusedHere : event.sequence ≠ events.length ∨
          structuralRefusals trajectoryId (events ++ [event]) ≠ []
      · rw [if_pos refusedHere]
        have refusal := refusedHere.resolve_left (not_not_intro next)
        refine ⟨List.prefix_rfl, ?_, fun beginning begins sound => ?_, .inl rfl⟩
        · exact (List.prefix_append _ _).trans (List.prefix_append _ _)
        · -- a longer beginning holds the event that is refused
          rcases List.prefix_or_prefix_of_prefix begins (List.prefix_append _ _) with within |
            longer
          · exact (List.prefix_concat_iff.mp within).resolve_left fun whole =>
              refusal (whole ▸ sound)
          · exact absurd (structuralRefusals_of_isPrefix longer sound) refusal
      · rw [if_neg refusedHere]
        have retained : Retains trajectoryId (events ++ [event]) (events ++ [event] ++ tail)
            (continued trajectoryId (events ++ [event]) tail broke).1 := ih rest
        refine ⟨(List.prefix_append _ _).trans retained.longer, retained.begins,
          retained.causal, ?_⟩
        rcases retained.tight with same | sound
        · rw [same]
          exact .inr (not_not.mp fun refusal => refusedHere (.inr refusal))
        · exact .inr sound

/-! ## Tails -/

theorem parseLines_eventLines {rolled : List TrajectoryEvent} {torn : Nat}
    {events : List TrajectoryEvent} {found : List TrajectoryEvent}
    (unicode : ∀ event ∈ events, event.isUnicode = true)
    (known : ∀ event ∈ events, event.sequence < rolled.length →
      rolled[event.sequence]? = some event) :
    parseLines formats rolled torn (events.map formats.eventLine) found =
      (found ++ events.filter (fun event => rolled.length ≤ event.sequence), torn, false) := by
  induction events generalizing found with
  | nil => rw [List.map_nil, parseLines, List.filter_nil, List.append_nil]
  | cons event events ih =>
      have rest := fun other member => known other (List.mem_cons_of_mem event member)
      obtain ⟨here, later⟩ := List.forall_mem_cons.mp unicode
      rw [List.map_cons, parseLines, formats.parse_eventLine event here]
      dsimp only
      by_cases already : event.sequence < rolled.length
      · rw [known event List.mem_cons_self already]
        simp only [ne_eq, not_true_eq_false, if_false]
        rw [ih later rest, List.filter_cons_of_neg (by simpa using already)]
      · have absent : rolled[event.sequence]? = none :=
          List.getElem?_eq_none (Nat.le_of_not_lt already)
        rw [absent]
        dsimp only
        rw [ih later rest, List.filter_cons_of_pos (by simpa using already), List.append_assoc]
        rfl

theorem filter_drop {events : List TrajectoryEvent} (numbered : NumberedFrom 0 events)
    {kept rolled : Nat} (ordered : kept ≤ rolled) (within : rolled ≤ events.length) :
    (events.drop kept).filter (fun event => rolled ≤ event.sequence) = events.drop rolled := by
  have split : events.drop kept = (events.drop kept).take (rolled - kept) ++
    events.drop rolled := by
    have behind : (events.drop kept).drop (rolled - kept) = events.drop rolled := by
      rw [List.drop_drop, Nat.add_sub_cancel' ordered]
    rw [← behind, List.take_append_drop]
  have front : ((events.drop kept).take (rolled - kept)).filter
      (fun event => rolled ≤ event.sequence) = [] := by
    refine List.filter_eq_nil_iff.mpr fun event member => ?_
    have inside := ((numbered.drop (ordered.trans within)).take (rolled - kept)).sequence_mem member
    have room := List.length_take_le (rolled - kept) (events.drop kept)
    simp only [decide_eq_true_eq]
    omega
  have back : (events.drop rolled).filter (fun event => rolled ≤ event.sequence) =
      events.drop rolled := by
    refine List.filter_eq_self.mpr fun event member => ?_
    exact decide_eq_true (((numbered.drop within).sequence_mem member).1)
  rw [split, List.filter_append, front, back, List.nil_append]

/-- A tail that begins at or before the end of the rolled events reads back as the events behind
them; what follows its last newline is torn. -/
theorem parseTail_tailBytes {events : List TrajectoryEvent} (numbered : NumberedFrom 0 events)
    (unicode : ∀ event ∈ events, event.isUnicode = true) {kept rolled : Nat}
    (ordered : kept ≤ rolled) (within : rolled ≤ events.length) {torn : Bytes}
    (tornPlain : newline ∉ torn) :
    parseTail formats (tailBytes formats (events.drop kept) ++ torn) (events.take rolled) =
      (events.drop rolled, torn.length, false) := by
  have split : lines (tailBytes formats (events.drop kept) ++ torn) =
      (events.drop kept).map formats.eventLine ++ [torn] :=
    lines_flatMap (fun event _ => formats.newline_notMem_eventLine event) tornPlain
  have width : (events.take rolled).length = rolled := List.length_take_of_le within
  rw [parseTail, split, List.dropLast_concat, List.getLast?_concat]
  rw [parseLines_eventLines, List.nil_append, width, filter_drop numbered ordered within]
  · rfl
  · exact fun event member => unicode event (List.mem_of_mem_drop member)
  · intro event member less
    rw [width] at less
    rw [List.getElem?_take_of_lt less]
    exact numbered.found (List.mem_of_mem_drop member)

end Xaytune.Trajectory
