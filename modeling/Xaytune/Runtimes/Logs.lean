import Mathlib.Data.List.DropRight
import Xaytune.Library.Histories
import Xaytune.Library.Text

/-!
# Streaming a workload's logs

`get_logs` reads the two files a worker writes to, one after the other and again, from where it
stopped. Where it stopped is counted in the bytes of the decoded text, so it stays in step with
the file only as long as what was read is encoded again to its own length. The worker writes
and ends between any two steps of the reader.
-/

namespace Xaytune.Runtimes

open Xaytune.Library Xaytune.Library.Text

/-! ## One read -/

/-- The text in front of the last line feed, and behind it. -/
def rpartition : List Char → Option (List Char × List Char)
  | [] => none
  | letter :: rest =>
      match rpartition rest with
      | some (complete, remainder) => some (letter :: complete, remainder)
      | none => if letter = '\n' then some ([], rest) else none

/-- Complete lines written after the offset, and the new offset. -/
def readLines (file : List UInt8) (offset : Nat) : List (List Char) × Nat :=
  match rpartition (decode (file.drop offset)) with
  | none => ([], offset)
  | some (complete, remainder) =>
      if complete = [] ∧ remainder ≠ [] then ([], offset)
      else (splitlines [] complete, offset + (encode (complete ++ ['\n'])).length)

/-! ## The reader and the worker -/

inductive LogStream where
  | stdout
  | stderr
  deriving DecidableEq

/-- Where `get_logs` stands; `drained` once nothing was read in this round. -/
inductive LogPhase where
  | reading (stream : LogStream) (drained : Bool)
  | asking (drained : Bool)
  | returned
  deriving DecidableEq

/-- Where a round stands behind its read of a stream. -/
def LogPhase.behind (drained : Bool) : LogStream → LogPhase
  | .stdout => .reading .stderr drained
  | .stderr => .asking drained

structure LogReader where
  files : LogStream → List UInt8
  /-- Whether the workload's state, as it is asked for, is a live one. -/
  isLive : Bool
  phase : LogPhase
  offsets : LogStream → Nat
  yielded : List (LogStream × List Char)

inductive LogMove where
  | write (stream : LogStream) (bytes : List UInt8)
  | status (isLive : Bool)
  | advance

/-- The streams that a round has found dry when it stands there. -/
def LogPhase.finds : LogPhase → LogStream → Prop
  | .reading .stderr true, .stdout => True
  | .asking true, _ => True
  | .returned, _ => True
  | _, _ => False

namespace LogReader

def start : LogReader := ⟨fun _ => [], true, .reading .stdout true, fun _ => 0, []⟩

/-- One read of a stream, with its lines yielded. -/
def read (reader : LogReader) (stream : LogStream) : LogReader :=
  let found := readLines (reader.files stream) (reader.offsets stream)
  { reader with
    offsets := fun other => if other = stream then found.2 else reader.offsets other
    yielded := reader.yielded ++ found.1.map fun line => (stream, line) }

/-- Whether the read yields no line. -/
def isDry (reader : LogReader) (stream : LogStream) : Bool :=
  (readLines (reader.files stream) (reader.offsets stream)).1.isEmpty

/-- `LocalRuntime.get_logs`, up to its next step. -/
def getLogs (reader : LogReader) : LogReader :=
  match reader.phase with
  | .reading stream drained =>
      { reader.read stream with phase := .behind (drained && reader.isDry stream) stream }
  | .asking drained =>
      { reader with
        phase := if drained && !reader.isLive then .returned else .reading .stdout true }
  | .returned => reader

def step : LogMove → LogReader → LogReader
  | .write stream bytes, reader =>
      { reader with
        files := fun other =>
          if other = stream then reader.files stream ++ bytes else reader.files other }
  | .status isLive, reader => { reader with isLive := isLive }
  | .advance, reader => reader.getLogs

/-- The state after a history of moves. -/
def after (moves : List LogMove) : LogReader := follow step moves start

/-- The lines yielded of a stream. -/
def linesOf (reader : LogReader) (stream : LogStream) : List (List Char) :=
  reader.yielded.filterMap fun log => if log.1 = stream then some log.2 else none

end LogReader

/-! ## What is delivered -/

/-- The file up to its last line feed. -/
def completed (file : List UInt8) : List UInt8 := file.rdropWhile fun byte => byte ≠ 10

/-- The lines that a file has completed. -/
def completedLines (file : List UInt8) : List (List Char) := splitlines [] (decode (completed file))

/-- What is in front of a line feed is encoded again to its own length, as every text is. -/
def KeepsLength (file : List UInt8) : Prop :=
  ∀ before, before ++ [10] <+: file → (encode (decode before)).length = before.length

section read

variable {file before rest : List UInt8} {offset : Nat} {lines : List (List Char)}

theorem rpartition_eq_none {text : List Char} (whole : '\n' ∉ text) : rpartition text = none := by
  induction text with
  | nil => rfl
  | cons letter text ih =>
      obtain ⟨other, others⟩ := List.ne_and_not_mem_of_not_mem_cons whole
      rw [rpartition, ih others]
      exact if_neg (Ne.symm other)

theorem rpartition_append (complete : List Char) {remainder : List Char}
    (whole : '\n' ∉ remainder) :
    rpartition (complete ++ '\n' :: remainder) = some (complete, remainder) := by
  induction complete with
  | nil =>
      rw [List.nil_append, rpartition, rpartition_eq_none whole]
      rfl
  | cons letter complete ih => rw [List.cons_append, rpartition, ih]

theorem exists_last (file : List UInt8) :
    10 ∉ file ∨ ∃ before rest, file = before ++ 10 :: rest ∧ 10 ∉ rest := by
  induction file with
  | nil => exact .inl List.not_mem_nil
  | cons byte file ih =>
      rcases ih with whole | ⟨before, rest, rfl, behind⟩
      · by_cases isFeed : byte = 10
        · rw [isFeed]
          exact .inr ⟨[], file, rfl, whole⟩
        · refine .inl fun member => ?_
          rcases List.mem_cons.mp member with same | later
          · exact isFeed same.symm
          · exact whole later
      · exact .inr ⟨byte :: before, rest, rfl, behind⟩

theorem completed_append (closed : Closed before) (whole : 10 ∉ rest) :
    completed (before ++ rest) = before := by
  induction rest using List.reverseRecOn with
  | nil =>
      rw [List.append_nil, completed]
      rcases closed with rfl | ⟨front, rfl⟩
      · exact List.rdropWhile_nil _
      · exact List.rdropWhile_concat_neg _ _ _ (by simp)
  | append_singleton rest byte ih =>
      rw [List.mem_append, not_or, List.mem_singleton] at whole
      rw [← List.append_assoc, completed,
        List.rdropWhile_concat_pos _ _ _ (by simpa using Ne.symm whole.2)]
      exact ih whole.1

theorem closed_cut (seen before : List UInt8) : Closed (seen ++ (before ++ [10])) :=
  .inr ⟨seen ++ before, (List.append_assoc ..).symm⟩

/-- A file behind what was seen of it, cut at its last line feed. -/
theorem completed_cut (seen before : List UInt8) (whole : 10 ∉ rest) :
    completed (seen ++ (before ++ 10 :: rest)) = seen ++ (before ++ [10]) := by
  rw [show seen ++ (before ++ 10 :: rest) = (seen ++ (before ++ [10])) ++ rest by simp]
  exact completed_append (closed_cut seen before) whole

theorem KeepsLength.mono (keeps : KeepsLength file) (within : before <+: file) :
    KeepsLength before := fun front inFront => keeps front (inFront.trans within)

theorem KeepsLength.closed (keeps : KeepsLength file) (closed : Closed before)
    (within : before <+: file) : (encode (decode before)).length = before.length := by
  rcases closed with rfl | ⟨front, rfl⟩
  · rfl
  · rw [decode_newline, encode_append, List.length_append, keeps front within, List.length_append]
    rfl

theorem readLines_whole (seen : List UInt8) (whole : 10 ∉ rest) :
    readLines (seen ++ rest) seen.length = ([], seen.length) := by
  rw [readLines, List.drop_left, rpartition_eq_none fun feed => whole (newline_of_decode feed)]

/-- A read takes all in front of the last line feed, but not an empty line alone in front of an
unfinished one. -/
theorem readLines_cut (seen before : List UInt8) (whole : 10 ∉ rest) :
    readLines (seen ++ (before ++ 10 :: rest)) seen.length =
      if before = [] ∧ rest ≠ [] then ([], seen.length)
      else (splitlines [] (decode before),
        seen.length + (encode (decode before ++ ['\n'])).length) := by
  rw [readLines, List.drop_left, decode_newline,
    rpartition_append _ fun feed => whole (newline_of_decode feed)]
  simp only [decode_eq_nil, ne_eq]

/-- A file that is part of an encoded text keeps its length. -/
theorem KeepsLength.of_text {text : List Char} (within : file <+: encode text) :
    KeepsLength file := by
  intro front inFront
  rw [encode_decode_of_begins (inFront.trans within)]

/-- Where a reader stands that has delivered the lines of a closed part of the file. -/
def Stands (file : List UInt8) (offset : Nat) (lines : List (List Char)) : Prop :=
  ∃ seen rest, file = seen ++ rest ∧ Closed seen ∧ offset = seen.length ∧
    lines.Sublist (splitlines [] (decode seen)) ∧
    nonblank lines = nonblank (splitlines [] (decode seen))

theorem Stands.write (stands : Stands file offset lines) (bytes : List UInt8) :
    Stands (file ++ bytes) offset lines := by
  obtain ⟨seen, rest, rfl, closed, behind⟩ := stands
  exact ⟨seen, rest ++ bytes, List.append_assoc .., closed, behind⟩

/-- What is read up to a line feed is as long as the text it is decoded to. -/
theorem KeepsLength.piece {seen : List UInt8} (closed : Closed seen)
    (keeps : KeepsLength (seen ++ (before ++ 10 :: rest))) :
    (encode (decode before ++ ['\n'])).length = (before ++ [10]).length := by
  have cut : seen ++ (before ++ [10]) <+: seen ++ (before ++ 10 :: rest) := ⟨rest, by simp⟩
  have front := keeps.closed closed ⟨_, rfl⟩
  have both := keeps (seen ++ before) (by rwa [List.append_assoc])
  rw [decode_append closed, encode_append, List.length_append, List.length_append, front] at both
  rw [encode_append, List.length_append, List.length_append, Nat.add_left_cancel both]
  rfl

/-- A read delivers what the file has completed, but for empty lines. -/
theorem Stands.read (stands : Stands file offset lines) (keeps : KeepsLength file) :
    Stands file (readLines file offset).2 (lines ++ (readLines file offset).1) ∧
      nonblank (lines ++ (readLines file offset).1) = nonblank (completedLines file) := by
  obtain ⟨seen, rest, rfl, closed, rfl, sublist, same⟩ := stands
  rcases exists_last rest with whole | ⟨before, behind, rfl, whole⟩
  · rw [readLines_whole seen whole, completedLines, completed_append closed whole,
      List.append_nil]
    exact ⟨⟨seen, rest, rfl, closed, rfl, sublist, same⟩, same⟩
  · have cut : seen ++ (before ++ 10 :: behind) = (seen ++ (before ++ [10])) ++ behind := by simp
    have piece : splitlines [] (decode (seen ++ (before ++ [10]))) =
        splitlines [] (decode seen) ++ splitlines [] (decode before ++ ['\n']) := by
      rw [splitlines_decode_append closed, decode_newline]
      rfl
    have complete : nonblank (completedLines (seen ++ (before ++ 10 :: behind))) =
        nonblank lines ++ nonblank (splitlines [] (decode before)) := by
      rw [completedLines, completed_cut seen before whole, piece, nonblank_append,
        nonblank_ended, same]
    rw [complete, readLines_cut seen before whole]
    split
    next alone =>
      rw [alone.1, List.append_nil]
      exact ⟨⟨seen, _, rfl, closed, rfl, sublist, same⟩, (List.append_nil _).symm⟩
    next =>
      refine ⟨⟨_, behind, cut, closed_cut seen before, ?_, ?_, ?_⟩, nonblank_append _ _⟩
      · rw [keeps.piece closed]
        exact List.length_append.symm
      · rw [piece]
        exact sublist.append (sublist_ended _)
      · rw [piece, nonblank_append, nonblank_append, same, nonblank_ended]

theorem nonblank_prefix {first second : List (List Char)} (within : first <+: second) :
    nonblank first <+: nonblank second := by
  obtain ⟨rest, rfl⟩ := within
  rw [nonblank_append]
  exact List.prefix_append _ _

/-- Delivered lines are among those of the closed part of the file. -/
theorem Stands.within (stands : Stands file offset lines) :
    lines.Sublist (completedLines file) ∧ nonblank lines <+: nonblank (completedLines file) := by
  obtain ⟨seen, rest, rfl, closed, -, sublist, same⟩ := stands
  have more : ∃ further, completed (seen ++ rest) = seen ++ further := by
    rcases exists_last rest with whole | ⟨before, behind, rfl, whole⟩
    · exact ⟨[], by rw [completed_append closed whole, List.append_nil]⟩
    · exact ⟨before ++ [10], completed_cut seen before whole⟩
  obtain ⟨further, isMore⟩ := more
  rw [completedLines, isMore, splitlines_decode_append closed, nonblank_append, same]
  exact ⟨sublist.trans (List.sublist_append_left _ _), List.prefix_append _ _⟩

end read

/-! ## Every run of the reader -/

namespace LogReader

section moves

variable {reader : LogReader} {stream : LogStream} {moves : List LogMove}

theorem after_concat (moves : List LogMove) (move : LogMove) :
    after (moves ++ [move]) = step move (after moves) := follow_append _ _ _

theorem linesOf_read (reader : LogReader) (stream other : LogStream) :
    (reader.read stream).linesOf other =
      reader.linesOf other ++
        if stream = other then (readLines (reader.files stream) (reader.offsets stream)).1
        else [] := by
  rw [linesOf, LogReader.read, List.filterMap_append, List.filterMap_map]
  congr 1
  split
  next same => simp [same]
  next apart => simp [apart]

theorem getLogs_reading {drained : Bool} (reads : reader.phase = .reading stream drained) :
    reader.getLogs =
      { reader.read stream with phase := .behind (drained && reader.isDry stream) stream } := by
  rw [getLogs, reads]

/-- What one step of `get_logs` does to a stream: it reads it, or leaves it. -/
theorem getLogs_stream (reader : LogReader) (stream : LogStream) :
    reader.getLogs.files = reader.files ∧
      ((∃ drained, reader.phase = .reading stream drained) ∧
          reader.getLogs.offsets stream =
            (readLines (reader.files stream) (reader.offsets stream)).2 ∧
          reader.getLogs.linesOf stream = reader.linesOf stream ++
            (readLines (reader.files stream) (reader.offsets stream)).1 ∨
        (∀ drained, reader.phase ≠ .reading stream drained) ∧
          reader.getLogs.offsets stream = reader.offsets stream ∧
          reader.getLogs.linesOf stream = reader.linesOf stream) := by
  cases isPhase : reader.phase with
  | reading other drained =>
      have same := getLogs_reading isPhase
      have lines : reader.getLogs.linesOf stream = (reader.read other).linesOf stream := by
        rw [same]
        rfl
      rw [lines, linesOf_read, same]
      refine ⟨rfl, ?_⟩
      by_cases here : other = stream
      · subst here
        rw [if_pos rfl]
        exact .inl ⟨⟨drained, rfl⟩, if_pos rfl, rfl⟩
      · rw [if_neg here, List.append_nil]
        refine .inr ⟨?_, if_neg (Ne.symm here), rfl⟩
        rintro drained' ⟨⟩
        exact here rfl
  | asking | returned =>
      rw [getLogs, isPhase]
      exact ⟨rfl, .inr ⟨nofun, rfl, rfl⟩⟩

theorem files_grow (reader : LogReader) (move : LogMove) (stream : LogStream) :
    reader.files stream <+: (step move reader).files stream := by
  cases move with
  | write other bytes =>
      simp only [step]
      split
      next same =>
        rw [same]
        exact List.prefix_append _ _
      · exact List.prefix_rfl
  | status isLive => exact List.prefix_rfl
  | advance => simp only [step, (getLogs_stream reader stream).1, List.prefix_rfl]

theorem lines_grow (reader : LogReader) (move : LogMove) (stream : LogStream) :
    reader.linesOf stream <+: (step move reader).linesOf stream := by
  cases move with
  | write other bytes => exact List.prefix_rfl
  | status isLive => exact List.prefix_rfl
  | advance =>
      rcases (getLogs_stream reader stream).2 with ⟨-, -, reads⟩ | ⟨-, -, leaves⟩
      · rw [step, reads]
        exact List.prefix_append _ _
      · simp only [step, leaves, List.prefix_rfl]

/-- What grows with every move grows over every history. -/
theorem grows {α : Type} {part : LogReader → List α}
    (each : ∀ reader move, part reader <+: part (step move reader))
    (earlier later : List LogMove) : part (after earlier) <+: part (after (earlier ++ later)) := by
  induction later using List.reverseRecOn with
  | nil => simp only [List.append_nil, List.prefix_rfl]
  | append_singleton later move ih =>
      rw [← List.append_assoc, after_concat]
      exact ih.trans (each _ _)

theorem stands (keeps : KeepsLength ((after moves).files stream)) :
    Stands ((after moves).files stream) ((after moves).offsets stream)
      ((after moves).linesOf stream) := by
  induction moves using List.reverseRecOn with
  | nil => exact ⟨[], [], rfl, .inl rfl, rfl, List.Sublist.refl _, rfl⟩
  | append_singleton moves move ih =>
      rw [after_concat] at keeps ⊢
      have before := ih (keeps.mono (files_grow _ _ _))
      cases move with
      | write other bytes =>
          simp only [step]
          split
          next same =>
            subst same
            exact before.write bytes
          · exact before
      | status isLive => exact before
      | advance =>
          rw [step] at keeps ⊢
          obtain ⟨files, ⟨-, offset, lines⟩ | ⟨-, offset, lines⟩⟩ :=
            getLogs_stream (after moves) stream
          · rw [files] at keeps ⊢
            rw [offset, lines]
            exact (before.read keeps).1
          · rw [files, offset, lines]
            exact before

/-- A read of a stream delivers all that its file has completed, but for empty lines. -/
theorem caught_up {drained : Bool} (keeps : KeepsLength ((after moves).files stream))
    (reads : (after moves).phase = .reading stream drained) :
    nonblank ((after (moves ++ [.advance])).linesOf stream) =
      nonblank (completedLines ((after moves).files stream)) := by
  rw [after_concat, step]
  rcases (getLogs_stream (after moves) stream).2 with ⟨-, -, lines⟩ | ⟨leaves, -⟩
  · rw [lines]
    exact ((stands keeps).read keeps).2
  · exact absurd reads (leaves drained)

/-- The stream was read, and nothing was yielded by that read or since. -/
def Dried (moves : List LogMove) (stream : LogStream) : Prop :=
  ∃ earlier later drained, moves = earlier ++ .advance :: later ∧
    (after earlier).phase = .reading stream drained ∧
    (after moves).yielded = (after earlier).yielded

theorem Dried.concat (dried : Dried moves stream) {move : LogMove}
    (silent : (step move (after moves)).yielded = (after moves).yielded) :
    Dried (moves ++ [move]) stream := by
  obtain ⟨earlier, later, drained, rfl, reads, same⟩ := dried
  refine ⟨earlier, later ++ [move], drained, by simp, reads, ?_⟩
  rw [after_concat, silent, same]

theorem read_of_isDry (dry : reader.isDry stream = true) :
    (reader.read stream).yielded = reader.yielded := by
  rw [isDry, List.isEmpty_iff] at dry
  rw [LogReader.read, dry]
  exact List.append_nil _

theorem finds_behind {drained : Bool} {other : LogStream}
    (found : (LogPhase.behind drained other).finds stream) :
    drained = true ∧ ((LogPhase.reading other true).finds stream ∨ other = stream) := by
  cases drained with
  | false =>
      cases other with
      | stdout => exact found.elim
      | stderr => exact found.elim
  | true =>
      refine ⟨rfl, ?_⟩
      cases other with
      | stdout =>
          cases stream with
          | stdout => exact .inr rfl
          | stderr => exact found.elim
      | stderr =>
          cases stream with
          | stdout => exact .inl trivial
          | stderr => exact .inr rfl

/-- A stream is found dry only by a step that yields nothing. -/
theorem getLogs_finds (found : reader.getLogs.phase.finds stream) :
    reader.getLogs.yielded = reader.yielded ∧
      (reader.phase.finds stream ∨ ∃ drained, reader.phase = .reading stream drained) := by
  cases isPhase : reader.phase with
  | reading other drained =>
      rw [getLogs_reading isPhase] at found ⊢
      obtain ⟨isDry, before⟩ := finds_behind found
      obtain ⟨dried, dry⟩ := Bool.and_eq_true_iff.mp isDry
      refine ⟨read_of_isDry dry, ?_⟩
      rw [dried]
      rcases before with before | rfl
      · exact .inl before
      · exact .inr ⟨true, rfl⟩
  | asking drained =>
      rw [getLogs, isPhase] at found ⊢
      refine ⟨rfl, .inl ?_⟩
      cases drained with
      | true => trivial
      | false => exact found.elim
  | returned =>
      rw [getLogs, isPhase]
      exact ⟨rfl, .inl trivial⟩

theorem dried_of_finds (found : (after moves).phase.finds stream) : Dried moves stream := by
  induction moves using List.reverseRecOn with
  | nil => exact found.elim
  | append_singleton moves move ih =>
      rw [after_concat] at found
      cases move with
      | write other bytes => exact (ih found).concat rfl
      | status isLive => exact (ih found).concat rfl
      | advance =>
          obtain ⟨silent, before | ⟨drained, reads⟩⟩ := getLogs_finds found
          · exact (ih before).concat silent
          · refine ⟨moves, [], drained, rfl, reads, ?_⟩
            rw [after_concat]
            exact silent

end moves

/-- What `get_logs` promises of a stream. -/
structure Delivers (moves : List LogMove) (stream : LogStream) : Prop where
  /-- No line is repeated, split or joined, and none is made up. -/
  lines : ((after moves).linesOf stream).Sublist
    (completedLines ((after moves).files stream))
  inOrder : nonblank ((after moves).linesOf stream) <+:
    nonblank (completedLines ((after moves).files stream))
  /-- Every read delivers what was completed by then. -/
  caughtUp : ∀ earlier later drained, moves = earlier ++ .advance :: later →
    (after earlier).phase = .reading stream drained →
    nonblank (completedLines ((after earlier).files stream)) <+:
      nonblank ((after moves).linesOf stream)
  /-- A reader that has returned had read all that was completed at a last read of the stream. -/
  returned : (after moves).phase = .returned → ∃ earlier later drained,
    moves = earlier ++ .advance :: later ∧ (after earlier).phase = .reading stream drained ∧
    (after moves).linesOf stream = (after earlier).linesOf stream ∧
    nonblank ((after moves).linesOf stream) =
      nonblank (completedLines ((after earlier).files stream))

/-- As long as what is in front of line feeds keeps its length, `get_logs` delivers the lines of
a file in order and once; only empty lines can be left out. -/
theorem getLogs_delivers (moves : List LogMove) (stream : LogStream)
    (keeps : KeepsLength ((after moves).files stream)) : Delivers moves stream where
  lines := (stands keeps).within.1
  inOrder := (stands keeps).within.2
  caughtUp := by
    rintro earlier later drained rfl reads
    have grown := grows (fun reader move => lines_grow reader move stream)
      (earlier ++ [.advance]) later
    have sooner := keeps.mono (grows (fun reader move => files_grow reader move stream) _ _)
    rw [List.append_assoc] at grown
    rw [← caught_up sooner reads]
    exact nonblank_prefix grown
  returned := by
    intro ended
    have found : (after moves).phase.finds stream := by
      rw [ended]
      trivial
    obtain ⟨earlier, later, drained, rfl, reads, silent⟩ := dried_of_finds found
    have same : (after (earlier ++ .advance :: later)).linesOf stream =
        (after earlier).linesOf stream := by
      rw [linesOf, silent]
      rfl
    have sooner := keeps.mono (grows (fun reader move => files_grow reader move stream) _ _)
    have first := grows (fun reader move => lines_grow reader move stream) earlier [.advance]
    have second := grows (fun reader move => lines_grow reader move stream)
      (earlier ++ [.advance]) later
    rw [List.append_assoc, List.singleton_append, same] at second
    refine ⟨earlier, later, drained, rfl, reads, same, ?_⟩
    rw [← caught_up sooner reads, same, first.eq_of_length_le second.length_le]

/-- A worker whose text is cut inside a letter, and a reader that reads in between. -/
def cutRun : List LogMove :=
  [.write .stdout [104, 195], .advance, .write .stdout [169, 10], .advance, .advance, .advance,
    .advance, .advance, .advance, .advance, .status false, .advance]

theorem cutRun_delivers :
    (after cutRun).phase = .returned ∧ (after cutRun).linesOf .stdout = [['h', 'é']] ∧
      Delivers cutRun .stdout := by
  refine ⟨by decide, by decide, getLogs_delivers cutRun .stdout ?_⟩
  exact @KeepsLength.of_text _ ['h', 'é', '\n'] List.prefix_rfl

end LogReader

end Xaytune.Runtimes
