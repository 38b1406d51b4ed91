import Xaytune.Trajectory.Formats
import Xaytune.Trajectory.Retention

/-!
# What a run of expiries leaves

A record is on the log, readable, before its blob is unlinked, as long as every append starts at a
line of its own. Then a run of calls, each finished or stopped anywhere, only turns available blobs
expired, and the evidence verifies as it did.
-/

namespace Xaytune.Trajectory

open Xaytune.Library Action

section Attempt

variable {formats : Formats} {writes : ExpiryFormats formats} {trajectoryId : AttemptId}
  {view later : View} {manifest : TrajectoryManifest formats.fingerprints}

/-! ## Lines of the log -/

/-- The bytes end where a line ends. -/
def EndsLine (data : Bytes) : Prop := ∀ byte ∈ data.getLast?, byte = 10 ∨ byte = 13

/-- Bytes with no line end in them. -/
def Unbroken (part : Bytes) : Prop := ∀ byte ∈ part, byte ≠ 10 ∧ byte ≠ 13

theorem splitlines_unbroken {part : Bytes} (unbroken : Unbroken part) (line rest : Bytes) :
    splitlines line (part ++ rest) = splitlines (line ++ part) rest := by
  induction part generalizing line with
  | nil => rw [List.nil_append, List.append_nil]
  | cons byte part ih =>
      obtain ⟨noNewline, noReturn⟩ := unbroken byte List.mem_cons_self
      have behind := ih (fun other member => unbroken other (List.mem_cons_of_mem _ member))
        (line ++ [byte])
      rw [List.cons_append, splitlines, if_neg (not_or.mpr ⟨noNewline, noReturn⟩), behind,
        List.append_assoc, List.singleton_append]
      exact fun _ isReturn => absurd isReturn noReturn

theorem splitlines_part {part : Bytes} (unbroken : Unbroken part) (some_of : part ≠ []) :
    splitlines [] part = [part] := by
  have split := splitlines_unbroken unbroken [] []
  rw [List.append_nil, List.nil_append] at split
  rw [split, splitlines, if_neg some_of]

theorem splitlines_closed {line : Bytes} (unbroken : Unbroken line) :
    splitlines [] (closed line) = [line] := by
  rw [closed, splitlines_unbroken unbroken, List.nil_append]
  rfl

/-- What follows a line's end is split on its own. -/
theorem splitlines_append {data rest : Bytes} (line : Bytes) (ends : EndsLine data)
    (begins : data = [] → line = []) (plain : rest.head? ≠ some 10) :
    splitlines line (data ++ rest) = splitlines line data ++ splitlines [] rest := by
  have endsRest : ∀ {byte : UInt8} {behind : Bytes}, EndsLine (byte :: behind) →
    EndsLine behind := by
    intro byte behind endsAll last isLast
    refine endsAll last ?_
    cases behind with
    | nil => cases isLast
    | cons next behind => exact isLast
  induction line, data using splitlines.induct with
  | case1 => rfl
  | case2 line unread => exact absurd (begins rfl) unread
  | case3 line behind ih =>
      rw [List.cons_append, List.cons_append, splitlines, splitlines, List.cons_append,
        ih (endsRest (endsRest ends)) fun _ => rfl]
  | case4 line byte behind apart isEnd ih =>
      have still : ∀ next, byte = 13 → behind ++ rest = 10 :: next → False := by
        intro next isReturn starts
        cases behind with
        | nil =>
            rw [List.nil_append] at starts
            exact plain (by rw [starts, List.head?_cons])
        | cons first behind =>
            obtain ⟨rfl, -⟩ := List.cons.inj starts
            exact apart behind isReturn rfl
      rw [List.cons_append, splitlines, if_pos isEnd, splitlines, if_pos isEnd, List.cons_append,
        ih (endsRest ends) fun _ => rfl]
      · exact apart
      · exact still
  | case5 line byte behind apart goesOn ih =>
      have notReturn : byte ≠ 13 := fun isReturn => goesOn (.inr isReturn)
      have more : behind ≠ [] := by
        rintro rfl
        exact goesOn (ends byte rfl)
      rw [List.cons_append, splitlines, if_neg goesOn, splitlines, if_neg goesOn,
        ih (endsRest ends) fun isNil => absurd isNil more]
      · exact apart
      · exact fun _ isReturn => absurd isReturn notReturn

theorem readExpiryLog_eq (view : View) : readExpiryLog formats view trajectoryId =
    ((splitlines [] ((view .expiry).getD [])).filterMap formats.parseExpiry).filter fun record =>
      record.trajectoryId = trajectoryId := by
  rw [readExpiryLog]
  cases view .expiry with
  | none => rfl
  | some data => rfl

theorem log_appended (view : View) (data : Bytes) :
    (appended view .expiry data .expiry).getD [] = (view .expiry).getD [] ++ data := by
  rw [appended, Function.update_self, Option.getD_some]

/-- What is appended behind a line's end is read on its own. -/
theorem readExpiryLog_appended {data : Bytes} (ends : EndsLine ((view .expiry).getD []))
    (plain : data.head? ≠ some 10) :
    readExpiryLog formats (appended view .expiry data) trajectoryId =
      readExpiryLog formats view trajectoryId ++
        ((splitlines [] data).filterMap formats.parseExpiry).filter fun record =>
          record.trajectoryId = trajectoryId := by
  rw [readExpiryLog_eq, readExpiryLog_eq, log_appended,
    splitlines_append [] ends (fun _ => rfl) plain, List.filterMap_append, List.filter_append]

section Line

variable {record : ExpiryRecord} {part : Bytes}

theorem line_unbroken (writes : ExpiryFormats formats) (record : ExpiryRecord) :
    Unbroken (writes.line record) := writes.unbroken record

/-- A part of a line does not begin as the end of another. -/
theorem head_of_part (some_of : part <+: closed (writes.line record)) : part.head? ≠ some 10 := by
  intro starts
  obtain ⟨rest, isLine⟩ := some_of
  cases part with
  | nil => cases starts
  | cons byte part =>
      cases starts
      cases first : writes.line record with
      | nil => exact writes.line_ne_nil record first
      | cons letter letters =>
          rw [closed, first] at isLine
          have isLetter := (List.cons.inj isLine).1
          exact (writes.unbroken record letter (first ▸ List.mem_cons_self)).1 isLetter.symm

theorem readExpiryLog_closed (ends : EndsLine ((view .expiry).getD []))
    (wellFormed : record.WellFormed) (here : record.trajectoryId = trajectoryId) :
    readExpiryLog formats (appended view .expiry (closed (writes.line record))) trajectoryId =
      readExpiryLog formats view trajectoryId ++ [record] := by
  rw [readExpiryLog_appended ends (head_of_part (List.prefix_refl _)),
    splitlines_closed (line_unbroken writes record)]
  simp [writes.parse_line record wellFormed, here]

/-- A part of a record's line adds nothing, or the record. -/
theorem readExpiryLog_part (ends : EndsLine ((view .expiry).getD []))
    (wellFormed : record.WellFormed) (here : record.trajectoryId = trajectoryId)
    (some_of : part <+: closed (writes.line record)) :
    readExpiryLog formats (appended view .expiry part) trajectoryId =
        readExpiryLog formats view trajectoryId ∨
      readExpiryLog formats (appended view .expiry part) trajectoryId =
        readExpiryLog formats view trajectoryId ++ [record] := by
  rcases List.prefix_concat_iff.mp some_of with rfl | inside
  · exact .inr (readExpiryLog_closed ends wellFormed here)
  · have unbroken : Unbroken part := fun byte member =>
      writes.unbroken record byte (inside.subset member)
    rw [readExpiryLog_appended ends (head_of_part some_of)]
    by_cases empty : part = []
    · subst empty
      exact .inl (List.append_nil _)
    · rw [splitlines_part unbroken empty]
      by_cases whole : part = writes.line record
      · subst whole
        exact .inr (by simp [writes.parse_line record wellFormed, here])
      · exact .inl (by simp [writes.parse_part record part inside whole])

end Line

/-! ## What a call is granted -/

/-- The retention a manifest declares for a tier has ended. -/
def DueAt (manifest : TrajectoryManifest formats.fingerprints) (tier : Tier) (instant : Int) :
    Prop :=
  ∃ seconds sealedAt, (tierPolicy manifest tier).retentionSeconds = some seconds ∧
    formats.moment manifest.sealedAt = some sealedAt ∧
    sealedAt + (seconds : Int) * 1000000 ≤ instant

/-- A record authorizes by naming the sealed trajectory, a blob it captures, the retention of the
blob's tier, the deadline that gives, and a removal at or behind it. -/
theorem authorizes_iff {record : ExpiryRecord} : authorizes formats manifest record = true ↔
    record.trajectoryFingerprint = manifest.trajectoryFingerprint ∧
      record.trajectoryId = manifest.trajectoryId ∧
      (manifest.content.any fun reference =>
        reference.slot.captures record.tier record.digest) = true ∧
      (tierPolicy manifest record.tier).retentionSeconds = some record.retentionSeconds ∧
      ∃ sealedAt removedAt, formats.moment manifest.sealedAt = some sealedAt ∧
        formats.moment record.deadline =
          some (sealedAt + (record.retentionSeconds : Int) * 1000000) ∧
        formats.moment record.removedAt = some removedAt ∧
        sealedAt + (record.retentionSeconds : Int) * 1000000 ≤ removedAt := by
  unfold authorizes
  change (_ && _ && _ &&
    decide ((tierPolicy manifest record.tier).retentionSeconds = some record.retentionSeconds) &&
    _) = true ↔ _
  cases formats.moment manifest.sealedAt with
  | none => simp
  | some sealedAt =>
      cases formats.moment record.deadline with
      | none => simp
      | some deadline =>
          cases formats.moment record.removedAt with
          | none => simp
          | some removedAt =>
              simp only [Bool.and_eq_true, decide_eq_true_eq, Option.some.injEq, and_assoc]
              constructor
              · rintro ⟨fingerprint, attempt, captured, kept, rfl, past⟩
                exact ⟨fingerprint, attempt, captured, kept, sealedAt, removedAt, rfl, rfl, rfl,
                  past⟩
              · rintro ⟨fingerprint, attempt, captured, kept, _, _, rfl, rfl, rfl, past⟩
                exact ⟨fingerprint, attempt, captured, kept, rfl, past⟩

theorem Moment.ofText_eq_some {text : String} {moment : Moment formats}
    (isMoment : Moment.ofText formats text = some moment) :
    formats.moment text = some moment.instant := by
  unfold Moment.ofText at isMoment
  split at isMoment
  · cases isMoment
  · cases isMoment
    assumption

theorem Moment.ofText_of_reads {text : String} {instant : Int}
    (reads : formats.moment text = some instant) :
    ∃ moment, Moment.ofText formats text = some moment ∧ moment.instant = instant := by
  unfold Moment.ofText
  split
  · rename_i unread
    rw [reads] at unread
    cases unread
  · rename_i found isFound
    rw [reads] at isFound
    exact ⟨_, rfl, (Option.some.inj isFound).symm⟩

/-- The seal time is the stored manifest's. -/
theorem sealTime_ok {sealedAt : Moment formats}
    (found : sealTime trajectoryId manifest view = .ok sealedAt) :
    (view .manifest).bind formats.validateManifest = some manifest ∧
      manifest.trajectoryId = trajectoryId ∧
      formats.moment manifest.sealedAt = some sealedAt.instant := by
  unfold sealTime at found
  cases isStored : (view .manifest).bind formats.validateManifest with
  | none => simp [isStored] at found
  | some stored =>
      simp only [isStored] at found
      split_ifs at found with elsewhere differs
      obtain rfl := not_not.mp differs
      cases isOpened : (view .openRecord).bind formats.parseOpenRecord with
      | none => simp [isOpened] at found
      | some opened =>
          simp only [isOpened] at found
          cases isOpening : opened.openedAt.bind (Moment.ofText formats) with
          | none => simp [isOpening] at found
          | some openedAt =>
              simp only [isOpening] at found
              cases isSeal : Moment.ofText formats manifest.sealedAt with
              | none =>
                  simp only [isSeal] at found
                  split_ifs at found
              | some moment =>
                  simp only [isSeal] at found
                  split_ifs at found
                  cases found
                  exact ⟨rfl, not_not.mp elsewhere, Moment.ofText_eq_some isSeal⟩

theorem deadlineOf_ok {tier : Tier} {seconds : Nat} {deadline : Moment formats}
    (found : deadlineOf writes trajectoryId manifest tier view = .ok (seconds, deadline)) :
    ∃ sealedAt, (tierPolicy manifest tier).retentionSeconds = some seconds ∧
      sealTime trajectoryId manifest view = .ok sealedAt ∧
      deadline.instant = sealedAt.instant + seconds * 1000000 := by
  unfold deadlineOf at found
  cases isKept : (tierPolicy manifest tier).retentionSeconds with
  | none => simp [isKept] at found
  | some kept =>
      cases isSeal : sealTime trajectoryId manifest view with
      | error refusal => simp [isKept, isSeal] at found
      | ok sealedAt =>
          simp only [isKept, isSeal] at found
          cases isLater : writes.later sealedAt kept with
          | none => simp [isLater] at found
          | some moment =>
              simp only [isLater, Except.ok.injEq, Prod.mk.injEq] at found
              obtain ⟨rfl, rfl⟩ := found
              exact ⟨sealedAt, rfl, rfl, writes.instant_later sealedAt _ _ isLater⟩

/-- A record the stored manifest authorizes, for the blob and at the time of the call. -/
structure Grants (request : ExpiryRequest formats) (trajectoryId : AttemptId) (view : View)
    (record : ExpiryRecord) : Prop where
  stored : (view .manifest).bind formats.validateManifest = some request.manifest
  attempt : record.trajectoryId = trajectoryId
  tier : record.tier = request.tier
  digest : record.digest = request.digest
  wellFormed : record.WellFormed
  authorized : authorizes formats request.manifest record = true
  due : ∃ now, request.now = .aware now ∧ DueAt request.manifest request.tier now.instant

theorem ExpiryRequest.record_ok {request : ExpiryRequest formats} {record : ExpiryRecord}
    (admitted : request.record writes trajectoryId view = .ok record) :
    Grants request trajectoryId view record := by
  unfold ExpiryRequest.record at admitted
  split_ifs at admitted with captured
  cases isDeadline : deadlineOf writes trajectoryId request.manifest request.tier view with
  | error refusal => simp [isDeadline] at admitted
  | ok found =>
      obtain ⟨seconds, deadline⟩ := found
      obtain ⟨sealedAt, isKept, isSeal, isInstant⟩ := deadlineOf_ok isDeadline
      obtain ⟨stored, here, isSealed⟩ := sealTime_ok isSeal
      cases isNow : request.now with
      | naive => simp [isDeadline, isNow] at admitted
      | aware now =>
          simp only [isDeadline, isNow] at admitted
          split_ifs at admitted with early wellFormed
          cases admitted
          have past : deadline.instant ≤ now.instant := not_lt.mp early
          refine ⟨stored, rfl, rfl, rfl, wellFormed, ?_, now, isNow, ?_⟩
          · refine authorizes_iff.mpr ⟨rfl, here.symm, captured, isKept, ?_⟩
            exact ⟨sealedAt.instant, now.instant, isSealed, isInstant ▸ deadline.reads, now.reads,
              isInstant ▸ past⟩
          · exact ⟨seconds, sealedAt.instant, isKept, isSealed, isInstant ▸ past⟩

/-! ## What one call leaves -/

variable {request : ExpiryRequest formats}

theorem ExpiryRequest.record_sealedFiles (view : View) :
    request.record writes trajectoryId (sealedFiles (view .manifest) (view .openRecord)) =
      request.record writes trajectoryId view := by
  unfold record deadlineOf sealTime
  simp only [sealedFiles]

/-- The files a call leaves, finished or stopped anywhere. -/
inductive Leaves (writes : ExpiryFormats formats) (trajectoryId : AttemptId)
    (request : ExpiryRequest formats) (view : View) : View → Prop
  | same : Leaves writes trajectoryId request view view
  | recorded {record : ExpiryRecord} {part : Bytes}
      (admitted : request.record writes trajectoryId view = .ok record)
      (some_of : part <+: closed (writes.line record)) :
      Leaves writes trajectoryId request view (appended view .expiry part)
  | removed {record : ExpiryRecord}
      (admitted : request.record writes trajectoryId view = .ok record) :
      Leaves writes trajectoryId request view
        (unlinked (appended view .expiry (closed (writes.line record))) request.blob)

section Calls

variable {σ : Type} {memory : σ} {safe : View → Prop}

theorem Retention.keeps_read {file : FileName}
    {post : Except Raised (Option Bytes) → σ → View → Prop} :
    (Action.ask (RetentionCall.read file)).Keeps Retention.machine safe post memory view ↔
      safe view ∧ post (.ok (view file)) memory view := by
  refine keeps_ask.trans (and_congr_right fun _ => ⟨And.right, fun holds => ⟨?_, holds⟩⟩)
  intro left torn
  cases torn

theorem Retention.keeps_append {file : FileName} {data : Bytes}
    {post : Except Raised Unit → σ → View → Prop} :
    (Action.ask (RetentionCall.appendDurably file data)).Keeps Retention.machine safe post memory
        view ↔
      safe view ∧ (∀ written, written <+: data → safe (appended view file written)) ∧
        post (.ok ()) memory (appended view file data) := by
  refine keeps_ask.trans (and_congr_right fun _ => and_congr_left fun _ => ?_)
  constructor
  · intro inside written some_of
    exact inside _ (.append file data written some_of)
  · intro inside left torn
    cases torn with
    | append _ _ written some_of => exact inside written some_of

theorem Retention.keeps_unlink {file : FileName} {post : Except Raised Bool → σ → View → Prop} :
    (Action.ask (RetentionCall.unlink file)).Keeps Retention.machine safe post memory view ↔
      safe view ∧ post (.ok (view file).isSome) memory (unlinked view file) := by
  refine keeps_ask.trans (and_congr_right fun _ => ⟨And.right, fun holds => ⟨?_, holds⟩⟩)
  intro left torn
  cases torn

end Calls

theorem expireBlob_keeps : (expireBlob writes trajectoryId request).Keeps Retention.machine
    (Leaves writes trajectoryId request view)
    (fun _ _ left => Leaves writes trajectoryId request view left) () view := by
  unfold expireBlob
  refine keeps_bind.mpr (Retention.keeps_read.mpr ⟨.same, ?_⟩)
  refine keeps_bind.mpr (Retention.keeps_read.mpr ⟨.same, ?_⟩)
  refine keeps_bind.mpr ?_
  rw [ExpiryRequest.record_sealedFiles]
  cases admitted : request.record writes trajectoryId view with
  | error refusal => exact keeps_throw.mpr .same
  | ok record =>
      refine keeps_pure.mpr (keeps_bind.mpr (Retention.keeps_append.mpr ⟨.same, ?_, ?_⟩))
      · exact fun written some_of => .recorded admitted some_of
      · refine keeps_bind.mpr (Retention.keeps_unlink.mpr ⟨?_, ?_⟩)
        · exact .recorded admitted (List.prefix_refl _)
        · exact .removed admitted

theorem Leaves.beside (leaves : Leaves writes trajectoryId request view later) {file : FileName}
    (noLog : file ≠ .expiry) (noBlob : file ≠ request.blob) : later file = view file := by
  cases leaves with
  | same => rfl
  | recorded admitted some_of => exact Function.update_of_ne noLog ..
  | removed admitted =>
      rw [unlinked, Function.update_of_ne noBlob]
      exact Function.update_of_ne noLog ..

/-- A call unlinks its blob only when the retention has ended. -/
theorem Leaves.blob (leaves : Leaves writes trajectoryId request view later) :
    later request.blob = view request.blob ∨ later request.blob = none ∧
      (view .manifest).bind formats.validateManifest = some request.manifest ∧
      ∃ now, request.now = .aware now ∧ DueAt request.manifest request.tier now.instant := by
  have apart : request.blob ≠ .expiry := FileName.noConfusion
  cases leaves with
  | same => exact .inl rfl
  | recorded admitted some_of => exact .inl (Function.update_of_ne apart ..)
  | removed admitted =>
      have granted := ExpiryRequest.record_ok admitted
      exact .inr ⟨Function.update_self .., granted.stored, granted.due⟩

/-! ## Availability -/

/-- An available blob may turn expired; no other availability changes. -/
def Availability.Settles (before after : Availability) : Prop :=
  after = before ∨ before = .available ∧ after = .expired

theorem Availability.Settles.trans {first second third : Availability}
    (left : Settles first second) (right : Settles second third) : Settles first third := by
  rcases left with rfl | ⟨rfl, rfl⟩
  · exact right
  · rcases right with rfl | ⟨isAvailable, _⟩
    · exact .inr ⟨rfl, rfl⟩
    · cases isAvailable

/-- A call that is not refused appends where a line ends, and the blob it removes is in place with
its digest, or gone with its removal on record. -/
def Orderly (writes : ExpiryFormats formats) (trajectoryId : AttemptId)
    (request : ExpiryRequest formats) (view : View) : Prop :=
  ∀ record, request.record writes trajectoryId view = .ok record →
    EndsLine ((view .expiry).getD []) ∧
      ((∃ data, view request.blob = some data ∧ formats.digestOf data = request.digest) ∨
        view request.blob = none ∧ (request.tier, request.digest) ∈
          authorizedExpiries formats view trajectoryId request.manifest)

theorem mem_authorizedExpiries_concat {record : ExpiryRecord} {blob : Tier × Digest}
    (more : readExpiryLog formats later trajectoryId =
      readExpiryLog formats view trajectoryId ++ [record])
    (authorized : authorizes formats manifest record = true) :
    blob ∈ authorizedExpiries formats later trajectoryId manifest ↔
      blob ∈ authorizedExpiries formats view trajectoryId manifest ∨
        blob = (record.tier, record.digest) := by
  rw [authorizedExpiries, authorizedExpiries, more, List.filter_append, List.map_append,
    List.mem_append]
  simp [authorized]

/-- The availability of a blob by its file and whether its removal is on record. -/
theorem availabilityOf_congr {expiries expiries' : List (Tier × Digest)} {blob : Tier × Digest}
    (file : later (.blob blob.1 blob.2) = view (.blob blob.1 blob.2))
    (recorded : view (.blob blob.1 blob.2) = none → (blob ∈ expiries' ↔ blob ∈ expiries)) :
    availabilityOf formats later expiries' blob = availabilityOf formats view expiries blob := by
  rw [availabilityOf, availabilityOf, file]
  cases found : view (.blob blob.1 blob.2) with
  | none => simp only [recorded found]
  | some data => rfl

theorem Leaves.settles (leaves : Leaves writes trajectoryId request view later)
    (orderly : Orderly writes trajectoryId request view)
    (stored : (view .manifest).bind formats.validateManifest = some manifest)
    (blob : Tier × Digest) :
    (availabilityOf formats view (authorizedExpiries formats view trajectoryId manifest)
      blob).Settles
    (availabilityOf formats later (authorizedExpiries formats later trajectoryId manifest)
      blob) := by
  have noLog : FileName.blob blob.1 blob.2 ≠ .expiry := FileName.noConfusion
  cases leaves with
  | same => exact .inl rfl
  | @recorded record part admitted some_of =>
      have granted := ExpiryRequest.record_ok admitted
      obtain ⟨ends, inPlace⟩ := orderly record admitted
      obtain rfl : request.manifest = manifest := Option.some.inj (granted.stored.symm.trans stored)
      refine .inl (availabilityOf_congr (Function.update_of_ne noLog ..) fun absent => ?_)
      rcases readExpiryLog_part ends granted.wellFormed granted.attempt some_of with same | more
      · rw [authorizedExpiries, same, authorizedExpiries]
      · rw [mem_authorizedExpiries_concat more granted.authorized, granted.tier, granted.digest]
        refine or_iff_left_of_imp fun isBlob => ?_
        subst isBlob
        rcases inPlace with ⟨data, there, _⟩ | ⟨_, onRecord⟩
        · exact absurd (there.symm.trans absent) (Option.some_ne_none data)
        · exact onRecord
  | @removed record admitted =>
      have granted := ExpiryRequest.record_ok admitted
      obtain ⟨ends, inPlace⟩ := orderly record admitted
      obtain rfl : request.manifest = manifest := Option.some.inj (granted.stored.symm.trans stored)
      have log : readExpiryLog formats (unlinked (appended view .expiry
          (closed (writes.line record))) request.blob) trajectoryId =
          readExpiryLog formats view trajectoryId ++ [record] :=
        readExpiryLog_closed ends granted.wellFormed granted.attempt
      have gone : unlinked (appended view .expiry (closed (writes.line record))) request.blob
          request.blob = none := Function.update_self ..
      have besideBlob : ∀ file, file ≠ .expiry → file ≠ request.blob → unlinked (appended view
          .expiry (closed (writes.line record))) request.blob file = view file :=
        fun file => (Leaves.removed admitted).beside
      generalize unlinked (appended view .expiry (closed (writes.line record))) request.blob = left
        at log gone besideBlob ⊢
      have onRecord : ∀ other, other ∈ authorizedExpiries formats left trajectoryId
          request.manifest ↔ other ∈ authorizedExpiries formats view trajectoryId
          request.manifest ∨ other = (request.tier, request.digest) := by
        intro other
        rw [mem_authorizedExpiries_concat log granted.authorized, granted.tier, granted.digest]
      by_cases isBlob : blob = (request.tier, request.digest)
      · subst isBlob
        have isGone : left (.blob request.tier request.digest) = none := gone
        have after : availabilityOf formats left
            (authorizedExpiries formats left trajectoryId request.manifest)
            (request.tier, request.digest) = .expired := by
          rw [availabilityOf, isGone]
          exact if_pos ((onRecord _).mpr (.inr rfl))
        rw [after]
        rcases inPlace with ⟨data, there, isDigest⟩ | ⟨absent, recorded⟩
        · have before : view (.blob request.tier request.digest) = some data := there
          exact .inr ⟨by rw [availabilityOf, before]; exact if_pos isDigest, rfl⟩
        · have before : view (.blob request.tier request.digest) = none := absent
          exact .inl (by rw [availabilityOf, before]; exact (if_pos recorded).symm)
      · refine .inl (availabilityOf_congr (besideBlob _ noLog fun same => isBlob ?_) fun _ => ?_)
        · obtain ⟨isTier, isDigest⟩ := FileName.blob.inj same
          exact Prod.ext isTier isDigest
        · rw [onRecord]
          exact or_iff_left isBlob

/-! ## Runs -/

/-- What some calls leave one after another, each meeting a condition and then finished or stopped
anywhere. -/
inductive Expires (writes : ExpiryFormats formats) (trajectoryId : AttemptId)
    (meets : ExpiryRequest formats → View → Prop) (start : View) :
    List (ExpiryRequest formats) → View → Prop
  | start : Expires writes trajectoryId meets start [] start
  | finished {requests : List (ExpiryRequest formats)} {request : ExpiryRequest formats}
      {view : View} (earlier : Expires writes trajectoryId meets start requests view)
      (here : meets request view) :
      Expires writes trajectoryId meets start (requests ++ [request])
        ((expireBlob writes trajectoryId request ()).exec Retention.machine view).1
  | crashed {requests : List (ExpiryRequest formats)} {request : ExpiryRequest formats}
      {view left : View} (earlier : Expires writes trajectoryId meets start requests view)
      (here : meets request view)
      (crash : (expireBlob writes trajectoryId request ()).Crash Retention.machine view left) :
      Expires writes trajectoryId meets start (requests ++ [request]) left

/-- What holds of the evidence behind some calls: a blob is gone only if expired, by a call behind
its deadline; an expired one has an authorized removal on record; and all verifies as before. -/
structure Accounted (formats : Formats) (trajectoryId : AttemptId)
    (manifest : TrajectoryManifest formats.fingerprints) (requests : List (ExpiryRequest formats))
    (start later : View) : Prop where
  deleted_expired : ∀ tier digest, start (.blob tier digest) ≠ none →
    later (.blob tier digest) = none →
    ((tier, digest), Availability.expired) ∈ checkAvailability formats later trajectoryId manifest
  deleted_due : ∀ tier digest, start (.blob tier digest) ≠ none →
    later (.blob tier digest) = none →
    ∃ request ∈ requests, request.tier = tier ∧ request.digest = digest ∧
      ∃ now, request.now = .aware now ∧ DueAt manifest tier now.instant
  expired_recorded : ∀ tier digest,
    ((tier, digest), Availability.expired) ∈ checkAvailability formats later trajectoryId manifest →
    ∃ record ∈ readExpiryLog formats later trajectoryId, record.tier = tier ∧
      record.digest = digest ∧ record.trajectoryFingerprint = manifest.trajectoryFingerprint ∧
      ∃ removedAt, formats.moment record.removedAt = some removedAt ∧ DueAt manifest tier removedAt
  same_problems : verifyTrajectory formats later trajectoryId manifest =
    verifyTrajectory formats start trajectoryId manifest

/-- What every call preserves, from a sealed attempt on. -/
structure Settled (formats : Formats) (trajectoryId : AttemptId)
    (manifest : TrajectoryManifest formats.fingerprints) (requests : List (ExpiryRequest formats))
    (start later : View) : Prop where
  beside : ∀ file, file ≠ .expiry → (∀ tier digest, file ≠ .blob tier digest) →
    later file = start file
  settles : ∀ blob,
    (availabilityOf formats start (authorizedExpiries formats start trajectoryId manifest)
      blob).Settles
    (availabilityOf formats later (authorizedExpiries formats later trajectoryId manifest) blob)
  blobs : ∀ tier digest, later (.blob tier digest) = start (.blob tier digest) ∨
    later (.blob tier digest) = none ∧
      ∃ request ∈ requests, request.tier = tier ∧ request.digest = digest ∧
        ∃ now, request.now = .aware now ∧ DueAt manifest tier now.instant

section Run

variable {requests : List (ExpiryRequest formats)} {start : View}

theorem Settled.next (settled : Settled formats trajectoryId manifest requests start view)
    (stored : (start .manifest).bind formats.validateManifest = some manifest)
    (leaves : Leaves writes trajectoryId request view later)
    (orderly : Orderly writes trajectoryId request view) :
    Settled formats trajectoryId manifest (requests ++ [request]) start later := by
  have still : (view .manifest).bind formats.validateManifest = some manifest := by
    rw [settled.beside .manifest FileName.noConfusion fun _ _ => FileName.noConfusion]
    exact stored
  constructor
  · intro file noLog noBlob
    rw [leaves.beside noLog (noBlob _ _)]
    exact settled.beside file noLog noBlob
  · exact fun blob => (settled.settles blob).trans (leaves.settles orderly still blob)
  · intro tier digest
    have earlier := settled.blobs tier digest
    by_cases isBlob : FileName.blob tier digest = request.blob
    · obtain ⟨rfl, rfl⟩ := FileName.blob.inj isBlob
      rcases leaves.blob with same | ⟨gone, held, due⟩
      · change later request.blob = _ ∨ later request.blob = _ ∧ _
        rw [same]
        refine earlier.imp_right fun ⟨absent, other, member, isOther⟩ => ?_
        exact ⟨absent, other, List.mem_append_left _ member, isOther⟩
      · obtain rfl : request.manifest = manifest := Option.some.inj (held.symm.trans still)
        exact .inr ⟨gone, request, by simp, rfl, rfl, due⟩
    · rw [leaves.beside FileName.noConfusion isBlob]
      refine earlier.imp_right fun ⟨absent, other, member, isOther⟩ => ?_
      exact ⟨absent, other, List.mem_append_left _ member, isOther⟩

theorem Expires.settled
    (run : Expires writes trajectoryId (Orderly writes trajectoryId) start requests later)
    (stored : (start .manifest).bind formats.validateManifest = some manifest) :
    Settled formats trajectoryId manifest requests start later := by
  induction run with
  | start => exact ⟨fun _ _ _ => rfl, fun _ => .inl rfl, fun _ _ => .inl rfl⟩
  | finished earlier here ih => exact ih.next stored expireBlob_keeps.exec here
  | crashed earlier here crash ih =>
      exact ih.next stored (expireBlob_keeps.crash (fun _ _ leaves => leaves) crash) here

/-! ## The evidence -/

theorem mem_capturedBlobs {content : List ContentReference} {blob : Tier × Digest} :
    blob ∈ capturedBlobs content ↔
      (content.any fun reference => reference.slot.captures blob.1 blob.2) = true := by
  obtain ⟨tier, digest⟩ := blob
  rw [capturedBlobs, List.mem_eraseDups, List.mem_filterMap, List.any_eq_true]
  refine exists_congr fun reference => and_congr_right fun _ => ?_
  cases reference.slot with
  | captured found named size mediaType => simp [ContentSlot.captures]
  | redacted rule secret removedDigest => simp [ContentSlot.captures]
  | notProvided => simp [ContentSlot.captures]

theorem mem_checkAvailability {blob : Tier × Digest} {status : Availability} :
    (blob, status) ∈ checkAvailability formats view trajectoryId manifest ↔
      blob ∈ capturedBlobs manifest.content ∧
        availabilityOf formats view (authorizedExpiries formats view trajectoryId manifest) blob =
          status := by
  simp only [checkAvailability, List.mem_map, Prod.mk.injEq]
  constructor
  · rintro ⟨other, member, rfl, rfl⟩
    exact ⟨member, rfl⟩
  · rintro ⟨member, rfl⟩
    exact ⟨blob, member, rfl, rfl⟩

/-- An authorized expiry is a record on the log, behind its deadline. -/
theorem mem_authorizedExpiries {tier : Tier} {digest : Digest}
    (member : (tier, digest) ∈ authorizedExpiries formats view trajectoryId manifest) :
    (tier, digest) ∈ capturedBlobs manifest.content ∧
    ∃ record ∈ readExpiryLog formats view trajectoryId, record.tier = tier ∧
      record.digest = digest ∧ record.trajectoryFingerprint = manifest.trajectoryFingerprint ∧
      ∃ removedAt, formats.moment record.removedAt = some removedAt ∧
        DueAt manifest tier removedAt := by
  obtain ⟨record, isRecord, isBlob⟩ := List.mem_map.mp member
  obtain ⟨rfl, rfl⟩ := Prod.mk.inj isBlob
  obtain ⟨onLog, authorized⟩ := List.mem_filter.mp isRecord
  obtain ⟨fingerprint, _, captured, kept, sealedAt, removedAt, isSealed, _, isRemoved, past⟩ :=
    authorizes_iff.mp authorized
  refine ⟨mem_capturedBlobs.mpr captured, record, onLog, rfl, rfl, fingerprint, removedAt,
    isRemoved, ?_⟩
  exact ⟨record.retentionSeconds, sealedAt, kept, isSealed, past⟩

/-- What is said of the availabilities is the same if they only settle, and it says as much of an
expired blob as of an available one. -/
theorem filterMap_checkAvailability {α : Type} {said : (Tier × Digest) × Availability → Option α}
    (settles : ∀ blob,
      (availabilityOf formats view (authorizedExpiries formats view trajectoryId manifest)
        blob).Settles
      (availabilityOf formats later (authorizedExpiries formats later trajectoryId manifest) blob))
    (alike : ∀ blob, said (blob, .expired) = said (blob, .available)) :
    (checkAvailability formats later trajectoryId manifest).filterMap said =
      (checkAvailability formats view trajectoryId manifest).filterMap said := by
  rw [checkAvailability, checkAvailability, List.filterMap_map, List.filterMap_map]
  refine List.filterMap_congr fun blob _ => ?_
  rw [Function.comp_apply, Function.comp_apply]
  rcases settles blob with same | ⟨wasAvailable, isExpired⟩
  · rw [same]
  · rw [wasAvailable, isExpired, alike]

/-- Files that hold the same chunks and result verify alike if availability only settles. -/
theorem verifyTrajectory_settled
    (chunks : ∀ index digest, later (.chunk index digest) = view (.chunk index digest))
    (result : later .result = view .result)
    (settles : ∀ blob,
      (availabilityOf formats view (authorizedExpiries formats view trajectoryId manifest)
        blob).Settles
      (availabilityOf formats later (authorizedExpiries formats later trajectoryId manifest)
        blob)) :
    verifyTrajectory formats later trajectoryId manifest =
      verifyTrajectory formats view trajectoryId manifest := by
  have complete : ∀ events, completeProblems formats later manifest events =
      completeProblems formats view manifest events := by
    intro events
    rw [completeProblems, completeProblems, result]
  unfold verifyTrajectory
  rw [loadEvents_congr fun ref _ => chunks ref.index ref.digest]
  rw [filterMap_checkAvailability settles fun _ => rfl]
  simp only [complete]

/-- A blob is expired only with its removal on record. -/
theorem recorded_of_expired {expiries : List (Tier × Digest)} {blob : Tier × Digest}
    (isExpired : availabilityOf formats view expiries blob = .expired) : blob ∈ expiries := by
  by_contra notRecorded
  rw [availabilityOf] at isExpired
  cases found : view (.blob blob.1 blob.2) with
  | none =>
      simp only [found, notRecorded, if_false] at isExpired
      cases isExpired
  | some data =>
      simp only [found] at isExpired
      split_ifs at isExpired

/-- A blob that was there and is gone has turned expired. -/
theorem expired_of_settles {expiries expiries' : List (Tier × Digest)} {blob : Tier × Digest}
    (settles : (availabilityOf formats view expiries blob).Settles
      (availabilityOf formats later expiries' blob))
    (there : view (.blob blob.1 blob.2) ≠ none) (gone : later (.blob blob.1 blob.2) = none) :
    availabilityOf formats later expiries' blob = .expired := by
  rcases settles with same | ⟨_, isExpired⟩
  · obtain ⟨data, found⟩ := Option.ne_none_iff_exists'.mp there
    simp only [availabilityOf, gone, found] at same
    split_ifs at same
  · exact isExpired

theorem Settled.accounted (settled : Settled formats trajectoryId manifest requests start later) :
    Accounted formats trajectoryId manifest requests start later := by
  constructor
  · intro tier digest there gone
    have isExpired := expired_of_settles (settled.settles (tier, digest)) there gone
    have onRecord := mem_authorizedExpiries (recorded_of_expired isExpired)
    exact mem_checkAvailability.mpr ⟨onRecord.1, isExpired⟩
  · intro tier digest there gone
    rcases settled.blobs tier digest with same | ⟨_, removed⟩
    · exact absurd (same.symm.trans gone) there
    · exact removed
  · intro tier digest member
    have isExpired := (mem_checkAvailability.mp member).2
    exact (mem_authorizedExpiries (recorded_of_expired isExpired)).2
  · refine verifyTrajectory_settled (fun index digest => ?_) ?_ settled.settles
    · exact settled.beside _ FileName.noConfusion fun _ _ => FileName.noConfusion
    · exact settled.beside _ FileName.noConfusion fun _ _ => FileName.noConfusion

/-- In every run of expiries that append where a line ends, of blobs in place or removed on record,
a removed blob is expired, none is removed early or expired without a record, and the trajectory
verifies as before. -/
theorem removed_blobs_are_expired (writes : ExpiryFormats formats) (trajectoryId : AttemptId)
    (stored : (start .manifest).bind formats.validateManifest = some manifest)
    (run : Expires writes trajectoryId (Orderly writes trajectoryId) start requests later) :
    Accounted formats trajectoryId manifest requests start later :=
  (run.settled stored).accounted

end Run

/-! ## An expiry after a torn one -/

/-- A call that is not refused may stop with a part of its line on the log. -/
theorem crash_recorded {record : ExpiryRecord} {part : Bytes}
    (admitted : request.record writes trajectoryId view = .ok record)
    (some_of : part <+: closed (writes.line record)) :
    (expireBlob writes trajectoryId request ()).Crash Retention.machine view
      (appended view .expiry part) := by
  refine .later (.later ?_)
  change Program.Crash Retention.machine ((grant (request.record writes trajectoryId
    (sealedFiles (view .manifest) (view .openRecord))) >>= _) ()) view _
  rw [ExpiryRequest.record_sealedFiles, admitted]
  exact .inside (.append .expiry _ part some_of)

/-- A call that is not refused and finishes leaves its record on the log and no blob. -/
theorem exec_admitted {record : ExpiryRecord}
    (admitted : request.record writes trajectoryId view = .ok record) :
    ((expireBlob writes trajectoryId request ()).exec Retention.machine view).1 =
      unlinked (appended view .expiry (closed (writes.line record))) request.blob := by
  change (((grant (request.record writes trajectoryId
    (sealedFiles (view .manifest) (view .openRecord))) >>= _) ()).exec Retention.machine view).1 = _
  rw [ExpiryRequest.record_sealedFiles, admitted]
  rfl

end Attempt

namespace Sample

/-- The recording of an attempt whose ordinary blobs are kept for a week. -/
def weekly : TrajectoryRecordingSpec := { recording with ordinary := ⟨some 604800, .experiment⟩ }

def weeklyOpening : TrajectoryWriter.Opening := { opening with recording := weekly }

def weeklyOpenText : String := openRecordOf "1000" "604800"

def requestBlob : Bytes := [91, 93]

def requestDigest : Digest :=
  "sha256:4f53cda18c2baa0c0354bb5f9a3ecbe5ed12ab4d8e11ba873c2f11161202b945"

/-- The model is asked, with its request captured. -/
def asked : TrajectoryEvent := asks (.captured .ordinary requestDigest 2 "application/json")

def askedText : String :=
  "\x7b\"context_rule\":\"full-history\",\"emitted_at\":\"2026-01-01T00:00:00+00:00\",\"event_id\":\"tev_061726d77f0d1dbf8036a9cacf8bd887c8bcd74f\",\"kind\":\"model-call-started\",\"messages_digest\":\"sha256:5555555555555555555555555555555555555555555555555555555555555555\",\"messages_shown\":0,\"parent\":0,\"request\":\x7b\"digest\":\"sha256:4f53cda18c2baa0c0354bb5f9a3ecbe5ed12ab4d8e11ba873c2f11161202b945\",\"disposition\":\"captured\",\"media_type\":\"application/json\",\"size\":2\x7d,\"sequence\":1,\"tools_digest\":\"sha256:6666666666666666666666666666666666666666666666666666666666666666\",\"trajectory_id\":\"ainst_01JZ0000000000000000000001\",\"turn\":0\x7d"

def askedChunk : Bytes :=
  closed (lineOf firstHeaderText) ++ closed (lineOf startedText) ++ closed (lineOf askedText)

def askedRef : ChunkRef :=
  firstOfTwo "sha256:78d1de3aec351d2da81827854f3fc5be8d646f6b2786aff1de05aeec454a746c" 1641
    (by decide)

def weeklyFingerprints : Fingerprints where
  recording := fun _ => "sha256:57e5357d54e960486904d3edac7e400d6f23b5c7763f08ce560aafd4797ee5bc"
  trajectory := fun _ => "sha256:e033f52449dde2e2e52e92756d186229454b9f24517c273a3e8451517baed5a3"

def weeklyBody : TrajectoryManifestBody :=
  { lostBody with
    recording := weekly
    chunks := [askedRef]
    content := [⟨1, .request, .captured .ordinary requestDigest 2 "application/json"⟩] }

/-- The sealed manifest, which captures the request. -/
def kept : TrajectoryManifest weeklyFingerprints :=
  ManifestBody.seal weeklyFingerprints ⟨weeklyBody, by decide⟩

def keptText : String :=
  manifestOf
    "  \x7b\n   \"bytes\": 1641,\n   \"digest\": \"sha256:78d1de3aec351d2da81827854f3fc5be8d646f6b2786aff1de05aeec454a746c\",\n   \"events\": 2,\n   \"first_sequence\": 0,\n   \"index\": 0,\n   \"last_sequence\": 1,\n   \"previous\": null\n  \x7d"
    "\n  \x7b\n   \"field\": \"request\",\n   \"sequence\": 1,\n   \"slot\": \x7b\n    \"digest\": \"sha256:4f53cda18c2baa0c0354bb5f9a3ecbe5ed12ab4d8e11ba873c2f11161202b945\",\n    \"disposition\": \"captured\",\n    \"media_type\": \"application/json\",\n    \"size\": 2\n   \x7d\n  \x7d\n " "1000" "604800" "0" "e033f52449dde2e2e52e92756d186229454b9f24517c273a3e8451517baed5a3"

/-- A day behind the deadline the request's blob is removed. -/
def removal : ExpiryRecord where
  trajectoryId := trajectoryId
  trajectoryFingerprint := kept.trajectoryFingerprint
  digest := requestDigest
  tier := .ordinary
  retentionSeconds := 604800
  deadline := "2026-01-08T00:00:01+00:00"
  actor := "gc"
  removedAt := "2026-01-09T00:00:01+00:00"

/-- The record's line but for the brace that closes it. -/
def removalText : String :=
  "\x7b\"actor\": \"gc\", \"at\": \"2026-01-09T00:00:01+00:00\", \"deadline\": \"2026-01-08T00:00:01+00:00\", \"digest\": \"sha256:4f53cda18c2baa0c0354bb5f9a3ecbe5ed12ab4d8e11ba873c2f11161202b945\", \"retention_seconds\": 604800, \"schema_version\": \"xaytune.trajectory-expiry/v1alpha1\", \"tier\": \"ordinary\", \"trajectory_fingerprint\": \"sha256:e033f52449dde2e2e52e92756d186229454b9f24517c273a3e8451517baed5a3\", \"trajectory_id\": \"ainst_01JZ0000000000000000000001\""

/-! ### Their formats -/

deriving instance Countable for ExpiryRecord

set_option maxRecDepth 8000 in
theorem askedText_opens : Opens askedText ['\x7b', '"', 'c'] 1000 := ⟨_, rfl, by decide⟩

set_option maxRecDepth 8000 in
theorem removalText_opens : Opens removalText ['\x7b'] 600 := ⟨_, rfl, by decide⟩

set_option maxRecDepth 4000 in
/-- The instants of the ISO texts. -/
def instants : Spelling Int Char where
  mark := 'x'
  known := [(1767225600000000, moment.toList),
    (1767225601000000, "2026-01-01T00:00:01+00:00".toList),
    (1767830401000000, "2026-01-08T00:00:01+00:00".toList),
    (1767916801000000, "2026-01-09T00:00:01+00:00".toList)]
  distinct := by decide
  unmarked := unmarked_of_all (by decide)

/-- A text with no line end and no closing brace. -/
def spanOf (text : String) : Bytes :=
  (encode text).filter fun byte => byte ≠ 10 && byte ≠ 13 && byte ≠ 125

/-- A text that opens an object is no row of marks, and its first byte is the brace. -/
theorem spanOf_opens {text : String} {bound : Nat} (opens : Opens text ['\x7b'] bound) :
    ∃ rest, spanOf text = 123 :: rest := by
  obtain ⟨letters, rfl, _⟩ := opens
  rw [spanOf, encode_ofList, List.cons_append, List.flatMap_cons, List.filter_append]
  exact ⟨_, rfl⟩

def removals : Spelling ExpiryRecord UInt8 where
  mark := 1
  known := [(removal, spanOf removalText)]
  distinct := List.nodup_singleton _
  unmarked := by
    obtain ⟨rest, begins⟩ := spanOf_opens removalText_opens
    simp [begins]

/-- Every record is spelled without a closing brace, and closed by one. -/
noncomputable def removalLine (record : ExpiryRecord) : Bytes := removals.spell record ++ [125]

theorem spanOf_plain {text : String} {byte : UInt8} (member : byte ∈ spanOf text) :
    byte ≠ 10 ∧ byte ≠ 13 ∧ byte ≠ 125 := by
  simpa [spanOf, and_assoc] using (List.mem_filter.mp member).2

theorem removals_plain {record : ExpiryRecord} {byte : UInt8}
    (member : byte ∈ removals.spell record) : byte ≠ 10 ∧ byte ≠ 13 ∧ byte ≠ 125 := by
  have known : ∀ entry ∈ removals.known, entry.2 = spanOf removalText := by
    intro entry isEntry
    rw [List.mem_singleton.mp isEntry]
  refine ⟨?_, ?_, ?_⟩ <;> rintro rfl
  · refine removals.not_mem_spell (by decide) (fun entry isEntry inside => ?_) member
    rw [known entry isEntry] at inside
    exact (spanOf_plain inside).1 rfl
  · refine removals.not_mem_spell (by decide) (fun entry isEntry inside => ?_) member
    rw [known entry isEntry] at inside
    exact (spanOf_plain inside).2.1 rfl
  · refine removals.not_mem_spell (by decide) (fun entry isEntry inside => ?_) member
    rw [known entry isEntry] at inside
    exact (spanOf_plain inside).2.2 rfl

theorem removalLine_injective : Function.Injective removalLine := fun _ _ same =>
  removals.spell_injective (List.append_cancel_right same)

/-- A part of a line is no line. -/
theorem not_removalLine {record other : ExpiryRecord} {part : Bytes}
    (inside : part <+: removalLine record) (proper : part ≠ removalLine record) :
    removalLine other ≠ part := by
  rintro rfl
  rcases List.prefix_concat_iff.mp inside with same | within
  · exact proper same
  · exact (removals_plain (within.subset (List.mem_append_right _ List.mem_cons_self))).2.2 rfl

theorem read_of_not_line {data : Bytes} (noLine : ∀ record, removalLine record ≠ data) :
    Function.partialInv removalLine data = none :=
  dif_neg fun ⟨record, isLine⟩ => noLine record isLine

theorem requestDigest_begins : ['s', 'h', 'a', '2', '5', '6', ':', '4'] <+: requestDigest.toList :=
  begins_of_eq_ofList ⟨_, rfl⟩

theorem askedDigest_begins : ['s', 'h', 'a', '2', '5', '6', ':', '7'] <+: askedRef.digest.toList :=
  begins_of_eq_ofList ⟨_, rfl⟩

def weeklyDigests : Spelling Bytes Char :=
  .pair 'x' requestBlob askedChunk
    (ne_of_begins requestDigest_begins askedDigest_begins rfl (by decide))
    (unmarked_of_begins 's' requestDigest_begins (by decide) (by decide))
    (unmarked_of_begins 's' askedDigest_begins (by decide) (by decide))

/-- The formats in which the records of this attempt have these texts. -/
noncomputable def weeklyTexts : Texts where
  fingerprints := weeklyFingerprints
  digests := weeklyDigests
  events :=
    .pair 1 started asked (startedText_opens.lineOf_ne askedText_opens (by decide) (by decide))
      startedText_unmarked askedText_opens.unmarked_lineOf
  headers := texts.headers
  openRecords :=
    Spelling.one 1 weeklyOpening.openRecord (encode weeklyOpenText) (openRecordOf_unmarked ..)
  progress := texts.progress
  manifests :=
    Spelling.one 1 kept (encode keptText) (manifestOf_unmarked ..)
  parseResult := texts.parseResult
  incidentBytes := texts.incidentBytes
  decode := texts.decode
  eventStrings := texts.eventStrings
  openRecordStrings := texts.openRecordStrings
  jsonStrings := texts.jsonStrings
  parseExpiry := Function.partialInv removalLine
  moment := fun text => instants.read text.toList
  plainEvents := by
    refine ⟨by decide, ?_⟩
    simp only [Spelling.pair, List.mem_cons, List.not_mem_nil, or_false, forall_eq_or_imp,
      forall_eq]
    exact ⟨newline_notMem_lineOf _, newline_notMem_lineOf _⟩
  plainHeaders := texts.plainHeaders

/-- The moment an instant is. -/
noncomputable def momentAt (instant : Int) : Moment weeklyTexts.formats where
  text := String.ofList (instants.spell instant)
  instant := instant
  reads := by
    change instants.read (String.ofList (instants.spell instant)).toList = some instant
    rw [String.toList_ofList, instants.read_spell]

noncomputable def weeklyWrites : ExpiryFormats weeklyTexts.formats where
  line := removalLine
  later moment seconds := some (momentAt (moment.instant + seconds * 1000000))
  parse_line record _ := Function.partialInv_left removalLine_injective record
  parse_part record part inside proper :=
    read_of_not_line fun other => not_removalLine inside proper
  line_ne_nil record := by simp [removalLine]
  unbroken record byte member := by
    rcases List.mem_append.mp member with inside | isBrace
    · exact ⟨(removals_plain inside).1, (removals_plain inside).2.1⟩
    · rw [List.mem_singleton.mp isBrace]
      decide
  instant_later moment seconds deadline isLater := by
    cases isLater
    rfl

noncomputable def sealedWeek : TrajectoryManifest weeklyTexts.formats.fingerprints := kept

/-- The sealed attempt, with every file it names. -/
noncomputable def sealedFilesOfWeek : View
  | .manifest => some (weeklyTexts.formats.manifestBytes sealedWeek)
  | .openRecord => some (weeklyTexts.formats.openRecordBytes weeklyOpening.openRecord)
  | .chunk index digest =>
      if index = 0 ∧ digest = askedRef.digest then some askedChunk else none
  | .blob tier digest =>
      if tier = .ordinary ∧ digest = requestDigest then some requestBlob else none
  | _ => none

/-- The request's blob is to be removed a day behind its deadline. -/
noncomputable def weeklyRequest : ExpiryRequest weeklyTexts.formats where
  manifest := sealedWeek
  digest := requestDigest
  tier := .ordinary
  actor := "gc"
  now := .aware (momentAt 1767916801000000)

theorem digestOf_requestBlob : weeklyTexts.formats.digestOf requestBlob = requestDigest := by
  have isGiven : weeklyTexts.digests.given requestBlob = some requestDigest.toList := by
    simp [Spelling.given, Spelling.pair, weeklyTexts, weeklyDigests]
  change String.ofList (weeklyTexts.digests.spell requestBlob) = requestDigest
  rw [Spelling.spell_of_given _ isGiven, String.ofList_toList]

theorem momentAt_text {instant : Int} {text : String}
    (isGiven : instants.given instant = some text.toList) : (momentAt instant).text = text := by
  change String.ofList (instants.spell instant) = text
  rw [Spelling.spell_of_given _ isGiven, String.ofList_toList]

theorem moment_of_given {instant : Int} {text : String}
    (isGiven : instants.given instant = some text.toList) :
    weeklyTexts.formats.moment text = some instant := by
  have reads := (momentAt instant).reads
  rwa [momentAt_text isGiven] at reads

theorem line_removal : weeklyWrites.line removal = spanOf removalText ++ [125] := by
  have isGiven : removals.given removal = some (spanOf removalText) := by
    simp [Spelling.given, removals]
  change removals.spell removal ++ [125] = _
  rw [Spelling.spell_of_given _ isGiven]

section

variable {view : View}

theorem sealTime_week
    (manifest : view .manifest = some (weeklyTexts.formats.manifestBytes sealedWeek))
    (openRecord : view .openRecord =
      some (weeklyTexts.formats.openRecordBytes weeklyOpening.openRecord)) :
    ∃ sealedAt, sealTime trajectoryId sealedWeek view = .ok sealedAt ∧
      sealedAt.instant = 1767225601000000 := by
  obtain ⟨openedAt, isOpened, openedInstant⟩ :=
    Moment.ofText_of_reads (moment_of_given (show instants.given 1767225600000000 =
      some moment.toList by decide))
  obtain ⟨sealedAt, isSealed, sealedInstant⟩ :=
    Moment.ofText_of_reads (moment_of_given (show instants.given 1767225601000000 =
      some "2026-01-01T00:00:01+00:00".toList by decide))
  have stored : weeklyTexts.formats.validateManifest
      (weeklyTexts.formats.manifestBytes sealedWeek) = some sealedWeek :=
    weeklyTexts.formats.validate_manifestBytes sealedWeek
  have opened := weeklyTexts.formats.parse_openRecordBytes weeklyOpening.openRecord
  have openedAt' : weeklyOpening.openRecord.openedAt.bind (Moment.ofText weeklyTexts.formats) =
      some openedAt := isOpened
  have sealedAt' : Moment.ofText weeklyTexts.formats sealedWeek.sealedAt = some sealedAt := isSealed
  have here : sealedWeek.trajectoryId = trajectoryId := rfl
  have here' : weeklyOpening.openRecord.trajectoryId = trajectoryId := rfl
  refine ⟨sealedAt, ?_, sealedInstant⟩
  unfold sealTime
  simp [manifest, openRecord, stored, opened, openedAt', sealedAt', here, here', openedInstant,
    sealedInstant]

/-- A day behind the deadline the removal is granted. -/
theorem record_week
    (manifest : view .manifest = some (weeklyTexts.formats.manifestBytes sealedWeek))
    (openRecord : view .openRecord =
      some (weeklyTexts.formats.openRecordBytes weeklyOpening.openRecord)) :
    weeklyRequest.record weeklyWrites trajectoryId view = .ok removal := by
  obtain ⟨sealedAt, isSealed, sealedInstant⟩ := sealTime_week manifest openRecord
  have captured : (weeklyRequest.manifest.content.any fun reference =>
      reference.slot.captures weeklyRequest.tier weeklyRequest.digest) = true := by decide
  have deadline : deadlineOf weeklyWrites trajectoryId weeklyRequest.manifest weeklyRequest.tier
      view = .ok (604800, momentAt 1767830401000000) := by
    have kept' : (tierPolicy weeklyRequest.manifest weeklyRequest.tier).retentionSeconds =
        some 604800 := rfl
    have sealed' : sealTime trajectoryId weeklyRequest.manifest view = .ok sealedAt := isSealed
    unfold deadlineOf
    simp [kept', sealed', weeklyWrites, sealedInstant]
  have deadlineText : (momentAt 1767830401000000).text = "2026-01-08T00:00:01+00:00" :=
    momentAt_text (by decide)
  have nowText : (momentAt 1767916801000000).text = "2026-01-09T00:00:01+00:00" :=
    momentAt_text (by decide)
  unfold ExpiryRequest.record
  rw [if_pos captured, deadline]
  change (if (1767916801000000 : Int) < 1767830401000000 then _ else
    if ExpiryRecord.WellFormed ⟨trajectoryId, kept.trajectoryFingerprint, requestDigest, .ordinary,
      604800, (momentAt 1767830401000000).text, "gc", (momentAt 1767916801000000).text⟩
    then Except.ok _ else _) = _
  rw [deadlineText, nowText, if_neg (by decide), if_pos (by decide)]
  rfl

end

theorem stored_week : (sealedFilesOfWeek .manifest).bind weeklyTexts.formats.validateManifest =
    some sealedWeek :=
  weeklyTexts.formats.validate_manifestBytes sealedWeek

theorem request_there : sealedFilesOfWeek weeklyRequest.blob = some requestBlob := by
  simp [sealedFilesOfWeek, weeklyRequest, ExpiryRequest.blob]

theorem request_kept : sealedFilesOfWeek (.blob .ordinary requestDigest) ≠ none :=
  fun absent => Option.some_ne_none requestBlob (request_there.symm.trans absent)

theorem record_first : weeklyRequest.record weeklyWrites trajectoryId sealedFilesOfWeek =
    .ok removal := record_week rfl rfl

/-- The record stands and the blob too, where a crash came between. -/
noncomputable def recordedFiles : View :=
  appended sealedFilesOfWeek .expiry (closed (weeklyWrites.line removal))

theorem request_still_there : recordedFiles weeklyRequest.blob = some requestBlob := by
  rw [recordedFiles, appended, Function.update_of_ne FileName.noConfusion]
  exact request_there

theorem recorded_ends : EndsLine ((recordedFiles .expiry).getD []) := by
  intro byte isLast
  rw [recordedFiles, log_appended, closed, ← List.append_assoc, List.getLast?_concat] at isLast
  cases isLast
  exact .inl rfl

theorem record_after : weeklyRequest.record weeklyWrites trajectoryId recordedFiles = .ok removal :=
  record_week rfl rfl

/-- The first byte of a record's line, torn off by a crash. -/
noncomputable def tornFiles : View := appended sealedFilesOfWeek .expiry [123]

theorem record_again : weeklyRequest.record weeklyWrites trajectoryId tornFiles = .ok removal :=
  record_week rfl rfl

/-- What is left once the line of a second call stands behind the torn one. -/
noncomputable def gluedFiles : View :=
  unlinked (appended tornFiles .expiry (closed (weeklyWrites.line removal))) weeklyRequest.blob

theorem torn_first : [123] <+: closed (weeklyWrites.line removal) := by
  obtain ⟨rest, begins⟩ := spanOf_opens removalText_opens
  rw [line_removal, begins, closed]
  exact ⟨rest ++ [125] ++ [newline], rfl⟩

/-- The glued line is no record's. -/
theorem glued_no_line (record : ExpiryRecord) :
    removalLine record ≠ 123 :: weeklyWrites.line removal := by
  intro same
  rw [line_removal, removalLine, ← List.cons_append] at same
  have spelled := List.append_cancel_right same
  cases isGiven : removals.given record with
  | some text =>
      rw [removals.spell_of_given isGiven] at spelled
      have isText := removals.given_mem isGiven
      rw [removals, List.mem_singleton, Prod.mk.injEq] at isText
      rw [isText.2] at spelled
      exact List.cons_ne_self 123 _ spelled.symm
  | none =>
      rw [removals.spell_of_not_given isGiven] at spelled
      have isMark : (123 : UInt8) = removals.mark :=
        List.eq_of_mem_replicate (spelled ▸ List.mem_cons_self)
      exact absurd isMark (by decide)

theorem log_glued : readExpiryLog weeklyTexts.formats gluedFiles trajectoryId = [] := by
  have unbroken : Unbroken (123 :: weeklyWrites.line removal) := by
    intro byte member
    rcases List.mem_cons.mp member with rfl | inside
    · decide
    · exact weeklyWrites.unbroken removal byte inside
  have log : (gluedFiles .expiry).getD [] = closed (123 :: weeklyWrites.line removal) := by
    have empty : (sealedFilesOfWeek .expiry).getD [] = [] := rfl
    rw [gluedFiles, unlinked, Function.update_of_ne FileName.noConfusion, log_appended, tornFiles,
      log_appended, empty, List.nil_append, List.singleton_append, closed, closed,
      List.cons_append]
  rw [readExpiryLog_eq, log, splitlines_closed unbroken]
  have unread : weeklyTexts.formats.parseExpiry (123 :: weeklyWrites.line removal) = none :=
    read_of_not_line glued_no_line
  simp [unread]

end Sample

open Sample in
/-- A call that crashes behind its record and one that finishes leave the blob expired. -/
theorem removed_blobs_are_expired_request :
    ∃ later, Expires weeklyWrites Sample.trajectoryId (Orderly weeklyWrites Sample.trajectoryId)
        sealedFilesOfWeek [weeklyRequest, weeklyRequest] later ∧
      later (.blob .ordinary requestDigest) = none ∧
      ((.ordinary, requestDigest), .expired) ∈
        checkAvailability weeklyTexts.formats later Sample.trajectoryId sealedWeek ∧
      Accounted weeklyTexts.formats Sample.trajectoryId sealedWeek [weeklyRequest, weeklyRequest]
        sealedFilesOfWeek later := by
  have crashed : Expires weeklyWrites Sample.trajectoryId
      (Orderly weeklyWrites Sample.trajectoryId) sealedFilesOfWeek [weeklyRequest]
      recordedFiles := by
    refine .crashed .start ?_ (crash_recorded record_first (List.prefix_refl _))
    refine fun _ _ => ⟨?_, .inl ⟨_, request_there, digestOf_requestBlob⟩⟩
    intro byte isLast
    cases isLast
  have finished := Expires.finished crashed fun record _ =>
    ⟨recorded_ends, .inl ⟨requestBlob, request_still_there, digestOf_requestBlob⟩⟩
  have gone : ((expireBlob weeklyWrites Sample.trajectoryId weeklyRequest ()).exec
      Retention.machine recordedFiles).1 (.blob .ordinary requestDigest) = none := by
    rw [exec_admitted record_after]
    exact Function.update_self ..
  have accounted := removed_blobs_are_expired weeklyWrites Sample.trajectoryId stored_week finished
  exact ⟨_, finished, gone, accounted.deleted_expired .ordinary requestDigest request_kept gone,
    accounted⟩

open Sample in
/-- A call stopped behind the first byte of its record, and the next one finished: the removed blob
is missing, which the trajectory did not report before. -/
theorem removed_blob_is_missing :
    ∃ later, Expires weeklyWrites Sample.trajectoryId (fun _ _ => True) sealedFilesOfWeek
        [weeklyRequest, weeklyRequest] later ∧
      sealedFilesOfWeek (.blob .ordinary requestDigest) = some requestBlob ∧
      later (.blob .ordinary requestDigest) = none ∧
      checkAvailability weeklyTexts.formats later Sample.trajectoryId sealedWeek =
        [((.ordinary, requestDigest), .missing)] ∧
      ¬ Accounted weeklyTexts.formats Sample.trajectoryId sealedWeek
        [weeklyRequest, weeklyRequest] sealedFilesOfWeek later := by
  have gone : gluedFiles weeklyRequest.blob = none := by
    rw [gluedFiles, unlinked, Function.update_self]
  have missing : checkAvailability weeklyTexts.formats gluedFiles Sample.trajectoryId sealedWeek =
      [((.ordinary, requestDigest), .missing)] := by
    have captured : capturedBlobs sealedWeek.content = [(.ordinary, requestDigest)] := by decide
    have status : availabilityOf weeklyTexts.formats gluedFiles
        (authorizedExpiries weeklyTexts.formats gluedFiles Sample.trajectoryId sealedWeek)
        (.ordinary, requestDigest) = .missing := by
      have gone' : gluedFiles (.blob .ordinary requestDigest) = none := gone
      rw [authorizedExpiries, log_glued, availabilityOf, gone']
      rfl
    rw [checkAvailability, captured, List.map_singleton, status]
  refine ⟨gluedFiles, ?_, request_there, gone, missing, ?_⟩
  · have crashed : Expires weeklyWrites Sample.trajectoryId (fun _ _ => True) sealedFilesOfWeek
        [weeklyRequest] tornFiles :=
      .crashed .start trivial (crash_recorded record_first torn_first)
    rw [gluedFiles, ← exec_admitted record_again]
    exact .finished crashed trivial
  · intro accounted
    have isExpired := accounted.deleted_expired .ordinary requestDigest request_kept gone
    rw [missing] at isExpired
    simp at isExpired

end Xaytune.Trajectory
