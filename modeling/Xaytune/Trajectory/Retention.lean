import Xaytune.Trajectory.Operations

/-!
# The expiry of a sealed trajectory's blobs

Retention removes blobs only. Each removal is appended to the attempt's expiry log before its blob
is unlinked, and is measured from the seal time of the manifest stored in the attempt. A call may
stop before, inside or behind each of its file operations.
-/

namespace Xaytune.Trajectory

open Xaytune.Library

/-! ## Moments and records -/

/-- A time with a zone: its ISO text, which reads back as its instant. -/
structure Moment (formats : Formats) where
  text : String
  instant : Int
  reads : formats.moment text = some instant

/-- The moment a text is, if it is one. -/
def Moment.ofText (formats : Formats) (text : String) : Option (Moment formats) :=
  match reads : formats.moment text with
  | none => none
  | some instant => some ⟨text, instant, reads⟩

/-- The time a caller gives: with a zone, or without one. -/
inductive Clock (formats : Formats) where
  | aware (moment : Moment formats)
  | naive

/-- What a record's own fields must be. -/
def ExpiryRecord.WellFormed (record : ExpiryRecord) : Prop :=
  0 < record.retentionSeconds ∧ isLabel record.actor = true

instance (record : ExpiryRecord) : Decidable record.WellFormed :=
  inferInstanceAs (Decidable (_ ∧ _))

/-- The line of every record, found again in the line and in no part of it, and the moment some
seconds behind another, unless it is past the last one. -/
structure ExpiryFormats (formats : Formats) where
  line : ExpiryRecord → Bytes
  later : Moment formats → Nat → Option (Moment formats)
  parse_line : ∀ record, record.WellFormed → formats.parseExpiry (line record) = some record
  parse_part : ∀ record part, part <+: line record → part ≠ line record →
    formats.parseExpiry part = none
  line_ne_nil : ∀ record, line record ≠ []
  unbroken : ∀ record, ∀ byte ∈ line record, byte ≠ 10 ∧ byte ≠ 13
  instant_later : ∀ moment seconds deadline, later moment seconds = some deadline →
    deadline.instant = moment.instant + seconds * 1000000

/-! ## The files of an attempt -/

inductive RetentionCall where
  | read (file : FileName)
  | appendDurably (file : FileName) (data : Bytes)
  | unlink (file : FileName)

/-- An unlink answers whether the file was there. -/
@[reducible]
def RetentionAnswer : RetentionCall → Type
  | .read _ => Option Bytes
  | .appendDurably _ _ => Unit
  | .unlink _ => Bool

/-- The files behind an append. -/
def appended (view : View) (file : FileName) (data : Bytes) : View :=
  Function.update view file (some ((view file).getD [] ++ data))

def unlinked (view : View) (file : FileName) : View := Function.update view file none

namespace Retention

def perform (view : View) : (call : RetentionCall) → View × Except Raised (RetentionAnswer call)
  | .read file => (view, .ok (view file))
  | .appendDurably file data => (appended view file data, .ok ())
  | .unlink file => (unlinked view file, .ok (view file).isSome)

/-- What a crash inside a call may leave: an append may have written some of its bytes. -/
inductive Torn (view : View) : RetentionCall → View → Prop
  | append (file : FileName) (data written : Bytes) (some_of : written <+: data) :
      Torn view (.appendDurably file data) (appended view file written)

def machine : Machine RetentionCall RetentionAnswer Raised View where
  perform := perform
  torn := Torn

end Retention

/-! ## Expiring one blob -/

variable {formats : Formats}

/-- The retention a manifest declares for a tier. -/
def tierPolicy (manifest : TrajectoryManifest formats.fingerprints) (tier : Tier) : TierPolicy :=
  match tier with
  | .ordinary => manifest.recording.ordinary
  | .restricted => manifest.recording.restricted

/-- The seal time of the stored manifest, bound to the attempt's open record. -/
def sealTime (trajectoryId : AttemptId) (manifest : TrajectoryManifest formats.fingerprints)
    (view : View) : Except Raised (Moment formats) :=
  match (view .manifest).bind formats.validateManifest with
  | none => .error (.value "the attempt has no valid sealed manifest")
  | some stored =>
      if stored.trajectoryId ≠ trajectoryId then
        .error (.value "the attempt has no valid sealed manifest")
      else if manifest ≠ stored then
        .error (.value "the supplied manifest is not the attempt's sealed manifest")
      else
        match (view .openRecord).bind formats.parseOpenRecord with
        | none => .error (.value "the attempt has no valid open record")
        | some opened =>
            match opened.openedAt.bind (Moment.ofText formats) with
            | none => .error (.value "the attempt has no valid open record")
            | some openedAt =>
                if opened.trajectoryId ≠ trajectoryId then
                  .error (.value "the attempt has no valid open record")
                else
                  match Moment.ofText formats stored.sealedAt with
                  | none => .error
                      (.value "the sealed manifest's seal time is not a valid seal time")
                  | some sealedAt =>
                      if sealedAt.instant < openedAt.instant then
                        .error (.value "the sealed manifest's seal time is not a valid seal time")
                      else .ok sealedAt

/-- One call of `expireBlob`. -/
structure ExpiryRequest (formats : Formats) where
  manifest : TrajectoryManifest formats.fingerprints
  digest : Digest
  tier : Tier
  actor : String
  now : Clock formats

variable (writes : ExpiryFormats formats) (trajectoryId : AttemptId)

/-- The seconds a tier is kept, and the moment they end. -/
def deadlineOf (manifest : TrajectoryManifest formats.fingerprints) (tier : Tier) (view : View) :
    Except Raised (Nat × Moment formats) :=
  match (tierPolicy manifest tier).retentionSeconds with
  | none => .error (.value "the tier's retention is indefinite")
  | some seconds =>
      match sealTime trajectoryId manifest view with
      | .error refusal => .error refusal
      | .ok sealedAt =>
          match writes.later sealedAt seconds with
          | none => .error (.other "OverflowError")
          | some deadline => .ok (seconds, deadline)

namespace ExpiryRequest

variable (request : ExpiryRequest formats)

/-- The record of the removal, if the manifest's retention authorizes it now. -/
def record (view : View) : Except Raised ExpiryRecord :=
  if request.manifest.content.any fun reference =>
      reference.slot.captures request.tier request.digest then
    match deadlineOf writes trajectoryId request.manifest request.tier view with
    | .error refusal => .error refusal
    | .ok (seconds, deadline) =>
        match request.now with
        | .naive => .error (.other "TypeError")
        | .aware now =>
            if now.instant < deadline.instant then
              .error (.value "the blob's retention has not ended")
            else
              let record : ExpiryRecord :=
                { trajectoryId := trajectoryId
                  trajectoryFingerprint := request.manifest.trajectoryFingerprint
                  digest := request.digest
                  tier := request.tier
                  retentionSeconds := seconds
                  deadline := deadline.text
                  actor := request.actor
                  removedAt := now.text }
              if record.WellFormed then .ok record
              else .error (.validation ["an expiry record names its actor and a retention"])
  else .error (.value "the manifest does not capture that blob in that tier")

def blob : FileName := .blob request.tier request.digest

end ExpiryRequest

/-- The sealed manifest and the open record alone. -/
def sealedFiles (manifest openRecord : Option Bytes) : View
  | .manifest => manifest
  | .openRecord => openRecord
  | _ => none

/-- A call that is refused raises. -/
def grant : Except Raised ExpiryRecord →
    Action RetentionCall RetentionAnswer Raised Unit ExpiryRecord
  | .ok record => pure record
  | .error refusal => throw refusal

/-- Remove one captured blob after its retention, recording the authority first. The files it may
read, the sealed manifest and the open record, are read first. -/
def expireBlob (request : ExpiryRequest formats) :
    Action RetentionCall RetentionAnswer Raised Unit ExpiryRecord := do
  let manifest ← Action.ask (.read .manifest)
  let openRecord ← Action.ask (.read .openRecord)
  let record ← grant (request.record writes trajectoryId (sealedFiles manifest openRecord))
  Action.ask (RetentionCall.appendDurably .expiry (closed (writes.line record)))
  -- a blob that is gone already is passed over
  let _ ← Action.ask (.unlink request.blob)
  pure record

end Xaytune.Trajectory
