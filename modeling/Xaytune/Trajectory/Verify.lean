import Xaytune.Trajectory.Sealing

/-!
# Verifying a trajectory against the store

The evidence a manifest names, and the publication of its result. Each check returns every
problem it finds.
-/

namespace Xaytune.Trajectory

open Xaytune.Library

variable (formats : Formats)

/-! ## Retention -/

/-- The lines of `bytes.splitlines()`, behind the part of a line already read. -/
def splitlines : (line : Bytes) → Bytes → List Bytes
  | line, [] => if line = [] then [] else [line]
  | line, 13 :: 10 :: rest => line :: splitlines [] rest
  | line, byte :: rest =>
      if byte = 10 ∨ byte = 13 then line :: splitlines [] rest else splitlines (line ++ [byte]) rest

/-- Every well-formed expiry record of an attempt, in log order. -/
def readExpiryLog (view : View) (trajectoryId : AttemptId) : List ExpiryRecord :=
  match view .expiry with
  | none => []
  | some data =>
      ((splitlines [] data).filterMap formats.parseExpiry).filter fun record =>
        record.trajectoryId = trajectoryId

def ContentSlot.captures (tier : Tier) (digest : Digest) : ContentSlot → Bool
  | .captured found named _ _ => found = tier ∧ named = digest
  | _ => false

/-- Whether a record is an expiry the manifest's retention authorized. -/
def authorizes (manifest : TrajectoryManifest formats.fingerprints) (record : ExpiryRecord) :
    Bool :=
  let policy := match record.tier with
    | .ordinary => manifest.recording.ordinary
    | .restricted => manifest.recording.restricted
  record.trajectoryFingerprint = manifest.trajectoryFingerprint &&
  record.trajectoryId = manifest.trajectoryId &&
  manifest.content.any (fun reference => reference.slot.captures record.tier record.digest) &&
  policy.retentionSeconds = some record.retentionSeconds &&
  match formats.moment manifest.sealedAt, formats.moment record.deadline,
      formats.moment record.removedAt with
  | some sealedAt, some deadline, some removedAt =>
      deadline = sealedAt + record.retentionSeconds * 1000000 && deadline ≤ removedAt
  | _, _, _ => false

/-- The blobs whose removal the manifest's retention authorized. -/
def authorizedExpiries (view : View) (trajectoryId : AttemptId)
    (manifest : TrajectoryManifest formats.fingerprints) : List (Tier × Digest) :=
  ((readExpiryLog formats view trajectoryId).filter (authorizes formats manifest)).map fun record =>
    (record.tier, record.digest)

/-! ## The evidence -/

inductive Availability where
  | available | expired | missing | corrupt
  deriving DecidableEq

def Availability.text : Availability → String
  | available => "available"
  | expired => "expired"
  | missing => "missing"
  | corrupt => "corrupt"

def Tier.text : Tier → String
  | ordinary => "ordinary"
  | restricted => "restricted"

/-- The blobs a table names, each once. -/
def capturedBlobs (content : List ContentReference) : List (Tier × Digest) :=
  (content.filterMap fun reference => match reference.slot with
    | .captured tier digest _ _ => some (tier, digest)
    | _ => none).eraseDups

def availabilityOf (view : View) (expiries : List (Tier × Digest)) (blob : Tier × Digest) :
    Availability :=
  match view (.blob blob.1 blob.2) with
  | some data => if formats.digestOf data = blob.2 then .available else .corrupt
  | none => if blob ∈ expiries then .expired else .missing

/-- The availability of every captured blob. -/
def checkAvailability (view : View) (trajectoryId : AttemptId)
    (manifest : TrajectoryManifest formats.fingerprints) : List ((Tier × Digest) × Availability) :=
  (capturedBlobs manifest.content).map fun blob =>
    (blob, availabilityOf formats view (authorizedExpiries formats view trajectoryId manifest) blob)

def EventBody.origin : EventBody → Option (TrajectoryAttribution × WriterIdentity × WriterIdentity)
  | .runStarted attribution runner writer _ _ => some (attribution, runner, writer)
  | _ => none

/-- What a complete manifest's result must be. -/
def completeProblems (view : View) (manifest : TrajectoryManifest formats.fingerprints)
    (events : List TrajectoryEvent) : List String :=
  match terminatedOf events with
  | none => ["a complete trajectory ends with run-terminated"]
  | some terminated =>
      (if some terminated.resultDigest ≠ manifest.resultDigest then
        ["the manifest's result digest is not the one run-terminated named"] else []) ++
      match view .result with
      | none => ["the attempt's result.json is missing"]
      | some data =>
          (if some (formats.digestOf data) ≠ manifest.resultDigest then
            ["result.json does not have the result digest"] else []) ++
          match formats.parseResult data with
          | none => ["result.json is not a harness run result"]
          | some result =>
              let attribution := manifest.attribution
              (if result.requestDigest ≠ attribution.requestDigest then
                ["the result's request_digest is not the attribution's"] else []) ++
              (if result.executionFingerprint ≠ attribution.executionFingerprint then
                ["the result's execution_fingerprint is not the attribution's"] else []) ++
              (if result.harnessFingerprint ≠ attribution.harnessFingerprint then
                ["the result's harness_fingerprint is not the attribution's"] else []) ++
              (if result.taskId ≠ attribution.task.taskId then
                ["the result's task_id is not the attribution's"] else []) ++
              (if result.seed ≠ attribution.seed then
                ["the result's seed is not the attribution's"] else []) ++
              (if result.replicate ≠ attribution.replicate then
                ["the result's replicate is not the attribution's"] else []) ++
              resultDisagreements (fun text => formats.digestOf (encode text)) events result

/-- Every way the evidence a manifest names fails to verify. -/
def verifyTrajectory (view : View) (trajectoryId : AttemptId)
    (manifest : TrajectoryManifest formats.fingerprints) : List String :=
  match loadEvents formats view manifest.trajectoryId manifest.chunks with
  | (events, []) =>
      structuralRefusals manifest.trajectoryId events ++
      (match events with
        | [] => []
        | started :: _ =>
            (if started.body.origin.map Prod.fst ≠ some manifest.attribution then
              ["run-started's attribution is not the manifest's"] else []) ++
            (if started.body.origin.map (fun origin => origin.2.2) ≠ some manifest.writer then
              ["run-started's writer is not the manifest's"] else []) ++
            (if started.body.origin.map (fun origin => origin.2.1) ≠ some manifest.runner then
              ["run-started's runner is not the manifest's"] else [])) ++
      (if contentReferences events ≠ manifest.content then
        ["the events' content references are not the manifest's disposition table"] else []) ++
      ((checkAvailability formats view trajectoryId manifest).filterMap fun (blob, status) =>
        if status = .missing ∨ status = .corrupt then
          some s!"a captured {blob.1.text} blob is {status.text}" else none) ++
      (if manifest.termination.isSome ∧
          (terminatedOf events).map Terminated.termination ≠ manifest.termination then
        ["the manifest's termination is not run-terminated's"] else []) ++
      (match manifest.completeness with
        | .complete => completeProblems formats view manifest events
        | .partially => [])
  | (_, problems) => problems

/-- The files `verifyTrajectory` reads. -/
def evidenceFiles (manifest : TrajectoryManifest formats.fingerprints) : List FileName :=
  manifest.chunks.map (fun ref => .chunk ref.index ref.digest) ++ [.expiry] ++
    (capturedBlobs manifest.content).map (fun blob => .blob blob.1 blob.2) ++ [.result]

/-- Every way the declared location fails to be this attempt's publication. -/
def verifyPublication (published : Option PublishedFile)
    (manifest : TrajectoryManifest formats.fingerprints) : List String :=
  match published with
  | none => ["no result is published at the declared location"]
  | some file =>
      (if ¬ file.same then ["the published result is not this attempt's file"] else []) ++
      match manifest.resultDigest.or manifest.unattestedResult with
      | none => ["the manifest attests no result"]
      | some expected =>
          if formats.digestOf file.data ≠ expected then
            ["the published result does not have the attested digest"] else []

end Xaytune.Trajectory
