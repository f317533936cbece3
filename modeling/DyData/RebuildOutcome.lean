import DyData.RebuildFencing

/-!
How a published rebuild ends.  Its publication leaves an event and a published generation that
nothing removes, so whoever closes the job afterwards finds them and closes it as successful.
-/

namespace DyData.Rebuild

open Relational List Option
open Except (of_bind)
open DyData.HeavyQueue
open DyData.HeavySlot

theorem identity_nonempty {label value value' : String}
    (h : Projection.identity label value = .ok value') : value ≠ "" := by
  rintro rfl
  cases h

theorem digest_nonempty {label value value' : String}
    (h : Projection.digest label value = .ok value') : value ≠ "" := by
  rintro rfl
  cases h

/-- A publication names its generation, its base and the two digests. -/
theorem validate_nonempty {p : Projection.RebuildPublication} (h : p.validate = .ok ()) :
    p.generationId ≠ "" ∧ p.baseGenerationId ≠ "" ∧ p.inputFingerprint ≠ "" ∧
      p.manifestChecksum ≠ "" := by
  iterate 2 obtain ⟨_, -, h⟩ := of_bind h
  obtain ⟨_, hgen, h⟩ := of_bind h
  obtain ⟨_, hbase, h⟩ := of_bind h
  obtain ⟨_, hfp, h⟩ := of_bind h
  obtain ⟨_, hsum, h⟩ := of_bind h
  exact ⟨identity_nonempty hgen, identity_nonempty hbase, digest_nonempty hfp, digest_nonempty hsum⟩

theorem recordOnce_event {db db' : Projection.Db} {job : JobRun} {key : String}
    {event : Projection.OnceEvent} {occurredAt : Timestamp}
    (h : db.recordOnce job key event occurredAt = .ok db')
    (hkeys : (event.payload.map Prod.fst).Nodup) :
    ∃ e ∈ db'.events, e.jobId = job.jobId ∧ e.idempotencyKey = some key ∧
      e.stageRunId = event.stageRunId ∧ e.eventType = .settlementProjectionPublished ∧
      e.payloadJson.equalsStrings event.payload = true := by
  unfold Projection.Db.recordOnce at h
  split at h
  · rename_i existing hex
    split at h
    · cases h
    rename_i hagr
    cases h
    rw [not_or, not_or, not_not, not_not, Bool.not_eq_false] at hagr
    have hfd := find?_some hex
    rw [Bool.and_eq_true, decide_eq_true_eq, decide_eq_true_eq] at hfd
    exact ⟨existing, mem_of_find?_eq_some hex, hfd.1, hfd.2, hagr.1, hagr.2.1, hagr.2.2⟩
  · cases h
    exact ⟨event.toJobEvent job key occurredAt,
      mem_append_right _ (mem_singleton_self _), rfl, rfl, rfl, rfl,
      JsonValue.equalsStrings_ofStrings hkeys⟩

theorem publicationPayload_keys (fingerprint generationId checksum base : String) :
    ((Projection.publicationPayload fingerprint generationId checksum base).map
      Prod.fst).Nodup := by
  change ["input_fingerprint", "generation_id", "manifest_checksum", "base_generation_id"].Nodup
  decide

theorem payloadText?_of_equals {payload : JsonValue} {entries : List (String × String)}
    (h : payload.equalsStrings entries = true) {key value : String} (hmem : (key, value) ∈ entries)
    (hne : value ≠ "") : payloadText? payload key = some value := by
  have hget : (payload.get? key).bind JsonValue.asString? = some value := by
    unfold JsonValue.equalsStrings at h
    split at h
    · rw [Bool.and_eq_true, List.all_eq_true] at h
      exact of_decide_eq_true (h.2 (key, value) hmem)
    · cases h
  rw [payloadText?, hget, filter_some, if_pos (decide_eq_true hne)]

theorem promoted_row {db promoted : Projection.Db} {id : String} {g : Projection.Generation}
    (hg : db.generations.get? id = some g) (h : Projection.Promotion db g promoted) :
    ∃ g', promoted.generations.get? id = some g' ∧ g'.state = .published ∧
      g'.sourceJobId = g.sourceJobId ∧ g'.baseGenerationId = g.baseGenerationId ∧
      g'.inputFingerprint = g.inputFingerprint ∧ g'.manifestChecksum = g.manifestChecksum := by
  rcases h with ⟨-, hstt, rfl⟩ | ⟨base, now, -, -, -, rfl⟩
  · exact ⟨g, hg, hstt, rfl, rfl, rfl, rfl⟩
  · refine ⟨g.publish now, ?_, rfl, rfl, rfl, rfl, rfl⟩
    rw [Projection.Db.get?_promote, hg, map_some, if_pos rfl]

/-- A publication by the rebuild is on record when it returns. -/
theorem published_of_publication {ctx : Projection.PublishContext}
    {clock : Projection.PublishClock} {s : Slot} {projection : Projection.Db}
    {plan : LineageRefreshPlan} {claimId checksum : String} {payload : List (String × String)}
    (howned : GenerationsOwned s.projection)
    (h : Projection.publishSettlementRebuild ctx clock s.projection
      (plan.publication claimId checksum) = .ok (projection, payload)) :
    Published ctx.sha256 { s with projection } plan.jobId := by
  obtain ⟨job, g, promoted, steps⟩ := Projection.publishSettlementRebuild_ok h
  obtain ⟨key, hkey, hrec⟩ := steps.recorded
  obtain ⟨g', hg', hstt, hsrc, hbase, hfp, hsum⟩ :=
    promoted_row steps.generation steps.promotion
  obtain ⟨e, he, hjob, hidem, hstage, htype, hpay⟩ :=
    recordOnce_event hrec (publicationPayload_keys _ _ _ _)
  obtain ⟨hne, hneb, hnef, hnech⟩ := validate_nonempty steps.valid
  have hgens : projection.generations = promoted.generations :=
    (Projection.recordOnce_ok hrec).frame.1
  -- the plan's identifier belongs to the job, so the row names it as its source
  have hown : g.sourceJobId = some plan.jobId := by
    refine howned g (s.projection.generations.mem_of_get? steps.generation) plan.jobId ?_
    rw [s.projection.generations.key_of_get? steps.generation, steps.fingerprint]
    rfl
  have htext : ∀ {name value : String}, (name, value) ∈
      Projection.publicationPayload plan.inputFingerprint plan.generationId checksum
        plan.baseGenerationId → value ≠ "" → payloadText? e.payloadJson name = some value :=
    fun hmem hval => payloadText?_of_equals hpay hmem hval
  have hid : payloadText? e.payloadJson "generation_id" = some plan.generationId :=
    htext (by simp [Projection.publicationPayload]) hne
  have hbaseText : payloadText? e.payloadJson "base_generation_id" =
      some plan.baseGenerationId := htext (by simp [Projection.publicationPayload]) hneb
  have hfingerprintText : payloadText? e.payloadJson "input_fingerprint" =
      some plan.inputFingerprint :=
    htext (by simp [Projection.publicationPayload]) hnef
  have hchecksumText : payloadText? e.payloadJson "manifest_checksum" = some checksum :=
    htext (by simp [Projection.publicationPayload]) hnech
  have hrow : projection.generations.get? plan.generationId = some g' := by
    rw [hgens]
    exact hg'
  refine ⟨e, he, ?_, plan.generationId, g', hid, hrow, hstt⟩
  have hagr : generationAgrees { s with projection } plan.jobId e.payloadJson = true := by
    unfold generationAgrees
    rw [hid, bind_some, hrow, all_some, hbaseText, hfingerprintText, hchecksumText,
      hstt, hsrc, hown, hbase, hfp, hsum, steps.base, steps.fingerprint,
      steps.checksum]
    simp [LineageRefreshPlan.publication]
  have hjobId : e.jobId = plan.jobId := hjob.trans (s.projection.jobs.key_of_get? steps.row)
  unfold publicationEvidence
  rw [hagr, hfingerprintText, any_some]
  have hkey' : Projection.settlementRebuildPublishOnceKey ctx.sha256 plan.jobId
      plan.inputFingerprint = .ok key := hkey
  rw [hkey']
  simp [hjobId, htype, hstage, hidem, publicationKeys, hid, hbaseText, hfingerprintText,
    hchecksumText]

variable {Data : Type} {ctx : Projection.PublishContext}

/-- When the publishing transaction commits, the job runs and its publication is on record. -/
theorem published_of_publishLineage {w w' : World Data} {plan : LineageRefreshPlan}
    {claimId : String} {totals : ManifestTotals} {guardedAt : Timestamp}
    {clock : Projection.PublishClock} {capture : DataStep Data Unit}
    {bill : DataStep Data JsonValue} (howned : GenerationsOwned w.slot.projection)
    (h : w.publishLineage ctx plan claimId totals guardedAt clock capture bill = .ok w') :
    Published ctx.sha256 w'.slot plan.jobId ∧ ∃ row, w'.slot.jobs.get? plan.jobId = some row ∧
        row.jobName = settlementRebuildJobName ∧ Alive row := by
  obtain ⟨⟨row, hass⟩, projection, _, data, metadata, hpubl, rfl⟩ :=
    World.publishLineage_ok h
  obtain ⟨hrow, hname, hact⟩ := assertActive_ok hass
  let published : World Data := ⟨{ w.slot with projection }, data⟩
  have hchg := published.updateMetadata_change ctx.sha256 plan.jobId metadata
  have hjobs : projection.jobs = w.slot.jobs :=
    (Projection.rebuild_returned (Except.map_eq_ok_iff.mpr ⟨_, hpubl, rfl⟩)).jobs
  have hrow' : published.slot.jobs.get? plan.jobId = some row := by
    change projection.jobs.get? plan.jobId = some row
    rw [hjobs]
    exact hrow
  refine ⟨hchg.published _ (published_of_publication howned hpubl), _,
    Slot.get?_updateJob_self hrow', hname, .inl (token_of_claimActive hact).1⟩

/-- A recovery that finds a published job stale closes it as successful. -/
theorem recovery_closes_published {sha256 : String → String} {s : Slot} {row : JobRun}
    {now : Timestamp} {staleAfter : Int} (maxAttempts : Int) (hrow : row ∈ s.jobs.rows)
    (hdoc : row.metadataJson.isObject = true) (hpub : Published sha256 s row.jobId)
    (hstale : staleClaim now staleAfter row = true) :
    ∃ s' row', recoverStaleRebuild sha256 now staleAfter maxAttempts s row = .ok s' ∧
      s'.jobs.get? row.jobId = some row' ∧ row'.status = .success := by
  obtain ⟨fields, hfiel⟩ : ∃ fields, metadataDict row = .ok fields := by
    unfold metadataDict
    cases hm : row.metadataJson with
    | obj fields => exact ⟨fields, rfl⟩
    | null => rw [hm] at hdoc; cases hdoc
    | bool b => rw [hm] at hdoc; cases hdoc
    | num n => rw [hm] at hdoc; cases hdoc
    | str t => rw [hm] at hdoc; cases hdoc
    | arr items => rw [hm] at hdoc; cases hdoc
  obtain ⟨publication, hfd⟩ := isSome_iff_exists.mp hpub.publication
  have hget : s.jobs.get? row.jobId = some row := s.jobs.get?_of_mem hrow
  have hrec : reconcilePublishedSettlementRebuild sha256 s row now = .ok (some
      (s.updateJob row.jobId (reconciledRow now publication fields) fun _ => rfl)) := by
    unfold reconcilePublishedSettlementRebuild
    rw [hget, filter_some, if_pos (decide_eq_true rfl)]
    simp only [hfd, hfiel]
    rfl
  refine ⟨s.updateJob row.jobId (reconciledRow now publication fields) fun _ => rfl,
    reconciledRow now publication fields row, ?_, Slot.get?_updateJob_self hget, rfl⟩
  unfold recoverStaleRebuild
  rw [hstale, hfiel]
  simp only [Bool.not_true, Bool.false_eq_true, if_false, hrec]
  rfl

/-- Settlement rebuild claims are fenced, over any interleaving of transactions of any number
of processes.  An operation that does not hold the claim it carries changes nothing; the
attempts stay within the job's maximum; and once a publication of the job has committed, the
job is running or successful ever after, and the recovery of its stale claim makes it
successful. -/
theorem rebuild_claims_are_fenced (ctx : Projection.PublishContext) (start : World Data)
    (jobId : String)
    (hjob : ∃ row, start.slot.jobs.get? jobId = some row ∧
      row.jobName = settlementRebuildJobName ∧ row.metadataJson.isObject = true ∧
      AttemptsBounded row)
    (howned : GenerationsOwned start.slot.projection) (operations : List (Operation Data)) :
    (∀ op claimId, op.token? = some (jobId, claimId) →
      ¬ HoldsClaim (start.run ctx operations).slot jobId claimId op.readings →
        (start.run ctx operations).apply ctx op = start.run ctx operations) ∧
    ∃ row, (start.run ctx operations).slot.jobs.get? jobId = some row ∧ AttemptsBounded row ∧
      ∀ before after plan claimId totals guardedAt clock capture bill w', plan.jobId = jobId →
        operations = before ++ .publish plan claimId totals guardedAt clock capture bill :: after →
        (start.run ctx before).publishLineage ctx plan claimId totals guardedAt clock capture
          bill = .ok w' →
        Alive row ∧ ∀ now staleAfter maxAttempts, staleClaim now staleAfter row = true →
          ∃ s' row', recoverStaleRebuild ctx.sha256 now staleAfter maxAttempts
              (start.run ctx operations).slot row = .ok s' ∧
            s'.jobs.get? jobId = some row' ∧ row'.status = .success := by
  obtain ⟨first, hfirst, hname, hdocument, hbounded⟩ := hjob
  have hrun := run_change ctx start operations
  obtain ⟨row, hrow, hchange⟩ := hrun.rows jobId first hfirst hname
  refine ⟨fun op claimId htoken hlost => apply_of_lost_claim ctx _ htoken hlost, row, hrow,
    hchange.bounded hbounded, ?_⟩
  rintro before after plan claimId totals guardedAt clock capture bill w' rfl rfl hpublish
  -- the state the publication leaves
  obtain ⟨hpublished, middle, hmiddle, hmname, halive⟩ := published_of_publishLineage
    ((run_change ctx start before).owned howned) hpublish
  have hrest : start.run ctx (before ++
      .publish plan claimId totals guardedAt clock capture bill :: after) =
      w'.run ctx after := by
    have happly : (start.run ctx before).apply ctx
        (.publish plan claimId totals guardedAt clock capture bill) = w' := by
      change (start.run ctx before).orUnchanged _ = w'
      rw [hpublish]
      rfl
    calc start.run ctx (before ++ .publish plan claimId totals guardedAt clock capture bill ::
          after)
        = ((start.run ctx before).apply ctx
            (.publish plan claimId totals guardedAt clock capture bill)).run ctx after := by
          unfold World.run
          rw [foldl_append, foldl_cons]
      _ = w'.run ctx after := by rw [happly]
  -- and what the later transactions leave of it
  rw [hrest] at hrow ⊢
  have hafter := run_change ctx w' after
  obtain ⟨last, hlast, hlchange⟩ := hafter.rows plan.jobId middle hmiddle hmname
  obtain rfl := mem_unique hlast hrow
  refine ⟨hlchange.alive hpublished halive, ?_⟩
  intro now staleAfter maxAttempts hstale
  have hkey : last.jobId = plan.jobId := (w'.run ctx after).slot.jobs.key_of_get? hrow
  obtain ⟨s', row', hrecover, hrow', hsuccess⟩ := recovery_closes_published
    maxAttempts ((w'.run ctx after).slot.jobs.mem_of_get? hrow)
    (hchange.document hdocument) (hkey ▸ hafter.published plan.jobId hpublished) hstale
  exact ⟨s', row', hrecover, hkey ▸ hrow', hsuccess⟩

section Sample

theorem append_cancel_middle {label middle middle' colon tail : String}
    (h : label ++ middle ++ colon ++ tail = label ++ middle' ++ colon ++ tail) :
    middle = middle' := by
  have hlist := congrArg String.toList h
  simp only [String.toList_append, append_assoc] at hlist
  exact String.toList_inj.mp (append_cancel_right (append_cancel_left hlist))

theorem planGenerationId_injective {jobId jobId' fingerprint : String}
    (h : planGenerationId jobId fingerprint = planGenerationId jobId' fingerprint) :
    jobId = jobId' := by
  exact append_cancel_middle h

theorem length_planGenerationId (jobId fingerprint : String) :
    25 ≤ (planGenerationId jobId fingerprint).length := by
  have hlabel : ∀ a b c d : String, a.length ≤ (a ++ b ++ c ++ d).length := by
    simp only [String.length_append]
    omega
  exact hlabel "settlement-admin-rebuild:" _ _ _

def sampleRoot : Projection.Generation :=
  { generationId := "root", generationKind := .legacyRoot, state := .published
    inputFingerprint := Projection.sampleDigest 'a'
    manifestChecksum := some (Projection.sampleDigest 'b')
    kindCheck := Projection.kindBaseDepth_legacyRoot }

def sampleRebuildWorld : World Unit where
  slot := {
    projection := {
      generations := ⟨[sampleRoot], nodup_singleton _⟩
      active := some (some "root")
      manifests := .empty
      closure := .empty
      overlays := []
      jobs := ⟨[{ jobId := "job-1", jobName := settlementRebuildJobName, status := .queued }],
        nodup_singleton _⟩
      events := []
      fingerprints := nodup_singleton _ }
    attempts := .empty
    components := .empty
    attemptNumbers := Pairwise.nil
    attemptEpochs := Pairwise.nil }
  data := ()

def samplePlan : LineageRefreshPlan :=
  ⟨"job-1", "root", ["2026-09"], Projection.sampleDigest 'c'⟩

def LineageRefreshPlan.built (plan : LineageRefreshPlan) (checksum : String) : BuiltGeneration :=
  ⟨{ generationId := plan.generationId, baseGenerationId := some plan.baseGenerationId
     state := .ready, lineageDepth := 1, inputFingerprint := plan.inputFingerprint
     manifestChecksum := some checksum, sourceJobId := some plan.jobId },
    fun _ h => congrArg some (planGenerationId_injective h)⟩

def sampleRebuildRun : List (Operation Unit) :=
  [.claim "job-1" { claimId := "claim-1", claimTime := 10, cooldownTime := 10
                    leaseDuration := 900 },
    .build "job-1" "claim-1" 20 [samplePlan.built (Projection.sampleDigest 'd')] fun data => .ok (data, ())]

def samplePublish : Operation Unit :=
  .publish samplePlan "claim-1" ⟨Projection.sampleDigest 'd', 1, 1⟩ 30 ⟨31, 32, 33, 34⟩
    (fun data => .ok (data, ())) (fun data => .ok (data, .obj []))

/-- A rebuild that published and then lost its lease is closed as successful, whatever a worker
with the old claim still tries. -/
theorem published_rebuild_is_closed :
    ∃ row s' row', (sampleRebuildWorld.run Projection.sampleContext
        (sampleRebuildRun ++ [samplePublish])).slot.jobs.get? "job-1" = some row ∧
      Alive row ∧ AttemptsBounded row ∧ staleClaim 2000 900 row = true ∧
      recoverStaleRebuild Projection.sampleContext.sha256 2000 900 3
        (sampleRebuildWorld.run Projection.sampleContext
          (sampleRebuildRun ++ [samplePublish])).slot row = .ok s' ∧
      s'.jobs.get? "job-1" = some row' ∧ row'.status = .success := by
  have howned : GenerationsOwned sampleRebuildWorld.slot.projection := by
    intro g hg jobId hid
    obtain rfl := mem_singleton.mp hg
    -- no plan has so short an identifier
    have hlength := length_planGenerationId jobId sampleRoot.inputFingerprint
    rw [← hid] at hlength
    exact absurd hlength (by decide)
  have hjob : ∃ row, sampleRebuildWorld.slot.jobs.get? "job-1" = some row ∧
      row.jobName = settlementRebuildJobName ∧ row.metadataJson.isObject = true ∧
      AttemptsBounded row := ⟨_, rfl, rfl, rfl, by unfold AttemptsBounded; decide⟩
  obtain ⟨-, row, hrow, hbounded, hpublished⟩ := rebuild_claims_are_fenced
    Projection.sampleContext sampleRebuildWorld "job-1" hjob howned
    (sampleRebuildRun ++ [samplePublish])
  have hcommits : ((sampleRebuildWorld.run Projection.sampleContext
      sampleRebuildRun).publishLineage Projection.sampleContext samplePlan "claim-1"
      ⟨Projection.sampleDigest 'd', 1, 1⟩ 30 ⟨31, 32, 33, 34⟩ (fun data => .ok (data, ()))
      (fun data => .ok (data, .obj []))).map (fun _ => ()) = .ok () := by decide +kernel
  have hstale : ((sampleRebuildWorld.run Projection.sampleContext
      (sampleRebuildRun ++ [samplePublish])).slot.jobs.get? "job-1").all
        (staleClaim 2000 900) = true := by decide +kernel
  rw [hrow] at hstale
  obtain ⟨w', hresult, -⟩ := Except.map_eq_ok_iff.mp hcommits
  obtain ⟨halive, hrecover⟩ := hpublished sampleRebuildRun [] samplePlan _ _ _ _ _ _ w' rfl
    rfl hresult
  obtain ⟨s', row', hclosed, hrow', hsuccess⟩ := hrecover 2000 900 3 hstale
  exact ⟨row, s', row', hrow, halive, hbounded, hstale, hclosed, hrow', hsuccess⟩

end Sample

end DyData.Rebuild
