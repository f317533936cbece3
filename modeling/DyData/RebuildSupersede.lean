import DyData.RebuildQueue

/-!
What a claim of the latest rebuild supersedes.  The claim takes the newest queued job and
closes everything pending before it; the scope of a job is no part of its order, so whether the
months of the closed jobs are recomputed depends on the scopes that happen to meet.
-/

namespace DyData.Rebuild

open Relational List
open DyData.HeavyQueue
open DyData.HeavySlot

variable {s : Slot} {job selected : JobRun}

/-- `_MONTH_KEY_PATTERN.match`: four digits, a dash and two digits. -/
def isMonthKey (value : String) : Bool :=
  match value.toList with
  | [a, b, c, d, dash, e, f] => [a, b, c, d, e, f].all Char.isDigit && dash = '-'
  | _ => false

def scopedBusinessMonth (metadata : JsonValue) : Option String :=
  if (metadata.get? "settlement_scope").bind JsonValue.asString? = some "business_month" then
    ((metadata.get? "business_month").bind JsonValue.asString?).filter isMonthKey
  else none

inductive RebuildWork
  | publicationOnly
  | full
  | month (businessMonth : String)
deriving DecidableEq

/-- The dispatch of `process_queued_settlement_rebuilds` and of the two entries it calls. -/
def rebuildWork (job : JobRun) : RebuildWork :=
  if (job.metadataJson.get? "publication_only").any JsonValue.isObject then .publicationOnly
  else match scopedBusinessMonth job.metadataJson with
  | none => .full
  | some businessMonth => .month businessMonth

def RebuildWork.recomputes (businessMonth : String) : RebuildWork → Bool
  | .publicationOnly => false
  | .full => true
  | .month target => target = businessMonth

def RebuildWork.Covers (work other : RebuildWork) : Prop :=
  work = .full ∨ other = .publicationOnly ∨ work = other

theorem RebuildWork.covers_iff (work other : RebuildWork) : work.Covers other ↔
    ∀ businessMonth, other.recomputes businessMonth = true →
      work.recomputes businessMonth = true := by
  constructor
  · rintro (rfl | rfl | rfl) businessMonth h
    · rfl
    · cases h
    · exact h
  · intro h
    cases work with
    | full => exact .inl rfl
    | publicationOnly =>
      -- it computes no month, so the other work computes none either
      cases other with
      | publicationOnly => exact .inr (.inl rfl)
      | full => exact absurd (h "" rfl) (by decide)
      | month m => exact absurd (h m (decide_eq_true rfl)) (by simp [recomputes])
    | month target =>
      cases other with
      | publicationOnly => exact .inr (.inl rfl)
      | full =>
        -- a full rebuild computes a month that is not the scoped one
        have hlong : target ++ "x" ≠ target := by
          intro he
          have hlen := congrArg String.length he
          rw [String.length_append] at hlen
          have hx : String.length "x" = 1 := by decide
          omega
        have hscop := h (target ++ "x") rfl
        exact absurd (of_decide_eq_true hscop).symm hlong
      | month m =>
        have hscop := h m (decide_eq_true rfl)
        exact .inr (.inr (congrArg RebuildWork.month (of_decide_eq_true hscop)))

section Order

theorem claimOrder_trans {a b c : JobRun} (hab : claimOrder a b) (hbc : claimOrder b c) :
    claimOrder a c := by
  rcases hab with hab | ⟨hab, hab'⟩
  · rcases hbc with hbc | ⟨hbc, -⟩
    · exact .inl (hab.trans hbc)
    · exact .inl (hbc ▸ hab)
  · rcases hbc with hbc | ⟨hbc, hbc'⟩
    · exact .inl (hab ▸ hbc)
    · refine .inr ⟨hab.trans hbc, ?_⟩
      rcases hab' with hab' | ⟨hab', hab''⟩
      · rcases hbc' with hbc' | ⟨hbc', -⟩
        · exact .inl (hab'.trans hbc')
        · exact .inl (hbc' ▸ hab')
      · rcases hbc' with hbc' | ⟨hbc', hbc''⟩
        · exact .inl (hab' ▸ hbc')
        · exact .inr ⟨hab'.trans hbc', le_trans hab'' hbc''⟩

theorem claimOrder_total (a b : JobRun) : claimOrder a b ∨ claimOrder b a := by
  rcases lt_trichotomy a.startedAt b.startedAt with h | h | h
  · exact .inl (.inl h)
  · rcases lt_trichotomy (requesterRank a) (requesterRank b) with hr | hr | hr
    · exact .inl (.inr ⟨h, .inl hr⟩)
    · rcases le_total a.jobId b.jobId with hid | hid
      · exact .inl (.inr ⟨h, .inr ⟨hr, hid⟩⟩)
      · exact .inr (.inr ⟨h.symm, .inr ⟨hr.symm, hid⟩⟩)
    · exact .inr (.inr ⟨h.symm, .inl hr⟩)
  · exact .inr (.inl h)

theorem jobId_eq_of_claimOrder {a b : JobRun} (hab : claimOrder a b) (hba : claimOrder b a) :
    a.jobId = b.jobId := by
  rcases hab with hab | ⟨hstart, hab⟩
  · rcases hba with hba | ⟨hba, -⟩
    · exact absurd hba (lt_asymm hab)
    · exact absurd hba.symm hab.ne
  · rcases hba with hba | ⟨-, hba⟩
    · exact absurd hstart.symm hba.ne
    · rcases hab with hab | ⟨hrank, hab⟩
      · rcases hba with hba | ⟨hba, -⟩ <;> omega
      · rcases hba with hba | ⟨-, hba⟩
        · omega
        · exact le_antisymm hab hba

instance : IsTrans JobRun claimOrder := ⟨fun _ _ _ => claimOrder_trans⟩

instance : Std.Total claimOrder := ⟨claimOrder_total⟩

end Order

def PendingRebuild (s : Slot) (job : JobRun) : Prop :=
  job ∈ s.jobs.rows ∧ job.jobName = settlementRebuildJobName ∧
    (job.status = .queued ∨ job.status = .retryWait)

theorem mem_pendingRebuilds : job ∈ pendingRebuilds s ↔ PendingRebuild s job := by
  rw [pendingRebuilds, mem_insertionSort, mem_filter]
  simp only [PendingRebuild, bool_to_prop]

theorem pendingRebuilds_sorted (s : Slot) : (pendingRebuilds s).Pairwise claimOrder :=
  pairwise_insertionSort _ _

theorem pendingRebuilds_nodup (s : Slot) : ((pendingRebuilds s).map JobRun.jobId).Nodup := by
  have hrows : ((s.jobs.rows.filter fun job => job.jobName = settlementRebuildJobName &&
      (job.status = .queued || job.status = .retryWait)).map JobRun.jobId).Nodup :=
    s.jobs.nodup.sublist (filter_sublist.map _)
  exact ((perm_insertionSort _ _).map _).nodup_iff.mpr hrows

def NewestQueued (s : Slot) (job : JobRun) : Prop :=
  PendingRebuild s job ∧ job.status = .queued ∧
    ∀ other, PendingRebuild s other → other.status = .queued → claimOrder other job

theorem pairwise_getLast {α : Type} {r : α → α → Prop} {l : List α} {last : α}
    (hsort : l.Pairwise r) (hlast : l.getLast? = some last) : ∀ a ∈ l, a = last ∨ r a last := by
  obtain ⟨_, rfl⟩ := getLast?_eq_some_iff.mp hlast
  intro a ha
  rcases mem_append.mp ha with ha | ha
  · exact .inr ((pairwise_append.mp hsort).2.2 a ha last (mem_singleton_self last))
  · exact .inl (mem_singleton.mp ha)

theorem newestQueued_of_selected (h : selectedRebuild? s = some selected) :
    NewestQueued s selected := by
  have hmem := mem_filter.mp (mem_of_getLast? h)
  refine ⟨mem_pendingRebuilds.mp hmem.1, of_decide_eq_true hmem.2, ?_⟩
  intro other hoth hqd
  have hin : other ∈ (pendingRebuilds s).filter fun job => job.status = .queued :=
    mem_filter.mpr ⟨mem_pendingRebuilds.mpr hoth, decide_eq_true hqd⟩
  rcases pairwise_getLast ((pendingRebuilds_sorted s).filter _) h other hin with rfl | hbef
  · exact (claimOrder_total other other).elim id id
  · exact hbef

theorem selected_of_newestQueued (h : NewestQueued s job) : selectedRebuild? s = some job := by
  obtain ⟨hpend, hqd, hnew⟩ := h
  have hin : job ∈ (pendingRebuilds s).filter fun job => job.status = .queued :=
    mem_filter.mpr ⟨mem_pendingRebuilds.mpr hpend, decide_eq_true hqd⟩
  cases hsel : selectedRebuild? s with
  | none =>
    rw [selectedRebuild?, getLast?_eq_none_iff] at hsel
    rw [hsel] at hin
    cases hin
  | some selected =>
    have hoth := newestQueued_of_selected hsel
    have hid := jobId_eq_of_claimOrder (hnew selected hoth.1 hoth.2.1)
      (hoth.2.2 job hpend hqd)
    rw [s.jobs.eq_of_key_eq hoth.1.1 hpend.1 hid]

theorem mem_takeWhile_of_sorted {l : List JobRun} (hsort : l.Pairwise claimOrder)
    (hnd : (l.map JobRun.jobId).Nodup) (hsel : selected ∈ l) :
    job ∈ l.takeWhile (fun other => other.jobId ≠ selected.jobId) ↔
      job ∈ l ∧ job.jobId ≠ selected.jobId ∧ claimOrder job selected := by
  induction l with
  | nil => cases hsel
  | cons first rest ih =>
    rw [pairwise_cons] at hsort
    rw [map_cons, nodup_cons] at hnd
    rw [takeWhile_cons]
    by_cases hid : first.jobId = selected.jobId
    · -- the list stops here: every later entry comes after the selected one
      rw [if_neg (by simpa using hid)]
      simp only [not_mem_nil, false_iff, not_and, mem_cons]
      rintro (rfl | hrest) hne hbef
      · exact hne hid
      · have hfst : first = selected := by
          rcases mem_cons.mp hsel with rfl | hin
          · rfl
          · exact absurd (mem_map.mpr ⟨selected, hin, hid.symm⟩) hnd.1
        exact hne (jobId_eq_of_claimOrder hbef (hfst ▸ hsort.1 job hrest))
    · have hin : selected ∈ rest :=
        (mem_cons.mp hsel).resolve_left fun he => hid (congrArg JobRun.jobId he).symm
      rw [if_pos (by simpa using hid), mem_cons, mem_cons, ih hsort.2 hnd.2 hin]
      constructor
      · rintro (rfl | ⟨hrest, hne, hbef⟩)
        · exact ⟨.inl rfl, hid, hsort.1 selected hin⟩
        · exact ⟨.inr hrest, hne, hbef⟩
      · rintro ⟨rfl | hrest, hne, hbef⟩
        · exact .inl rfl
        · exact .inr ⟨hrest, hne, hbef⟩

theorem mem_obsoleteRebuilds (h : PendingRebuild s selected) : job ∈ obsoleteRebuilds s selected ↔
      PendingRebuild s job ∧ job.jobId ≠ selected.jobId ∧ claimOrder job selected := by
  rw [obsoleteRebuilds, mem_takeWhile_of_sorted (pendingRebuilds_sorted s)
    (pendingRebuilds_nodup s) (mem_pendingRebuilds.mpr h), mem_pendingRebuilds]

theorem claimLatest_ok {s' : Slot} {input : ClaimInput} {claim : LatestClaim}
    (h : claimLatestSettlementRebuildJob s input = .ok (some (claim, s'))) :
    ∃ selected claimed, selectedRebuild? s = some selected ∧
      claimSettlementRebuildInSession s selected.jobId input = .ok (some claimed) ∧
      (obsoleteRebuilds s selected).foldlM
        (supersedeRebuild selected.jobId input.claimTime) claimed = .ok s' ∧
      claim = ⟨selected.jobId, input.claimId, (obsoleteRebuilds s selected).map JobRun.jobId⟩ := by
  unfold claimLatestSettlementRebuildJob at h
  split at h
  · cases h
  split at h
  · cases h
  rename_i selected hsel
  obtain ⟨claimed?, hclm, h⟩ := Except.of_bind h
  cases claimed? with
  | none => cases h
  | some claimed =>
    obtain ⟨_, hfold, h⟩ := Except.of_bind h
    cases h
    exact ⟨selected, claimed, hsel, hclm, hfold, rfl⟩

def SupersedingKeepsMonths (s : Slot) (claim : LatestClaim) : Prop :=
  ∀ selected, s.jobs.get? claim.jobId = some selected →
    ∀ jobId ∈ claim.superseded, ∀ job, s.jobs.get? jobId = some job →
      ∀ businessMonth, (rebuildWork job).recomputes businessMonth = true →
        (rebuildWork selected).recomputes businessMonth = true

/-- Superseding loses no requested month exactly when the newest queued rebuild covers every
pending one before it: it is unscoped, or they are scoped to the same month. -/
theorem superseding_loses_no_month_iff {s s' : Slot} {input : ClaimInput} {claim : LatestClaim}
    (h : claimLatestSettlementRebuildJob s input = .ok (some (claim, s'))) :
    SupersedingKeepsMonths s claim ↔
      ∀ newest, NewestQueued s newest → ∀ older, PendingRebuild s older →
        older.jobId ≠ newest.jobId → claimOrder older newest →
          (rebuildWork newest).Covers (rebuildWork older) := by
  obtain ⟨selected, _, hselected, -, -, rfl⟩ := claimLatest_ok h
  have hnewest := newestQueued_of_selected hselected
  have hrow : s.jobs.get? selected.jobId = some selected := s.jobs.get?_of_mem hnewest.1.1
  constructor
  · intro hkeeps newest hother older holder hne hbefore
    have hsame : newest = selected :=
      Option.some.inj ((selected_of_newestQueued hother).symm.trans hselected)
    subst hsame
    have hobsolete := (mem_obsoleteRebuilds hnewest.1).mpr ⟨holder, hne, hbefore⟩
    rw [RebuildWork.covers_iff]
    exact hkeeps newest hrow older.jobId (mem_map_of_mem hobsolete) older
      (s.jobs.get?_of_mem holder.1)
  · intro hcovers row hclaimed jobId hin job hjob
    obtain ⟨obsolete, hobsolete, rfl⟩ := mem_map.mp hin
    obtain ⟨holder, hne, hbefore⟩ := (mem_obsoleteRebuilds hnewest.1).mp hobsolete
    obtain rfl := Option.mem_unique hrow hclaimed
    obtain rfl := Option.some.inj ((s.jobs.get?_of_mem holder.1).symm.trans hjob)
    rw [← RebuildWork.covers_iff]
    exact hcovers selected hnewest obsolete holder hne hbefore

def slotOfJobs (jobs : Table JobRun.jobId) : Slot where
  projection :=
    { generations := .empty, active := none, manifests := .empty, closure := .empty
      overlays := [], jobs, events := [], fingerprints := nodup_nil }
  attempts := .empty
  components := .empty
  attemptNumbers := nodup_nil
  attemptEpochs := nodup_nil

def sampleClaim : ClaimInput :=
  { claimId := "settlement-rebuild-1", claimTime := 20, cooldownTime := 20, leaseDuration := 900 }

def sampleMonthQueue : Slot :=
  slotOfJobs ⟨[
    { jobId := "admin_month", jobName := settlementRebuildJobName, status := .queued
      startedAt := 10
      metadataJson := .ofStrings
        [("settlement_scope", "business_month"), ("business_month", "2026-09")] },
    { jobId := "settlement-month-close-2026-09", jobName := settlementRebuildJobName
      status := .queued, startedAt := 11
      metadataJson := .ofStrings
        [("settlement_scope", "business_month"), ("business_month", "2026-09")] }], by decide⟩

theorem same_month_is_kept : ∃ claim s',
    claimLatestSettlementRebuildJob sampleMonthQueue sampleClaim = .ok (some (claim, s')) ∧
      claim.superseded = ["admin_month"] ∧
      (SupersedingKeepsMonths sampleMonthQueue claim ↔
        ∀ newest, NewestQueued sampleMonthQueue newest →
          ∀ older, PendingRebuild sampleMonthQueue older → older.jobId ≠ newest.jobId →
            claimOrder older newest → (rebuildWork newest).Covers (rebuildWork older)) := by
  have hclaim : (claimLatestSettlementRebuildJob sampleMonthQueue sampleClaim).map
      (Option.map (·.1.superseded)) = .ok (some ["admin_month"]) := by decide +kernel
  obtain ⟨_, h, hresult⟩ := Except.map_eq_ok_iff.mp hclaim
  obtain ⟨⟨claim, s'⟩, rfl, hsuperseded⟩ := Option.map_eq_some_iff.mp hresult
  exact ⟨claim, s', h, hsuperseded, superseding_loses_no_month_iff h⟩

/-- A full rebuild an administrator asked for and the close of a month, queued at the same
instant: the identifier of the close is the greater one. -/
def sampleTiedQueue : Slot :=
  slotOfJobs ⟨[
    { jobId := "admin_full", jobName := settlementRebuildJobName, status := .queued
      startedAt := 10 },
    { jobId := "settlement-month-close-2026-09", jobName := settlementRebuildJobName
      status := .queued, startedAt := 10
      metadataJson := .ofStrings
        [("settlement_scope", "business_month"), ("business_month", "2026-09")] }], by decide⟩

/-- The month close wins the tie and closes the full rebuild as superseded. -/
theorem month_close_supersedes_full_rebuild : ∃ claim s',
    claimLatestSettlementRebuildJob sampleTiedQueue sampleClaim = .ok (some (claim, s')) ∧
      claim.jobId = "settlement-month-close-2026-09" ∧ claim.superseded = ["admin_full"] ∧
      ¬ SupersedingKeepsMonths sampleTiedQueue claim := by
  have hclaim : (claimLatestSettlementRebuildJob sampleTiedQueue sampleClaim).map
      (Option.map fun result => (result.1.jobId, result.1.superseded)) =
      .ok (some ("settlement-month-close-2026-09", ["admin_full"])) := by decide +kernel
  obtain ⟨_, h, hresult⟩ := Except.map_eq_ok_iff.mp hclaim
  obtain ⟨⟨claim, s'⟩, rfl, hnames⟩ := Option.map_eq_some_iff.mp hresult
  obtain ⟨hid, hsuperseded⟩ := Prod.mk.inj hnames
  refine ⟨claim, s', h, hid, hsuperseded, ?_⟩
  intro hkeeps
  -- the full rebuild would have computed August, which the close leaves out
  have haugust := hkeeps _ (by rw [hid]; rfl) "admin_full" (by rw [hsuperseded]; simp) _ rfl
    "2026-08" (by decide +kernel)
  exact absurd haugust (by decide +kernel)

end DyData.Rebuild
