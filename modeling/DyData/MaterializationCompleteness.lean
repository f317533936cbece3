import DyData.MaterializationQueue

/-!
Whether a cycle reaches all its items.  The cursor never passes an item that is not completed; only
a writer that commits late can place one behind it.
-/

namespace DyData.Materialization

open Relational List
open Except (of_bind)

def Db.Reaches (db : Db) (c : Watermark) (i : WorkItem) : Prop :=
  ∀ now : Timestamp, ∃ clock, now ≤ clock ∧ ∃ phase limit,
    i ∈ db.batch c clock (fun _ => false) phase limit

/-- Every item of a cycle that is not completed can still be claimed: it is pending above the
cursor, or processing under a lease that can run out. -/
def Db.Complete (db : Db) : Prop :=
  ∀ c ∈ db.watermarks.rows, ∀ i ∈ db.visibleItems, c.covers i = true → i.state ≠ .completed →
    (i.state = .pending ∧ c.lastWorkItemId < i.workItemId ∨ i.state = .processing) ∧
      db.Reaches c i

def Db.isTimely (db : Db) : Action → Bool
  | .commit writer => db.workItems.rows.all fun v => v.writer ≠ some writer ||
      db.watermarks.rows.all fun c => !c.covers v.row || c.lastWorkItemId < v.row.workItemId
  | _ => true

def Db.isTimelyRun (db : Db) : List Action → Bool
  | [] => true
  | action :: actions => db.isTimely action && (db.act action).isTimelyRun actions

/-! ### What a claim takes -/

section Batch

variable {db : Db} {c : Watermark} {i : WorkItem} {clock : Timestamp}
  {attemptFinished : String → Bool} {phase : Phase} {limit : Nat}

theorem offers_of_mem_batch (h : i ∈ db.batch c clock attemptFinished phase limit) :
    i ∈ db.visibleItems ∧ c.offers clock attemptFinished phase i = true := by
  have hmem := (mem_insertionSort _).mp (mem_of_mem_take h)
  exact mem_filter.mp hmem

theorem mem_batch (hi : i ∈ db.visibleItems)
    (hoff : c.offers clock attemptFinished phase i = true) :
    i ∈ db.batch c clock attemptFinished phase db.visibleItems.length := by
  unfold Db.batch
  rw [take_of_length_le]
  · exact (mem_insertionSort _).mpr (mem_filter.mpr ⟨hi, hoff⟩)
  · rw [length_insertionSort]
    exact le_trans (length_filter_le _ _) (le_max_right _ _)

theorem ne_completed_of_offers (h : c.offers clock attemptFinished phase i = true) :
    i.state ≠ .completed := by
  intro hdone
  simp [Watermark.offers, WorkItem.isExpired, hdone] at h

/-- An open item of the cycle above its cursor can be claimed at a later time. -/
theorem reaches_of_lt (hi : i ∈ db.visibleItems) (hcov : c.covers i = true)
    (hstt : i.state ≠ .completed) (hlt : c.lastWorkItemId < i.workItemId) : db.Reaches c i := by
  intro now
  cases hcase : i.state with
  | pending =>
    refine ⟨now, le_rfl, .all, _, mem_batch hi ?_⟩
    simp [Watermark.offers, hcov, Phase.accepts, hlt, hcase]
  | processing =>
    -- the claim waits until the lease has run out
    refine ⟨max now (i.leaseExpiresAt.getD now), le_max_left _ _, .all, _, mem_batch hi ?_⟩
    have hexp : i.leaseExpiresAt.all
        (fun time => decide (time ≤ max now (i.leaseExpiresAt.getD now))) = true := by
      cases i.leaseExpiresAt with
      | none => rfl
      | some time => exact decide_eq_true (le_max_right _ _)
    rw [Watermark.offers, hcov, WorkItem.isExpired, hcase, hexp]
    simp [Phase.accepts]
  | completed => exact absurd hcase hstt

end Batch

/-! ### The invariant of timely runs -/

structure Ahead (db : Db) : Prop where
  /-- The open items of a cycle are above its cursor. -/
  cursor : ∀ c ∈ db.watermarks.rows, ∀ i ∈ db.visibleItems, c.covers i = true →
    i.state ≠ .completed → c.lastWorkItemId < i.workItemId
  positive : ∀ v ∈ db.workItems.rows, 0 < v.row.workItemId
  next : 0 < db.nextWorkItemId
  /-- Nobody works on an item that is not committed. -/
  uncommitted : ∀ v ∈ db.workItems.rows, v.writer ≠ none → v.row.state = .pending

theorem mem_visibleItems {db : Db} {i : WorkItem} :
    i ∈ db.visibleItems ↔ ∃ v ∈ db.workItems.rows, v.writer = none ∧ v.row = i := by
  simp only [Db.visibleItems, mem_map, mem_filter, Option.isNone_iff_eq_none, and_assoc]

theorem mem_visibleItems_update {db : Db} {p : WorkItem → Bool} {f : WorkItem → WorkItem}
    {hf : ∀ i, (f i).workItemId = i.workItemId} {i : WorkItem}
    (h : i ∈ (db.updateItems p f hf).visibleItems) :
    ∃ old ∈ db.visibleItems, i = if p old then f old else old := by
  obtain ⟨_, hv, hwr, rfl⟩ := mem_visibleItems.mp h
  obtain ⟨old, hold, rfl⟩ := mem_map.mp hv
  by_cases hp : (old.writer.isNone && p old.row) = true
  · rw [if_pos hp] at hwr ⊢
    refine ⟨old.row, mem_visibleItems.mpr ⟨old, hold, hwr, rfl⟩, ?_⟩
    rw [Bool.and_eq_true] at hp
    rw [if_pos hp.2]
  · rw [if_neg hp] at hwr ⊢
    refine ⟨old.row, mem_visibleItems.mpr ⟨old, hold, hwr, rfl⟩, ?_⟩
    rw [hwr, Option.isNone_none, Bool.true_and] at hp
    rw [if_neg hp]

/-! ### What the steps of a cycle write -/

/-- The invariants that a step of a cycle keeps: it freezes the items of a new cycle, updates items
without opening a completed one, or moves the cursor. -/
structure CycleInvariant (P : Db → Prop) : Prop where
  freeze : ∀ {db db' scope cycleId}, P db → db.freeze scope cycleId = .ok db' → P db'
  update : ∀ {db} {p : WorkItem → Bool} {f hf}, P db →
    (∀ i, (f i).scope = i.scope ∧ (f i).impactId = i.impactId) →
    (∀ i ∈ db.visibleItems, p i = true → (f i).state ≠ .completed → i.state ≠ .completed) →
    P (db.updateItems p f hf)
  advance : ∀ {db : Db}, P db → P db.advanceMaterializationCursor

namespace CycleInvariant

variable {P : Db → Prop} {db db' : Db}

theorem begin (hP : CycleInvariant P) {scope cycleId : String}
    (h : db.beginClueMaterializationCycle scope cycleId = .ok db') (hdb : P db) : P db' := by
  unfold Db.beginClueMaterializationCycle at h
  split at h
  · split at h
    · exact hP.freeze hdb h
    · cases h
      exact hdb
  · exact hP.freeze hdb h

theorem claim (hP : CycleInvariant P) {r : ClaimRequest} {batch : List WorkItem}
    (h : db.claimClueMaterializationBatch r = .ok (db', batch)) (hdb : P db) : P db' := by
  obtain ⟨_, _, h⟩ := of_bind h
  obtain ⟨db₁, hbegin, h⟩ := of_bind h
  obtain ⟨_, _, h⟩ := of_bind h
  have hdb₁ : P db₁ := by
    unfold Db.ensureCycle at hbegin
    split at hbegin
    · cases hbegin
      exact hdb
    · exact hP.begin hbegin hdb
  cases h
  refine hP.update hdb₁ (fun _ => ⟨rfl, rfl⟩) ?_
  -- a claim takes open items only
  intro i hi hids _
  obtain ⟨_, htaken, hid⟩ := mem_map.mp (contains_iff_mem.mp hids)
  obtain ⟨hvis, hoff⟩ := offers_of_mem_batch htaken
  obtain ⟨v, hv, _, rfl⟩ := mem_visibleItems.mp hi
  obtain ⟨w, hw, _, rfl⟩ := mem_visibleItems.mp hvis
  have hsame : w = v := db₁.workItems.eq_of_key_eq hw hv hid
  rw [← hsame]
  exact ne_completed_of_offers hoff

theorem tryAct (hP : CycleInvariant P) {action : Action}
    (hstep : (match action with
      | .capture .. | .commit _ | .rollback _ => false
      | _ => true) = true) (h : db.tryAct action = .ok db') (hdb : P db) : P db' := by
  cases action with
  | capture | commit | rollback => cases hstep
  | begin scope cycleId => exact hP.begin h hdb
  | claim request =>
    obtain ⟨⟨_, _⟩, hclm, rfl⟩ := Except.map_eq_ok_iff.mp h
    exact hP.claim hclm hdb
  | complete ids leaseToken clock =>
    obtain ⟨token, _, h⟩ := of_bind h
    split at h
    · cases h
      exact hdb
    · cases h
      refine hP.advance (hP.update hdb (fun _ => ⟨rfl, rfl⟩) ?_)
      exact fun i _ _ hstt => absurd rfl hstt
  | renew | recordRawPage =>
    obtain ⟨_, _, h⟩ := of_bind h
    cases h
    exact hP.update hdb (fun _ => ⟨rfl, rfl⟩) fun _ _ _ hstt => hstt
  | retry ids leaseToken =>
    obtain ⟨_, _, h⟩ := of_bind h
    cases h
    refine hP.update hdb (fun _ => ⟨rfl, rfl⟩) ?_
    intro i _ hp _ hdone
    simp [hdone] at hp

end CycleInvariant

/-! ### Timely runs are ahead -/

namespace Ahead

variable {db db' : Db}

section

variable (h : Ahead db)
include h

theorem complete : db.Complete := by
  intro c hc i hi hcov hstt
  have hlt := h.cursor c hc i hi hcov hstt
  refine ⟨?_, reaches_of_lt hi hcov hstt hlt⟩
  cases hcase : i.state with
  | pending => exact .inl ⟨rfl, hlt⟩
  | processing => exact .inr rfl
  | completed => exact absurd hcase hstt

theorem updateItems {p : WorkItem → Bool} {f : WorkItem → WorkItem}
    {hf : ∀ i, (f i).workItemId = i.workItemId}
    (hkeeps : ∀ i, (f i).scope = i.scope ∧ (f i).impactId = i.impactId)
    (hopen : ∀ i ∈ db.visibleItems, p i = true → (f i).state ≠ .completed → i.state ≠ .completed) :
    Ahead (db.updateItems p f hf) := by
  refine ⟨?_, ?_, h.next, ?_⟩
  · intro c hc i hi hcov hstt
    obtain ⟨old, hold, rfl⟩ := mem_visibleItems_update hi
    by_cases hp : p old = true
    · rw [if_pos hp] at hcov hstt ⊢
      rw [hf]
      refine h.cursor c hc old hold ?_ (hopen old hold hp hstt)
      rwa [Watermark.covers, (hkeeps old).1, (hkeeps old).2] at hcov
    · rw [if_neg hp] at hcov hstt ⊢
      exact h.cursor c hc old hold hcov hstt
  · intro v hv
    obtain ⟨old, hold, rfl⟩ := mem_map.mp hv
    have hpos := h.positive old hold
    split
    · rwa [hf]
    · exact hpos
  · intro v hv hwr
    obtain ⟨old, hold, rfl⟩ := mem_map.mp hv
    by_cases hp : (old.writer.isNone && p old.row) = true
    · rw [if_pos hp] at hwr
      exact absurd (Option.isNone_iff_eq_none.mp (Bool.and_eq_true_iff.mp hp).1) hwr
    · rw [if_neg hp] at hwr ⊢
      exact h.uncommitted old hold hwr

theorem advance : Ahead db.advanceMaterializationCursor := by
  refine ⟨?_, h.positive, h.next, h.uncommitted⟩
  intro c hc i hi hcov hstt
  obtain ⟨old, hold, rfl⟩ := mem_map.mp hc
  have hopen : i ∈ db.unfinishedItems old :=
    mem_filter.mpr ⟨hi, Bool.and_eq_true_iff.mpr ⟨hcov, decide_eq_true hstt⟩⟩
  exact KeysetCursor.advance_lt (mem_map_of_mem hopen)
    (h.cursor old hold i hi hcov hstt)

theorem capture {writer impactKey entityType entityKey : String}
    (hcapt : db.captureJobImpact writer impactKey entityType entityKey = .ok db') : Ahead db' := by
  unfold Db.captureJobImpact at hcapt
  split at hcapt
  · cases hcapt
    exact h
  · obtain ⟨_, _, hcapt⟩ := of_bind hcapt
    obtain ⟨_, _, hcapt⟩ := of_bind hcapt
    obtain ⟨_, hitems, hcapt⟩ := Except.of_ofOption_bind hcapt
    cases hcapt
    have hrows := Table.rows_insert? hitems
    refine ⟨?_, ?_, Nat.succ_pos _, ?_⟩
    · -- the new item is not visible yet
      intro c hc i hi hcov hstt
      obtain ⟨v, hv, hwr, rfl⟩ := mem_visibleItems.mp hi
      rw [hrows] at hv
      rcases mem_append.mp hv with hv | hv
      · exact h.cursor c hc v.row (mem_visibleItems.mpr ⟨v, hv, hwr, rfl⟩) hcov hstt
      · rw [mem_singleton.mp hv] at hwr
        cases hwr
    · intro v hv
      rw [hrows] at hv
      rcases mem_append.mp hv with hv | hv
      · exact h.positive v hv
      · rw [mem_singleton.mp hv]
        exact h.next
    · intro v hv hwr
      rw [hrows] at hv
      rcases mem_append.mp hv with hv | hv
      · exact h.uncommitted v hv hwr
      · rw [mem_singleton.mp hv]

theorem commit {writer : String} (htim : db.isTimely (.commit writer) = true) :
    Ahead (db.commit writer) := by
  refine ⟨?_, ?_, h.next, ?_⟩
  · intro c hc i hi hcov hstt
    obtain ⟨v, hv, hwr, rfl⟩ := mem_visibleItems.mp hi
    obtain ⟨old, hold, rfl⟩ := mem_map.mp hv
    by_cases hown : old.writer = some writer
    · rw [if_pos (decide_eq_true hown)] at hcov ⊢
      have htime := all_eq_true.mp htim old hold
      rw [Bool.or_eq_true, decide_eq_true_eq] at htime
      rcases htime with hoth | hall
      · exact absurd hown hoth
      · have hcurs := all_eq_true.mp hall c hc
        rw [Bool.or_eq_true, Bool.not_eq_true', decide_eq_true_eq] at hcurs
        rcases hcurs with houts | hlt
        · rw [houts] at hcov
          cases hcov
        · exact hlt
    · rw [if_neg (by simpa using hown)] at hwr hcov hstt ⊢
      exact h.cursor c hc old.row (mem_visibleItems.mpr ⟨old, hold, hwr, rfl⟩) hcov hstt
  · intro v hv
    obtain ⟨old, hold, rfl⟩ := mem_map.mp hv
    have hpos := h.positive old hold
    split
    · exact hpos
    · exact hpos
  · intro v hv hwr
    obtain ⟨old, hold, rfl⟩ := mem_map.mp hv
    by_cases hown : old.writer = some writer
    · rw [if_pos (decide_eq_true hown)] at hwr
      exact absurd rfl hwr
    · rw [if_neg (by simpa using hown)] at hwr ⊢
      exact h.uncommitted old hold hwr

theorem rollback (writer : String) : Ahead (db.rollback writer) := by
  refine ⟨?_, fun v hv => h.positive v (mem_filter.mp hv).1, h.next,
    fun v hv => h.uncommitted v (mem_filter.mp hv).1⟩
  intro c hc i hi hcov hstt
  obtain ⟨v, hv, hwr, rfl⟩ := mem_visibleItems.mp hi
  exact h.cursor c hc v.row
    (mem_visibleItems.mpr ⟨v, (mem_filter.mp hv).1, hwr, rfl⟩) hcov hstt

theorem freeze {scope cycleId : String} (hfree : db.freeze scope cycleId = .ok db') :
    Ahead db' := by
  obtain ⟨workItems, happ, hfree⟩ := Except.of_ofOption_bind hfree
  cases hfree
  have hrows := Table.rows_append? happ
  have hpos : ∀ v ∈ workItems.rows, 0 < v.row.workItemId := by
    intro v hv
    rw [hrows] at hv
    rcases mem_append.mp hv with hv | hv
    · exact h.positive v hv
    · obtain ⟨n, hn, rfl⟩ := mem_mapIdx.mp hv
      exact Nat.add_pos_left h.next n
  refine ⟨?_, hpos, Nat.add_pos_left h.next _, ?_⟩
  swap
  · intro v hv hwr
    rw [hrows] at hv
    rcases mem_append.mp hv with hv | hv
    · exact h.uncommitted v hv hwr
    · obtain ⟨n, hn, rfl⟩ := mem_mapIdx.mp hv
      rfl
  intro c hc i hi hcov hstt
  obtain ⟨v, hv, hwr, rfl⟩ := mem_visibleItems.mp hi
  rcases mem_append.mp hc with hc | hc
  · -- the cycles of the other scopes
    obtain ⟨hc, hsc⟩ := mem_filter.mp hc
    rw [hrows] at hv
    rcases mem_append.mp hv with hv | hv
    · exact h.cursor c hc v.row (mem_visibleItems.mpr ⟨v, hv, hwr, rfl⟩) hcov hstt
    · obtain ⟨_, _, rfl⟩ := mem_mapIdx.mp hv
      rw [Watermark.covers, Bool.and_eq_true, decide_eq_true_eq] at hcov
      exact absurd hcov.1.symm (of_decide_eq_true hsc)
  · rw [mem_singleton.mp hc]
    exact hpos v hv

end

theorem cycleInvariant : CycleInvariant Ahead :=
  ⟨fun h => h.freeze, fun h => h.updateItems, fun h => h.advance⟩

theorem act (h : Ahead db) {action : Action} (htim : db.isTimely action = true) :
    Ahead (db.act action) := by
  unfold Db.act
  split
  · rename_i hact
    cases action with
    | capture writer impactKey entityType entityKey => exact h.capture hact
    | commit writer =>
      cases hact
      exact h.commit htim
    | rollback writer =>
      cases hact
      exact h.rollback writer
    | begin | claim | complete | renew | retry | recordRawPage =>
      exact cycleInvariant.tryAct rfl hact h
  · exact h

end Ahead

/-- A late commit leaves an item that no claim can take. -/
theorem not_complete_of_late {db : Db} {action : Action} (hlate : db.isTimely action = false)
    (hpend : ∀ v ∈ db.workItems.rows, v.writer ≠ none → v.row.state = .pending) :
    ¬ (db.act action).Complete := by
  cases action with
  | commit writer =>
    intro hcomp
    obtain ⟨v, hv, hvlate⟩ := all_eq_false.mp hlate
    rw [Bool.or_eq_true, not_or, Bool.not_eq_true, Bool.not_eq_true, decide_eq_false_iff_not,
      not_not] at hvlate
    obtain ⟨hwr, hlate⟩ := hvlate
    obtain ⟨c, hc, hclate⟩ := all_eq_false.mp hlate
    rw [Bool.or_eq_true, not_or, Bool.not_eq_true, Bool.not_eq_false', decide_eq_true_eq]
      at hclate
    have hstt := hpend v hv (by rw [hwr]; exact Option.some_ne_none _)
    have hvis : v.row ∈ (db.commit writer).visibleItems := by
      refine mem_visibleItems.mpr ⟨{ v with writer := none }, mem_map.mpr ⟨v, hv, ?_⟩, rfl, rfl⟩
      rw [if_pos (decide_eq_true hwr)]
    have hopen : v.row.state ≠ .completed := by
      rw [hstt]
      decide
    rcases (hcomp c hc v.row hvis hclate.1 hopen).1 with habove | hproc
    · exact hclate.2 habove.2
    · rw [hstt] at hproc
      cases hproc
  | _ => cases hlate

/-! ### Whole runs -/

theorem Ahead.run_iff {db : Db} (h : Ahead db) (actions : List Action) :
    (∀ n, (db.run (actions.take n)).Complete) ↔ db.isTimelyRun actions = true := by
  induction actions generalizing db with
  | nil =>
    refine ⟨fun _ => rfl, fun _ n => ?_⟩
    rw [take_nil]
    exact h.complete
  | cons action actions ih =>
    rw [Db.isTimelyRun, Bool.and_eq_true]
    cases htim : db.isTimely action with
    | false =>
      refine ⟨fun hall => ?_, fun hrun => absurd hrun.1 Bool.false_ne_true⟩
      exact absurd (hall 1) (not_complete_of_late htim h.uncommitted)
    | true =>
      rw [← ih (h.act htim)]
      refine ⟨fun hall => ⟨rfl, fun n => hall (n + 1)⟩, fun hrun n => ?_⟩
      cases n with
      | zero => exact h.complete
      | succ n => exact hrun.2 n

theorem ahead_empty : Ahead {} where
  cursor := fun _ hc => absurd hc not_mem_nil
  positive := fun _ hv => absurd hv not_mem_nil
  next := Nat.one_pos
  uncommitted := fun _ hv => absurd hv not_mem_nil

/-- A cycle can reach all its open items, in every state of a run, exactly when no writer commits
an item of a cycle behind its cursor. -/
theorem cycle_reaches_all_items_iff (actions : List Action) :
    (∀ n, (Db.run {} (actions.take n)).Complete) ↔ Db.isTimelyRun {} actions = true :=
  ahead_empty.run_iff actions

/-- Two writers: the cycle completes the item of the second while the first is still open. -/
def openWriter : List Action :=
  [.capture "first" "key-1" "order" "1", .capture "second" "key-2" "order" "2",
    .commit "second", .begin "clue_materialization" "cycle-1",
    .claim { cycleId := "cycle-1", leaseToken := "attempt-1", clock := 0 },
    .complete [2] "attempt-1" 1]

/-- The item of the first writer ends up pending behind the cursor, and no new cycle begins. -/
theorem late_item_unreachable : ¬ ((Db.run {} openWriter).act (.commit "first")).Complete ∧
      ((Db.run {} openWriter).act (.commit "first")).visibleItems.map
        (fun i => (i.workItemId, i.impactId, i.state)) = [(1, 1, .pending), (2, 2, .completed)] ∧
      (((Db.run {} openWriter).act (.commit "first")).act
        (.begin "clue_materialization" "cycle-2")).watermarks.rows =
          [⟨"clue_materialization", "cycle-1", 2, 2⟩] := by
  refine ⟨not_complete_of_late ?_ ?_, ?_, ?_⟩
  · decide +kernel
  · decide +kernel
  · decide +kernel
  · decide +kernel

end DyData.Materialization
