import DyData.BillingSourceMatch

/-!
When the captured sources are the published figures: exactly when no adjustment is based on two
frozen entries, and the adjustments on frozen bases come to the same under the labels of their
entries as under their own.
-/

namespace DyData.Settlement

open Relational List

/-- `(source_type, source_record_id)`. -/
def StatementSource.identity (s : StatementSource) : SourceType × String :=
  (s.sourceType, s.sourceRecordId)

def AuthorityRow.identity (r : AuthorityRow) : SourceType × String := (r.sourceKind, r.sourceId)

/-! ### The capture of all months -/

section Sources

variable {db : Db} {env : Env} {snapshots : SourceSnapshots} {months : List Month}
  {slots : List (String × Month)} {sources : List StatementSource}

theorem collectBillingSources_ok (hmos : months ≠ [])
    (h : db.collectBillingSources env snapshots months slots = .ok sources) :
    db.validateProtectedAuthority env months = .ok () ∧
      (db.sourceReferences months).mapM (db.captureSource snapshots) = .ok sources := by
  unfold Db.collectBillingSources at h
  rw [if_neg (by simpa using hmos)] at h
  obtain ⟨_, -, h⟩ := Except.of_bind h
  obtain ⟨_, hval, h⟩ := Except.of_bind h
  exact ⟨hval, h⟩

/-- The sources are the rows of the relation, each captured, in some order. -/
theorem exists_captured (hidx : db.PointersIndexed)
    (hchk : ∀ row ∈ db.frozenEntries months, db.CheckedEntry row.2 row.1)
    (h : (db.sourceReferences months).mapM (db.captureSource snapshots) = .ok sources) :
    ∃ captured, Forall₂ db.Captured (db.authoritySources months) captured ∧
      captured.Perm sources := by
  have hall := Except.mapM_eq_ok_iff.mp h
  obtain ⟨captured, hcap, hperm⟩ :=
    perm_comp_forall₂ (perm_sourceReferences hidx months).symm hall
  rw [forall₂_map_left_iff] at hcap
  refine ⟨captured, ?_, hperm⟩
  have hmem : Forall₂ (fun r s => r ∈ db.authoritySources months ∧
      db.captureSource snapshots r.reference = .ok s) (db.authoritySources months) captured :=
    (forall₂_and_left _ _).mpr ⟨fun r hr => hr, hcap⟩
  exact hmem.imp fun r s hrs => captured_of_captureSource hchk hrs.1 hrs.2

end Sources

/-! ### Identities -/

section Identities

variable {db : Db} {months : List Month}

/-- No adjustment of the months that can be posted is based on two frozen entries whose slots are
open. -/
def Db.UnambiguousBases (db : Db) (months : List Month) : Prop :=
  ∀ a ∈ db.adjustments.rows, (db.feeResults.get? a.originalFeeResultId).isSome = true →
    a.adjustmentPostingMonth ∈ months → db.activeAdjustment a = true →
    db.billing.frozenAdjustment a = false →
    ((db.basesOf a).filter fun basis => !db.billing.protectedSlot (some basis.2.storeId)
      a.adjustmentPostingMonth).length ≤ 1

def Db.rowsOf (db : Db) (months : List Month) (a : FeeAdjustment) :
    List (FeeAdjustment × FeeResult × Option (StatementEntry × Statement)) :=
  (match db.feeResults.get? a.originalFeeResultId with
    | none => []
    | some r => (outerJoined (db.basesOf a)).map fun basis => (a, r, basis)).filter
      (db.authoritativeAdjustment months)

theorem fst_of_mem_rowsOf {a : FeeAdjustment}
    {row : FeeAdjustment × FeeResult × Option (StatementEntry × Statement)}
    (h : row ∈ db.rowsOf months a) : row.1 = a := by
  have hrow := (mem_filter.mp h).1
  split at hrow
  · cases hrow
  · obtain ⟨_, -, rfl⟩ := mem_map.mp hrow
    rfl

theorem filter_basedAdjustments : db.basedAdjustments.filter (db.authoritativeAdjustment months) =
      db.adjustments.rows.flatMap (db.rowsOf months) :=
  filter_flatMap

/-- An adjustment has more than one row exactly when several of its bases are in open slots. -/
theorem length_rowsOf_le_one (a : FeeAdjustment) : (db.rowsOf months a).length ≤ 1 ↔
    ((db.feeResults.get? a.originalFeeResultId).isSome = true →
      a.adjustmentPostingMonth ∈ months → db.activeAdjustment a = true →
      db.billing.frozenAdjustment a = false →
      ((db.basesOf a).filter fun basis => !db.billing.protectedSlot (some basis.2.storeId)
        a.adjustmentPostingMonth).length ≤ 1) := by
  unfold Db.rowsOf
  cases hres : db.feeResults.get? a.originalFeeResultId with
  | none => simp
  | some r =>
    rw [filter_map, length_map]
    cases hbases : db.basesOf a with
    | nil =>
      -- the one row without a basis
      have hle := length_filter_le (db.authoritativeAdjustment months ∘
        fun basis => (a, r, basis)) (outerJoined ([] : List (StatementEntry × Statement)))
      exact iff_of_true hle fun _ _ _ _ => Nat.zero_le 1
    | cons basis rest =>
      unfold outerJoined
      rw [filter_map, length_map]
      -- every row has a basis, so it only depends on the adjustment and on the slot of the basis
      by_cases hpost : a.adjustmentPostingMonth ∈ months ∧ db.activeAdjustment a = true ∧
          db.billing.frozenAdjustment a = false
      · obtain ⟨hmo, hact, hfroz⟩ := hpost
        have hrows : ∀ b : StatementEntry × Statement,
            ((db.authoritativeAdjustment months ∘ fun basis => (a, r, basis)) ∘ some) b =
              !db.billing.protectedSlot (some b.2.storeId) a.adjustmentPostingMonth := by
          simp [Db.authoritativeAdjustment, adjustmentStore, hmo, hact, hfroz]
        rw [filter_congr fun b _ => hrows b]
        exact ⟨fun h _ _ _ _ => h, fun h => h rfl hmo hact hfroz⟩
      · have hnone : ((basis :: rest).filter
            ((db.authoritativeAdjustment months ∘ fun basis => (a, r, basis)) ∘ some)) = [] := by
          refine filter_eq_nil_iff.mpr fun b _ hrow => hpost ?_
          simp only [Function.comp_apply, Db.authoritativeAdjustment, Bool.and_eq_true,
            Bool.not_eq_true', contains_iff_mem] at hrow
          exact ⟨hrow.1.1.1.1, hrow.1.1.1.2, hrow.1.2⟩
        rw [hnone]
        refine iff_of_true (Nat.zero_le 1) fun _ hmo hact hfroz => ?_
        exact absurd ⟨hmo, hact, hfroz⟩ hpost

theorem nodup_adjustment_ids : ((db.adjustmentAuthorityRows months).map
    AuthorityRow.identity).Nodup ↔ db.UnambiguousBases months := by
  unfold Db.adjustmentAuthorityRows
  rw [map_map, filter_basedAdjustments, map_flatMap, nodup_flatMap]
  have hsame : ∀ a, (db.rowsOf months a).map (AuthorityRow.identity ∘ adjustmentAuthorityRow) =
      replicate (db.rowsOf months a).length (SourceType.adjustment, a.adjustmentId) := by
    intro a
    refine eq_replicate_iff.mpr ⟨length_map _, fun x hx => ?_⟩
    obtain ⟨_, hrow, rfl⟩ := mem_map.mp hx
    exact congrArg (fun a : FeeAdjustment => (SourceType.adjustment, a.adjustmentId))
      (fst_of_mem_rowsOf hrow)
  have hapart : db.adjustments.rows.Pairwise (Function.onFun List.Disjoint fun a =>
      (db.rowsOf months a).map (AuthorityRow.identity ∘ adjustmentAuthorityRow)) := by
    have hrows : db.adjustments.rows.Nodup := Nodup.of_map _ db.adjustments.nodup
    refine hrows.imp_of_mem fun {a b} ha hb hne x hx hy => hne ?_
    dsimp only at hx hy
    rw [hsame] at hx hy
    have hid := (eq_of_mem_replicate hx).symm.trans (eq_of_mem_replicate hy)
    exact db.adjustments.eq_of_key_eq ha hb (Prod.mk.inj hid).2
  rw [and_iff_left hapart]
  refine forall₂_congr fun a _ => ?_
  rw [hsame, nodup_replicate]
  exact length_rowsOf_le_one a

/-- A frozen original is not counted as a live result as well. -/
theorem disjoint_result_frozen (hchk : ∀ row ∈ db.frozenEntries months, db.CheckedEntry row.2 row.1)
    {r : AuthorityRow} (hr : r ∈ db.resultAuthorityRows months) {r' : AuthorityRow}
    (hr' : r' ∈ db.frozenAuthorityRows months) : r.identity ≠ r'.identity := by
  intro hid
  obtain ⟨result, hres, rfl⟩ := mem_map.mp hr
  obtain ⟨⟨e, bill⟩, hrow, rfl⟩ := mem_map.mp hr'
  obtain ⟨hcur, hopen⟩ := mem_filter.mp hres
  have hkind : SourceType.original = e.sourceType := (Prod.mk.inj hid).1
  have hrec : result.feeResultId = e.sourceRecordId := (Prod.mk.inj hid).2
  obtain ⟨_, hs⟩ := (hchk _ hrow).2
  obtain ⟨original, horig, hsame⟩ := (statementSourceFromEntry_ok hs).2 hkind.symm
  simp only [sameFrozenPrimary, bool_to_prop] at hsame
  obtain ⟨⟨⟨⟨⟨⟨⟨⟨⟨-, hid⟩, -⟩, hcoup⟩, -⟩, hdir⟩, -⟩, -⟩, -⟩, -⟩ := hsame
  -- the entry names the result itself, which is therefore frozen
  have hres : result = original :=
    db.feeResults.eq_of_key_eq (mem_feeResults_of_current hcur)
      (db.feeResults.mem_of_get? horig) (hrec.trans hid)
  have hchn : db.billing.frozenPrimaryChain result.couponId result.feeDirection = true := by
    refine any_eq_true.mpr ⟨(e, bill), (mem_filter.mp hrow).1, ?_⟩
    simp [← hkind, hcoup, hdir, hres]
  simp [hchn] at hopen

theorem disjoint_adjustment_frozen {r : AuthorityRow} (hr : r ∈ db.adjustmentAuthorityRows months)
    {r' : AuthorityRow} (hr' : r' ∈ db.frozenAuthorityRows months) : r.identity ≠ r'.identity := by
  intro hid
  obtain ⟨⟨a, _, _⟩, hrow, rfl⟩ := mem_map.mp hr
  obtain ⟨⟨e, bill⟩, hent, rfl⟩ := mem_map.mp hr'
  have hkind : SourceType.adjustment = e.sourceType := (Prod.mk.inj hid).1
  have hrec : a.adjustmentId = e.sourceRecordId := (Prod.mk.inj hid).2
  have hauth := (mem_filter.mp hrow).2
  have hfroz : db.billing.frozenAdjustment a = true := by
    refine any_eq_true.mpr ⟨(e, bill), (mem_filter.mp hent).1, ?_⟩
    simp [← hkind, hrec]
  simp [Db.authoritativeAdjustment, hfroz] at hauth

theorem nodup_identities (hidx : db.PointersIndexed)
    (hfroz : ((db.frozenEntries months).map fun row => row.1.identity).Nodup)
    (hchk : ∀ row ∈ db.frozenEntries months, db.CheckedEntry row.2 row.1) :
    ((db.authoritySources months).map AuthorityRow.identity).Nodup ↔
      db.UnambiguousBases months := by
  unfold Db.authoritySources
  rw [map_append, map_append, nodup_append, nodup_append, ← nodup_adjustment_ids]
  constructor
  · rintro ⟨⟨-, hadjs, -⟩, -, -⟩
    exact hadjs
  · intro hadjs
    refine ⟨⟨?_, hadjs, ?_⟩, ?_, ?_⟩
    · refine Nodup.of_map Prod.snd ?_
      rw [map_map]
      exact nodup_resultAuthorityRows hidx months
    · intro x hx y hy hxy
      obtain ⟨r, hr, rfl⟩ := mem_map.mp hx
      obtain ⟨r', hr', rfl⟩ := mem_map.mp hy
      have hkind : r.sourceKind = r'.sourceKind := (Prod.mk.inj hxy).1
      rw [(kind_resultAuthorityRows hr).1, (kind_adjustmentAuthorityRows hr').1] at hkind
      cases hkind
    · unfold Db.frozenAuthorityRows
      rw [map_map]
      exact hfroz
    · intro x hx y hy
      obtain ⟨_, hr', rfl⟩ := mem_map.mp hy
      rcases mem_append.mp hx with hx | hx
      · obtain ⟨r, hr, rfl⟩ := mem_map.mp hx
        exact disjoint_result_frozen hchk hr hr'
      · obtain ⟨_, hr, rfl⟩ := mem_map.mp hx
        exact disjoint_adjustment_frozen hr hr'

end Identities

/-! ### Amounts -/

section Amounts

def counts (label : Direction × String × String) (direction : Direction)
    (dimension : String × String) : Bool :=
  label.1 = direction && covers label.2.1 label.2.2 dimension

def AuthorityRow.label (r : AuthorityRow) : Direction × String × String :=
  (r.feeDirection, r.sourceProductScope, r.sourceProductType)

def AuthorityRow.posted (r : AuthorityRow) : Int × Int × Int :=
  postedAmounts r.sourceKind r.baseAmountCent r.feeAmountCent

def StatementSource.posted (s : StatementSource) : Int × Int × Int :=
  postedAmounts s.sourceType s.baseAmountCent s.feeAmountCent

def slotAmounts (rows : List AuthorityRow) (label : AuthorityRow → Direction × String × String)
    (storeId : String) (month : Month) (direction : Direction) (dimension : String × String) :
    Int × Int × Int :=
  ((rows.filter fun r => r.storeId = some storeId && r.month = month &&
    counts (label r) direction dimension).map AuthorityRow.posted).sum

theorem validateProjection_ok {rows : List StatementSource}
    {projected : List ((String × String) × MonthlyFigures)} :
    validateProjection rows projected = .ok () ↔ ∀ key,
      ((actualAmounts rows).value? key).getD 0 = ((expectedAmounts projected).value? key).getD 0 := by
  unfold validateProjection
  rw [Except.ensure_eq_ok_iff, all_eq_true]
  constructor
  · intro h key
    by_cases hkey : key ∈ (expectedAmounts projected).rows.map Prod.fst ++
        (actualAmounts rows).rows.map Prod.fst
    · exact of_decide_eq_true (h key hkey)
    · -- a key of neither side counts as zero on both
      rw [mem_append, not_or] at hkey
      rw [Dict.value?_eq_none_iff.mpr hkey.1, Dict.value?_eq_none_iff.mpr hkey.2]
  · exact fun h key _ => decide_eq_true (h key)

theorem getD_actualAmounts (rows : List StatementSource) (direction : Direction)
    (dimension : String × String) : ((actualAmounts rows).value? (direction, dimension)).getD 0 =
      ((rows.filter fun s => counts (s.feeDirection, orAll s.productScope, orAll s.productType)
        direction dimension).map StatementSource.posted).sum := by
  unfold actualAmounts
  rw [Dict.getD_tally_add, Dict.entriesOf_spread _ _ _ fun s => nodup_projectionDimensions _ _]
  refine congrArg (fun l => (l.map StatementSource.posted).sum) (filter_congr fun s _ => ?_)
  congr 1
  rw [Bool.eq_iff_iff]
  simpa only [decide_eq_true_eq] using mem_projectionDimensions

theorem entriesOf_expected (projected : List ((String × String) × MonthlyFigures))
    (direction : Direction) (dimension : String × String) :
    Dict.entriesOf (direction, dimension) (projected.flatMap fun row =>
        [((Direction.promotion, row.1), row.2.amounts .promotion),
          ((Direction.management, row.1), row.2.amounts .management)]) =
      (Dict.entriesOf dimension projected).map fun figures => figures.amounts direction := by
  induction projected with
  | nil => rfl
  | cons row projected ih =>
    rw [flatMap_cons, cons_append, cons_append, nil_append,
      Dict.entriesOf_cons, Dict.entriesOf_cons, Dict.entriesOf_cons, ih]
    by_cases hrow : row.1 = dimension <;> cases direction <;> simp [hrow]

theorem getD_expectedAmounts {projected : List ((String × String) × MonthlyFigures)}
    (hkeys : (projected.map Prod.fst).Nodup) (direction : Direction) (dimension : String × String) :
    ((expectedAmounts projected).value? (direction, dimension)).getD 0 =
      (((projected.find? fun row => row.1 = dimension).map Prod.snd).map
        fun figures => figures.amounts direction).getD 0 := by
  unfold expectedAmounts
  rw [Dict.value?_tally, entriesOf_expected, Dict.entriesOf_of_nodup hkeys]
  cases projected.find? fun row => row.1 = dimension <;> rfl

theorem amounts_monthlyFigures (figures : List Figure) (direction : Direction) :
    (monthlyFigures figures).amounts direction =
      ((figures.filter fun f => f.feeDirection = direction).map fun f =>
        postedAmounts f.sourceType f.baseAmountCent f.feeAmountCent).sum := by
  induction figures with
  | nil => cases direction <;> rfl
  | cons f figures ih =>
    have hcons : (monthlyFigures (f :: figures)).amounts direction =
        (if f.feeDirection = direction then
          postedAmounts f.sourceType f.baseAmountCent f.feeAmountCent else 0) +
          (monthlyFigures figures).amounts direction := by
      cases direction <;> cases hkind : f.sourceType <;> cases hdir : f.feeDirection <;>
        simp [monthlyFigures, MonthlyFigures.amounts, sumWhere, Figure.is, postedAmounts, hkind,
          hdir]
    rw [hcons, ih, filter_cons]
    by_cases hdir : f.feeDirection = direction
    · rw [if_pos hdir, if_pos (decide_eq_true hdir), map_cons, sum_cons]
    · rw [if_neg hdir, if_neg (by simpa using hdir), zero_add]

end Amounts

/-! ### Slots -/

section Slots

variable {db : Db} {months : List Month}

/-- The relation of one month is that month of the relation of several. -/
theorem authoritySources_singleton {month : Month} (hmo : month ∈ months) :
    db.authoritySources [month] = (db.authoritySources months).filter fun r => r.month = month := by
  have hkey : ∀ m : Month, [month].contains m = (decide (m = month) && months.contains m) := by
    intro m
    by_cases hm : m = month
    · simp [hm, hmo]
    · simp [hm]
  unfold Db.authoritySources
  rw [filter_append, filter_append]
  congr 1
  · congr 1
    · unfold Db.resultAuthorityRows
      rw [filter_map, filter_filter]
      refine congrArg (map _) (filter_congr fun r _ => ?_)
      rw [hkey, Bool.and_assoc, Bool.and_assoc, Bool.and_assoc]
      rfl
    · unfold Db.adjustmentAuthorityRows
      rw [filter_map, filter_filter]
      refine congrArg (map _) (filter_congr fun row _ => ?_)
      dsimp only [Db.authoritativeAdjustment]
      rw [hkey]
      simp only [Bool.and_assoc]
      rfl
  · unfold Db.frozenAuthorityRows
    rw [filter_map, filter_filter]
    refine congrArg (map _) (filter_congr fun row _ => ?_)
    exact hkey _

theorem month_of_mem_authoritySources {r : AuthorityRow} (hr : r ∈ db.authoritySources months) :
    r.month ∈ months := by
  rcases mem_append.mp hr with hr | hr
  · rcases mem_append.mp hr with hr | hr
    · obtain ⟨result, hres, rfl⟩ := mem_map.mp hr
      have hopen := (mem_filter.mp hres).2
      simp only [Bool.and_eq_true, contains_iff_mem] at hopen
      exact hopen.1.1
    · obtain ⟨⟨_, _, _⟩, hrow, rfl⟩ := mem_map.mp hr
      have hauth := (mem_filter.mp hrow).2
      simp only [Db.authoritativeAdjustment, Bool.and_eq_true, contains_iff_mem] at hauth
      exact hauth.1.1.1.1
  · obtain ⟨⟨_, _⟩, hrow, rfl⟩ := mem_map.mp hr
    exact contains_iff_mem.mp (mem_filter.mp hrow).2

theorem nodup_authoritySources_of_indexed (hidx : db.PointersIndexed) (months : List Month) :
    (db.authoritySources months).Nodup :=
  Nodup.of_map _ (nodup_references hidx months)

theorem nodup_projectedRows (storeId : String) (month : Month) :
    ((db.projectedRows storeId month).map Prod.fst).Nodup := by
  have hrows : (((db.sparseMonthlyQuery month).rows.filter fun row =>
      row.1.1 = some storeId).map Prod.fst).Nodup :=
    (db.sparseMonthlyQuery month).nodup.sublist (filter_sublist.map _)
  have hst : ((db.sparseMonthlyQuery month).rows.filter fun row =>
      row.1.1 = some storeId).map Prod.fst =
      ((db.projectedRows storeId month).map Prod.fst).map fun dimension =>
        (some storeId, dimension) := by
    unfold Db.projectedRows
    rw [map_map, map_map]
    refine map_congr_left fun row hrow => ?_
    have hrow := of_decide_eq_true (mem_filter.mp hrow).2
    exact Prod.ext hrow rfl
  rw [hst] at hrows
  exact Nodup.of_map _ hrows

theorem find_projectedRows (storeId : String) (month : Month) (dimension : String × String) :
    ((db.projectedRows storeId month).find? fun row => row.1 = dimension).map Prod.snd =
      ((db.sparseMonthlyQuery month).value? (some storeId, dimension)).map
        SparseMonthlyRow.figures := by
  unfold Db.projectedRows Dict.value?
  rw [find?_map, find?_filter, Option.map_map, Option.map_map]
  refine congrArg (fun p => Option.map _ (find? p _)) (funext fun row => ?_)
  simp only [Function.comp_apply, decide_eq_true_eq, Prod.ext_iff]

theorem getD_amounts (figures : List Figure) (direction : Direction) :
    ((if figures = [] then none else some (monthlyFigures figures)).map
      fun m => m.amounts direction).getD 0 = (monthlyFigures figures).amounts direction := by
  split
  · rename_i hnil
    rw [hnil]
    cases direction <;> rfl
  · rfl

/-- The published amounts of a slot are those of its rows under their own labels. -/
theorem getD_projected (hidx : db.PointersIndexed) (storeId : String) {month : Month}
    (hmo : month ∈ months) (direction : Direction) (dimension : String × String) :
    ((expectedAmounts (db.projectedRows storeId month)).value? (direction, dimension)).getD 0 =
      slotAmounts (db.authoritySources months) AuthorityRow.label storeId month direction
        dimension := by
  rw [getD_expectedAmounts (nodup_projectedRows storeId month), find_projectedRows,
    figures_sparseMonthlyQuery (nodup_authoritySources_of_indexed hidx _), getD_amounts,
    amounts_monthlyFigures]
  unfold figuresAt slotAmounts
  rw [authoritySources_singleton hmo, filter_map, map_map, filter_filter, filter_filter]
  refine congrArg sum (congrArg (map _) (filter_congr fun r _ => ?_))
  simp only [Function.comp_apply, AuthorityRow.figure, counts, AuthorityRow.label]
  rw [Bool.eq_iff_iff]
  simp only [bool_to_prop]
  tauto

/-- The captured amounts of a slot are those of its rows under the labels they are captured
with. -/
theorem getD_captured {sources captured : List StatementSource}
    (hcap : Forall₂ db.Captured (db.authoritySources months) captured)
    (hperm : captured.Perm sources) (storeId : String) (month : Month) (direction : Direction)
    (dimension : String × String) : ((actualAmounts (sources.filter fun s => s.storeId = storeId &&
        s.postingMonth = month)).value? (direction, dimension)).getD 0 =
      slotAmounts (db.authoritySources months) db.capturedLabel storeId month direction
        dimension := by
  rw [getD_actualAmounts, filter_filter]
  have hsum := ((hperm.filter fun s => counts (s.feeDirection, orAll s.productScope,
    orAll s.productType) direction dimension && (s.storeId = storeId && s.postingMonth = month)).map
      StatementSource.posted).sum_eq
  rw [← hsum]
  refine congrArg sum
    (filter_map_eq_of_forall₂ hcap (fun r s h => ?_) fun r s h => ?_)
  · have hst : decide (r.storeId = some storeId) = decide (s.storeId = storeId) := by
      rw [← h.store]
      exact decide_eq_decide.mpr Option.some_inj
    rw [h.label, h.month, hst, Bool.and_comm]
  · unfold StatementSource.posted AuthorityRow.posted
    rw [h.sourceType, h.base, h.fee]

/-- The labels of an adjustment on a frozen basis: its own, with the labels of the result where
the entry has none, and those of the entry. -/
def ownLabel (row : FeeAdjustment × FeeResult × Option (StatementEntry × Statement)) :
    Direction × String × String :=
  (row.1.feeDirection, basisLabel (row.2.2.map fun b => b.1.productScope) row.2.1.productScope,
    basisLabel (row.2.2.map fun b => b.1.productType) row.2.1.productType)

def basisEntryLabel (row : FeeAdjustment × FeeResult × Option (StatementEntry × Statement)) :
    Direction × String × String :=
  match row.2.2 with
  | some (e, _) => (e.feeDirection, orAll e.productScope, orAll e.productType)
  | none => ownLabel row

/-- What the adjustments on frozen bases that are posted to a slot come to under one reading of
their labels. -/
def Db.frozenBasisAmounts (db : Db) (months : List Month)
    (label : FeeAdjustment × FeeResult × Option (StatementEntry × Statement) →
      Direction × String × String)
    (storeId : String) (month : Month) (direction : Direction) (dimension : String × String) :
    Int × Int × Int :=
  ((db.basedAdjustments.filter fun row => row.2.2.isSome &&
    db.authoritativeAdjustment months row && adjustmentStore row.1 row.2.1 row.2.2 = some storeId &&
    row.1.adjustmentPostingMonth = month && counts (label row) direction dimension).map fun row =>
      postedAmounts .adjustment row.1.adjustmentBaseCent row.1.adjustmentFeeCent).sum

/-- In every open slot the adjustments on frozen bases come to the same under the labels of the
frozen entries as under their own. -/
def Db.BalancedBases (db : Db) (months : List Month) : Prop :=
  ∀ storeId, ∀ month ∈ months, db.billing.protectedSlot (some storeId) month = false →
    ∀ direction dimension,
      db.frozenBasisAmounts months basisEntryLabel storeId month direction dimension =
        db.frozenBasisAmounts months ownLabel storeId month direction dimension

theorem balancedBases_of_labels
    (hlab : ∀ row ∈ db.basedAdjustments, basisEntryLabel row = ownLabel row) :
    db.BalancedBases months := by
  intro storeId month _ _ direction dimension
  refine congrArg sum (congrArg (map _) (filter_congr fun row hrow => ?_))
  rw [hlab row hrow]

theorem slotAmounts_split (label : AuthorityRow → Direction × String × String)
    (rowLabel : FeeAdjustment × FeeResult × Option (StatementEntry × Statement) →
      Direction × String × String)
    (hlabel : ∀ row ∈ db.basedAdjustments, label (adjustmentAuthorityRow row) = rowLabel row)
    (storeId : String) (month : Month) (direction : Direction) (dimension : String × String) :
    slotAmounts (db.authoritySources months) label storeId month direction dimension =
      db.frozenBasisAmounts months rowLabel storeId month direction dimension +
        slotAmounts ((db.authoritySources months).filter fun r => !r.basisEntryId.isSome) label
          storeId month direction dimension := by
  have hbased : (db.authoritySources months).filter (fun r => r.basisEntryId.isSome) =
      (db.adjustmentAuthorityRows months).filter fun r => r.basisEntryId.isSome := by
    have hress : (db.resultAuthorityRows months).filter (fun r => r.basisEntryId.isSome) = [] :=
      filter_eq_nil_iff.mpr fun r hr => by simp [(kind_resultAuthorityRows hr).2.2]
    have hfroz : (db.frozenAuthorityRows months).filter (fun r => r.basisEntryId.isSome) = [] :=
      filter_eq_nil_iff.mpr fun r hr => by simp [(kind_frozenAuthorityRows hr).2]
    unfold Db.authoritySources
    rw [filter_append, filter_append, hress, hfroz, nil_append, append_nil]
  have hspl : slotAmounts (db.authoritySources months) label storeId month direction dimension =
      slotAmounts ((db.authoritySources months).filter fun r => r.basisEntryId.isSome) label
          storeId month direction dimension +
        slotAmounts ((db.authoritySources months).filter fun r => !r.basisEntryId.isSome) label
          storeId month direction dimension := by
    unfold slotAmounts
    rw [← sum_append, ← map_append, ← filter_append]
    exact (((filter_append_perm _ _).filter _).map _).sum_eq.symm
  rw [hspl, hbased]
  congr 1
  unfold slotAmounts Db.frozenBasisAmounts Db.adjustmentAuthorityRows
  rw [filter_map, filter_map, map_map, filter_filter, filter_filter]
  refine congrArg sum (congrArg (map _) (filter_congr fun row hrow => ?_))
  obtain ⟨a, r, basis⟩ := row
  have hsome : (adjustmentAuthorityRow (a, r, basis)).basisEntryId.isSome = basis.isSome := by
    cases basis <;> rfl
  simp only [Function.comp_apply, hlabel _ hrow, hsome]
  rw [Bool.eq_iff_iff]
  simp only [bool_to_prop]
  simp only [adjustmentAuthorityRow]
  tauto

/-- A slot agrees under both readings exactly when its adjustments on frozen bases do. -/
theorem slotAmounts_eq_iff (storeId : String) (month : Month) (direction : Direction)
    (dimension : String × String) :
    slotAmounts (db.authoritySources months) db.capturedLabel storeId month direction dimension =
        slotAmounts (db.authoritySources months) AuthorityRow.label storeId month direction
          dimension ↔
      db.frozenBasisAmounts months basisEntryLabel storeId month direction dimension =
        db.frozenBasisAmounts months ownLabel storeId month direction dimension := by
  have hent : ∀ row ∈ db.basedAdjustments,
      db.capturedLabel (adjustmentAuthorityRow row) = basisEntryLabel row := by
    rintro ⟨a, r, basis⟩ hrow
    cases basis with
    | none => rfl
    | some basis =>
      obtain ⟨-, -, hbases⟩ := mem_basedAdjustments hrow
      have hget : db.billing.entries.get? basis.1.statementEntryId = some basis.1 :=
        db.billing.entries.get?_of_mem
          (mem_entries_of_protected (mem_filter.mp (hbases basis rfl)).1)
      simp only [Db.capturedLabel, adjustmentAuthorityRow, Option.map_some, Option.bind_some, hget]
      rfl
  have hrest : slotAmounts ((db.authoritySources months).filter fun r => !r.basisEntryId.isSome)
        db.capturedLabel storeId month direction dimension =
      slotAmounts ((db.authoritySources months).filter fun r => !r.basisEntryId.isSome)
        AuthorityRow.label storeId month direction dimension := by
    refine congrArg sum (congrArg (map _) (filter_congr fun r hr => ?_))
    have hnone : r.basisEntryId = none := by
      simpa using (mem_filter.mp hr).2
    have hsame : db.capturedLabel r = r.label := by
      unfold Db.capturedLabel
      rw [hnone]
      rfl
    rw [hsame]
  rw [slotAmounts_split db.capturedLabel basisEntryLabel hent,
    slotAmounts_split AuthorityRow.label ownLabel fun _ _ => rfl, hrest]
  exact add_left_inj _

end Slots

/-- The captured sources name every source once, under a month that was asked for, and agree with
the published figures of every open slot, exactly when no adjustment has two open frozen bases and
the adjustments on frozen bases come to the same under both readings of their labels. -/
theorem captured_sources_match_published_iff {db : Db} {env : Env} {snapshots : SourceSnapshots}
    {months : List Month} {slots : List (String × Month)} {sources : List StatementSource}
    (hindex : db.PointersIndexed)
    (hcollect : db.collectBillingSources env snapshots months slots = .ok sources) :
    ((sources.map StatementSource.identity).Nodup ∧ (∀ s ∈ sources, s.postingMonth ∈ months) ∧
      ∀ storeId, ∀ month ∈ months, db.billing.protectedSlot (some storeId) month = false →
        validateProjection
          (sources.filter fun s => s.storeId = storeId && s.postingMonth = month)
          (db.projectedRows storeId month) = .ok ()) ↔
      db.UnambiguousBases months ∧ db.BalancedBases months := by
  by_cases hmonths : months = []
  · subst hmonths
    cases hcollect
    simp [Db.UnambiguousBases, Db.BalancedBases]
  obtain ⟨hvalid, hcapture⟩ := collectBillingSources_ok hmonths hcollect
  obtain ⟨hfrozen, hchecked⟩ := accepted_frozenEntries hvalid
  obtain ⟨captured, hcaptured, hperm⟩ := exists_captured hindex hchecked hcapture
  have hids : (sources.map StatementSource.identity).Nodup ↔ db.UnambiguousBases months := by
    rw [← (hperm.map _).nodup_iff, map_eq_of_forall₂ hcaptured
      (g := StatementSource.identity) (f := AuthorityRow.identity)
      fun r _ s h => Prod.ext h.sourceType h.sourceRecordId]
    exact nodup_identities hindex hfrozen hchecked
  have hposted : ∀ s ∈ sources, s.postingMonth ∈ months := by
    intro s hs
    have hmonth : s.postingMonth ∈ captured.map StatementSource.postingMonth :=
      mem_map_of_mem (hperm.mem_iff.mpr hs)
    rw [map_eq_of_forall₂ hcaptured (f := AuthorityRow.month) fun r _ s h => h.month] at hmonth
    obtain ⟨_, hr, hmonth⟩ := mem_map.mp hmonth
    rw [← hmonth]
    exact month_of_mem_authoritySources hr
  have hslot : ∀ storeId, ∀ month ∈ months,
      (validateProjection (sources.filter fun s => s.storeId = storeId && s.postingMonth = month)
        (db.projectedRows storeId month) = .ok () ↔ ∀ direction dimension,
          db.frozenBasisAmounts months basisEntryLabel storeId month direction dimension =
            db.frozenBasisAmounts months ownLabel storeId month direction dimension) := by
    intro storeId month hmonth
    rw [validateProjection_ok, Prod.forall]
    refine forall₂_congr fun direction dimension => ?_
    rw [getD_captured hcaptured hperm, getD_projected hindex storeId hmonth]
    exact slotAmounts_eq_iff storeId month direction dimension
  rw [hids, and_iff_right hposted]
  refine and_congr_right fun _ => forall_congr' fun storeId => forall₂_congr fun month hmonth => ?_
  exact imp_congr_right fun _ => hslot storeId month hmonth

namespace BillingSourceSample

def fee : FeeResult where
  feeResultId := "fee-1"
  couponId := "coupon-1"
  orderId := "order-1"
  feeDirection := .promotion
  resultVersion := 1
  originalBusinessMonth := formalSettlementStart
  saleStoreId := some "store-1"
  verifyStoreId := none
  productScope := "scope-1"
  productType := "type-1"
  sourceAmountCent := 10000
  refundedAmountCent := 0
  feeBaseCent := 10000
  feeRate := 1 / 10
  feeAmountCent := 1000
  ruleVersion := "rule-1"
  calculationRunId := "run-1"
  calculatedAt := 0

def refund : FeeAdjustment where
  adjustmentId := "adjustment-1"
  originalFeeResultId := "fee-1"
  refundEventId := some "refund-1"
  couponId := "coupon-1"
  orderId := "order-1"
  feeDirection := .promotion
  originalBusinessMonth := formalSettlementStart
  adjustmentPostingMonth := formalSettlementStart + 2
  adjustmentType := .partialRefund
  adjustmentBaseCent := -5000
  adjustmentFeeCent := -500
  ruleVersion := "rule-1"
  adjustmentReason := ""
  occurredAt := 0
  createdBy := "settlement:run-1"

def bill (id storeId : String) (month : Month) : Statement where
  statementId := id
  storeId := storeId
  statementMonth := month
  promotionOriginalFeeCent := 1000
  promotionNetFeeCent := 1000
  lockedAt := some 0

def line (id : String) : StatementLine where
  statementLineId := id
  statementId := id
  feeDirection := .promotion
  productScope := "scope-1"
  productType := "type-1"
  originalEntryCount := 1
  adjustmentEntryCount := 0
  originalBaseCent := 10000
  adjustmentBaseCent := 0
  netBaseCent := 10000
  originalFeeCent := 1000
  adjustmentFeeCent := 0
  netFeeCent := 1000

def entry (id : String) (month : Month) : StatementEntry where
  statementEntryId := id
  statementId := id
  statementLineId := id
  sourceType := .original
  sourceRecordId := "fee-1"
  originalFeeResultId := "fee-1"
  couponId := "coupon-1"
  orderId := "order-1"
  feeDirection := .promotion
  originalBusinessMonth := formalSettlementStart
  statementPostingMonth := month
  productScope := "scope-1"
  productType := "type-1"
  baseAmountCent := 10000
  feeAmountCent := 1000
  ruleVersion := "rule-1"

def billed : Db where
  feeResults := ⟨[fee], nodup_singleton _⟩
  currents := ⟨[⟨"coupon-1", .promotion, "fee-1"⟩], nodup_singleton _⟩
  adjustments := ⟨[refund], nodup_singleton _⟩
  billing :=
    { statements := ⟨[bill "bill-1" "store-1" formalSettlementStart], nodup_singleton _⟩
      lines := ⟨[line "bill-1"], nodup_singleton _⟩
      entries := ⟨[entry "bill-1" formalSettlementStart], nodup_singleton _⟩ }

def billedTwice : Db :=
  { billed with
    billing :=
      { statements := ⟨[bill "bill-1" "store-1" formalSettlementStart,
          bill "bill-2" "store-2" (formalSettlementStart + 1)], by decide +kernel⟩
        lines := ⟨[line "bill-1", line "bill-2"], by decide +kernel⟩
        entries := ⟨[entry "bill-1" formalSettlementStart,
          entry "bill-2" (formalSettlementStart + 1)], by decide +kernel⟩ } }

def env : Env := ⟨id, fun _ => formalSettlementStart⟩

def snapshots : SourceSnapshots := fun _ _ => {}

end BillingSourceSample

/-- The refund of a fee that one bill has frozen is captured once, as it is published. -/
theorem refund_of_billed_fee_matches :
    ∃ sources, BillingSourceSample.billed.collectBillingSources BillingSourceSample.env
        BillingSourceSample.snapshots [formalSettlementStart + 2] [] = .ok sources ∧
      sources.map StatementSource.identity = [(.adjustment, "adjustment-1")] ∧
      validateProjection (sources.filter fun s => s.storeId = "store-1" &&
          s.postingMonth = formalSettlementStart + 2)
        (BillingSourceSample.billed.projectedRows "store-1" (formalSettlementStart + 2)) =
          .ok () := by
  have hlabels : ∀ row ∈ BillingSourceSample.billed.basedAdjustments,
      basisEntryLabel row = ownLabel row := by
    decide +kernel
  have hbases : BillingSourceSample.billed.UnambiguousBases [formalSettlementStart + 2] := by
    intro a ha _ _ _ _
    rw [mem_singleton.mp ha]
    decide +kernel
  have hindex : BillingSourceSample.billed.PointersIndexed := nodup_singleton _
  obtain ⟨sources, hcollect, hids⟩ : ∃ sources,
      BillingSourceSample.billed.collectBillingSources BillingSourceSample.env
        BillingSourceSample.snapshots [formalSettlementStart + 2] [] = .ok sources ∧
      sources.map StatementSource.identity = [(.adjustment, "adjustment-1")] :=
    ⟨_, rfl, by decide +kernel⟩
  have hmatch := (captured_sources_match_published_iff hindex hcollect).mpr
    ⟨hbases, balancedBases_of_labels hlabels⟩
  exact ⟨sources, hcollect, hids, hmatch.2.2 "store-1" _ (mem_singleton_self _) (by decide +kernel)⟩

/-- An accepted state whose fee stands in two locked bills: its refund is captured for both stores. -/
theorem refund_of_fee_in_two_bills_is_captured_twice :
    BillingSourceSample.billedTwice.PointersIndexed ∧
      (BillingSourceSample.billedTwice.validateProtectedAuthority BillingSourceSample.env
        [formalSettlementStart + 2]).isOk = true ∧
      (BillingSourceSample.billedTwice.validateProtectedAuthority BillingSourceSample.env
        [formalSettlementStart, formalSettlementStart + 1]).isOk = false ∧
      (BillingSourceSample.billedTwice.collectBillingSources BillingSourceSample.env
        BillingSourceSample.snapshots [formalSettlementStart + 2] []).toOption.map
          (fun sources => sources.map fun s => (s.identity, s.storeId, s.postingMonth)) =
        some [((.adjustment, "adjustment-1"), "store-1", formalSettlementStart + 2),
          ((.adjustment, "adjustment-1"), "store-2", formalSettlementStart + 2)] :=
  ⟨nodup_singleton _, by decide +kernel, by decide +kernel, by decide +kernel⟩

end DyData.Settlement
