import DyData.BillingAuthority
import DyData.KeyedTotals

/-!
The authority of a month: the sources a publication consists of.  They are the current results
and the active adjustments, unless a protected bill has frozen them; what is frozen counts with
the entries of its bill.  The sparse overlay aggregates them in the database.
-/

namespace DyData.Settlement

open Relational List

/-! ### Sources -/

/-- The display facts that `_statement_source_snapshots` reads for a source. -/
abbrev SourceSnapshots := FeeResult → Option FeeAdjustment → Snapshot

def resultStatementSource (snapshots : SourceSnapshots) (r : FeeResult) :
    Except SettlementError StatementSource :=
  match r.knownStore r.feeDirection with
  | none => .error (.valueError ("fee result has no responsible store: " ++ r.feeResultId))
  | some storeId => .ok
    { sourceType := .original
      sourceRecordId := r.feeResultId
      originalFeeResultId := r.feeResultId
      couponId := r.couponId
      orderId := r.orderId
      feeDirection := r.feeDirection
      originalBusinessMonth := r.originalBusinessMonth
      postingMonth := r.originalBusinessMonth
      storeId := storeId
      productScope := r.productScope
      productType := r.productType
      baseAmountCent := r.feeBaseCent
      feeAmountCent := r.feeAmountCent
      sourceAmountCent := r.sourceAmountCent
      ruleVersion := r.ruleVersion
      snapshot := snapshots r none }

def adjustmentStatementSource (snapshots : SourceSnapshots) (a : FeeAdjustment)
    (original : FeeResult) : Except SettlementError StatementSource :=
  match original.knownStore a.feeDirection with
  | none => .error (.valueError
      ("adjustment original result has no responsible store: " ++ a.adjustmentId))
  | some storeId => .ok
    { sourceType := .adjustment
      sourceRecordId := a.adjustmentId
      originalFeeResultId := a.originalFeeResultId
      couponId := a.couponId
      orderId := a.orderId
      feeDirection := a.feeDirection
      originalBusinessMonth := a.originalBusinessMonth
      postingMonth := a.adjustmentPostingMonth
      storeId := storeId
      productScope := original.productScope
      productType := original.productType
      baseAmountCent := a.adjustmentBaseCent
      feeAmountCent := a.adjustmentFeeCent
      sourceAmountCent := 0
      ruleVersion := a.ruleVersion
      snapshot := snapshots original (some a) }

/-- `product_scope or "all"`. -/
def orAll (text : String) : String := if text = "" then "all" else text

def projectionDimensions (productScope productType : String) : List (String × String) :=
  let dimensions := [("all", "all"), ("all", orAll productType), (orAll productScope, "all"),
    (orAll productScope, orAll productType)].dedup
  dimensions.insertionSort fun a b => toLex a ≤ toLex b

/-- A source counts in a dimension when each label is its own or `all`. -/
def covers (scope type : String) (dimension : String × String) : Bool :=
  (dimension.1 = "all" || dimension.1 = scope) && (dimension.2 = "all" || dimension.2 = type)

theorem mem_projectionDimensions {productScope productType : String}
    {dimension : String × String} : dimension ∈ projectionDimensions productScope productType ↔
      covers (orAll productScope) (orAll productType) dimension = true := by
  obtain ⟨_, _⟩ := dimension
  simp only [projectionDimensions, mem_insertionSort, mem_dedup, mem_cons,
    not_mem_nil, or_false, Prod.mk.injEq, covers, bool_to_prop]
  tauto

theorem nodup_projectionDimensions (productScope productType : String) :
    (projectionDimensions productScope productType).Nodup :=
  (perm_insertionSort _ _).nodup_iff.mpr (nodup_dedup _)

/-! ### The authority relation -/

/-- A row of the authority relation.  Only a frozen result whose basis is gone has no source
amount. -/
structure AuthorityRow where
  sourceKind : SourceType
  sourceId : String
  month : Month
  storeId : Option String
  sourceProductScope : String
  sourceProductType : String
  feeDirection : Direction
  orderId : String
  sourceAmountCent : Option Int
  baseAmountCent : Int
  feeAmountCent : Int
  frozenEntryId : Option String := none
  basisEntryId : Option String := none
  sourceFeeRate : Option ℚ
  sourceRuleVersion : String
deriving DecidableEq

/-- `SettlementFeeResult JOIN SettlementFeeResultCurrent`. -/
def Db.currentResults (db : Db) : List FeeResult :=
  db.feeResults.rows.flatMap fun r =>
    (db.currents.rows.filter fun p => p.feeResultId = r.feeResultId).map fun _ => r

theorem map_const_filter {α β : Type*} {l : List α} {P : α → Bool} (hnd : l.Nodup)
    (hone : ∀ a ∈ l, ∀ b ∈ l, P a = true → P b = true → a = b) (x : β) :
    (l.filter P).map (fun _ => x) = if l.any P then [x] else [] := by
  cases hfilt : l.filter P with
  | nil =>
    rw [if_neg]
    · rfl
    · rw [any_eq_true]
      rintro ⟨a, ha, hP⟩
      exact not_mem_nil (hfilt ▸ mem_filter.mpr ⟨ha, hP⟩)
  | cons a rest =>
    have ha : a ∈ l.filter P := hfilt ▸ mem_cons_self
    obtain ⟨hal, haP⟩ := mem_filter.mp ha
    have hrest : rest = [] := by
      refine eq_nil_iff_forall_not_mem.mpr fun b hb => ?_
      have hbl : b ∈ l.filter P := hfilt ▸ mem_cons_of_mem a hb
      have hab := hone a hal b (mem_filter.mp hbl).1 haP (mem_filter.mp hbl).2
      have hdist := hnd.filter P
      rw [hfilt, hab] at hdist
      exact (nodup_cons.mp hdist).1 hb
    rw [hrest, if_pos (any_eq_true.mpr ⟨a, hal, haP⟩)]
    rfl

/-- Where no result has two pointers, the join selects the results with one. -/
theorem currentResults_of_unique {db : Db}
    (huniq : ∀ r ∈ db.feeResults.rows, ∀ p ∈ db.currents.rows, ∀ q ∈ db.currents.rows,
      p.feeResultId = r.feeResultId → q.feeResultId = r.feeResultId → p = q) :
    db.currentResults = db.feeResults.rows.filter fun r =>
      db.currents.rows.any fun p => p.feeResultId = r.feeResultId := by
  have hnd : db.currents.rows.Nodup := Nodup.of_map _ db.currents.nodup
  unfold Db.currentResults
  have hjoin : ∀ r ∈ db.feeResults.rows,
      (db.currents.rows.filter fun p => p.feeResultId = r.feeResultId).map (fun _ => r) =
        if db.currents.rows.any fun p => p.feeResultId = r.feeResultId then [r] else [] := by
    intro r hr
    refine map_const_filter hnd (fun p hp q hq hpr hqr => ?_) r
    exact huniq r hr p hp q hq (of_decide_eq_true hpr) (of_decide_eq_true hqr)
  rw [flatMap_congr hjoin]
  induction db.feeResults.rows with
  | nil => rfl
  | cons r rows ih =>
    rw [flatMap_cons, ih, filter_cons]
    split <;> rfl

def FeeResult.authorityRow (r : FeeResult) : AuthorityRow where
  sourceKind := .original
  sourceId := r.feeResultId
  month := r.originalBusinessMonth
  storeId := r.responsibleStore r.feeDirection
  sourceProductScope := orAll r.productScope
  sourceProductType := orAll r.productType
  feeDirection := r.feeDirection
  orderId := r.orderId
  sourceAmountCent := some r.sourceAmountCent
  baseAmountCent := r.feeBaseCent
  feeAmountCent := r.feeAmountCent
  sourceFeeRate := some r.feeRate
  sourceRuleVersion := r.ruleVersion

def Db.resultAuthorityRows (db : Db) (months : List Month) : List AuthorityRow :=
  (db.currentResults.filter fun r => months.contains r.originalBusinessMonth &&
    !db.billing.protectedSlot (r.responsibleStore r.feeDirection) r.originalBusinessMonth &&
    !db.billing.frozenPrimaryChain r.couponId r.feeDirection).map FeeResult.authorityRow

def Db.basesOf (db : Db) (a : FeeAdjustment) : List (StatementEntry × Statement) :=
  db.billing.protectedEntries.filter fun (e, _) =>
    e.sourceType = .original && e.originalFeeResultId = a.originalFeeResultId

def outerJoined {α : Type} : List α → List (Option α)
  | [] => [none]
  | row :: rows => (row :: rows).map some

def Db.basedAdjustments (db : Db) :
    List (FeeAdjustment × FeeResult × Option (StatementEntry × Statement)) :=
  db.adjustments.rows.flatMap fun a =>
    match db.feeResults.get? a.originalFeeResultId with
    | none => []
    | some r => (outerJoined (db.basesOf a)).map fun basis => (a, r, basis)

/-- The store of an adjustment: that of the bill its basis is frozen in, or the store of its
result. -/
def adjustmentStore (a : FeeAdjustment) (r : FeeResult)
    (basis : Option (StatementEntry × Statement)) : Option String :=
  (basis.map fun b => b.2.storeId).or (r.responsibleStore a.feeDirection)

def Db.pointed (db : Db) (r : FeeResult) : Bool :=
  db.currents.rows.any fun p =>
    p.feeResultId = r.feeResultId || some p.feeResultId = r.reverificationAnchorId

def Billing.frozenAdjustment (b : Billing) (a : FeeAdjustment) : Bool :=
  b.protectedEntries.any fun (e, _) =>
    e.sourceType = .adjustment && e.sourceRecordId = a.adjustmentId

def Billing.frozenAnchor (b : Billing) (r : FeeResult) : Bool :=
  b.protectedEntries.any fun (e, _) =>
    e.sourceType = .original && some e.originalFeeResultId = r.reverificationAnchorId

def Db.authoritativeAdjustment (db : Db) (months : List Month)
    (row : FeeAdjustment × FeeResult × Option (StatementEntry × Statement)) : Bool :=
  let (a, r, basis) := row
  months.contains a.adjustmentPostingMonth && db.activeAdjustment a &&
  !db.billing.protectedSlot (adjustmentStore a r basis) a.adjustmentPostingMonth &&
  !db.billing.frozenAdjustment a &&
  (db.pointed r || basis.isSome || db.billing.frozenAnchor r)

/-- `coalesce(nullif(basis, ''), nullif(result, ''), 'all')`. -/
def basisLabel (basis : Option String) (result : String) : String :=
  (basis.filter fun label => label ≠ "").getD (orAll result)

def adjustmentAuthorityRow
    (row : FeeAdjustment × FeeResult × Option (StatementEntry × Statement)) : AuthorityRow :=
  let (a, r, basis) := row
  { sourceKind := .adjustment
    sourceId := a.adjustmentId
    month := a.adjustmentPostingMonth
    storeId := adjustmentStore a r basis
    sourceProductScope := basisLabel (basis.map fun b => b.1.productScope) r.productScope
    sourceProductType := basisLabel (basis.map fun b => b.1.productType) r.productType
    feeDirection := a.feeDirection
    orderId := a.orderId
    sourceAmountCent := some 0
    baseAmountCent := a.adjustmentBaseCent
    feeAmountCent := a.adjustmentFeeCent
    basisEntryId := basis.map fun b => b.1.statementEntryId
    sourceFeeRate := match basis with
      | some b => b.1.snapshot.feeRate
      | none => some r.feeRate
    sourceRuleVersion := match basis with
      | some b => b.1.ruleVersion
      | none => r.ruleVersion }

def Db.adjustmentAuthorityRows (db : Db) (months : List Month) : List AuthorityRow :=
  (db.basedAdjustments.filter (db.authoritativeAdjustment months)).map adjustmentAuthorityRow

def Db.frozenAuthorityRows (db : Db) (months : List Month) : List AuthorityRow :=
  (db.billing.protectedEntries.filter fun (_, s) => months.contains s.statementMonth).map
    fun (e, s) =>
      { sourceKind := e.sourceType
        sourceId := e.sourceRecordId
        month := s.statementMonth
        storeId := some s.storeId
        sourceProductScope := orAll e.productScope
        sourceProductType := orAll e.productType
        feeDirection := e.feeDirection
        orderId := e.orderId
        sourceAmountCent := match e.sourceType with
          | .original => (db.feeResults.get? e.originalFeeResultId).map FeeResult.sourceAmountCent
          | .adjustment => some 0
        baseAmountCent := e.baseAmountCent
        feeAmountCent := e.feeAmountCent
        frozenEntryId := some e.statementEntryId
        sourceFeeRate := e.snapshot.feeRate
        sourceRuleVersion := e.ruleVersion }

def Db.authoritySources (db : Db) (months : List Month) : List AuthorityRow :=
  db.resultAuthorityRows months ++ db.adjustmentAuthorityRows months ++
    db.frozenAuthorityRows months

/-- `UNION` of the four dimensions of every source. -/
def spread (sources : List AuthorityRow) : List (AuthorityRow × String × String) :=
  (sources.map (fun r => (r, "all", "all")) ++
    sources.map (fun r => (r, "all", r.sourceProductType)) ++
    sources.map (fun r => (r, r.sourceProductScope, "all")) ++
    sources.map fun r => (r, r.sourceProductScope, r.sourceProductType)).dedup

def Db.sparseAuthorityRelation (db : Db) (months : List Month) :
    List (AuthorityRow × String × String) := spread (db.authoritySources months)

theorem mem_spread {sources : List AuthorityRow} {row : AuthorityRow × String × String} :
    row ∈ spread sources ↔ row.1 ∈ sources ∧
      covers row.1.sourceProductScope row.1.sourceProductType row.2 = true := by
  obtain ⟨r, _, _⟩ := row
  simp only [spread, mem_dedup, mem_append, mem_map, Prod.mk.injEq, covers, bool_to_prop]
  constructor
  · rintro (((⟨x, hx, rfl, rfl, rfl⟩ | ⟨x, hx, rfl, rfl, rfl⟩) | ⟨x, hx, rfl, rfl, rfl⟩) |
      ⟨x, hx, rfl, rfl, rfl⟩)
    · exact ⟨hx, .inl rfl, .inl rfl⟩
    · exact ⟨hx, .inl rfl, .inr rfl⟩
    · exact ⟨hx, .inr rfl, .inl rfl⟩
    · exact ⟨hx, .inr rfl, .inr rfl⟩
  · rintro ⟨hx, rfl | rfl, rfl | rfl⟩
    · exact .inl (.inl (.inl ⟨r, hx, rfl, rfl, rfl⟩))
    · exact .inl (.inl (.inr ⟨r, hx, rfl, rfl, rfl⟩))
    · exact .inl (.inr ⟨r, hx, rfl, rfl, rfl⟩)
    · exact .inr ⟨r, hx, rfl, rfl, rfl⟩

theorem nodup_spread (sources : List AuthorityRow) : (spread sources).Nodup :=
  nodup_dedup _

/-- The rows of one store and dimension are the sources that count there, each once. -/
theorem spread_filter {sources : List AuthorityRow} (hnd : sources.Nodup)
    (storeId : Option String) (dimension : String × String) :
    ((spread sources).filter fun row => (row.1.storeId, row.2) = (storeId, dimension)).Perm
      ((sources.filter fun r => r.storeId = storeId &&
        covers r.sourceProductScope r.sourceProductType dimension).map fun r => (r, dimension)) := by
  refine (perm_ext_iff_of_nodup ((nodup_spread sources).filter _) ?_).mpr ?_
  · refine (hnd.filter _).map fun a b h => ?_
    exact (Prod.mk.inj h).1
  · rintro ⟨r, d⟩
    simp only [mem_filter, mem_spread, mem_map, Prod.mk.injEq, bool_to_prop]
    constructor
    · rintro ⟨⟨hr, hcov⟩, hst, rfl⟩
      exact ⟨r, ⟨hr, hst, hcov⟩, rfl, rfl⟩
    · rintro ⟨r, ⟨hr, hst, hcov⟩, rfl, rfl⟩
      exact ⟨⟨hr, hcov⟩, hst, rfl⟩

/-! ### Monthly figures -/

structure Figure where
  sourceType : SourceType
  feeDirection : Direction
  orderId : String
  sourceAmountCent : Int
  baseAmountCent : Int
  feeAmountCent : Int
deriving DecidableEq

def AuthorityRow.figure (r : AuthorityRow) : Figure :=
  ⟨r.sourceKind, r.feeDirection, r.orderId, r.sourceAmountCent.getD 0, r.baseAmountCent,
    r.feeAmountCent⟩

structure MonthlyFigures where
  salesOrderCount : Nat
  salesAmountCent : Int
  verifiedOrderCount : Nat
  verifiedAmountCent : Int
  promotionBaseCent : Int
  promotionOriginalFeeCent : Int
  promotionAdjustmentFeeCent : Int
  managementBaseCent : Int
  managementOriginalFeeCent : Int
  managementAdjustmentFeeCent : Int
deriving DecidableEq

def MonthlyFigures.promotionNetFeeCent (m : MonthlyFigures) : Int :=
  m.promotionOriginalFeeCent + m.promotionAdjustmentFeeCent

def MonthlyFigures.managementNetFeeCent (m : MonthlyFigures) : Int :=
  m.managementOriginalFeeCent + m.managementAdjustmentFeeCent

def Figure.is (f : Figure) (sourceType : SourceType) (direction : Direction) : Bool :=
  f.sourceType = sourceType && f.feeDirection = direction

/-- `sum(case((p, amount), else_=0))`. -/
def sumWhere (p : Figure → Bool) (amount : Figure → Int) (rows : List Figure) : Int :=
  ((rows.filter p).map amount).sum

/-- `count(distinct(case((p, order_id), else_=None)))`. -/
def ordersWhere (p : Figure → Bool) (rows : List Figure) : Nat :=
  ((rows.filter p).map Figure.orderId).dedup.length

def monthlyFigures (rows : List Figure) : MonthlyFigures where
  salesOrderCount := ordersWhere (·.is .original .promotion) rows
  salesAmountCent := sumWhere (·.is .original .promotion) Figure.sourceAmountCent rows
  verifiedOrderCount := ordersWhere (·.is .original .management) rows
  verifiedAmountCent := sumWhere (·.is .original .management) Figure.sourceAmountCent rows
  promotionBaseCent := sumWhere (·.feeDirection = .promotion) Figure.baseAmountCent rows
  promotionOriginalFeeCent := sumWhere (·.is .original .promotion) Figure.feeAmountCent rows
  promotionAdjustmentFeeCent := sumWhere (·.is .adjustment .promotion) Figure.feeAmountCent rows
  managementBaseCent := sumWhere (·.feeDirection = .management) Figure.baseAmountCent rows
  managementOriginalFeeCent := sumWhere (·.is .original .management) Figure.feeAmountCent rows
  managementAdjustmentFeeCent := sumWhere (·.is .adjustment .management) Figure.feeAmountCent rows

theorem sumWhere_perm {p : Figure → Bool} {amount : Figure → Int} {rows rows' : List Figure}
    (h : rows.Perm rows') : sumWhere p amount rows = sumWhere p amount rows' :=
  ((h.filter p).map amount).sum_eq

theorem ordersWhere_perm {p : Figure → Bool} {rows rows' : List Figure} (h : rows.Perm rows') :
    ordersWhere p rows = ordersWhere p rows' :=
  ((h.filter p).map Figure.orderId).dedup.length_eq

/-- The figures do not depend on the order of the rows. -/
theorem monthlyFigures_perm {rows rows' : List Figure} (h : rows.Perm rows') :
    monthlyFigures rows = monthlyFigures rows' := by
  simp only [monthlyFigures, ordersWhere_perm h, sumWhere_perm h]

structure SparseMonthlyRow where
  figures : MonthlyFigures
  statementStatus : StatementStatus
deriving DecidableEq

/-- The status of some bill of the slot, or `1`. -/
def Billing.slotStatus (b : Billing) (storeId : Option String) (month : Month) : StatementStatus :=
  ((b.statements.rows.find? fun s => some s.storeId = storeId && s.statementMonth = month).map
    Statement.statementStatus).getD .generating

/-- `_sparse_monthly_query`, by store, product scope and product type. -/
def Db.sparseMonthlyQuery (db : Db) (month : Month) :
    Dict (Option String × String × String) SparseMonthlyRow :=
  Dict.groupBy (fun row : AuthorityRow × String × String => (row.1.storeId, row.2))
    (fun key rows => ⟨monthlyFigures (rows.map fun row => row.1.figure),
      db.billing.slotStatus key.1 month⟩)
    (db.sparseAuthorityRelation [month])

def figuresAt (sources : List AuthorityRow) (storeId : Option String)
    (dimension : String × String) : List Figure :=
  (sources.filter fun r => r.storeId = storeId &&
    covers r.sourceProductScope r.sourceProductType dimension).map AuthorityRow.figure

/-- The figures of the sparse query are those of the sources that count in the dimension. -/
theorem figures_sparseMonthlyQuery {db : Db} {month : Month}
    (hnd : (db.authoritySources [month]).Nodup) (storeId : Option String)
    (dimension : String × String) :
    ((db.sparseMonthlyQuery month).value? (storeId, dimension)).map SparseMonthlyRow.figures =
      if figuresAt (db.authoritySources [month]) storeId dimension = [] then none
      else some (monthlyFigures (figuresAt (db.authoritySources [month]) storeId dimension)) := by
  have hperm := spread_filter hnd storeId dimension
  have hfig : (((spread (db.authoritySources [month])).filter fun row =>
      (row.1.storeId, row.2) = (storeId, dimension)).map fun row => row.1.figure).Perm
        (figuresAt (db.authoritySources [month]) storeId dimension) := by
    have hmap := hperm.map fun row : AuthorityRow × String × String => row.1.figure
    rwa [map_map] at hmap
  unfold Db.sparseMonthlyQuery Db.sparseAuthorityRelation
  rw [Dict.value?_groupBy]
  by_cases hempty : (spread (db.authoritySources [month])).filter
      (fun row => (row.1.storeId, row.2) = (storeId, dimension)) = []
  · rw [hempty] at hfig
    rw [if_pos hempty, Option.map_none, if_pos hfig.symm.eq_nil]
  · have hrows : figuresAt (db.authoritySources [month]) storeId dimension ≠ [] := by
      intro hnil
      rw [hnil] at hfig
      exact hempty (map_eq_nil_iff.mp hfig.eq_nil)
    rw [if_neg hempty, Option.map_some, if_neg hrows]
    exact congrArg some (monthlyFigures_perm hfig)

end DyData.Settlement
