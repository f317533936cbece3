import DyData.BillingSourceCapture

/-!
The captured sources against the published figures.  Both are read off the same relation, one
row at a time and grouped in the database, so they can only differ where a row is captured twice
or under another label: the adjustments on a frozen basis.
-/

namespace DyData.Settlement

open Relational List Option
open Except (of_bind)

variable {months : List Month} {r : AuthorityRow} {s : StatementSource}

/-! ### What the check of protected bills establishes -/

section Accepted

variable {db : Db}

def Db.CheckedEntry (db : Db) (bill : Statement) (e : StatementEntry) : Prop :=
  e.statementPostingMonth = bill.statementMonth ∧
    ∃ s, db.statementSourceFromEntry e bill.storeId = .ok s

theorem validateProtectedEntries_ok {bill : Statement} {entries : List StatementEntry}
    {seen seen' : List (SourceType × String)}
    (h : entries.foldlM (db.validateProtectedEntry bill) seen = .ok seen') (hseen : seen.Nodup) :
    seen'.Nodup ∧ seen' = (entries.map StatementEntry.identity).reverse ++ seen ∧
      ∀ e ∈ entries, db.CheckedEntry bill e := by
  refine Except.foldlM_ok_seen (I := fun done seen' => seen'.Nodup ∧
    seen' = (done.map StatementEntry.identity).reverse ++ seen ∧
      ∀ e ∈ done, db.CheckedEntry bill e) h
    ⟨hseen, rfl, fun e he => absurd he not_mem_nil⟩ ?_
  rintro done e entered next - ⟨hnd, rfl, hchk⟩ hstep
  obtain ⟨hnew, hstep⟩ := Except.of_ensure_bind hstep
  obtain ⟨hmo, hstep⟩ := Except.of_ensure_bind hstep
  obtain ⟨s, hs, hstep⟩ := of_bind hstep
  cases hstep
  refine ⟨nodup_cons.mpr ⟨by simpa using hnew, hnd⟩, by simp, ?_⟩
  exact forall_mem_append.mpr ⟨hchk, forall_mem_singleton.mpr ⟨of_decide_eq_true hmo, s, hs⟩⟩

theorem validateProtectedBills_ok {bills : List Statement} {seen seen' : List (SourceType × String)}
    (h : bills.foldlM db.validateProtectedBill seen = .ok seen') (hseen : seen.Nodup) :
    seen'.Nodup ∧ seen' = ((bills.flatMap fun bill =>
        db.billing.entriesOf bill.statementId).map StatementEntry.identity).reverse ++ seen ∧
      ∀ bill ∈ bills, ∀ e ∈ db.billing.entriesOf bill.statementId, db.CheckedEntry bill e := by
  refine Except.foldlM_ok_seen (I := fun done seen' => seen'.Nodup ∧
    seen' = ((done.flatMap fun bill => db.billing.entriesOf bill.statementId).map
      StatementEntry.identity).reverse ++ seen ∧ ∀ bill ∈ done,
        ∀ e ∈ db.billing.entriesOf bill.statementId, db.CheckedEntry bill e) h
    ⟨hseen, rfl, fun bill hbill => absurd hbill not_mem_nil⟩ ?_
  rintro done bill entered next - ⟨hnd, rfl, hchk⟩ hbill
  obtain ⟨_, hents, hbill⟩ := of_bind hbill
  iterate 4 obtain ⟨_, -, hbill⟩ := of_bind hbill
  cases hbill
  obtain ⟨hnd', rfl, hown⟩ := validateProtectedEntries_ok hents hnd
  exact ⟨hnd', by simp, forall_mem_append.mpr ⟨hchk, forall_mem_singleton.mpr hown⟩⟩

def Db.frozenEntries (db : Db) (months : List Month) : List (StatementEntry × Statement) :=
  db.billing.protectedEntries.filter fun (_, s) => months.contains s.statementMonth

theorem frozenEntries_eq (months : List Month) : db.frozenEntries months =
    (db.billing.protectedBills.filter fun s => months.contains s.statementMonth).flatMap fun s =>
      (db.billing.entriesOf s.statementId).map fun e => (e, s) := by
  unfold Db.frozenEntries Billing.protectedEntries
  rw [filter_flatMap]
  induction db.billing.protectedBills with
  | nil => rfl
  | cons s bills ih =>
    rw [flatMap_cons, ih, filter_cons, List.filter_map]
    by_cases hmo : months.contains s.statementMonth = true
    · rw [if_pos hmo]
      congr 2
      exact filter_eq_self.mpr fun e _ => hmo
    · rw [if_neg hmo]
      have hnone : (db.billing.entriesOf s.statementId).filter
          ((fun row : StatementEntry × Statement => months.contains row.2.statementMonth) ∘
            fun e => (e, s)) = [] :=
        filter_eq_nil_iff.mpr fun e _ => hmo
      exact (congrArg (fun l => l.map (fun e => (e, s)) ++ _) hnone)

/-- After an accepted check the frozen entries of the months are exact and name every source
once. -/
theorem accepted_frozenEntries {env : Env} (h : db.validateProtectedAuthority env months = .ok ()) :
    ((db.frozenEntries months).map fun row => row.1.identity).Nodup ∧
      ∀ row ∈ db.frozenEntries months, db.CheckedEntry row.2 row.1 := by
  obtain ⟨_, hbills, -⟩ := of_bind h
  obtain ⟨hnd, heq, hchk⟩ := validateProtectedBills_ok hbills nodup_nil
  rw [append_nil] at heq
  rw [heq, nodup_reverse, map_flatMap] at hnd
  rw [frozenEntries_eq]
  constructor
  · rw [map_flatMap]
    refine (congrArg Nodup (flatMap_congr fun s _ => ?_)).mpr hnd
    rw [List.map_map]
    rfl
  · intro row hrow
    obtain ⟨s, hs, hrow⟩ := mem_flatMap.mp hrow
    obtain ⟨e, he, rfl⟩ := List.mem_map.mp hrow
    exact hchk s hs e he

end Accepted

/-! ### References -/

section References

variable {db : Db}

theorem nodup_protectedEntries (db : Db) :
    (db.billing.protectedEntries.map fun row => row.1.statementEntryId).Nodup := by
  unfold Billing.protectedEntries
  rw [map_flatMap]
  have hbills : db.billing.protectedBills.Nodup :=
    (Nodup.of_map _ db.billing.statements.nodup).filter _
  refine nodup_flatMap.mpr ⟨fun s _ => ?_, ?_⟩
  · rw [List.map_map]
    exact db.billing.entries.nodup.sublist (filter_sublist.map _)
  · refine hbills.imp_of_mem fun hs ht hne id hid hid' => hne ?_
    -- an entry id of both bills is one entry, and so are the bills it names
    dsimp only at hid hid'
    rw [List.map_map] at hid hid'
    obtain ⟨e, he, rfl⟩ := List.mem_map.mp hid
    obtain ⟨e', he', hsame⟩ := List.mem_map.mp hid'
    obtain ⟨he, hes⟩ := mem_filter.mp he
    obtain ⟨he', hes'⟩ := mem_filter.mp he'
    have heq : e' = e := db.billing.entries.eq_of_key_eq he' he hsame
    rw [heq] at hes'
    exact db.billing.statements.eq_of_key_eq (mem_filter.mp hs).1 (mem_filter.mp ht).1
      ((of_decide_eq_true hes).symm.trans (of_decide_eq_true hes'))

theorem mem_entries_of_protected {row : StatementEntry × Statement}
    (h : row ∈ db.billing.protectedEntries) : row.1 ∈ db.billing.entries.rows := by
  obtain ⟨_, -, hrow⟩ := mem_flatMap.mp h
  obtain ⟨_, he, rfl⟩ := List.mem_map.mp hrow
  exact (mem_filter.mp he).1

/-- `uk_settlement_fee_result_current_result`. -/
def Db.PointersIndexed (db : Db) : Prop :=
  (db.currents.rows.map FeeResultCurrent.feeResultId).Nodup

theorem currentResults_of_indexed (hidx : db.PointersIndexed) :
    db.currentResults = db.feeResults.rows.filter fun r =>
      db.currents.rows.any fun p => p.feeResultId = r.feeResultId :=
  currentResults_of_unique fun _ _ _ hp _ hq hpr hqr =>
    inj_on_of_nodup_map hidx hp hq (hpr.trans hqr.symm)

theorem nodup_resultAuthorityRows (hidx : db.PointersIndexed) (months : List Month) :
    ((db.resultAuthorityRows months).map AuthorityRow.sourceId).Nodup := by
  unfold Db.resultAuthorityRows
  rw [List.map_map, currentResults_of_indexed hidx]
  exact db.feeResults.nodup.sublist ((filter_sublist.trans filter_sublist).map _)

theorem nodup_outerJoined {α β : Type} {l : List α} {f : α → β} (h : (l.map f).Nodup) :
    ((outerJoined l).map fun row => row.map f).Nodup := by
  cases l with
  | nil => exact nodup_singleton _
  | cons a l =>
    have hsome := h.map (f := some) (some_injective β)
    rw [List.map_map] at hsome
    unfold outerJoined
    rw [List.map_map]
    exact hsome

def basedKey (row : FeeAdjustment × FeeResult × Option (StatementEntry × Statement)) :
    String × Option String :=
  (row.1.adjustmentId, row.2.2.map fun basis => basis.1.statementEntryId)

theorem nodup_basedAdjustments : (db.basedAdjustments.map basedKey).Nodup := by
  unfold Db.basedAdjustments
  rw [map_flatMap]
  have hrows : db.adjustments.rows.Nodup := Nodup.of_map _ db.adjustments.nodup
  refine nodup_flatMap.mpr ⟨fun a _ => ?_, ?_⟩
  · cases db.feeResults.get? a.originalFeeResultId with
    | none => exact nodup_nil
    | some r =>
      have hbases : ((db.basesOf a).map fun basis => basis.1.statementEntryId).Nodup :=
        (nodup_protectedEntries db).sublist (filter_sublist.map _)
      rw [List.map_map]
      refine Nodup.of_map Prod.snd ?_
      rw [List.map_map]
      exact nodup_outerJoined hbases
  · refine hrows.imp_of_mem fun {a b} ha hb hne x hx hy => hne ?_
    -- the first component gives the adjustment away
    obtain ⟨u, hu, rfl⟩ := List.mem_map.mp hx
    obtain ⟨v, hv, hkey⟩ := List.mem_map.mp hy
    split at hu
    · cases hu
    split at hv
    · cases hv
    obtain ⟨_, -, rfl⟩ := List.mem_map.mp hu
    obtain ⟨_, -, rfl⟩ := List.mem_map.mp hv
    exact db.adjustments.eq_of_key_eq ha hb (congrArg Prod.fst hkey).symm

theorem nodup_adjustmentAuthorityRows (months : List Month) :
    ((db.adjustmentAuthorityRows months).map fun r => (r.sourceId, r.basisEntryId)).Nodup := by
  unfold Db.adjustmentAuthorityRows
  rw [List.map_map]
  exact nodup_basedAdjustments.sublist (filter_sublist.map _)

theorem nodup_frozenAuthorityRows (months : List Month) :
    ((db.frozenAuthorityRows months).map AuthorityRow.frozenEntryId).Nodup := by
  have hids := (nodup_protectedEntries db).map (some_injective String)
  rw [List.map_map] at hids
  unfold Db.frozenAuthorityRows
  rw [List.map_map]
  exact hids.sublist (filter_sublist.map _)

/-- The three parts of the relation, told apart by kind and frozen entry. -/
theorem kind_resultAuthorityRows (h : r ∈ db.resultAuthorityRows months) :
    r.sourceKind = .original ∧ r.frozenEntryId = none ∧ r.basisEntryId = none := by
  obtain ⟨_, -, rfl⟩ := List.mem_map.mp h
  exact ⟨rfl, rfl, rfl⟩

theorem kind_adjustmentAuthorityRows (h : r ∈ db.adjustmentAuthorityRows months) :
    r.sourceKind = .adjustment ∧ r.frozenEntryId = none := by
  obtain ⟨_, -, rfl⟩ := List.mem_map.mp h
  exact ⟨rfl, rfl⟩

theorem kind_frozenAuthorityRows (h : r ∈ db.frozenAuthorityRows months) :
    r.frozenEntryId.isSome = true ∧ r.basisEntryId = none := by
  obtain ⟨_, -, rfl⟩ := List.mem_map.mp h
  exact ⟨rfl, rfl⟩

theorem nodup_references (hidx : db.PointersIndexed) (months : List Month) :
    ((db.authoritySources months).map AuthorityRow.reference).Nodup := by
  unfold Db.authoritySources
  rw [map_append, map_append, nodup_append, nodup_append]
  refine ⟨⟨?_, ?_, ?_⟩, ?_, ?_⟩
  · refine Nodup.of_map SourceReference.sourceId ?_
    rw [List.map_map]
    exact nodup_resultAuthorityRows hidx months
  · refine Nodup.of_map (fun x : SourceReference => (x.sourceId, x.basisEntryId)) ?_
    rw [List.map_map]
    exact nodup_adjustmentAuthorityRows months
  · intro x hx y hy hxy
    obtain ⟨r, hr, rfl⟩ := List.mem_map.mp hx
    obtain ⟨r', hr', rfl⟩ := List.mem_map.mp hy
    have hkind : r.sourceKind = r'.sourceKind := congrArg SourceReference.sourceKind hxy
    rw [(kind_resultAuthorityRows hr).1, (kind_adjustmentAuthorityRows hr').1] at hkind
    cases hkind
  · refine Nodup.of_map SourceReference.frozenEntryId ?_
    rw [List.map_map]
    exact nodup_frozenAuthorityRows months
  · intro x hx y hy hxy
    obtain ⟨r', hr', rfl⟩ := List.mem_map.mp hy
    have hfroz : x.frozenEntryId = none := by
      rcases mem_append.mp hx with hx | hx
      · obtain ⟨r, hr, rfl⟩ := List.mem_map.mp hx
        exact (kind_resultAuthorityRows hr).2.1
      · obtain ⟨_, hr, rfl⟩ := List.mem_map.mp hx
        exact (kind_adjustmentAuthorityRows hr).2
    have hsome := (kind_frozenAuthorityRows hr').1
    rw [show r'.frozenEntryId = x.frozenEntryId from (congrArg SourceReference.frozenEntryId hxy).symm,
      hfroz] at hsome
    cases hsome

theorem perm_sourceReferences (hidx : db.PointersIndexed) (months : List Month) :
    (db.sourceReferences months).Perm ((db.authoritySources months).map AuthorityRow.reference) := by
  refine (perm_ext_iff_of_nodup (nodup_dedup _) (nodup_references hidx months)).mpr ?_
  intro x
  rw [mem_dedup, List.mem_map, List.mem_map]
  constructor
  · rintro ⟨row, hrow, rfl⟩
    exact ⟨row.1, (mem_spread.mp hrow).1, rfl⟩
  · rintro ⟨r, hr, rfl⟩
    exact ⟨(r, "all", "all"), mem_spread.mpr ⟨hr, rfl⟩, rfl⟩

end References

/-! ### One reference -/

section Capture

variable {db : Db} {snapshots : SourceSnapshots}

/-- The direction and the labels a row is captured under: those of the frozen basis, where the
row has one. -/
def Db.capturedLabel (db : Db) (r : AuthorityRow) : Direction × String × String :=
  match r.basisEntryId.bind db.billing.entries.get? with
  | some e => (e.feeDirection, orAll e.productScope, orAll e.productType)
  | none => (r.feeDirection, r.sourceProductScope, r.sourceProductType)

structure Db.Captured (db : Db) (r : AuthorityRow) (s : StatementSource) : Prop where
  sourceType : s.sourceType = r.sourceKind
  sourceRecordId : s.sourceRecordId = r.sourceId
  store : some s.storeId = r.storeId
  month : s.postingMonth = r.month
  base : s.baseAmountCent = r.baseAmountCent
  fee : s.feeAmountCent = r.feeAmountCent
  label : (s.feeDirection, orAll s.productScope, orAll s.productType) = db.capturedLabel r

theorem statementSourceFromEntry_ok {e : StatementEntry} {storeId : String}
    (h : db.statementSourceFromEntry e storeId = .ok s) : (∃ amount, s = e.source storeId amount) ∧
      (e.sourceType = .original → ∃ original, db.feeResults.get? e.originalFeeResultId =
        some original ∧ sameFrozenPrimary e original = true) := by
  unfold Db.statementSourceFromEntry at h
  split at h
  · split at h
    · rename_i original horig
      cases h
      obtain ⟨hget, hsame⟩ := filter_eq_some_iff.mp horig
      exact ⟨⟨_, rfl⟩, fun _ => ⟨original, hget, hsame⟩⟩
    · cases h
  · rename_i hkind
    refine ⟨?_, fun horig => by rw [hkind] at horig; cases horig⟩
    split at h
    · split at h
      · cases h
        exact ⟨_, rfl⟩
      · cases h
    · cases h

theorem mem_feeResults_of_current {r : FeeResult} (h : r ∈ db.currentResults) :
    r ∈ db.feeResults.rows := by
  obtain ⟨_, hr', h⟩ := mem_flatMap.mp h
  obtain ⟨_, -, rfl⟩ := List.mem_map.mp h
  exact hr'

theorem captured_result (hr : r ∈ db.resultAuthorityRows months)
    (h : db.captureSource snapshots r.reference = .ok s) : db.Captured r s := by
  obtain ⟨result, hres, rfl⟩ := List.mem_map.mp hr
  have hget := db.feeResults.get?_of_mem (mem_feeResults_of_current (mem_filter.mp hres).1)
  obtain ⟨_, -, h⟩ := of_bind h
  simp only [AuthorityRow.reference, FeeResult.authorityRow, hget] at h
  obtain ⟨_, hres', h⟩ := of_bind h
  cases hres'
  unfold resultStatementSource at h
  split at h
  · cases h
  · rename_i store hst
    cases h
    have hresp : result.responsibleStore result.feeDirection = some store :=
      (filter_eq_some_iff.mp hst).1
    exact ⟨rfl, rfl, hresp.symm, rfl, rfl, rfl, rfl⟩

theorem mem_basedAdjustments {row : FeeAdjustment × FeeResult × Option (StatementEntry × Statement)}
    (h : row ∈ db.basedAdjustments) : db.adjustments.get? row.1.adjustmentId = some row.1 ∧
      db.feeResults.get? row.1.originalFeeResultId = some row.2.1 ∧
      ∀ basis, row.2.2 = some basis → basis ∈ db.basesOf row.1 := by
  obtain ⟨_, ha, hrow⟩ := mem_flatMap.mp h
  split at hrow
  · cases hrow
  · rename_i hr
    obtain ⟨_, hbasis, rfl⟩ := List.mem_map.mp hrow
    refine ⟨db.adjustments.get?_of_mem ha, hr, ?_⟩
    rintro b rfl
    unfold outerJoined at hbasis
    split at hbasis
    · simp at hbasis
    · rename_i hbases
      rw [hbases]
      simpa using hbasis

theorem captured_adjustment (hr : r ∈ db.adjustmentAuthorityRows months)
    (h : db.captureSource snapshots r.reference = .ok s) : db.Captured r s := by
  obtain ⟨⟨a, result, basis⟩, hrow, rfl⟩ := List.mem_map.mp hr
  obtain ⟨hadj, hres, hbases⟩ := mem_basedAdjustments (mem_filter.mp hrow).1
  obtain ⟨storeId, hst, h⟩ := Except.of_ofOption_bind h
  have hstoreId : adjustmentStore a result basis = some storeId :=
    (filter_eq_some_iff.mp hst).1
  simp only [AuthorityRow.reference, adjustmentAuthorityRow, hadj] at h
  obtain ⟨_, ha', h⟩ := of_bind h
  cases ha'
  rw [hres] at h
  obtain ⟨_, hres', h⟩ := of_bind h
  cases hres'
  cases basis with
  | none =>
    simp only [map_none] at h
    unfold adjustmentStatementSource at h
    split at h
    · cases h
    · rename_i store hknown
      cases h
      have hresp : result.responsibleStore a.feeDirection = some store :=
        (filter_eq_some_iff.mp hknown).1
      exact ⟨rfl, rfl, hresp.symm, rfl, rfl, rfl, rfl⟩
  | some basis =>
    obtain ⟨e, _⟩ := basis
    have hent : db.billing.entries.get? e.statementEntryId = some e :=
      db.billing.entries.get?_of_mem
        (mem_entries_of_protected (mem_filter.mp (hbases _ rfl)).1)
    simp only [map_some, hent] at h
    obtain ⟨_, he', h⟩ := of_bind h
    cases he'
    obtain ⟨_, hsrc, h⟩ := of_bind h
    cases h
    obtain ⟨⟨_, rfl⟩, -⟩ := statementSourceFromEntry_ok hsrc
    refine ⟨rfl, rfl, hstoreId.symm, rfl, rfl, rfl, ?_⟩
    unfold Db.capturedLabel
    simp only [adjustmentAuthorityRow, map_some, bind_some, hent]
    rfl

theorem captured_frozen (hchk : ∀ row ∈ db.frozenEntries months, db.CheckedEntry row.2 row.1)
    (hr : r ∈ db.frozenAuthorityRows months) (h : db.captureSource snapshots r.reference = .ok s) :
    db.Captured r s := by
  obtain ⟨⟨e, bill⟩, hrow, rfl⟩ := List.mem_map.mp hr
  have hent : db.billing.entries.get? e.statementEntryId = some e :=
    db.billing.entries.get?_of_mem (mem_entries_of_protected (mem_filter.mp hrow).1)
  obtain ⟨storeId, hst, h⟩ := Except.of_ofOption_bind h
  have hstoreId : some bill.storeId = some storeId := (filter_eq_some_iff.mp hst).1
  simp only [AuthorityRow.reference, hent] at h
  obtain ⟨_, he', h⟩ := of_bind h
  cases he'
  obtain ⟨⟨_, rfl⟩, -⟩ := statementSourceFromEntry_ok h
  exact ⟨rfl, rfl, hstoreId.symm, (hchk _ hrow).1, rfl, rfl, rfl⟩

/-- Every row is captured as itself, but for the label of a frozen basis. -/
theorem captured_of_captureSource
    (hchk : ∀ row ∈ db.frozenEntries months, db.CheckedEntry row.2 row.1)
    (hr : r ∈ db.authoritySources months) (h : db.captureSource snapshots r.reference = .ok s) :
    db.Captured r s := by
  rcases mem_append.mp hr with hr | hr
  · rcases mem_append.mp hr with hr | hr
    · exact captured_result hr h
    · exact captured_adjustment hr h
  · exact captured_frozen hchk hr h

end Capture

end DyData.Settlement
