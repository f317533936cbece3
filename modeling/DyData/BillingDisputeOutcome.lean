import DyData.BillingConfirmations
import DyData.SettlementAuthority

/-!
What a decided dispute leaves behind.  The amount of a confirmation is fixed when it is recorded:
the bill's net fee less what is disputed at that moment.  No decision changes it afterwards.
Whether a dispute can be accepted at all depends on the last entries of its orders.  The version
it makes does not replace the status that the sparse rows show.
-/

namespace DyData.Settlement

open Relational List
open Except (of_bind of_ensure_bind bind_ne_error bind_eq_error_iff)

variable {b b' : Billing} {c : StatementConfirmation} {statementId : String}
  {direction : Direction} {db : Db}

def Billing.promotionDisputed (b : Billing) (statementId : String) : Bool :=
  b.disputes.rows.any fun d => d.freezes statementId .promotion

def Billing.PositiveDisputes (b : Billing) : Prop :=
  ∀ d ∈ b.disputes.rows, 0 < d.disputedAmountCent

/-- The promotion fees of the bill are undisputed whenever their confirmation is recorded. -/
def Db.ConfirmedUndisputed (db : Db) (statementId : String) : List BillAction → Prop
  | [] => True
  | action :: actions =>
    (db.billing.confirmationOf statementId .promotion = none →
      ((db.billAct action).billing.confirmationOf statementId .promotion).isSome →
      db.billing.promotionDisputed statementId = false) ∧
    (db.billAct action).ConfirmedUndisputed statementId actions

structure Db.HoldsBill (db : Db) (s : Statement) : Prop where
  held : db.billing.statements.get? s.statementId = some s
  positive : db.billing.PositiveDisputes

/-! ### One action -/

theorem frozenAmount_eq_zero_iff (hposi : b.PositiveDisputes) (statementId : String) :
    b.frozenAmount statementId .promotion = 0 ↔ b.promotionDisputed statementId = false := by
  have hamou : ∀ d ∈ b.disputes.rows.filter fun d => d.freezes statementId .promotion,
      0 < d.disputedAmountCent := fun d hd => hposi d (mem_filter.mp hd).1
  have hempty : b.promotionDisputed statementId = false ↔
      b.disputes.rows.filter (fun d => d.freezes statementId .promotion) = [] := by
    rw [Billing.promotionDisputed, any_eq_false, filter_eq_nil_iff]
  rw [hempty, Billing.frozenAmount]
  constructor
  · intro hzero
    by_contra hne
    have hpos := sum_pos
      ((b.disputes.rows.filter fun d => d.freezes statementId .promotion).map
        Dispute.disputedAmountCent)
      (by
        intro x hx
        obtain ⟨d, hd, rfl⟩ := mem_map.mp hx
        exact hamou d hd)
      (by simpa using hne)
    omega
  · intro hnil
    rw [hnil]
    rfl

theorem confirmationOf_append {added : StatementConfirmation}
    (hrows : b'.confirmations.rows = b.confirmations.rows ++ [added])
    (hc : b.confirmationOf statementId direction = some c) :
    b'.confirmationOf statementId direction = some c := by
  unfold Billing.confirmationOf at hc ⊢
  rw [hrows, find?_append, hc]
  rfl

theorem BillEffect.confirmationOf (h : BillEffect b b')
    (hc : b.confirmationOf statementId direction = some c) :
    b'.confirmationOf statementId direction = some c := by
  cases h with
  | same h => rwa [h]
  | confirmed context r s hs h =>
    obtain ⟨_, _, _, hrows, _⟩ := recordConfirmation_ok h
    exact confirmationOf_append hrows hc
  | submitted d _ _ h =>
    rw [h]
    exact hc
  | moved disputeId f hf hmoves h =>
    rw [h]
    exact hc

theorem BillEffect.positiveDisputes (h : BillEffect b b') (hpos : b.PositiveDisputes) :
    b'.PositiveDisputes := by
  cases h with
  | same h => rwa [h]
  | confirmed context r s hs h =>
    obtain ⟨_, _, _, _, hfrm⟩ := recordConfirmation_ok h
    rw [hfrm]
    exact hpos
  | submitted d hamt hdisp _ =>
    intro e he
    rw [hdisp] at he
    rcases mem_append.mp he with he | he
    · exact hpos e he
    · rwa [mem_singleton.mp he]
  | moved disputeId f hf hmoves h =>
    intro e he
    rw [h] at he
    obtain ⟨d, hd, rfl⟩ := (Table.mem_update _ _ f hf).mp he
    split
    · rw [hmoves.amount]
      exact hpos d hd
    · exact hpos d hd

theorem BillEffect.statements (h : BillEffect b b') : b'.statements = b.statements := by
  cases h with
  | same h => rw [h]
  | confirmed context r s hs h =>
    obtain ⟨_, _, _, _, hfrm⟩ := recordConfirmation_ok h
    rw [hfrm]
  | submitted d _ _ h => rw [h]
  | moved disputeId f hf hmoves h => rw [h]

/-- A new promotion confirmation of the bill has the net fee less what is disputed. -/
theorem BillEffect.newConfirmation (h : BillEffect b b') {s : Statement}
    (hs : b.statements.get? s.statementId = some s)
    (hnone : b.confirmationOf s.statementId .promotion = none)
    (hc : b'.confirmationOf s.statementId .promotion = some c) :
    c.confirmedAmountCent = s.promotionNetFeeCent - b.frozenAmount s.statementId .promotion := by
  cases h with
  | same h =>
    rw [h, hnone] at hc
    cases hc
  | confirmed context r t ht h =>
    obtain ⟨_, _, _, hrows, _⟩ := recordConfirmation_ok h
    unfold Billing.confirmationOf at hc hnone
    rw [hrows, find?_append, hnone, find?_singleton] at hc
    split at hc
    · rename_i hmatch
      rw [Bool.and_eq_true] at hmatch
      have hid : r.statementId = s.statementId := of_decide_eq_true hmatch.1
      have hdir : r.feeDirection = .promotion := of_decide_eq_true hmatch.2
      rw [hid, hs] at ht
      cases ht
      cases hc
      rw [ConfirmRequest.confirmation, hdir]
      rfl
    · cases hc
  | submitted d _ _ h =>
    rw [h] at hc
    exact absurd (hnone.symm.trans hc) (by simp)
  | moved disputeId f hf hmoves h =>
    rw [h] at hc
    exact absurd (hnone.symm.trans hc) (by simp)

/-! ### Whole runs -/

theorem HoldsBill.step {s : Statement} (h : db.HoldsBill s) {action : BillAction}
    (hnone : action.accepts = false) : (db.billAct action).HoldsBill s := by
  have heff := billAct_effect db hnone
  exact ⟨by rw [heff.statements]; exact h.held, heff.positiveDisputes h.positive⟩

theorem confirmationOf_billRun {actions : List BillAction}
    (hnone : ∀ a ∈ actions, a.accepts = false)
    (hc : db.billing.confirmationOf statementId direction = some c) :
    (db.billRun actions).billing.confirmationOf statementId direction = some c := by
  induction actions generalizing db with
  | nil => exact hc
  | cons action actions ih =>
    exact ih (fun a ha => hnone a (mem_cons_of_mem _ ha))
      ((billAct_effect db (hnone action mem_cons_self)).confirmationOf hc)

theorem confirmedUndisputed_of_confirmed {actions : List BillAction}
    (hnone : ∀ a ∈ actions, a.accepts = false)
    (hc : db.billing.confirmationOf statementId .promotion = some c) :
    db.ConfirmedUndisputed statementId actions := by
  induction actions generalizing db with
  | nil => trivial
  | cons action actions ih =>
    refine ⟨fun hunc => absurd (hunc.symm.trans hc) (by simp), ?_⟩
    exact ih (fun a ha => hnone a (mem_cons_of_mem _ ha))
      ((billAct_effect db (hnone action mem_cons_self)).confirmationOf hc)

/-- Over any run without an accepted dispute the recorded amount is the net fee exactly when no
promotion dispute of the bill was open at the confirmation, whatever became of the disputes. -/
theorem confirmed_promotion_eq_net_iff_undisputed {db : Db} {s : Statement}
    (hbill : db.HoldsBill s) (hunconfirmed : db.billing.confirmationOf s.statementId .promotion = none)
    {actions : List BillAction} (hnone : ∀ a ∈ actions, a.accepts = false)
    {c : StatementConfirmation}
    (hc : (db.billRun actions).billing.confirmationOf s.statementId .promotion = some c) :
    c.confirmedAmountCent = s.promotionNetFeeCent ↔
      db.ConfirmedUndisputed s.statementId actions := by
  induction actions generalizing db with
  | nil =>
    rw [Db.billRun, foldl_nil, hunconfirmed] at hc
    cases hc
  | cons action actions ih =>
    have haction : action.accepts = false := hnone action mem_cons_self
    have hrest : ∀ a ∈ actions, a.accepts = false :=
      fun a ha => hnone a (mem_cons_of_mem _ ha)
    have heffect := billAct_effect db haction
    rw [Db.ConfirmedUndisputed]
    -- either this action records the confirmation, or the rest of the run does
    cases hafter : (db.billAct action).billing.confirmationOf s.statementId .promotion with
    | none =>
      rw [ih (HoldsBill.step hbill haction) hafter hrest hc]
      simp
    | some recorded =>
      have hsame : recorded = c := by
        have hkept := confirmationOf_billRun hrest hafter
        exact Option.mem_unique hkept hc
      have hamount := heffect.newConfirmation hbill.held hunconfirmed hafter
      have hzero := frozenAmount_eq_zero_iff hbill.positive s.statementId
      rw [hsame] at hamount
      have hlater := confirmedUndisputed_of_confirmed hrest hafter
      constructor
      · intro hnet
        refine ⟨fun _ _ => hzero.mp (by omega), hlater⟩
      · rintro ⟨hundisputed, _⟩
        have := hzero.mpr (hundisputed hunconfirmed rfl)
        omega

namespace RejectedDispute

def bill : Statement where
  statementId := "statement-1"
  storeId := "store-1"
  statementMonth := formalSettlementStart
  statementStatus := .pendingConfirmation
  promotionOriginalFeeCent := 100
  promotionNetFeeCent := 100

def entry : StatementEntry where
  statementEntryId := "entry-1"
  statementId := "statement-1"
  statementLineId := "line-1"
  sourceType := .original
  sourceRecordId := "fee-1"
  originalFeeResultId := "fee-1"
  couponId := "coupon-1"
  orderId := "order-1"
  feeDirection := .promotion
  originalBusinessMonth := formalSettlementStart
  statementPostingMonth := formalSettlementStart
  productScope := "scope"
  productType := "type"
  baseAmountCent := 1000
  feeAmountCent := 100
  ruleVersion := "rule-1"

def start : Db where
  billing := { statements := ⟨[bill], by decide⟩, entries := ⟨[entry], by decide⟩ }

def context : RequestContext where
  operator := "admin"
  now := 0
  dayOfMonth := 3
  sha256 := id

def dispute : DisputeRequest where
  key := ⟨"key-1", "payload-1"⟩
  disputeId := "dispute-1"
  statementId := "statement-1"
  feeDirection := .promotion
  disputedAmountCent := 30
  orders := [⟨"order-1", some "coupon-1", 30⟩]
  readVersion := 1

def confirmation (amount : Int) : ConfirmRequest where
  key := ⟨"key-2", "payload-2"⟩
  confirmationId := "confirmation-1"
  statementId := "statement-1"
  feeDirection := .promotion
  confirmedAmountCent := amount
  readVersion := 1

def ids : VersionIds where
  statementId := "statement-2"
  adjustment := id
  application := id
  line := id
  entry := id
  disputeEntry := fun _ => "entry-2"
  confirmationId := "confirmation-2"

def rejection : TransitionRequest where
  key := ⟨"key-3", "payload-3"⟩
  auditId := "audit-1"
  ids := ids
  disputeId := "dispute-1"
  target := .rejected
  resolutionNote := "unfounded"
  readVersion := 1
  adjustmentAmountCent := none

def decidedFirst : List BillAction :=
  [.submit dispute, .transition context rejection, .confirm context (confirmation 100)]

def decidedLast : List BillAction :=
  [.submit dispute, .confirm context (confirmation 70), .transition context rejection]

theorem start_holds : start.HoldsBill bill :=
  ⟨by decide +kernel, nofun⟩

end RejectedDispute

open RejectedDispute in
/-- A dispute that is decided first costs nothing. -/
theorem dispute_decided_first_keeps_net :
    ((confirmation 100).confirmation 0 100).confirmedAmountCent = bill.promotionNetFeeCent ↔
      start.ConfirmedUndisputed bill.statementId decidedFirst :=
  confirmed_promotion_eq_net_iff_undisputed start_holds (by decide +kernel)
    (by decide +kernel) (by decide +kernel)

open RejectedDispute in
/-- A dispute that is rejected after the confirmation has taken its amount out for good. -/
theorem rejected_dispute_loses_amount :
    start.HoldsBill bill ∧ (∀ a ∈ decidedLast, a.accepts = false) ∧
    (start.billRun decidedLast).billing.promotionDisputed bill.statementId = false ∧
    ((start.billRun decidedLast).billing.confirmationOf bill.statementId .promotion).map
      StatementConfirmation.confirmedAmountCent = some 70 ∧
    bill.promotionNetFeeCent = 100 :=
  ⟨start_holds, by decide +kernel, by decide +kernel, by decide +kernel, rfl⟩

/-! ### Adjusting what was submitted -/

def outOfScope : SettlementError :=
  unprocessable "DISPUTE_ORDER_SCOPE_INVALID" "异议订单无法精确映射到当前账单费用方向"
    (some "orders")

/-- The order names a coupon, and the last entry for both is one of the direction. -/
def LastEntryIn (entries : List StatementEntry) (direction : Direction) (o : DisputeOrder) : Prop :=
  ∃ before e after, entries = before ++ e :: after ∧ e.orderId = o.orderId ∧
    some e.couponId = o.couponId ∧ e.feeDirection = direction ∧
    ∀ x ∈ after, x.orderId = o.orderId → some x.couponId ≠ o.couponId

theorem selectEntry_iff {entries : List StatementEntry} {o : DisputeOrder} :
    (LastEntryIn entries direction o → ∃ x, selectEntry entries direction o = .ok x) ∧
      (¬ LastEntryIn entries direction o →
        selectEntry entries direction o = .error outOfScope) := by
  constructor
  · rintro ⟨before, e, after, rfl, hord, hcoup, hdir, hlast⟩
    have hfind : (before ++ e :: after).reverse.find? (fun e => e.orderId = o.orderId &&
        some e.couponId = o.couponId) = some e := by
      refine find?_eq_some_iff_append.mpr
        ⟨by simp [hord, hcoup], after.reverse, before.reverse, by simp, fun x hx => ?_⟩
      simpa [imp_iff_not_or] using hlast x (mem_reverse.mp hx)
    rw [selectEntry, hfind]
    exact ⟨_, if_pos hdir⟩
  · intro hnone
    unfold selectEntry
    split
    · rename_i e hfind
      refine if_neg fun hdir => hnone ?_
      obtain ⟨hkey, after, before, hents, hlast⟩ := find?_eq_some_iff_append.mp hfind
      simp only [bool_to_prop] at hkey
      refine ⟨before.reverse, e, after.reverse, ?_, hkey.1, hkey.2, hdir, fun x hx => ?_⟩
      · simpa using congrArg reverse hents
      · simpa [imp_iff_not_or] using hlast x (mem_reverse.mp hx)
    · rfl

/-- A bill that a dispute was accepted for has entries. -/
theorem entriesOf_of_submitted {r : DisputeRequest} (h : b.createStoreSettlementDispute r = .ok b')
    (hnew : ∀ d ∈ b.disputes.rows, d.idempotencyKeyHash ≠ some r.key.keyHash) :
    b'.entriesOf r.statementId ≠ [] := by
  obtain ⟨_, hs, h⟩ := Except.of_ofOption_bind h
  obtain ⟨orders, hparse, h⟩ := of_bind h
  rw [find?_eq_none.mpr fun d hd => by simpa using hnew d hd] at h
  obtain ⟨-, h⟩ := of_ensure_bind h
  obtain ⟨hheld, h⟩ := of_ensure_bind h
  obtain ⟨_, -, h⟩ := Except.of_ofOption_bind h
  cases h
  obtain ⟨hpos, hparse⟩ := of_ensure_bind hparse
  iterate 2 obtain ⟨-, hparse⟩ := of_ensure_bind hparse
  obtain ⟨parsed, -, hparse⟩ := of_bind hparse
  obtain ⟨hsum, hparse⟩ := of_ensure_bind hparse
  obtain rfl := Except.pure_eq_ok_iff.mp hparse
  rw [decide_eq_true_eq] at hpos hsum
  cases parsed with
  | nil =>
    -- the amounts of the orders add up to a positive amount
    rw [map_nil, sum_nil] at hsum
    omega
  | cons o orders =>
    obtain ⟨_, he, hent⟩ := any_eq_true.mp (all_eq_true.mp hheld o mem_cons_self)
    simp only [bool_to_prop] at hent
    exact ne_nil_of_mem (mem_filter.mpr ⟨he, decide_eq_true
      (hent.1.1.1.trans (b.statements.key_of_get? hs))⟩)

theorem allocateShares_ne_outOfScope (total weightTotal sign remaining : Int) (weights : List Int) :
    allocateShares total weightTotal sign remaining weights ≠ .error outOfScope := by
  induction weights generalizing remaining with
  | nil => nofun
  | cons weight weights ih =>
    cases weights with
    | nil => nofun
    | cons next weights =>
      rw [allocateShares]
      split
      · nofun
      · exact bind_ne_error (ih _) nofun

/-- After the orders are mapped to entries nothing is refused as out of scope. -/
theorem version_outOfScope_iff {ids : VersionIds} {context : RequestContext} {dispute : Dispute}
    {current : Statement} {amount : Int} (h : db.billing.entriesOf current.statementId ≠ []) :
    db.createDisputeStatementVersion ids context dispute current amount = .error outOfScope ↔
      (db.billing.ordersOf dispute.disputeId).mapM (selectEntry
        (db.billing.entriesOf current.statementId) dispute.feeDirection) = .error outOfScope := by
  constructor
  · intro herror
    rcases bind_eq_error_iff.mp (Except.of_ensure_bind_error (by decide) herror) with
      herror | ⟨selected, -, herror⟩
    · exact herror
    · refine absurd herror (bind_ne_error ?_ fun b₁ => bind_ne_error ?_ fun posted =>
        bind_ne_error ?_ fun db₂ =>
        bind_ne_error (allocateShares_ne_outOfScope _ _ _ _ _) fun amounts =>
        bind_ne_error ?_ fun b₃ => bind_ne_error ?_ fun _ =>
        bind_ne_error ?_ nofun)
      · unfold Billing.addStatement
        split
        · nofun
        · split <;> nofun
      · intro hpost
        obtain ⟨_, -, hp⟩ := Except.exists_of_mapM_error hpost
        split at hp
        · cases hp
        · exact absurd (Except.error.inj hp) (by decide)
      · unfold Db.copyPostings
        dsimp only
        split <;> nofun
      · unfold Billing.addSnapshot
        split <;> nofun
      · intro hens
        exact absurd (Except.ensure_eq_error_iff.mp hens).2 (by decide)
      · unfold Billing.autoConfirm Billing.addConfirmation
        split
        · split
          · nofun
          · split <;> nofun
        · nofun
  · intro herror
    refine bind_eq_error_iff.mpr (.inr ⟨(), ?_, bind_eq_error_iff.mpr (.inl herror)⟩)
    simpa using h

/-- As long as the bill stands, the dispute that was accepted for it can be adjusted exactly when
each of its orders names a coupon whose last entry is in the disputed direction. -/
theorem accepted_dispute_adjustable_iff {r : DisputeRequest}
    (h : b.createStoreSettlementDispute r = .ok b')
    (hnew : ∀ d ∈ b.disputes.rows, d.idempotencyKeyHash ≠ some r.key.keyHash)
    (hentries : db.billing.entriesOf r.statementId = b'.entriesOf r.statementId)
    (horders : db.billing.ordersOf r.disputeId = b'.ordersOf r.disputeId) {d : Dispute}
    (hid : d.disputeId = r.disputeId) (hdirection : d.feeDirection = r.feeDirection)
    {current : Statement} (hcurrent : current.statementId = r.statementId) (ids : VersionIds)
    (context : RequestContext) (amount : Int) :
    db.createDisputeStatementVersion ids context d current amount ≠ .error outOfScope ↔
      ∀ o ∈ b'.ordersOf r.disputeId, LastEntryIn (b'.entriesOf r.statementId) r.feeDirection o := by
  have hsome := entriesOf_of_submitted h hnew
  rw [← hentries, ← hcurrent] at hsome
  rw [Ne, version_outOfScope_iff hsome, hcurrent, hentries, hid, hdirection, horders]
  constructor
  · intro hok o ho
    by_contra hnone
    refine hok (Except.mapM_eq_error (fun x _ => ?_) ⟨o, ho, selectEntry_iff.2 hnone⟩)
    by_cases hx : LastEntryIn (b'.entriesOf r.statementId) r.feeDirection x
    · exact .inr (selectEntry_iff.1 hx)
    · exact .inl (selectEntry_iff.2 hx)
  · intro hall herror
    obtain ⟨o, ho, herror⟩ := Except.exists_of_mapM_error herror
    obtain ⟨_, hx⟩ := selectEntry_iff.1 (hall o ho)
    rw [hx] at herror
    cases herror

open RejectedDispute in
/-- The entry of the coupon is in the disputed direction. -/
theorem dispute_of_coupon_adjustable :
    ∃ b', start.billing.createStoreSettlementDispute dispute = .ok b' ∧
      (({ start with billing := b' } : Db).createDisputeStatementVersion ids context
          (dispute.dispute bill) bill (-10) ≠ .error outOfScope ↔
        ∀ o ∈ b'.ordersOf "dispute-1", LastEntryIn (b'.entriesOf "statement-1") .promotion o) := by
  have haccepted : (start.billing.createStoreSettlementDispute dispute).isOk = true := by
    decide +kernel
  cases h : start.billing.createStoreSettlementDispute dispute with
  | error e =>
    rw [h] at haccepted
    cases haccepted
  | ok b' =>
    exact ⟨b', rfl, accepted_dispute_adjustable_iff h (by decide +kernel) rfl rfl rfl rfl rfl ids
      context (-10)⟩

namespace RejectedDispute

/-- The order is disputed whole. -/
def wholeOrder : DisputeRequest := { dispute with orders := [⟨"order-1", none, 30⟩] }

/-- The coupon also has a management fee, recorded after the promotion fee. -/
def bothDirections : Db where
  billing :=
    { statements := ⟨[bill], by decide⟩
      entries := ⟨[entry, { entry with
        statementEntryId := "entry-2", feeDirection := .management }], by decide⟩ }

/-- Submit a dispute of the bill, then accept it with an adjustment of -10. -/
def adjust (db : Db) (r : DisputeRequest) : Except SettlementError Unit := do
  let billing ← db.billing.createStoreSettlementDispute r
  discard (({ db with billing } : Db).createDisputeStatementVersion ids context (r.dispute bill)
    bill (-10))

end RejectedDispute

open RejectedDispute in
/-- Both submissions are accepted, and neither can be adjusted. -/
theorem submitted_dispute_out_of_scope :
    (start.billing.createStoreSettlementDispute wholeOrder).isOk = true ∧
    adjust start wholeOrder = .error outOfScope ∧
    (bothDirections.billing.createStoreSettlementDispute dispute).isOk = true ∧
    adjust bothDirections dispute = .error outOfScope :=
  ⟨by decide +kernel, by decide +kernel, by decide +kernel, by decide +kernel⟩

/-! ### The status that the sparse rows show -/

/-- A choice that `limit(1)` may make among the bills of every slot. -/
structure Billing.LimitOne (b : Billing) (pick : Option String → Month → Option Statement) :
    Prop where
  picked : ∀ storeId month s, pick storeId month = some s →
    s ∈ b.statements.rows ∧ some s.storeId = storeId ∧ s.statementMonth = month
  missing : ∀ storeId month, pick storeId month = none →
    ∀ s ∈ b.statements.rows, some s.storeId = storeId → s.statementMonth ≠ month

/-- `_sparse_monthly_query` with the bills that its `limit(1)` picks. -/
def Db.sparseMonthlyQueryPicking (db : Db) (pick : Option String → Month → Option Statement)
    (month : Month) : Dict (Option String × String × String) SparseMonthlyRow :=
  Dict.groupBy (fun row : AuthorityRow × String × String => (row.1.storeId, row.2))
    (fun key rows => ⟨monthlyFigures (rows.map fun row => row.1.figure),
      ((pick key.1 month).map Statement.statementStatus).getD .generating⟩)
    (db.sparseAuthorityRelation [month])

/-- The choice of `sparseMonthlyQuery`: the bill that was added first. -/
def Billing.oldestBill (b : Billing) (storeId : Option String) (month : Month) :
    Option Statement :=
  b.statements.rows.find? fun s => some s.storeId = storeId && s.statementMonth = month

def Billing.currentStatus (b : Billing) (storeId : Option String) (month : Month) :
    StatementStatus :=
  ((b.statements.rows.find? fun s => s.isCurrent && some s.storeId = storeId &&
    s.statementMonth = month).map Statement.statementStatus).getD .generating

theorem limitOne_oldestBill (b : Billing) : b.LimitOne b.oldestBill := by
  refine ⟨fun storeId month s h => ?_, fun storeId month h s hs hstore hmonth => ?_⟩
  · have hslot := find?_some h
    simp only [bool_to_prop] at hslot
    exact ⟨mem_of_find?_eq_some h, hslot⟩
  · exact absurd (find?_eq_none.mp h s hs) (by simp [hstore, hmonth])

/-- A choice may return any one bill of its slot. -/
theorem Billing.LimitOne.update {b : Billing} {pick : Option String → Month → Option Statement}
    (h : b.LimitOne pick) {s : Statement} (hs : s ∈ b.statements.rows) :
    b.LimitOne fun storeId month =>
      if some s.storeId = storeId ∧ s.statementMonth = month then some s else pick storeId month := by
  refine ⟨fun storeId month x hx => ?_, fun storeId month hx => ?_⟩
  · split at hx
    · rename_i hslot
      cases hx
      exact ⟨hs, hslot⟩
    · exact h.picked storeId month x hx
  · split at hx
    · cases hx
    · exact h.missing storeId month hx

/-- The sparse rows show the status of the current bills, whatever bill is picked, exactly when
no other version of a shown slot has another status. -/
theorem sparse_status_current_iff (db : Db) (month : Month) :
    (∀ pick, db.billing.LimitOne pick → ∀ key row,
      (db.sparseMonthlyQueryPicking pick month).value? key = some row →
        row.statementStatus = db.billing.currentStatus key.1 month) ↔
      ∀ key, ((db.sparseMonthlyQuery month).value? key).isSome →
        ∀ s ∈ db.billing.statements.rows, some s.storeId = key.1 → s.statementMonth = month →
          s.statementStatus = db.billing.currentStatus key.1 month := by
  have hshown : ∀ pick key, (db.sparseMonthlyQueryPicking pick month).value? key =
      ((db.sparseMonthlyQuery month).value? key).map fun row => { row with
        statementStatus := ((pick key.1 month).map Statement.statementStatus).getD .generating } := by
    intro pick key
    unfold Db.sparseMonthlyQueryPicking Db.sparseMonthlyQuery
    rw [Dict.value?_groupBy, Dict.value?_groupBy]
    split <;> rfl
  simp only [hshown]
  constructor
  · intro h key hkey s hs hstore hmonth
    obtain ⟨row, hrow⟩ := Option.isSome_iff_exists.mp hkey
    have hs' := h _ ((limitOne_oldestBill db.billing).update hs) key _ (by rw [hrow]; rfl)
    simpa [hstore, hmonth] using hs'
  · intro h pick hpick key row hrow
    obtain ⟨_, hold, rfl⟩ := Option.map_eq_some_iff.mp hrow
    have hall := h key (by rw [hold]; rfl)
    cases hp : pick key.1 month with
    | some s =>
      obtain ⟨hs, hstore, hmonth⟩ := hpick.picked _ _ s hp
      exact hall s hs hstore hmonth
    | none =>
      -- no version of the slot, so no current one either
      have hnone : (db.billing.statements.rows.find? fun s => s.isCurrent &&
          some s.storeId = key.1 && s.statementMonth = month) = none := by
        refine find?_eq_none.mpr fun s hs => ?_
        have := hpick.missing _ _ hp s hs
        simp only [bool_to_prop]
        exact fun hslot => this hslot.1.2 hslot.2
      unfold Billing.currentStatus
      rw [hnone]

/-- A dispute is accepted on the tenth of the month. -/
def RejectedDispute.acceptedLate : Db :=
  start.billRun [.submit dispute, .transition { context with dayOfMonth := 10 }
    { rejection with
      ids := { ids with entry := fun id => id ++ "-copy" }
      target := .acceptedWithAdjustment
      adjustmentAmountCent := some (-10) }]

open RejectedDispute in
/-- The new version is confirmed at once, and the status of the one it supersedes is shown. -/
theorem superseded_status_shown : ∃ pick, acceptedLate.billing.LimitOne pick ∧
      ((acceptedLate.sparseMonthlyQueryPicking pick formalSettlementStart).value?
        (some "store-1", "all", "all")).map SparseMonthlyRow.statementStatus =
          some .pendingConfirmation ∧
      acceptedLate.billing.currentStatus (some "store-1") formalSettlementStart = .confirmed :=
  ⟨_, limitOne_oldestBill _, by decide +kernel, by decide +kernel⟩

end DyData.Settlement
