import DyData.SettlementRows
import DyData.PythonText

/-!
The receipt that a coupon is settled with.  An order's payload may list the receipts of its
sub-orders, or one receipt for all of it.  A coupon gets the line that only it names, and the only
coupon of an order gets the order's receipt.
-/

namespace DyData.Settlement

open Relational List Option

/-- How payload values are read: `parse_receipt_amount_cent`, which returns cents that are never
negative, and `str`. -/
structure PayloadReader where
  parse : JsonValue → Option Nat
  text : JsonValue → String

namespace PayloadReader

variable (reader : PayloadReader)

/-- `entry.get(name)`, stripped, unless it is `None`. -/
def identifier (entry : JsonValue) (name : String) : Option String :=
  ((entry.get? name).filter fun value => !value.isNull).map fun value =>
    PythonText.strip (reader.text value)

/-- The two identifiers of a line contradict each other. -/
def contradictory (entry : JsonValue) : Bool :=
  match reader.identifier entry "order_item_id", reader.identifier entry "sub_order_id" with
  | some itemId, some subOrderId => itemId ≠ subOrderId
  | _, _ => false

def receiptAmount (payload : JsonValue) : Option Nat :=
  (payload.get? "receipt_amount").bind reader.parse

/-- The item of a line, and its receipt if that is proven. -/
def line (entry : JsonValue) : Option String × Option Nat :=
  (((reader.identifier entry "order_item_id").or (reader.identifier entry "sub_order_id")).filter
    (· ≠ ""), reader.receiptAmount entry)

end PayloadReader

abbrev ReceiptLines := List (Option String × Option Nat)

namespace ReceiptLines

/-- The receipt of an item that has one line, with a proven receipt. -/
def unique (lines : ReceiptLines) (itemId : String) : Option Nat :=
  match lines.filter fun l => l.1 = some itemId with
  | [(_, receipt)] => receipt
  | _ => none

/-- What a line proves: nothing when its item has another line. -/
def proven (lines : ReceiptLines) (l : Option String × Option Nat) : Nat :=
  (match l.1 with
    | none => l.2
    | some itemId => lines.unique itemId).getD 0

theorem unique_eq_some {lines : ReceiptLines} {itemId : String} {receipt : Nat}
    (h : lines.unique itemId = some receipt) :
    (some itemId, some receipt) ∈ lines ∧ ∀ l ∈ lines, l.1 = some itemId → l.2 = some receipt := by
  unfold unique at h
  split at h
  · rename_i item _ hfilter
    subst h
    have hmem : ∀ l, l ∈ lines ∧ l.1 = some itemId ↔ l = (item, some receipt) := by
      intro l
      rw [← mem_singleton (a := l), ← hfilter, mem_filter, decide_eq_true_eq]
    have hitem := (hmem (item, some receipt)).mpr rfl
    refine ⟨?_, fun l hl hid => ?_⟩
    · rw [← hitem.2]
      exact hitem.1
    · rw [(hmem l).mp ⟨hl, hid⟩]
  · cases h

end ReceiptLines

/-- `SubOrderReceipts`; the items without a unique receipt are its `unusable` ones. -/
structure SubOrderReceipts where
  lines : ReceiptLines := []
  entriesPresent : Bool := false
  completeTotal : Option Nat := none
  corrupt : Bool := false
  linesPresent : entriesPresent = true ∨ lines = [] := by simp

/-- `SubOrderReceipts.from_payload`, of the payload of an order. -/
def RawOrder.subOrders (order : RawOrder) (reader : PayloadReader) : SubOrderReceipts :=
  match order.rawPayload.get? "sub_order_amount_infos" with
  | none => {}
  | some (.arr []) => {}
  | some (.arr entries) =>
    if entries.any reader.contradictory then { entriesPresent := true, corrupt := true }
    else
      let lines : ReceiptLines := (entries.filter JsonValue.isObject).map reader.line
      let complete := entries.all JsonValue.isObject && lines.all fun l =>
        l.2.isSome && l.1.all fun itemId => (lines.unique itemId).isSome
      { lines
        entriesPresent := true
        completeTotal := if complete then some (lines.map fun l => l.2.getD 0).sum else none }
  | some _ => { corrupt := true }

def Db.couponsOf (db : Db) (order : RawOrder) : List RawCoupon :=
  db.coupons.rows.filter fun c => c.rawOrderId = order.id

def Db.itemCoupons (db : Db) (order : RawOrder) (itemId : String) : List RawCoupon :=
  (db.couponsOf order).filter fun c => c.orderItemId = some itemId

/-- `resolve_coupon_receipt_cent`, with the counts of the database. -/
def Db.resolveCouponReceiptCent (db : Db) (reader : PayloadReader) (order : RawOrder)
    (coupon : RawCoupon) : Option Nat :=
  match coupon.rawPayload.get? "receipt_amount" with
  | some value => reader.parse value
  | none =>
    if (order.subOrders reader).corrupt then none
    else if (db.couponsOf order).length ≠ 1 then do
      let itemId ← coupon.orderItemId.filter (· ≠ "")
      let receipt ← (order.subOrders reader).lines.unique itemId
      if (db.itemCoupons order itemId).length ≠ 1 then none else some receipt
    else if ((order.rawPayload.get? "count").bind reader.parse).any (1 < ·) then none
    else if (order.subOrders reader).entriesPresent then (order.subOrders reader).completeTotal
    else reader.receiptAmount order.rawPayload

/-- The sum of the distinct proven lines, or the order's receipt when there are no lines. -/
def RawOrder.provenReceipts (order : RawOrder) (reader : PayloadReader) : Nat :=
  let lines := (order.subOrders reader).lines
  if (order.subOrders reader).entriesPresent then (lines.map lines.proven).sum
  else (reader.receiptAmount order.rawPayload).getD 0

section Resolution

variable {db : Db} {reader : PayloadReader} {order : RawOrder} {coupon : RawCoupon} {receipt : Nat}

/-- A complete list is the sum of what its lines prove. -/
theorem completeTotal_eq (h : (order.subOrders reader).completeTotal = some receipt) :
    receipt = ((order.subOrders reader).lines.map (order.subOrders reader).lines.proven).sum := by
  unfold RawOrder.subOrders at h ⊢
  split at h
  · cases h
  · cases h
  · split at h
    · cases h
    · rename_i hcontra
      rw [if_neg hcontra]
      dsimp only at h ⊢
      split at h
      · rename_i hcomplete
        cases h
        refine congrArg sum (map_congr_left fun l hl => ?_)
        have hl' := List.all_eq_true.mp (Bool.and_eq_true_iff.mp hcomplete).2 l hl
        unfold ReceiptLines.proven
        cases hid : l.1 with
        | none => rfl
        | some itemId =>
          rw [hid, Bool.and_eq_true] at hl'
          obtain ⟨_, hreceipt⟩ := isSome_iff_exists.mp hl'.2
          dsimp only
          rw [hreceipt, (ReceiptLines.unique_eq_some hreceipt).2 l hl hid]
      · cases h
  · cases h

theorem resolve_single (hnone : coupon.rawPayload.get? "receipt_amount" = none)
    (hone : (db.couponsOf order).length = 1)
    (h : db.resolveCouponReceiptCent reader order coupon = some receipt) :
    receipt = order.provenReceipts reader := by
  unfold Db.resolveCouponReceiptCent at h
  unfold RawOrder.provenReceipts
  rw [hnone] at h
  dsimp only at h ⊢
  split at h
  · cases h
  · rw [if_neg (not_not.mpr hone)] at h
    split at h
    · cases h
    · split at h
      · rename_i hpresent
        rw [if_pos hpresent]
        exact completeTotal_eq h
      · rename_i hpresent
        rw [if_neg hpresent, h]
        rfl

theorem resolve_several (hnone : coupon.rawPayload.get? "receipt_amount" = none)
    (hmany : (db.couponsOf order).length ≠ 1)
    (h : db.resolveCouponReceiptCent reader order coupon = some receipt) :
    ∃ itemId, coupon.orderItemId = some itemId ∧
      (order.subOrders reader).lines.unique itemId = some receipt ∧
      (db.itemCoupons order itemId).length = 1 := by
  unfold Db.resolveCouponReceiptCent at h
  rw [hnone] at h
  dsimp only at h
  split at h
  · cases h
  · obtain ⟨itemId, hitem, h⟩ := bind_eq_some_iff.mp h
    obtain ⟨_, hunique, h⟩ := bind_eq_some_iff.mp h
    split at h
    · cases h
    · rename_i hshare
      cases h
      exact ⟨itemId, (filter_eq_some_iff.mp hitem).1, hunique, not_not.mp hshare⟩

theorem eq_of_length_one {α : Type*} {l : List α} (h : l.length = 1) {a b : α} (ha : a ∈ l)
    (hb : b ∈ l) : a = b := by
  obtain ⟨_, rfl⟩ := length_eq_one_iff.mp h
  rw [mem_singleton.mp ha, mem_singleton.mp hb]

/-- Several coupons get lines of their own. -/
theorem sum_le_of_several (hmany : (db.couponsOf order).length ≠ 1) {coupons : List RawCoupon}
    (hnd : coupons.Nodup) (hof : ∀ c ∈ coupons, c ∈ db.couponsOf order)
    (hnone : ∀ c ∈ coupons, c.rawPayload.get? "receipt_amount" = none)
    (hsome : ∀ c ∈ coupons, ∃ receipt, db.resolveCouponReceiptCent reader order c = some receipt) :
    (coupons.map fun c => (db.resolveCouponReceiptCent reader order c).getD 0).sum ≤
      order.provenReceipts reader := by
  have hsum : (coupons.map fun c => (db.resolveCouponReceiptCent reader order c).getD 0).sum ≤
      ((order.subOrders reader).lines.map (order.subOrders reader).lines.proven).sum := by
    refine sum_le_of_keys (k := fun c => c.orderItemId) (j := Prod.fst) ?_ ?_
      fun _ _ => Nat.zero_le _
    · refine Nodup.map_on (fun c hc c' hc' hkey => ?_) hnd
      obtain ⟨_, h⟩ := hsome c hc
      obtain ⟨itemId, hitem, -, hshare⟩ := resolve_several (hnone c hc) hmany h
      exact eq_of_length_one hshare (mem_filter.mpr ⟨hof c hc, decide_eq_true hitem⟩)
        (mem_filter.mpr ⟨hof c' hc', decide_eq_true (hkey.symm.trans hitem)⟩)
    · intro c hc
      obtain ⟨_, h⟩ := hsome c hc
      obtain ⟨_, hitem, hunique, -⟩ := resolve_several (hnone c hc) hmany h
      refine ⟨_, (ReceiptLines.unique_eq_some hunique).1, hitem, ?_⟩
      unfold ReceiptLines.proven
      dsimp only
      rw [h, hunique]
  unfold RawOrder.provenReceipts
  rcases (order.subOrders reader).linesPresent with hp | hp
  · rw [if_pos hp]
    exact hsum
  · rw [hp] at hsum
    exact hsum.trans (Nat.zero_le _)

/-- Amounts that are missing add nothing. -/
theorem sum_getD_filter {α : Type*} (f : α → Option Nat) (l : List α) :
    (l.map fun a => (f a).getD 0).sum =
      ((l.filter fun a => (f a).isSome).map fun a => (f a).getD 0).sum := by
  induction l with
  | nil => rfl
  | cons a l ih => cases hf : f a <;> simp [hf, ih]

/-- Coupons without a receipt of their own never get more than the order's proven receipts, and
the only coupon of an order gets all of them or nothing. -/
theorem receipts_attributed_once {coupons : List RawCoupon} (hnd : coupons.Nodup)
    (hof : ∀ c ∈ coupons, c ∈ db.couponsOf order)
    (hnone : ∀ c ∈ coupons, c.rawPayload.get? "receipt_amount" = none) :
    (coupons.map fun c => (db.resolveCouponReceiptCent reader order c).getD 0).sum ≤
        order.provenReceipts reader ∧
      ((db.couponsOf order).length = 1 → ∀ c ∈ coupons,
        db.resolveCouponReceiptCent reader order c = none ∨
        db.resolveCouponReceiptCent reader order c = some (order.provenReceipts reader)) := by
  constructor
  · rw [sum_getD_filter]
    by_cases hone : (db.couponsOf order).length = 1
    · -- at most one coupon is left
      have hmem {c : RawCoupon} (hc : c ∈ coupons.filter fun c =>
          (db.resolveCouponReceiptCent reader order c).isSome) :=
        mem_filter.mp hc
      match hleft : coupons.filter fun c =>
          (db.resolveCouponReceiptCent reader order c).isSome with
      | [] => exact Nat.zero_le _
      | [c] =>
        obtain ⟨hc, hsome⟩ := hmem (hleft ▸ mem_singleton_self c)
        obtain ⟨receipt, h⟩ := isSome_iff_exists.mp hsome
        simp [h, resolve_single (hnone c hc) hone h]
      | c :: c' :: rest =>
        have hsame : c = c' := eq_of_length_one hone
          (hof c (hmem (hleft ▸ mem_cons_self)).1)
          (hof c' (hmem (hleft ▸ mem_cons_of_mem c mem_cons_self)).1)
        have hfilter := hnd.filter fun c => (db.resolveCouponReceiptCent reader order c).isSome
        rw [hleft, hsame] at hfilter
        exact absurd mem_cons_self (nodup_cons.mp hfilter).1
    · refine sum_le_of_several hone (hnd.filter _) ?_ ?_ ?_
      · exact fun c hc => hof c (mem_filter.mp hc).1
      · exact fun c hc => hnone c (mem_filter.mp hc).1
      · exact fun c hc => isSome_iff_exists.mp (mem_filter.mp hc).2
  · intro hone c hc
    cases h : db.resolveCouponReceiptCent reader order c with
    | none => exact .inl rfl
    | some receipt => exact .inr (congrArg some (resolve_single (hnone c hc) hone h))

end Resolution

def SplitOrder.reader : PayloadReader where
  parse := (·.asInt?.map Int.toNat)
  text := (·.asString?.getD "")

def SplitOrder.order : RawOrder where
  id := 1
  orderId := "o"
  rawPayload := .obj [("sub_order_amount_infos", .arr
    [.obj [("order_item_id", .str "a"), ("receipt_amount", .num 100)],
      .obj [("sub_order_id", .str "b"), ("receipt_amount", .num 50)]])]

/-- Two coupons of one order, of which one names no item. -/
def SplitOrder.db : Db where
  coupons := ⟨[{ couponId := "x", orderId := "o", rawOrderId := 1, orderItemId := some "a" },
    { couponId := "y", orderId := "o", rawOrderId := 1 }], by decide⟩

open SplitOrder in
theorem one_line_attributed :
    (db.coupons.rows.map fun c => (db.resolveCouponReceiptCent reader order c).getD 0).sum = 100 ∧
      order.provenReceipts reader = 150 ∧
      (db.coupons.rows.map fun c => (db.resolveCouponReceiptCent reader order c).getD 0).sum ≤
        order.provenReceipts reader := by
  have hof : db.couponsOf order = db.coupons.rows := rfl
  refine ⟨by decide +kernel, by decide +kernel, (receipts_attributed_once
    db.coupons.nodup.of_map (fun c hc => hof ▸ hc) fun c hc => ?_).1⟩
  rcases mem_pair.mp hc with rfl | rfl <;> rfl

end DyData.Settlement
