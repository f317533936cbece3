import DyData.SettlementLedger
import DyData.PythonText

/-!
The verification that a coupon is settled with, chosen twice: record by record in
`_select_valid_verify_record`, and for a whole month in
`select_coupon_ids_by_verify_business_month`.  Both take the newest valid record.  They differ in
the white space they take off a status.  `lower` is the ASCII one, which is what the valid
statuses need; the database orders text by code point.
-/

namespace DyData.Settlement

open Relational List
open PythonText (strip isSpace)

/-- `VALID_VERIFY_STATUSES`. -/
def validVerifyStatuses : List String := ["1", "valid", "verified", "success", "fulfilled", "used"]

/-- `_normalized`. -/
def normalized (value : Option String) : String :=
  (strip (value.getD "")).toLower

/-- `lower(trim(coalesce(value, '')))`: the database trims spaces and nothing else. -/
def trimmed (value : Option String) : String :=
  (String.ofList (((value.getD "").toList.dropWhile (· = ' ')).reverse.dropWhile
    (· = ' ')).reverse).toLower

namespace VerifyRecord

/-- A record that counts, with the text that its status is read as. -/
def counts (read : Option String → String) (r : VerifyRecord) : Bool :=
  validVerifyStatuses.contains (read r.verifyStatus) && r.cancelTime.isNone && r.verifyTime.isSome

/-- `datetime.min`. -/
def earliest : Time := -62135596800000000

/-- The order of both choices. -/
def recency (r : VerifyRecord) : Time ×ₗ String :=
  toLex (r.verifyTime.getD earliest, r.verifyId)

end VerifyRecord

/-- `_select_valid_verify_record`. -/
def Db.selectValidVerifyRecord (db : Db) (couponId : String) : Option VerifyRecord :=
  (((db.verifyRecords.rows.filter fun r => r.couponId = some couponId).mergeSort
    fun a b => b.recency ≤ a.recency).filter (VerifyRecord.counts normalized)).head?

/-- The rows of `ranked_verify_month`. -/
def Db.rankedVerifyMonth (db : Db) : List VerifyRecord :=
  db.verifyRecords.rows.filter (VerifyRecord.counts trimmed)

/-- `row_number()` over the records of a coupon, newest first. -/
def rowNumber (ranked : List VerifyRecord) (r : VerifyRecord) : Nat :=
  (ranked.filter fun x => x.couponId = r.couponId && r.recency < x.recency).length + 1

/-- `select_coupon_ids_by_verify_business_month`; a record without a coupon has its own rank. -/
def Db.selectCouponIdsByVerifyBusinessMonth (db : Db) (businessMonth : Time → Month)
    (month : Month) : List (Option String) :=
  ((db.rankedVerifyMonth.filter fun r => rowNumber db.rankedVerifyMonth r = 1 &&
    r.verifyTime.map businessMonth = some month).map VerifyRecord.couponId).mergeSort
      fun a b => a.getD "" ≤ b.getD ""

/-- The newest record of a coupon among those that count. -/
def Db.Newest (db : Db) (read : Option String → String) (couponId : String) (r : VerifyRecord) :
    Prop :=
  (r ∈ db.verifyRecords.rows ∧ r.couponId = some couponId ∧ r.counts read = true) ∧
    ∀ x ∈ db.verifyRecords.rows, x.couponId = some couponId → x.counts read = true →
      x.recency ≤ r.recency

theorem Db.Newest.unique {db : Db} {read : Option String → String} {couponId : String}
    {r s : VerifyRecord} (hr : db.Newest read couponId r) (hs : db.Newest read couponId s) :
    r = s := by
  have heq : r.recency = s.recency := le_antisymm (hs.2 r hr.1.1 hr.1.2.1 hr.1.2.2)
    (hr.2 s hs.1.1 hs.1.2.1 hs.1.2.2)
  have hid : r.verifyId = s.verifyId := congrArg (fun p => (ofLex p).2) heq
  exact db.verifyRecords.eq_of_key_eq hr.1.1 hs.1.1 hid

/-- The sorted choice takes the newest record, if any counts. -/
theorem selectValidVerifyRecord_newest (db : Db) (couponId : String) :
    (∀ r, db.selectValidVerifyRecord couponId = some r → db.Newest normalized couponId r) ∧
      ∀ x ∈ db.verifyRecords.rows, x.couponId = some couponId → x.counts normalized = true →
        ∃ r, db.selectValidVerifyRecord couponId = some r := by
  unfold Db.selectValidVerifyRecord
  generalize hl : ((db.verifyRecords.rows.filter fun r => r.couponId = some couponId).mergeSort
    fun a b => b.recency ≤ a.recency).filter (VerifyRecord.counts normalized) = l
  have hmem : ∀ x, x ∈ l ↔ x ∈ db.verifyRecords.rows ∧ x.couponId = some couponId ∧
      x.counts normalized = true := by
    intro x
    rw [← hl, mem_filter, mem_mergeSort, mem_filter, decide_eq_true_eq, and_assoc]
  have hsorted : l.Pairwise fun a b => b.recency ≤ a.recency := by
    rw [← hl]
    refine List.Pairwise.filter _ ((pairwise_mergeSort ?_ ?_ _).imp of_decide_eq_true)
    · simpa using fun a b c : VerifyRecord => fun hab hbc => le_trans hbc hab
    · simpa using fun a b : VerifyRecord => le_total b.recency a.recency
  cases l with
  | nil =>
    exact ⟨nofun, fun x hx hc hv => absurd ((hmem x).mpr ⟨hx, hc, hv⟩) not_mem_nil⟩
  | cons r rest =>
    refine ⟨fun s hs => ?_, fun _ _ _ _ => ⟨r, rfl⟩⟩
    cases hs
    refine ⟨(hmem r).mp mem_cons_self, fun x hx hc hv => ?_⟩
    rcases mem_cons.mp ((hmem x).mpr ⟨hx, hc, hv⟩) with rfl | hrest
    · exact le_refl _
    · exact (pairwise_cons.mp hsorted).1 x hrest

/-- The ranked query returns a coupon for the month of its newest record. -/
theorem mem_selectCouponIdsByVerifyBusinessMonth {db : Db} {businessMonth : Time → Month}
    {month : Month} {couponId : String} :
    some couponId ∈ db.selectCouponIdsByVerifyBusinessMonth businessMonth month ↔
      ∃ r, db.Newest trimmed couponId r ∧ r.verifyTime.map businessMonth = some month := by
  have hrank : ∀ r, rowNumber db.rankedVerifyMonth r = 1 ↔ ∀ x ∈ db.verifyRecords.rows,
      x.couponId = r.couponId → x.counts trimmed = true → x.recency ≤ r.recency := by
    intro r
    unfold rowNumber Db.rankedVerifyMonth
    simp only [Nat.add_eq_right, length_eq_zero_iff, filter_eq_nil_iff, mem_filter,
      Bool.and_eq_true, decide_eq_true_eq, not_and, not_lt]
    exact ⟨fun h x hx hc hv => h x ⟨hx, hv⟩ hc, fun h x hx hc => h x hx.1 hc hx.2⟩
  unfold Db.selectCouponIdsByVerifyBusinessMonth
  simp only [mem_mergeSort, mem_map, mem_filter, Bool.and_eq_true, decide_eq_true_eq, hrank]
  constructor
  · rintro ⟨r, ⟨hr, hnewest, hmonth⟩, hc⟩
    rw [Db.rankedVerifyMonth, mem_filter] at hr
    exact ⟨r, ⟨⟨hr.1, hc, hr.2⟩, hc ▸ hnewest⟩, hmonth⟩
  · rintro ⟨r, ⟨⟨hr, hc, hv⟩, hnewest⟩, hmonth⟩
    exact ⟨r, ⟨mem_filter.mpr ⟨hr, hv⟩, hc ▸ hnewest, hmonth⟩, hc⟩

/-! ### White space -/

theorem dropWhile_dropWhile {α : Type*} {p q : α → Bool} (h : ∀ a, p a = true → q a = true)
    (l : List α) : (l.dropWhile p).dropWhile q = l.dropWhile q := by
  induction l with
  | nil => rfl
  | cons a l ih =>
    by_cases hp : p a = true
    · rw [dropWhile_cons_of_pos hp, ih, dropWhile_cons_of_pos (h a hp)]
    · rw [dropWhile_cons_of_neg hp]

/-- What is left between the spaces has no white space, so nothing else is stripped. -/
theorem strip_of_trim {l mid : List Char}
    (hmid : ((l.dropWhile (· = ' ')).reverse.dropWhile (· = ' ')).reverse = mid)
    (hspace : ∀ c ∈ mid, isSpace c = false) (hne : mid ≠ []) :
    ((l.dropWhile isSpace).reverse.dropWhile isSpace).reverse = mid := by
  have hstep : ∀ c, decide (c = ' ') = true → isSpace c = true := by
    intro c hc
    rw [of_decide_eq_true hc]
    rfl
  have hkeep : ∀ {m : List Char}, (∀ c ∈ m.head?, isSpace c = false) →
      m.dropWhile isSpace = m := by
    intro m hm
    cases m with
    | nil => rfl
    | cons c m => exact dropWhile_cons_of_neg (by rw [hm c rfl]; decide)
  set left := l.dropWhile (· = ' ') with hleft
  have hright : left.reverse.dropWhile (· = ' ') = mid.reverse := by
    rw [← hmid, reverse_reverse]
  have hhead : left.head? = mid.head? := by
    have hback := congrArg reverse
      (takeWhile_append_dropWhile (p := fun c => decide (c = ' ')) (l := left.reverse))
    rw [hright, reverse_append, reverse_reverse, reverse_reverse] at hback
    rw [← hback]
    cases mid with
    | nil => exact absurd rfl hne
    | cons c m => rfl
  rw [← dropWhile_dropWhile hstep l, hkeep fun c hc => hspace c (mem_of_mem_head? (hhead ▸ hc)),
    ← dropWhile_dropWhile hstep left.reverse, hright,
    hkeep fun c hc => hspace c (mem_reverse.mp (mem_of_mem_head? hc)),
    reverse_reverse]

theorem toLower_of_isSpace {c : Char} (h : isSpace c = true) : c.toLower = c := by
  refine dif_neg fun hupper => ?_
  have hlow : 65 ≤ c.toNat ∧ c.toNat ≤ 90 := hupper
  simp only [isSpace, Bool.or_eq_true, Bool.and_eq_true, decide_eq_true_eq,
    beq_iff_eq] at h
  omega

/-- A status that the database reads as valid is read the same by the fee calculation. -/
theorem normalized_of_trimmed {value : Option String}
    (h : validVerifyStatuses.contains (trimmed value) = true) :
    normalized value = trimmed value := by
  have hplain : ∀ v ∈ validVerifyStatuses, v.toList ≠ [] ∧
      ∀ c ∈ v.toList, isSpace c = false := by
    simp [validVerifyStatuses, isSpace]
  unfold normalized trimmed strip at *
  generalize hmid : (((value.getD "").toList.dropWhile (· = ' ')).reverse.dropWhile
    (· = ' ')).reverse = mid at *
  obtain ⟨hne, hspace⟩ := hplain _ (contains_iff_mem.mp h)
  have hlower : (String.ofList mid).toLower.toList = mid.map Char.toLower := by
    simp [String.toLower]
  rw [strip_of_trim hmid (fun c hc => ?_) fun hnil => ?_]
  · by_contra hsp
    have hsp : isSpace c = true := by simpa using hsp
    have hmem : c ∈ (String.ofList mid).toLower.toList := by
      rw [hlower]
      exact mem_map.mpr ⟨c, hc, toLower_of_isSpace hsp⟩
    exact absurd (hspace c hmem) (by rw [hsp]; decide)
  · exact hne (by rw [hlower, hnil]; rfl)

theorem counts_normalized {r : VerifyRecord} (h : r.counts trimmed = true) :
    r.counts normalized = true := by
  simp only [VerifyRecord.counts, Bool.and_eq_true] at h ⊢
  rw [normalized_of_trimmed h.1.1]
  exact h

/-- The status of the only record is followed by a tab. -/
def tabbedStatus : Db where
  verifyRecords := ⟨[{ verifyId := "verify-1", couponId := some "coupon-1"
                       verifyStatus := some "valid\t", verifyTime := some 2 }], by decide⟩

end DyData.Settlement
