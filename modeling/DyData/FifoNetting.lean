import Mathlib

/-!
Netting of signed amounts, first in first out.  Credits and debits arrive one after another; each
is set off against what is pending on the other side, oldest first, and what is left of it joins
its own side.
-/

namespace FifoNetting

open List

variable {amount left : Int}

variable {ι : Type*}

abbrev Queue (ι : Type*) := List (ι × Int)

def total (q : Queue ι) : Int := (q.map Prod.snd).sum

/-- The outcome of setting an amount off against a queue. -/
structure Offset (ι : Type*) where
  taken : List (ι × Int)
  left : Int
  queue : Queue ι

/-- Take `amount` from the front of the queue, as long as both last. -/
def offset : Int → Queue ι → Offset ι
  | amount, [] => ⟨[], amount, []⟩
  | amount, (i, pending) :: q =>
    if 0 < amount then
      let applied := min amount pending
      if pending - applied = 0 then
        let rest := offset (amount - applied) q
        ⟨(i, applied) :: rest.taken, rest.left, rest.queue⟩
      else ⟨[(i, applied)], amount - applied, (i, pending - applied) :: q⟩
    else ⟨[], amount, (i, pending) :: q⟩

@[simp] theorem total_nil : total ([] : Queue ι) = 0 := rfl

@[simp] theorem total_cons (e : ι × Int) (q : Queue ι) : total (e :: q) = e.2 + total q := by
  simp [total]

@[simp] theorem total_append (p q : Queue ι) : total (p ++ q) = total p + total q := by
  simp [total]

def Positive (q : Queue ι) : Prop := ∀ e ∈ q, 0 < e.2

theorem Positive.tail {e : ι × Int} {q : Queue ι} (h : Positive (e :: q)) : Positive q :=
  fun f hf => h f (mem_cons_of_mem e hf)

theorem positive_append {p q : Queue ι} : Positive (p ++ q) ↔ Positive p ∧ Positive q := by
  constructor
  · intro h
    exact ⟨fun e he => h e (mem_append_left q he), fun e he => h e (mem_append_right p he)⟩
  · rintro ⟨hp, hq⟩ e he
    rcases mem_append.mp he with he | he
    · exact hp e he
    · exact hq e he

theorem Positive.total_nonneg {q : Queue ι} (h : Positive q) : 0 ≤ total q := by
  induction q with
  | nil => exact le_refl 0
  | cons e q ih =>
    have he := h e mem_cons_self
    have hq := ih h.tail
    rw [total_cons]
    omega

theorem Positive.eq_nil_of_total {q : Queue ι} (h : Positive q) (hzero : total q ≤ 0) : q = [] := by
  cases q with
  | nil => rfl
  | cons e q =>
    have he := h e mem_cons_self
    have hq := h.tail.total_nonneg
    rw [total_cons] at hzero
    omega

/-! ### Setting off one amount -/

@[simp] theorem offset_zero (q : Queue ι) : offset 0 q = ⟨[], 0, q⟩ := by
  cases q with
  | nil => rfl
  | cons e q => simp [offset]

theorem offset_cons_spent {pending : Int} (hpos : 0 < amount) (h : pending ≤ amount) (i : ι)
    (q : Queue ι) :
    offset amount ((i, pending) :: q) = ⟨(i, pending) :: (offset (amount - pending) q).taken,
      (offset (amount - pending) q).left, (offset (amount - pending) q).queue⟩ := by
  have hmin : min amount pending = pending := min_eq_right h
  rw [offset, if_pos hpos, hmin]
  rw [if_pos (sub_self pending)]

theorem offset_cons_kept {pending : Int} (hpos : 0 < amount) (h : amount < pending) (i : ι)
    (q : Queue ι) :
    offset amount ((i, pending) :: q) = ⟨[(i, amount)], 0, (i, pending - amount) :: q⟩ := by
  have hmin : min amount pending = amount := min_eq_left h.le
  rw [offset, if_pos hpos, hmin]
  rw [if_neg (by omega), sub_self]

theorem offset_cons_stop (h : amount ≤ 0) (e : ι × Int) (q : Queue ι) :
    offset amount (e :: q) = ⟨[], amount, e :: q⟩ := by
  rw [offset, if_neg (by omega)]

/-- Induction along the setting off: the oldest entry is used up, or it covers the amount, or
nothing is to be set off. -/
@[elab_as_elim]
theorem offset_induction {motive : Int → Queue ι → Prop} (nil : ∀ amount, motive amount [])
    (spent : ∀ {amount pending} i q, 0 < amount → pending ≤ amount → motive (amount - pending) q →
      motive amount ((i, pending) :: q))
    (kept : ∀ {amount pending} i q, 0 < amount → amount < pending →
      motive amount ((i, pending) :: q))
    (stop : ∀ {amount} e q, amount ≤ 0 → motive amount (e :: q)) (amount : Int) (q : Queue ι) :
    motive amount q := by
  induction q generalizing amount with
  | nil => exact nil amount
  | cons e q ih =>
    rcases lt_or_ge 0 amount with hpos | hstop
    · rcases le_or_gt e.2 amount with hsp | hkept
      · exact spent e.1 q hpos hsp (ih _)
      · exact kept e.1 q hpos hkept
    · exact stop e q hstop

/-- What an amount and a queue do to each other. -/
theorem offset_spec (hamt : 0 ≤ amount) {q : Queue ι} (hq : Positive q) :
    (offset amount q).left = max 0 (amount - total q) ∧
    total (offset amount q).queue = max 0 (total q - amount) ∧
    Positive (offset amount q).queue := by
  induction amount, q using offset_induction with
  | nil amount =>
    refine ⟨?_, ?_, hq⟩
    · change amount = max 0 (amount - 0)
      omega
    · change (0 : Int) = max 0 (0 - amount)
      omega
  | spent i q hpos hsp ih =>
    -- the rest of the amount goes on
    obtain ⟨_, _, hrest⟩ := ih (by omega) hq.tail
    have hpend := hq _ mem_cons_self
    rw [offset_cons_spent hpos hsp, total_cons]
    dsimp only at hpend ⊢
    refine ⟨?_, ?_, hrest⟩ <;> omega
  | kept i q hpos hkept =>
    have htot := hq.tail.total_nonneg
    rw [offset_cons_kept hpos hkept, total_cons]
    dsimp only
    refine ⟨by omega, ?_, ?_⟩
    · rw [total_cons]
      omega
    · intro f hf
      rcases mem_cons.mp hf with rfl | hf
      · omega
      · exact hq.tail f hf
  | stop e q hstop =>
    have htot := hq.total_nonneg
    rw [offset_cons_stop hstop]
    refine ⟨?_, ?_, hq⟩ <;> dsimp only <;> omega

/-- The parts that were taken and what is left make up the amount. -/
theorem total_taken (amount : Int) (q : Queue ι) :
    total (offset amount q).taken + (offset amount q).left = amount := by
  induction amount, q using offset_induction with
  | nil amount => exact zero_add amount
  | spent i q hpos hsp ih =>
    rw [offset_cons_spent hpos hsp]
    rw [total_cons]
    dsimp only
    omega
  | kept i q hpos hkept => simp [offset_cons_kept hpos hkept]
  | stop e q hstop => simp [offset_cons_stop hstop]

/-- A queue in two parts is used up part after part. -/
theorem queue_offset_append (hamt : 0 ≤ amount) {p : Queue ι} (hp : Positive p) (q : Queue ι) :
    (offset amount (p ++ q)).queue =
      (offset amount p).queue ++ (offset (offset amount p).left q).queue := by
  induction amount, p using offset_induction with
  | nil amount => rfl
  | spent i p hpos hsp ih =>
    rw [cons_append, offset_cons_spent hpos hsp, offset_cons_spent hpos hsp]
    exact ih (by omega) hp.tail
  | kept i p hpos hkept =>
    rw [cons_append, offset_cons_kept hpos hkept, offset_cons_kept hpos hkept]
    rw [offset_zero]
    rfl
  | stop e p hstop =>
    obtain rfl := le_antisymm hstop hamt
    rw [offset_zero, offset_zero]
    rw [offset_zero]

/-- Nobody joins the queue while an amount is set off. -/
theorem queue_keys_sublist (amount : Int) (q : Queue ι) :
    ((offset amount q).queue.map Prod.fst).Sublist (q.map Prod.fst) := by
  induction amount, q using offset_induction with
  | nil amount => exact Sublist.refl _
  | spent i q hpos hsp ih =>
    rw [offset_cons_spent hpos hsp]
    exact ih.trans (sublist_cons_self _ _)
  | kept i q hpos hkept =>
    rw [offset_cons_kept hpos hkept]
    exact Sublist.refl _
  | stop e q hstop => rw [offset_cons_stop hstop]

/-- Only owners of the queue give. -/
theorem taken_keys_sublist (amount : Int) (q : Queue ι) :
    ((offset amount q).taken.map Prod.fst).Sublist (q.map Prod.fst) := by
  induction amount, q using offset_induction with
  | nil amount => exact Sublist.refl _
  | spent i q hpos hsp ih =>
    rw [offset_cons_spent hpos hsp]
    exact ih.cons_cons i
  | kept i q hpos hkept =>
    rw [offset_cons_kept hpos hkept]
    exact (nil_sublist _).cons_cons i
  | stop e q hstop =>
    rw [offset_cons_stop hstop]
    exact nil_sublist _

/-- Whoever gives stands behind owners who gave everything. -/
theorem taken_in_order {q before after : Queue ι} {e : ι × Int}
    (h : (offset amount q).taken = before ++ e :: after) :
    ∃ pending rest, q = before ++ (e.1, pending) :: rest := by
  induction amount, q using offset_induction generalizing before with
  | nil amount => simp [offset] at h
  | @spent _ pending i q hpos hsp ih =>
    rw [offset_cons_spent hpos hsp] at h
    rcases cons_eq_append_iff.mp h with ⟨rfl, heq⟩ | ⟨front, rfl, heq⟩
    · exact ⟨pending, q, by rw [(cons.inj heq).1]; rfl⟩
    · obtain ⟨x, rest, rfl⟩ := ih heq
      exact ⟨x, rest, rfl⟩
  | @kept _ pending i q hpos hkept =>
    -- the last owner keeps something, so there is no other before
    rw [offset_cons_kept hpos hkept] at h
    rcases cons_eq_append_iff.mp h with ⟨rfl, heq⟩ | ⟨front, rfl, heq⟩
    · exact ⟨pending, q, by rw [(cons.inj heq).1]; rfl⟩
    · simp at heq
  | stop e q hstop =>
    rw [offset_cons_stop hstop] at h
    simp at h

/-- What is taken from the queue is positive. -/
theorem positive_taken {q : Queue ι} (hq : Positive q) : Positive (offset amount q).taken := by
  induction amount, q using offset_induction with
  | nil amount => exact hq
  | spent i q hpos hsp ih =>
    rw [offset_cons_spent hpos hsp]
    intro f hf
    rcases mem_cons.mp hf with rfl | hf
    · exact hq _ mem_cons_self
    · exact ih hq.tail f hf
  | kept i q hpos hkept =>
    rw [offset_cons_kept hpos hkept]
    intro f hf
    rw [mem_singleton.mp hf]
    exact hpos
  | stop e q hstop =>
    rw [offset_cons_stop hstop]
    exact nofun

section Held

variable [DecidableEq ι]

def heldBy (q : Queue ι) (i : ι) : Int := ((q.filter fun e => e.1 = i).map Prod.snd).sum

theorem heldBy_cons (e : ι × Int) (q : Queue ι) (i : ι) :
    heldBy (e :: q) i = (if e.1 = i then e.2 else 0) + heldBy q i := by
  unfold heldBy
  by_cases he : e.1 = i <;> simp [he]

theorem heldBy_append (p q : Queue ι) (i : ι) : heldBy (p ++ q) i = heldBy p i + heldBy q i := by
  simp [heldBy]

theorem heldBy_eq_zero {q : Queue ι} {i : ι} (h : i ∉ q.map Prod.fst) : heldBy q i = 0 := by
  have hnone : q.filter (fun e => decide (e.1 = i)) = [] := by
    refine filter_eq_nil_iff.mpr fun e he hkey => h ?_
    rw [← of_decide_eq_true hkey]
    exact mem_map_of_mem he
  rw [heldBy, hnone]
  rfl

theorem Positive.heldBy_nonneg {q : Queue ι} (h : Positive q) (i : ι) : 0 ≤ heldBy q i := by
  have hfilt : Positive (q.filter fun e => e.1 = i) :=
    fun e he => h e (mem_filter.mp he).1
  exact hfilt.total_nonneg

theorem heldBy_renamed (q : Queue ι) (i j : ι) :
    heldBy (q.map fun e => (j, e.2)) i = if j = i then total q else 0 := by
  induction q with
  | nil => exact (ite_self 0).symm
  | cons e q ih =>
    rw [map_cons, heldBy_cons, ih]
    split <;> rfl

/-- What an owner loses from the queue is what is taken from it. -/
theorem heldBy_offset (amount : Int) (q : Queue ι) (i : ι) :
    heldBy (offset amount q).taken i + heldBy (offset amount q).queue i = heldBy q i := by
  induction amount, q using offset_induction with
  | nil amount => rfl
  | spent j q hpos hsp ih =>
    rw [offset_cons_spent hpos hsp]
    dsimp only
    rw [heldBy_cons, heldBy_cons]
    omega
  | kept j q hpos hkept =>
    rw [offset_cons_kept hpos hkept]
    rw [heldBy_cons, heldBy_cons, heldBy_cons]
    have hnil : heldBy ([] : Queue ι) i = 0 := rfl
    split <;> omega
  | stop e q hstop =>
    rw [offset_cons_stop hstop]
    exact zero_add _

end Held

/-! ### Arrivals -/

structure Tally (ι : Type*) where
  positives : Queue ι := []
  negatives : Queue ι := []

namespace Tally

/-- An entry joins a side with what is left of it. -/
def join (q : Queue ι) (i : ι) (left : Int) : Queue ι :=
  if 0 < left then q ++ [(i, left)] else q

theorem heldBy_join [DecidableEq ι] (hleft : 0 ≤ left) (q : Queue ι) (i j : ι) :
    heldBy (join q j left) i = heldBy q i + if j = i then left else 0 := by
  unfold join
  split
  · rw [heldBy_append, heldBy_cons]
    have hnil : heldBy ([] : Queue ι) i = 0 := rfl
    rw [hnil, add_zero]
  · split <;> omega

def step (s : Tally ι) (entry : ι × Int) : Tally ι :=
  if 0 < entry.2 then
    let r := offset entry.2 s.negatives
    ⟨join s.positives entry.1 r.left, r.queue⟩
  else if entry.2 < 0 then
    let r := offset (-entry.2) s.positives
    ⟨r.queue, join s.negatives entry.1 r.left⟩
  else s

theorem step_debit (s : Tally ι) {i : ι} {x : Int} (h : ¬ 0 < x) :
    s.step (i, x) = ⟨(offset (-x) s.positives).queue,
      join s.negatives i (offset (-x) s.positives).left⟩ := by
  rw [step, if_neg h]
  split
  · rfl
  · have hzero : x = 0 := by omega
    rw [hzero, neg_zero, offset_zero]
    rfl

def run (s : Tally ι) (entries : List (ι × Int)) : Tally ι := entries.foldl step s

def balance (s : Tally ι) : Int := total s.positives - total s.negatives

/-- Pending amounts are positive, and never pending on both sides. -/
structure Sound (s : Tally ι) : Prop where
  positives : Positive s.positives
  negatives : Positive s.negatives
  oneSided : s.positives = [] ∨ s.negatives = []

theorem sound_empty : (⟨[], []⟩ : Tally ι).Sound :=
  ⟨nofun, nofun, .inl rfl⟩

theorem positive_join {q : Queue ι} (hq : Positive q) (i : ι) (left : Int) :
    Positive (join q i left) := by
  unfold join
  split
  · refine positive_append.mpr ⟨hq, ?_⟩
    intro e he
    rw [mem_singleton.mp he]
    assumption
  · exact hq

theorem total_join (hleft : 0 ≤ left) (q : Queue ι) (i : ι) :
    total (join q i left) = total q + left := by
  unfold join
  split
  · simp
  · omega

theorem Sound.total_positives {s : Tally ι} (h : s.Sound) :
    total s.positives = max 0 s.balance := by
  have hp := h.positives.total_nonneg
  have hn := h.negatives.total_nonneg
  unfold balance
  rcases h.oneSided with hnil | hnil <;> rw [hnil, total_nil] at * <;> omega

theorem Sound.total_negatives {s : Tally ι} (h : s.Sound) :
    total s.negatives = max 0 (-s.balance) := by
  have hp := h.positives.total_nonneg
  have hn := h.negatives.total_nonneg
  unfold balance
  rcases h.oneSided with hnil | hnil <;> rw [hnil, total_nil] at * <;> omega

/-- An arrival keeps the two sides apart and moves the balance by its amount. -/
theorem Sound.step {s : Tally ι} (h : s.Sound) (entry : ι × Int) :
    (s.step entry).Sound ∧ (s.step entry).balance = s.balance + entry.2 := by
  obtain ⟨i, x⟩ := entry
  have hposi := h.total_positives
  have hneg := h.total_negatives
  by_cases hpos : 0 < x
  · obtain ⟨hleft, hq, hrest⟩ := offset_spec hpos.le h.negatives
    have hjoine := positive_join h.positives i (offset x s.negatives).left
    have hjoin := total_join (by omega : 0 ≤ (offset x s.negatives).left) s.positives i
    rw [Tally.step, if_pos hpos]
    refine ⟨⟨hjoine, hrest, ?_⟩, ?_⟩
    · by_cases hsp : 0 < (offset x s.negatives).left
      · exact .inr (hrest.eq_nil_of_total (by omega))
      · exact .inl (hjoine.eq_nil_of_total (by omega))
    · unfold balance at *
      dsimp only
      omega
  · obtain ⟨_, _, hrest⟩ := offset_spec (by omega : 0 ≤ -x) h.positives
    have hjoine := positive_join h.negatives i (offset (-x) s.positives).left
    have hjoin := total_join (by omega : 0 ≤ (offset (-x) s.positives).left) s.negatives i
    rw [step_debit s hpos]
    refine ⟨⟨hrest, hjoine, ?_⟩, ?_⟩
    · by_cases hzero : total (offset (-x) s.positives).queue ≤ 0
      · exact .inl (hrest.eq_nil_of_total hzero)
      · exact .inr (hjoine.eq_nil_of_total (by omega))
    · unfold balance at *
      dsimp only
      omega

theorem Sound.run {s : Tally ι} (h : s.Sound) (entries : List (ι × Int)) :
    (s.run entries).Sound ∧ (s.run entries).balance = s.balance + total entries := by
  induction entries generalizing s with
  | nil => exact ⟨h, by simp [Tally.run]⟩
  | cons e entries ih =>
    obtain ⟨hstep, hbal⟩ := h.step e
    obtain ⟨hrun, htot⟩ := ih hstep
    refine ⟨hrun, ?_⟩
    rw [total_cons, ← add_assoc, ← hbal]
    exact htot

def debit (entries : List (ι × Int)) : Int := (entries.map fun e => max 0 (-e.2)).sum

theorem debit_cons (e : ι × Int) (entries : List (ι × Int)) :
    debit (e :: entries) = max 0 (-e.2) + debit entries := by
  simp [debit]

theorem debit_nonneg (entries : List (ι × Int)) : 0 ≤ debit entries := by
  induction entries with
  | nil => exact le_refl 0
  | cons e entries ih =>
    rw [debit_cons]
    omega

/-- The positive side in three parts: what is ahead of some entries, those, and what came later. -/
structure Parts (q front own later : Queue ι) : Prop where
  eq : q = front ++ own ++ later
  front : Positive front
  own : Positive own

/-- One arrival uses the parts up in their order; newcomers go to the end. -/
theorem Parts.step {s : Tally ι} {front own later : Queue ι} (h : Parts s.positives front own later)
    (entry : ι × Int) : ∃ front' own' later', Parts (s.step entry).positives front' own' later' ∧
      total front' = max 0 (total front - max 0 (-entry.2)) ∧
      total front' + total own' = max 0 (total front + total own - max 0 (-entry.2)) ∧
      (front'.map Prod.fst).Sublist (front.map Prod.fst) ∧
      (own'.map Prod.fst).Sublist (own.map Prod.fst) ∧
      ∀ i ∈ later'.map Prod.fst, i ∈ later.map Prod.fst ∨ i = entry.1 ∧ 0 < entry.2 := by
  obtain ⟨i, x⟩ := entry
  have hfront := h.front.total_nonneg
  have hown := h.own.total_nonneg
  by_cases hpos : 0 < x
  · refine ⟨front, own, join later i (offset x s.negatives).left, ⟨?_, h.front, h.own⟩,
      by omega, by omega, Sublist.refl _, Sublist.refl _, ?_⟩
    · rw [Tally.step, if_pos hpos]
      unfold join
      dsimp only
      split
      · rw [h.eq, append_assoc]
      · exact h.eq
    · intro j hj
      unfold join at hj
      split at hj
      · simpa [hpos] using hj
      · exact .inl hj
  · rw [step_debit s hpos]
    have hx : 0 ≤ -x := by omega
    have hboth : Positive (front ++ own) := positive_append.mpr ⟨h.front, h.own⟩
    obtain ⟨_, _, hrest⟩ := offset_spec hx h.front
    obtain ⟨_, hqueueBoth, hrestBoth⟩ := offset_spec hx hboth
    have hspl := queue_offset_append hx h.front own
    refine ⟨(offset (-x) front).queue, (offset (offset (-x) front).left own).queue,
      (offset (offset (-x) (front ++ own)).left later).queue, ⟨?_, hrest, ?_⟩, ?_, ?_,
      queue_keys_sublist _ _, queue_keys_sublist _ _, ?_⟩
    · rw [h.eq, queue_offset_append hx hboth later, hspl]
    · rw [hspl] at hrestBoth
      exact (positive_append.mp hrestBoth).2
    · omega
    · rw [hspl, total_append, total_append] at hqueueBoth
      omega
    · intro j hj
      exact .inl ((queue_keys_sublist _ later).subset hj)

theorem Parts.run {s : Tally ι} {front own later : Queue ι}
    (h : Parts s.positives front own later) (entries : List (ι × Int)) :
    ∃ front' own' later', Parts (s.run entries).positives front' own' later' ∧
      total front' = max 0 (total front - debit entries) ∧
      total front' + total own' = max 0 (total front + total own - debit entries) ∧
      (front'.map Prod.fst).Sublist (front.map Prod.fst) ∧
      (own'.map Prod.fst).Sublist (own.map Prod.fst) ∧
      ∀ i ∈ later'.map Prod.fst, i ∈ later.map Prod.fst ∨ i ∈ entries.map Prod.fst := by
  induction entries generalizing s front own later with
  | nil =>
    have hfront := h.front.total_nonneg
    have hown := h.own.total_nonneg
    refine ⟨front, own, later, h, ?_, ?_, Sublist.refl _, Sublist.refl _, fun i hi => .inl hi⟩
    · change total front = max 0 (total front - 0)
      omega
    · change total front + total own = max 0 (total front + total own - 0)
      omega
  | cons e entries ih =>
    obtain ⟨_, _, _, hparts, _, _, hkf, hko, hkl⟩ := h.step e
    obtain ⟨front₂, own₂, later₂, hparts₂, _, _, hkf₂, hko₂, hkl₂⟩ := ih hparts
    have hdebit := debit_nonneg entries
    refine ⟨front₂, own₂, later₂, hparts₂, ?_, ?_, hkf₂.trans hkf, hko₂.trans hko, ?_⟩
    · rw [debit_cons]
      omega
    · rw [debit_cons]
      omega
    · intro i hi
      rcases hkl₂ i hi with hi | hi
      · rcases hkl i hi with hi | hi
        · exact .inl hi
        · exact .inr (by simp [hi.1])
      · exact .inr (mem_cons_of_mem _ hi)

theorem Parts.start (q : Queue ι) : Parts q [] [] q :=
  ⟨rfl, nofun, nofun⟩

/-- Whoever has a credit pending had one before or has brought one since. -/
theorem owners_step (s : Tally ι) (entry : ι × Int) : ∀ i ∈ (s.step entry).positives.map Prod.fst,
      i ∈ s.positives.map Prod.fst ∨ i = entry.1 ∧ 0 < entry.2 := by
  intro i hi
  obtain ⟨_, _, _, hparts, _, _, hfront, hown, hlater⟩ :=
    (Parts.start s.positives).step entry
  rw [hparts.eq, map_append, map_append, mem_append, mem_append] at hi
  rcases hi with (hi | hi) | hi
  · exact absurd (hfront.subset hi) not_mem_nil
  · exact absurd (hown.subset hi) not_mem_nil
  · exact hlater i hi

theorem owners_run (s : Tally ι) (entries : List (ι × Int)) :
    ∀ i ∈ (s.run entries).positives.map Prod.fst,
      i ∈ s.positives.map Prod.fst ∨ i ∈ entries.map Prod.fst := by
  induction entries generalizing s with
  | nil => exact fun i hi => .inl hi
  | cons e entries ih =>
    intro i hi
    rcases ih (s.step e) i hi with hi | hi
    · rcases owners_step s e i hi with hi | hi
      · exact .inl hi
      · exact .inr (by simp [hi.1])
    · exact .inr (mem_cons_of_mem _ hi)

section Remaining

variable [DecidableEq ι]

def pendingOf (q : Queue ι) (i : ι) : Int := (q.lookup i).getD 0

theorem pendingOf_eq_zero {q : Queue ι} {i : ι} (h : i ∉ q.map Prod.fst) : pendingOf q i = 0 := by
  have hnone : q.lookup i = none := by
    rw [lookup_eq_none_iff]
    intro e he
    have hne : i ≠ e.1 := fun heq => h (mem_map.mpr ⟨e, he, heq.symm⟩)
    simpa using hne
  rw [pendingOf, hnone]
  rfl

theorem pendingOf_eq_heldBy {q : Queue ι} (h : (q.map Prod.fst).Nodup) (i : ι) :
    pendingOf q i = heldBy q i := by
  induction q with
  | nil => rfl
  | cons e q ih =>
    obtain ⟨j, _⟩ := e
    obtain ⟨hj, hq⟩ := nodup_cons.mp h
    rw [heldBy_cons]
    by_cases hij : i = j
    · subst hij
      rw [heldBy_eq_zero hj]
      simp [pendingOf]
    · rw [if_neg (Ne.symm hij), zero_add, ← ih hq]
      unfold pendingOf
      rw [lookup_cons, beq_eq_false_iff_ne.mpr hij]

theorem pendingOf_append {p q : Queue ι} {i : ι} (h : i ∉ p.map Prod.fst) :
    pendingOf (p ++ q) i = pendingOf q i := by
  induction p with
  | nil => rfl
  | cons e p ih =>
    obtain ⟨j, _⟩ := e
    have hne : i ≠ j := fun heq => h (by simp [heq])
    have hp : i ∉ p.map Prod.fst := fun hi => h (mem_cons_of_mem _ hi)
    have hbeq : (i == j) = false := beq_eq_false_iff_ne.mpr hne
    rw [← ih hp]
    unfold pendingOf
    rw [cons_append, lookup_cons, hbeq]

/-- Setting an amount off leaves those alone from whom nothing was taken. -/
theorem pendingOf_offset {q : Queue ι} {i : ι} (h : i ∉ (offset amount q).taken.map Prod.fst) :
    pendingOf (offset amount q).queue i = pendingOf q i := by
  induction amount, q using offset_induction with
  | nil amount => rfl
  | spent j q hpos hsp ih =>
    rw [offset_cons_spent hpos hsp] at h ⊢
    rw [map_cons, mem_cons, not_or] at h
    rw [ih h.2, ← singleton_append, pendingOf_append (by simpa using h.1)]
  | kept j q hpos hkept =>
    rw [offset_cons_kept hpos hkept] at h ⊢
    have hkept (x : Int) : pendingOf ((j, x) :: q) i = pendingOf q i := by
      rw [← singleton_append, pendingOf_append (by simpa using h)]
    rw [hkept, hkept]
  | stop e q hstop => rw [offset_cons_stop hstop]

theorem pendingOf_join {q : Queue ι} {i j : ι} (hij : i ≠ j) :
    pendingOf (join q j left) i = pendingOf q i := by
  unfold join
  split
  · by_cases hi : i ∈ q.map Prod.fst
    · unfold pendingOf
      rw [lookup_append]
      cases hlook : q.lookup i with
      | none =>
        obtain ⟨e, he, hei⟩ := mem_map.mp hi
        have := lookup_eq_none_iff.mp hlook e he
        simp [hei] at this
      | some x => rfl
    · rw [pendingOf_append hi, pendingOf_eq_zero hi, pendingOf_eq_zero (by simpa using hij)]
  · rfl

theorem pendingOf_join_self {q : Queue ι} {i : ι} (hleft : 0 ≤ left) (hi : i ∉ q.map Prod.fst) :
    pendingOf (join q i left) i = left := by
  unfold join
  split
  · rw [pendingOf_append hi]
    simp [pendingOf]
  · rw [pendingOf_eq_zero hi]
    omega

/-- The pending amount of an owner who stands alone in the middle part. -/
theorem Parts.pendingOf {q front own later : Queue ι} {i : ι} (h : Parts q front own later)
    (hfront : i ∉ front.map Prod.fst) (hown : (own.map Prod.fst).Sublist [i])
    (hlater : i ∉ later.map Prod.fst) : pendingOf q i = total own := by
  rw [h.eq, append_assoc, pendingOf_append hfront]
  cases own with
  | nil => exact pendingOf_eq_zero hlater
  | cons e own =>
    have hlen := hown.length_le
    have hnil : own = [] := by
      simp only [map_cons, length_cons, length_map, length_nil] at hlen
      exact length_eq_zero_iff.mp (by omega)
    subst hnil
    have hkey : e.1 = i := by
      have hmem := hown.subset (mem_cons_self : e.1 ∈ [e].map Prod.fst)
      exact mem_singleton.mp hmem
    obtain ⟨_, _⟩ := e
    subst hkey
    simp [Tally.pendingOf]

/-- In a run from nothing, a credit of `x` that finds the balance `b` and is followed by debits
`d` keeps what reaches above `d` of the interval from `b` to `b + x`. -/
theorem pendingOf_run {before after : List (ι × Int)} {i : ι} {x : Int} (hx : 0 < x)
    (hbef : i ∉ before.map Prod.fst) (haft : i ∉ after.map Prod.fst) :
    pendingOf ((⟨[], []⟩ : Tally ι).run (before ++ (i, x) :: after)).positives i =
      max 0 (total before + x - debit after) - max 0 (total before - debit after) := by
  obtain ⟨hsnd, _⟩ := (sound_empty : (⟨[], []⟩ : Tally ι).Sound).run before
  have hst0 : (⟨[], []⟩ : Tally ι).balance = 0 := rfl
  -- the credit arrives: the pending credits before it are ahead of what is left of it
  set s := (⟨[], []⟩ : Tally ι).run before with hs
  obtain ⟨_, -, -⟩ := offset_spec hx.le hsnd.negatives
  have hpos := hsnd.total_positives
  have hneg := hsnd.total_negatives
  have hown : Positive (join [] i (offset x s.negatives).left) :=
    positive_join (fun _ h => absurd h not_mem_nil) _ _
  have hparts : Parts (s.step (i, x)).positives s.positives
      (join [] i (offset x s.negatives).left) [] := by
    refine ⟨?_, hsnd.positives, hown⟩
    rw [Tally.step, if_pos hx]
    unfold join
    dsimp only
    split
    · rw [nil_append, append_nil]
    · rw [append_nil, append_nil]
  have hjoin : total (join [] i (offset x s.negatives).left) = (offset x s.negatives).left := by
    rw [total_join (by omega), total_nil, zero_add]
  obtain ⟨front, _, later, hfinal, _, _, hkf, hko, hkl⟩ := hparts.run after
  have hjoinKeys : ((join [] i (offset x s.negatives).left).map Prod.fst).Sublist [i] := by
    unfold join
    split
    · exact Sublist.refl _
    · exact nil_sublist _
  have hfrontKey : i ∉ front.map Prod.fst := by
    intro hi
    rcases owners_run ⟨[], []⟩ before i (hkf.subset hi) with h | h
    · exact absurd h not_mem_nil
    · exact hbef h
  have hlaterKey : i ∉ later.map Prod.fst := by
    intro hi
    rcases hkl i hi with h | h
    · exact absurd h not_mem_nil
    · exact haft h
  have hrun : (⟨[], []⟩ : Tally ι).run (before ++ (i, x) :: after) = (s.step (i, x)).run after := by
    rw [hs, Tally.run, Tally.run, Tally.run, foldl_append, foldl_cons]
  have hdebit := debit_nonneg after
  rw [hrun, hfinal.pendingOf hfrontKey (hko.trans hjoinKeys) hlaterKey]
  omega

end Remaining

/-! ### Who gives to whom -/

/-- A part of a debit that is set off against a credit. -/
structure Move (ι : Type*) where
  source : ι
  target : ι
  amount : Int

def moves (s : Tally ι) (entry : ι × Int) : List (Move ι) :=
  if 0 < entry.2 then (offset entry.2 s.negatives).taken.map fun e => ⟨e.1, entry.1, e.2⟩
  else (offset (-entry.2) s.positives).taken.map fun e => ⟨entry.1, e.1, e.2⟩

/-- The moves of a run. -/
def log (s : Tally ι) : List (ι × Int) → List (Move ι)
  | [] => []
  | entry :: entries => s.moves entry ++ (s.step entry).log entries

/-- Credits are not set off as long as there are no debits. -/
theorem log_eq_nil {s : Tally ι} {entries : List (ι × Int)} (hs : s.negatives = [])
    (h : ∀ e ∈ entries, 0 ≤ e.2) : s.log entries = [] := by
  induction entries generalizing s with
  | nil => rfl
  | cons e entries ih =>
    obtain ⟨he, hrest⟩ := forall_mem_cons.mp h
    have hmoves : s.moves e = [] ∧ (s.step e).negatives = [] := by
      rcases he.lt_or_eq with hpos | hzero
      · rw [moves, step, if_pos hpos, if_pos hpos, hs]
        exact ⟨rfl, rfl⟩
      · rw [moves, step, ← hzero]
        simp [hs]
    rw [log, hmoves.1]
    exact ih hmoves.2 hrest

def bySource (log : List (Move ι)) : Queue ι := log.map fun m => (m.source, m.amount)

def byTarget (log : List (Move ι)) : Queue ι := log.map fun m => (m.target, m.amount)

theorem bySource_append (l m : List (Move ι)) : bySource (l ++ m) = bySource l ++ bySource m :=
  map_append

theorem byTarget_append (l m : List (Move ι)) : byTarget (l ++ m) = byTarget l ++ byTarget m :=
  map_append

@[simp] theorem bySource_credit (q : Queue ι) (i : ι) :
    bySource (q.map fun e => ⟨e.1, i, e.2⟩) = q := by
  simp [bySource, Function.comp_def]

@[simp] theorem byTarget_credit (q : Queue ι) (i : ι) :
    byTarget (q.map fun e => ⟨e.1, i, e.2⟩) = q.map fun e => (i, e.2) := by
  simp [byTarget]

@[simp] theorem bySource_debit (q : Queue ι) (i : ι) :
    bySource (q.map fun e => ⟨i, e.1, e.2⟩) = q.map fun e => (i, e.2) := by
  simp [bySource]

@[simp] theorem byTarget_debit (q : Queue ι) (i : ι) :
    byTarget (q.map fun e => ⟨i, e.1, e.2⟩) = q := by
  simp [byTarget, Function.comp_def]

section Account

variable [DecidableEq ι] {done : List (ι × Int)} {account q other : Queue ι} {f : Int → Int}
  {x : Int} {i : ι}

/-- The side that an arrival is set off against: what is taken is booked. -/
theorem account_consumed (h : ∀ e ∈ done, heldBy account e.1 + heldBy q e.1 = f e.2)
    (hacc : i ∉ account.map Prod.fst) (hq : i ∉ q.map Prod.fst) (hf : f x = 0) :
    ∀ e ∈ done ++ [(i, x)], heldBy (account ++ (offset amount q).taken) e.1 +
      heldBy (offset amount q).queue e.1 = f e.2 := by
  have hoffs (j : ι) := heldBy_offset amount q j
  refine forall_mem_append.mpr ⟨fun e he => ?_, forall_mem_singleton.mpr ?_⟩
  · have hbef := h e he
    have hj := hoffs e.1
    rw [heldBy_append]
    omega
  · have hj := hoffs i
    dsimp only
    rw [heldBy_append, heldBy_eq_zero hacc]
    rw [heldBy_eq_zero hq] at hj
    omega

/-- The side of the arrival: what it is set off against is booked, and the rest joins. -/
theorem account_arrived (hamt : 0 ≤ amount) (hoth : Positive other)
    (h : ∀ e ∈ done, heldBy account e.1 + heldBy q e.1 = f e.2) (hdone : ∀ e ∈ done, i ≠ e.1)
    (hacc : i ∉ account.map Prod.fst) (hq : i ∉ q.map Prod.fst) (hf : f x = amount) :
    ∀ e ∈ done ++ [(i, x)],
      heldBy (account ++ (offset amount other).taken.map fun t => (i, t.2)) e.1 +
        heldBy (join q i (offset amount other).left) e.1 = f e.2 := by
  have hleft : 0 ≤ (offset amount other).left := by
    have hspec := (offset_spec hamt hoth).1
    omega
  have htaken := total_taken amount other
  refine forall_mem_append.mpr ⟨fun e he => ?_, forall_mem_singleton.mpr ?_⟩
  · have hbef := h e he
    rw [heldBy_append, heldBy_renamed, heldBy_join hleft, if_neg (hdone e he), if_neg (hdone e he)]
    omega
  · rw [heldBy_append, heldBy_renamed, heldBy_join hleft, if_pos rfl, if_pos rfl,
      heldBy_eq_zero hacc, heldBy_eq_zero hq, hf]
    omega

end Account

theorem keys_join_sublist (q : Queue ι) (i : ι) (left : Int) :
    ((join q i left).map Prod.fst).Sublist (q.map Prod.fst ++ [i]) := by
  unfold join
  split
  · rw [map_append]
    exact Sublist.refl _
  · exact sublist_append_left _ _

def Credited (done : List (ι × Int)) (i : ι) : Prop := ∃ e ∈ done, e.1 = i ∧ 0 < e.2

theorem Credited.append {done : List (ι × Int)} {i : ι} (h : Credited done i)
    (more : List (ι × Int)) : Credited (done ++ more) i := by
  obtain ⟨e, he, hrest⟩ := h
  exact ⟨e, mem_append_left _ he, hrest⟩

structure Move.Between (done : List (ι × Int)) (m : Move ι) : Prop where
  amount : 0 < m.amount
  source : m.source ∈ done.map Prod.fst
  target : Credited done m.target

/-- The state of a run whose entries arrive by rank.  What is no longer pending of an entry has been
moved, and a credit receives something when those of lower rank have everything. -/
structure Netted {β : Type*} [Preorder β] [DecidableEq ι] (rank : ι → β) (done : List (ι × Int))
    (s : Tally ι) (log : List (Move ι)) : Prop where
  sound : s.Sound
  sorted : (s.positives.map Prod.fst).Pairwise fun i j => rank i < rank j
  creditors : ∀ i ∈ s.positives.map Prod.fst, Credited done i
  debtors : ∀ i ∈ s.negatives.map Prod.fst, i ∈ done.map Prod.fst
  between : ∀ m ∈ log, m.Between done
  given : ∀ e ∈ done, heldBy (bySource log) e.1 + heldBy s.negatives e.1 = max 0 (-e.2)
  received : ∀ e ∈ done, heldBy (byTarget log) e.1 + heldBy s.positives e.1 = max 0 e.2
  earliest : ∀ before m after, log = before ++ m :: after → ∀ e ∈ done,
    rank e.1 < rank m.target → heldBy (byTarget before) e.1 = max 0 e.2

theorem append_cons_split {α : Type*} {l m before after : List α} {a : α}
    (h : l ++ m = before ++ a :: after) :
    (∃ rest, l = before ++ a :: rest) ∨ ∃ front, before = l ++ front ∧ m = front ++ a :: after := by
  rcases append_eq_append_iff.mp h with ⟨front, hbef, hm⟩ | ⟨rest, hl, haft⟩
  · exact .inr ⟨front, hbef, hm⟩
  · rcases cons_eq_append_iff.mp haft with ⟨rfl, hm⟩ | ⟨rest, rfl, _⟩
    · exact .inr ⟨[], by rw [hl, append_nil, append_nil], hm⟩
    · exact .inl ⟨rest, hl⟩

section Run

variable {β : Type*} [Preorder β] [DecidableEq ι] {rank : ι → β} {done : List (ι × Int)}
  {s : Tally ι} {log : List (Move ι)} {entry : ι × Int}

section

variable (h : Netted rank done s log)
include h

/-- What an arrival moves before it reaches a credit uses up those of lower rank. -/
theorem Netted.used_up (hnew : ∀ e ∈ done, rank e.1 < rank entry.1) {front after : List (Move ι)}
    {m : Move ι} (hmoves : s.moves entry = front ++ m :: after) {e : ι × Int} (he : e ∈ done)
    (hrank : rank e.1 < rank m.target) :
    heldBy (byTarget front) e.1 = heldBy s.positives e.1 := by
  unfold Tally.moves at hmoves
  split at hmoves
  · -- debits were pending, so no credit is
    have hnil : s.positives = [] := by
      refine h.sound.oneSided.resolve_right fun hneg => ?_
      rw [hneg] at hmoves
      simp [offset] at hmoves
    obtain ⟨taken, _, _, rfl, _⟩ := map_eq_append_iff.mp hmoves
    have hother : entry.1 ≠ e.1 := fun heq => (hnew e he).ne (congrArg rank heq.symm)
    rw [hnil, byTarget_credit, heldBy_renamed, if_neg hother]
    rfl
  · obtain ⟨_, others, htaken, rfl, hoth⟩ := map_eq_append_iff.mp hmoves
    obtain ⟨t, _, rfl, rfl, _⟩ := map_eq_cons_iff.mp hoth
    obtain ⟨pending, rest, hq⟩ := taken_in_order htaken
    -- the credit that is reduced is the first that has something left
    have hlater : heldBy ((t.1, pending) :: rest) e.1 = 0 := by
      refine heldBy_eq_zero fun hi => ?_
      have hsort := h.sorted
      rw [hq, map_append] at hsort
      have hhead := (pairwise_cons.mp (pairwise_append.mp hsort).2.1).1
      rcases mem_cons.mp hi with heq | hi
      · exact hrank.ne (heq ▸ rfl)
      · exact lt_asymm hrank (hhead _ hi)
    rw [hq, heldBy_append, hlater, byTarget_debit, add_zero]

theorem Netted.between_append : ∀ m ∈ log ++ s.moves entry, m.Between (done ++ [entry]) := by
  have hold : ∀ j ∈ done.map Prod.fst, j ∈ (done ++ [entry]).map Prod.fst := by
    intro j hj
    rw [map_append]
    exact mem_append_left _ hj
  refine forall_mem_append.mpr ⟨fun m hm => ?_, fun m hm => ?_⟩
  · have hm := h.between m hm
    exact ⟨hm.amount, hold _ hm.source, hm.target.append _⟩
  · unfold Tally.moves at hm
    split at hm <;> obtain ⟨t, ht, rfl⟩ := mem_map.mp hm <;>
      have hkey := (taken_keys_sublist _ _).subset (mem_map_of_mem ht)
    · exact ⟨positive_taken h.sound.negatives t ht, hold _ (h.debtors _ hkey), entry, by simp, rfl,
        by assumption⟩
    · exact ⟨positive_taken h.sound.positives t ht, by simp, (h.creditors _ hkey).append _⟩

theorem Netted.earliest_append (hnew : ∀ e ∈ done, rank e.1 < rank entry.1) :
    ∀ before m after, log ++ s.moves entry = before ++ m :: after → ∀ e ∈ done ++ [entry],
      rank e.1 < rank m.target → heldBy (byTarget before) e.1 = max 0 e.2 := by
  intro before m after heq
  refine forall_mem_append.mpr ⟨fun e he hrank => ?_, forall_mem_singleton.mpr fun hrank => ?_⟩
  · rcases append_cons_split heq with ⟨rest, hlog⟩ | ⟨front, rfl, hfront⟩
    · exact h.earliest before m rest hlog e he hrank
    · rw [byTarget_append, heldBy_append, h.used_up hnew hfront he hrank]
      exact h.received e he
  · -- no target has a higher rank than the arrival
    exfalso
    have hm : m ∈ log ++ s.moves entry := by
      rw [heq]
      exact mem_append_right _ mem_cons_self
    obtain ⟨e, he, htgt, _⟩ := (h.between_append m hm).target
    rw [← htgt] at hrank
    rcases mem_append.mp he with he | he
    · exact lt_asymm hrank (hnew e he)
    · rw [mem_singleton.mp he] at hrank
      exact lt_irrefl _ hrank

theorem Netted.step (hnew : ∀ e ∈ done, rank e.1 < rank entry.1) :
    Netted rank (done ++ [entry]) (s.step entry) (log ++ s.moves entry) := by
  obtain ⟨i, x⟩ := entry
  have hoth : ∀ e ∈ done, i ≠ e.1 := fun e he heq => (hnew e he).ne (congrArg rank heq.symm)
  have hdone : i ∉ done.map Prod.fst := by
    intro hi
    obtain ⟨e, he, heq⟩ := mem_map.mp hi
    exact hoth e he heq.symm
  have hcredi : ¬ Credited done i := fun ⟨e, he, heq, _⟩ => hoth e he heq.symm
  have hgiven : i ∉ (bySource log).map Prod.fst := by
    rw [bySource, map_map]
    intro hi
    obtain ⟨m, hm, rfl⟩ := mem_map.mp hi
    exact hdone (h.between m hm).source
  have hrec : i ∉ (byTarget log).map Prod.fst := by
    rw [byTarget, map_map]
    intro hi
    obtain ⟨m, hm, rfl⟩ := mem_map.mp hi
    exact hcredi (h.between m hm).target
  have hposi : i ∉ s.positives.map Prod.fst := fun hi => hcredi (h.creditors i hi)
  have hneg : i ∉ s.negatives.map Prod.fst := fun hi => hdone (h.debtors i hi)
  have hdebt : ∀ j ∈ s.negatives.map Prod.fst ++ [i], j ∈ (done ++ [(i, x)]).map Prod.fst := by
    rw [map_append]
    exact forall_mem_append.mpr ⟨fun j hj => mem_append_left _ (h.debtors j hj),
      fun j hj => mem_append_right _ hj⟩
  have hsort : (s.positives.map Prod.fst ++ [i]).Pairwise fun j k => rank j < rank k := by
    refine pairwise_append.mpr ⟨h.sorted, pairwise_singleton _ _, fun j hj k hk => ?_⟩
    obtain ⟨e, he, rfl, _⟩ := h.creditors j hj
    rw [mem_singleton.mp hk]
    exact hnew e he
  have hcred : ∀ j ∈ (s.step (i, x)).positives.map Prod.fst, Credited (done ++ [(i, x)]) j := by
    intro j hj
    rcases owners_step s _ j hj with hj | ⟨rfl, hpos⟩
    · exact (h.creditors j hj).append _
    · exact ⟨_, mem_append_right _ mem_cons_self, rfl, hpos⟩
  by_cases hx : 0 < x
  · have hstep : s.step (i, x) = ⟨join s.positives i (offset x s.negatives).left,
        (offset x s.negatives).queue⟩ := if_pos hx
    have hmove : s.moves (i, x) = (offset x s.negatives).taken.map fun e => ⟨e.1, i, e.2⟩ :=
      if_pos hx
    refine ⟨(h.sound.step _).1, ?_, hcred, ?_, h.between_append, ?_, ?_, h.earliest_append hnew⟩
    · rw [hstep]
      exact hsort.sublist (keys_join_sublist _ _ _)
    · rw [hstep]
      exact fun j hj => hdebt j (mem_append_left _ ((queue_keys_sublist _ _).subset hj))
    · rw [hstep, hmove, bySource_append, bySource_credit]
      exact account_consumed (f := fun y => max 0 (-y)) h.given hgiven hneg (by omega)
    · rw [hstep, hmove, byTarget_append, byTarget_credit]
      exact account_arrived (f := fun y => max 0 y) hx.le h.sound.negatives h.received hoth
        hrec hposi (by omega)
  · have hstep := step_debit s (i := i) hx
    have hmove : s.moves (i, x) = (offset (-x) s.positives).taken.map fun e => ⟨i, e.1, e.2⟩ :=
      if_neg hx
    refine ⟨(h.sound.step _).1, ?_, hcred, ?_, h.between_append, ?_, ?_, h.earliest_append hnew⟩
    · rw [hstep]
      exact h.sorted.sublist (queue_keys_sublist _ _)
    · rw [hstep]
      exact fun j hj => hdebt j ((keys_join_sublist _ _ _).subset hj)
    · rw [hstep, hmove, bySource_append, bySource_debit]
      exact account_arrived (f := fun y => max 0 (-y)) (by omega) h.sound.positives h.given hoth
        hgiven hneg (by omega)
    · rw [hstep, hmove, byTarget_append, byTarget_debit]
      exact account_consumed (f := fun y => max 0 y) h.received hrec hposi (by omega)

theorem Netted.run {entries : List (ι × Int)}
    (hsort : (done ++ entries).Pairwise fun e f => rank e.1 < rank f.1) :
    Netted rank (done ++ entries) (s.run entries) (log ++ s.log entries) := by
  induction entries generalizing done s log with
  | nil =>
    rw [append_nil, Tally.log, append_nil]
    exact h
  | cons entry entries ih =>
    have hnew : ∀ e ∈ done, rank e.1 < rank entry.1 :=
      fun e he => (pairwise_append.mp hsort).2.2 e he entry mem_cons_self
    rw [append_cons] at hsort ⊢
    rw [Tally.log, ← append_assoc]
    exact ih (h.step hnew) hsort

end

theorem netted_empty : Netted rank [] (⟨[], []⟩ : Tally ι) [] where
  sound := sound_empty
  sorted := List.Pairwise.nil
  creditors := nofun
  debtors := nofun
  between := nofun
  given := nofun
  received := nofun
  earliest := nofun

end Run

end Tally

end FifoNetting
