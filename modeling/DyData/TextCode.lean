import Mathlib

/-!
Texts that are read in one way.  A code writes a value as characters so that, whatever follows,
the value and the rest can be told; codes of parts therefore compose to codes of records and lists.
-/

/-- An encoding of `α` that is prefix free. -/
structure TextCode (α : Type*) where
  encode : α → List Char
  unique : ∀ {a b : α} {r s : List Char}, encode a ++ r = encode b ++ s → a = b ∧ r = s

namespace TextCode

open List

variable {α β : Type*}

def write (c : TextCode α) (a : α) : String := String.ofList (c.encode a)

theorem write_injective (c : TextCode α) : Function.Injective c.write := by
  intro a b h
  have hlist : c.encode a = c.encode b := by simpa [write] using congrArg String.toList h
  have hrest : c.encode a ++ [] = c.encode b ++ [] := by rw [hlist]
  exact (c.unique hrest).1

def char : TextCode Char where
  encode c := [c]
  unique h := cons.inj h

/-- The values of `α` by their image. -/
def ofInjective (c : TextCode β) (f : α → β) (hf : Function.Injective f) : TextCode α where
  encode a := c.encode (f a)
  unique h := ⟨hf (c.unique h).1, (c.unique h).2⟩

def pair (c : TextCode α) (d : TextCode β) : TextCode (α × β) where
  encode x := c.encode x.1 ++ d.encode x.2
  unique {x y r s} h := by
    rw [append_assoc, append_assoc] at h
    obtain ⟨hfst, h⟩ := c.unique h
    obtain ⟨hsnd, hrest⟩ := d.unique h
    exact ⟨Prod.ext hfst hsnd, hrest⟩

def sum (c : TextCode α) (d : TextCode β) : TextCode (α ⊕ β) where
  encode
    | .inl a => 'l' :: c.encode a
    | .inr b => 'r' :: d.encode b
  unique {x y r s} h := by
    -- the first character tells the sides apart
    cases x with
    | inl a =>
      cases y with
      | inl a' =>
        obtain ⟨ha, hrest⟩ := c.unique (cons.inj h).2
        exact ⟨congrArg Sum.inl ha, hrest⟩
      | inr b => exact absurd (cons.inj h).1 (by decide)
    | inr b =>
      cases y with
      | inl a => exact absurd (cons.inj h).1 (by decide)
      | inr b' =>
        obtain ⟨hb, hrest⟩ := d.unique (cons.inj h).2
        exact ⟨congrArg Sum.inr hb, hrest⟩

/-- Every element is announced, so the end of the list shows. -/
def encodeList (c : TextCode α) : List α → List Char
  | [] => ['.']
  | a :: l => ',' :: (c.encode a ++ encodeList c l)

theorem encodeList_unique (c : TextCode α) {r s : List Char} :
    ∀ {l m : List α}, encodeList c l ++ r = encodeList c m ++ s → l = m ∧ r = s
  | [], [], h => ⟨rfl, (cons.inj h).2⟩
  | [], _ :: _, h => absurd (cons.inj h).1 (by decide)
  | _ :: _, [], h => absurd (cons.inj h).1 (by decide)
  | a :: l, b :: m, h => by
    have htail : (c.encode a ++ encodeList c l) ++ r = (c.encode b ++ encodeList c m) ++ s :=
      (cons.inj h).2
    rw [append_assoc, append_assoc] at htail
    obtain ⟨hhead, htail⟩ := c.unique htail
    obtain ⟨hlist, hrest⟩ := encodeList_unique c htail
    exact ⟨by rw [hhead, hlist], hrest⟩

def list (c : TextCode α) : TextCode (List α) where
  encode := encodeList c
  unique := encodeList_unique c

def string : TextCode String := (list char).ofInjective String.toList fun _ _ => String.toList_inj.mp

def nat : TextCode Nat :=
  (list char).ofInjective (fun n => replicate n '1') fun n m h => by
    simpa using congrArg length h

def unit : TextCode Unit where
  encode _ := []
  unique h := ⟨rfl, h⟩

def option (c : TextCode α) : TextCode (Option α) :=
  (sum unit c).ofInjective (fun o => o.elim (.inl ()) .inr) fun a b h => by
    cases a with
    | none =>
      cases b with
      | none => rfl
      | some b => cases h
    | some a =>
      cases b with
      | none => cases h
      | some b => exact congrArg some (Sum.inr.inj h)

def int : TextCode Int :=
  (sum nat nat).ofInjective
    (fun n => match n with | .ofNat n => .inl n | .negSucc n => .inr n) fun a b h => by
      cases a with
      | ofNat n =>
        cases b with
        | ofNat m => exact congrArg Int.ofNat (Sum.inl.inj h)
        | negSucc m => cases h
      | negSucc n =>
        cases b with
        | ofNat m => cases h
        | negSucc m => exact congrArg Int.negSucc (Sum.inr.inj h)

end TextCode
