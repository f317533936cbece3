import Mathlib

/-!
Successful computations that may raise: what a sequence or a mapped computation that
returned must have gone through.
-/

/-- Corresponding elements with equal values give equal lists of values. -/
theorem List.map_eq_of_forall₂ {α β γ : Type*} {R : α → β → Prop} {l : List α} {l' : List β}
    {f : α → γ} {g : β → γ} (h : List.Forall₂ R l l')
    (hfg : ∀ a ∈ l, ∀ b, R a b → g b = f a) : l'.map g = l.map f := by
  induction h with
  | nil => rfl
  | @cons a b l l' hab _ ih =>
    rw [List.map_cons, List.map_cons, hfg a List.mem_cons_self b hab,
      ih fun c hc => hfg c (List.mem_cons_of_mem _ hc)]

/-- The same for the elements that corresponding conditions select. -/
theorem List.filter_map_eq_of_forall₂ {α β γ : Type*} {R : α → β → Prop} {l : List α}
    {l' : List β} {p : α → Bool} {q : β → Bool} {f : α → γ} {g : β → γ} (h : List.Forall₂ R l l')
    (hpq : ∀ a b, R a b → q b = p a) (hfg : ∀ a b, R a b → g b = f a) :
    (l'.filter q).map g = (l.filter p).map f := by
  induction h with
  | nil => rfl
  | @cons a b _ _ hab _ ih =>
    rw [List.filter_cons, List.filter_cons, hpq a b hab]
    split
    · rw [List.map_cons, List.map_cons, hfg a b hab, ih]
    · exact ih

theorem List.exists_of_forall₂_right {α β : Type*} {R : α → β → Prop} {l : List α} {l' : List β}
    (h : List.Forall₂ R l l') {b : β} (hb : b ∈ l') : ∃ a ∈ l, R a b := by
  induction h with
  | nil => cases hb
  | @cons a b' l l' hab _ ih =>
    rcases List.mem_cons.mp hb with rfl | hb
    · exact ⟨a, List.mem_cons_self, hab⟩
    · obtain ⟨x, hx, hxb⟩ := ih hb
      exact ⟨x, List.mem_cons_of_mem a hx, hxb⟩

namespace Except

universe u v

variable {ε : Type u} {α β : Type v}

theorem bind_eq_ok_iff {x : Except ε α} {f : α → Except ε β} {b : β} :
    (x >>= f) = .ok b ↔ ∃ a, x = .ok a ∧ f a = .ok b := by
  cases x with
  | error e =>
    constructor
    · intro h
      cases h
    · rintro ⟨a, ha, _⟩
      cases ha
  | ok a =>
    constructor
    · intro h
      exact ⟨a, rfl, h⟩
    · rintro ⟨a', ha, hf⟩
      cases ha
      exact hf

/-- A sequence that returned went through its first part. -/
theorem of_bind {x : Except ε α} {f : α → Except ε β} {b : β} (h : (x >>= f) = .ok b) :
    ∃ a, x = .ok a ∧ f a = .ok b :=
  bind_eq_ok_iff.mp h

theorem bind_ok {x : Except ε α} {f : α → Except ε β} {a : α} {b : β} (hx : x = .ok a)
    (hf : f a = .ok b) : (x >>= f) = .ok b :=
  bind_eq_ok_iff.mpr ⟨a, hx, hf⟩

theorem map_eq_ok_iff {x : Except ε α} {f : α → β} {b : β} :
    x.map f = .ok b ↔ ∃ a, x = .ok a ∧ f a = b := by
  cases x with
  | error e => simp [Except.map]
  | ok a => simp [Except.map]

theorem map_eq_error_iff {x : Except ε α} {f : α → β} {e : ε} :
    x.map f = .error e ↔ x = .error e := by
  cases x with
  | error e => simp [Except.map]
  | ok a => simp [Except.map]

@[simp] theorem mapError_eq_ok_iff {ε' : Type*} {x : Except ε α} {f : ε → ε'} {a : α} :
    x.mapError f = .ok a ↔ x = .ok a := by
  cases x with
  | error e => simp [Except.mapError]
  | ok b => simp [Except.mapError]

@[simp] theorem pure_eq_ok_iff {a b : α} : (pure a : Except ε α) = .ok b ↔ a = b := by
  constructor
  · intro h
    exact Except.ok.inj h
  · rintro rfl
    rfl

/-- A check that raises `e` unless it holds. -/
def ensure (condition : Bool) (e : ε) : Except ε Unit :=
  if condition then .ok () else .error e

@[simp] theorem ensure_eq_ok_iff {condition : Bool} {e : ε} {u : Unit} :
    ensure condition e = .ok u ↔ condition = true := by
  unfold ensure
  cases condition <;> simp

/-- The value of an optional row, or `e` when it is absent. -/
def ofOption (row : Option α) (e : ε) : Except ε α :=
  match row with
  | some a => .ok a
  | none => .error e

@[simp] theorem ofOption_eq_ok_iff {row : Option α} {e : ε} {a : α} :
    ofOption row e = .ok a ↔ row = some a := by
  unfold ofOption
  cases row <;> simp

theorem of_ensure_bind {β : Type} {condition : Bool} {e : ε} {f : Unit → Except ε β} {b : β}
    (h : (ensure condition e >>= f) = .ok b) : condition = true ∧ f () = .ok b := by
  obtain ⟨_, hcond, h⟩ := of_bind h
  exact ⟨ensure_eq_ok_iff.mp hcond, h⟩

theorem of_ofOption_bind {row : Option α} {e : ε} {f : α → Except ε β} {b : β}
    (h : (ofOption row e >>= f) = .ok b) : ∃ a, row = some a ∧ f a = .ok b := by
  obtain ⟨a, hrow, h⟩ := of_bind h
  exact ⟨a, ofOption_eq_ok_iff.mp hrow, h⟩

theorem ensure_bind {β : Type} {condition : Bool} {e : ε} {f : Unit → Except ε β} {b : β}
    (hcond : condition = true) (hf : f () = .ok b) : (ensure condition e >>= f) = .ok b :=
  bind_ok (ensure_eq_ok_iff.mpr hcond) hf

theorem ofOption_bind {row : Option α} {e : ε} {f : α → Except ε β} {a : α} {b : β}
    (hrow : row = some a) (hf : f a = .ok b) : (ofOption row e >>= f) = .ok b :=
  bind_ok (ofOption_eq_ok_iff.mpr hrow) hf

/-! What a computation that raised can have raised. -/

theorem bind_eq_error_iff {x : Except ε α} {f : α → Except ε β} {e : ε} :
    (x >>= f) = .error e ↔ x = .error e ∨ ∃ a, x = .ok a ∧ f a = .error e := by
  cases x with
  | error e' =>
    change Except.error e' = .error e ↔ _
    simp
  | ok a =>
    change f a = .error e ↔ _
    simp

/-- A block of steps none of which raises an error does not raise it. -/
theorem bind_ne_error {x : Except ε α} {f : α → Except ε β} {e : ε} (hx : x ≠ .error e)
    (hf : ∀ a, f a ≠ .error e) : (x >>= f) ≠ .error e := by
  intro h
  rcases bind_eq_error_iff.mp h with h | ⟨a, -, h⟩
  · exact hx h
  · exact hf a h

theorem ensure_eq_error_iff {condition : Bool} {e e' : ε} :
    ensure condition e = .error e' ↔ condition = false ∧ e = e' := by
  unfold ensure
  cases condition <;> simp

theorem ofOption_eq_error_iff {row : Option α} {e e' : ε} :
    ofOption row e = .error e' ↔ row = none ∧ e = e' := by
  unfold ofOption
  cases row <;> simp

/-- An error that a check does not raise comes from what follows the check. -/
theorem of_ensure_bind_error {β : Type} {condition : Bool} {e e' : ε} {f : Unit → Except ε β}
    (hne : e ≠ e') (h : (ensure condition e >>= f) = .error e') : f () = .error e' := by
  rcases bind_eq_error_iff.mp h with h | ⟨_, _, h⟩
  · exact absurd (ensure_eq_error_iff.mp h).2 hne
  · exact h

theorem of_ofOption_bind_error {row : Option α} {e e' : ε} {f : α → Except ε β}
    (hne : e ≠ e') (h : (ofOption row e >>= f) = .error e') : ∃ a, f a = .error e' := by
  rcases bind_eq_error_iff.mp h with h | ⟨a, _, h⟩
  · exact absurd (ofOption_eq_error_iff.mp h).2 hne
  · exact ⟨a, h⟩

theorem mapError_eq_error_iff {ε' : Type*} {x : Except ε α} {f : ε → ε'} {e' : ε'} :
    x.mapError f = .error e' ↔ ∃ e, x = .error e ∧ f e = e' := by
  cases x <;> simp [Except.mapError]

section Lists

variable {ι : Type*} {σ : Type v}

theorem forM_eq_ok_iff {f : ι → Except ε Unit} {l : List ι} {u : Unit} :
    l.forM f = .ok u ↔ ∀ a ∈ l, f a = .ok () := by
  induction l with
  | nil =>
    simp
  | cons a l ih =>
    change (f a >>= fun _ => l.forM f) = .ok u ↔ _
    rw [bind_eq_ok_iff]
    constructor
    · rintro ⟨_, ha, hl⟩ b hb
      rcases List.mem_cons.mp hb with rfl | hb
      · exact ha
      · exact ih.mp hl b hb
    · intro h
      exact ⟨(), h a List.mem_cons_self, ih.mpr fun b hb => h b (List.mem_cons_of_mem a hb)⟩

theorem mapM_eq_ok_iff {f : ι → Except ε β} {l : List ι} {r : List β} :
    l.mapM f = .ok r ↔ List.Forall₂ (fun a b => f a = .ok b) l r := by
  induction l generalizing r with
  | nil =>
    rw [List.mapM_nil, pure_eq_ok_iff, List.forall₂_nil_left_iff, eq_comm]
  | cons a l ih =>
    rw [List.mapM_cons, bind_eq_ok_iff, List.forall₂_cons_left_iff]
    constructor
    · rintro ⟨b, hb, h⟩
      obtain ⟨bs, hbs, h⟩ := bind_eq_ok_iff.mp h
      exact ⟨b, bs, hb, ih.mp hbs, (pure_eq_ok_iff.mp h).symm⟩
    · rintro ⟨b, bs, hb, hbs, rfl⟩
      exact ⟨b, hb, bind_eq_ok_iff.mpr ⟨bs, ih.mpr hbs, rfl⟩⟩

/-- A mapped list raises what one of its elements raises. -/
theorem exists_of_mapM_error {f : ι → Except ε β} {l : List ι} {e : ε}
    (h : l.mapM f = .error e) : ∃ a ∈ l, f a = .error e := by
  induction l with
  | nil => cases h
  | cons a l ih =>
    rw [List.mapM_cons, bind_eq_error_iff] at h
    rcases h with ha | ⟨b, _, h⟩
    · exact ⟨a, List.mem_cons_self, ha⟩
    · rcases bind_eq_error_iff.mp h with hl | ⟨bs, _, h⟩
      · obtain ⟨c, hc, hcerr⟩ := ih hl
        exact ⟨c, List.mem_cons_of_mem a hc, hcerr⟩
      · cases h

theorem exists_of_forM_error {f : ι → Except ε Unit} {l : List ι} {e : ε}
    (h : l.forM f = .error e) : ∃ a ∈ l, f a = .error e := by
  induction l with
  | nil => cases h
  | cons a l ih =>
    rcases bind_eq_error_iff.mp h with ha | ⟨_, _, hl⟩
    · exact ⟨a, List.mem_cons_self, ha⟩
    · obtain ⟨c, hc, hcerr⟩ := ih hl
      exact ⟨c, List.mem_cons_of_mem a hc, hcerr⟩

/-- Where the elements can raise one error only, the list raises it as soon as one does. -/
theorem mapM_eq_error {f : ι → Except ε β} {l : List ι} {e : ε}
    (hall : ∀ a ∈ l, f a = .error e ∨ ∃ b, f a = .ok b) (h : ∃ a ∈ l, f a = .error e) :
    l.mapM f = .error e := by
  cases hmap : l.mapM f with
  | ok r =>
    obtain ⟨a, ha, herror⟩ := h
    obtain ⟨b, _, hb⟩ := List.exists_of_forall₂_right (mapM_eq_ok_iff.mp hmap).flip ha
    rw [herror] at hb
    cases hb
  | error e' =>
    obtain ⟨a, ha, herror⟩ := exists_of_mapM_error hmap
    rcases hall a ha with hsame | ⟨b, hb⟩
    · rw [Except.error.inj (herror.symm.trans hsame)]
    · rw [herror] at hb
      cases hb

/-- A mapped list returns when every element does. -/
theorem exists_mapM_ok {f : ι → Except ε β} {l : List ι} (h : ∀ a ∈ l, ∃ b, f a = .ok b) :
    ∃ r, l.mapM f = .ok r := by
  induction l with
  | nil => exact ⟨[], rfl⟩
  | cons a l ih =>
    obtain ⟨b, hb⟩ := h a List.mem_cons_self
    obtain ⟨r, hr⟩ := ih fun c hc => h c (List.mem_cons_of_mem a hc)
    refine ⟨b :: r, mapM_eq_ok_iff.mpr (.cons hb (mapM_eq_ok_iff.mp hr))⟩

theorem mem_of_mapM_ok {f : ι → Except ε β} {l : List ι} {r : List β} (h : l.mapM f = .ok r)
    {b : β} : b ∈ r ↔ ∃ a ∈ l, f a = .ok b := by
  have hall := mapM_eq_ok_iff.mp h
  clear h
  induction hall with
  | nil => simp
  | @cons a b' l r hab hrest ih =>
    constructor
    · intro hb
      rcases List.mem_cons.mp hb with rfl | hb
      · exact ⟨a, List.mem_cons_self, hab⟩
      · obtain ⟨c, hc, hcb⟩ := ih.mp hb
        exact ⟨c, List.mem_cons_of_mem a hc, hcb⟩
    · rintro ⟨c, hc, hcb⟩
      rcases List.mem_cons.mp hc with rfl | hc
      · rw [Except.ok.inj (hcb.symm.trans hab)]
        exact List.mem_cons_self
      · exact List.mem_cons_of_mem b' (ih.mpr ⟨c, hc, hcb⟩)

theorem length_of_mapM_ok {f : ι → Except ε β} {l : List ι} {r : List β}
    (h : l.mapM f = .ok r) : r.length = l.length :=
  (mapM_eq_ok_iff.mp h).length_eq.symm

/-- What every element can only return is what the list returns. -/
theorem map_eq_map_of_mapM_ok {γ : Type*} {f : ι → Except ε β} {l : List ι} {r : List β}
    (h : l.mapM f = .ok r) {p : β → γ} {g : ι → γ} (hf : ∀ a b, f a = .ok b → p b = g a) :
    r.map p = l.map g :=
  List.map_eq_of_forall₂ (mapM_eq_ok_iff.mp h) fun a _ b hab => hf a b hab

theorem eq_map_of_mapM_ok {f : ι → Except ε β} {l : List ι} {r : List β} (h : l.mapM f = .ok r)
    (g : ι → β) (hf : ∀ a b, f a = .ok b → b = g a) : r = l.map g := by
  have hall := map_eq_map_of_mapM_ok (p := id) h hf
  rwa [List.map_id] at hall

/-- An invariant of a state and the elements it has seen, at the start and after every step that
returned, holds at the end for the whole list. -/
theorem foldlM_ok_seen {I : List ι → σ → Prop} {f : σ → ι → Except ε σ} {l : List ι} {s s' : σ}
    (h : l.foldlM f s = .ok s') (hs : I [] s)
    (hstep : ∀ seen a t t', a ∈ l → I seen t → f t a = .ok t' → I (seen ++ [a]) t') : I l s' := by
  suffices hrun : ∀ (rest seen : List ι) (t : σ), l = seen ++ rest → I seen t →
      rest.foldlM f t = .ok s' → I l s' from hrun l [] s rfl hs h
  intro rest
  induction rest with
  | nil =>
    intro seen t hl ht h
    rw [List.foldlM_nil, pure_eq_ok_iff] at h
    rw [hl, List.append_nil, ← h]
    exact ht
  | cons a rest ih =>
    intro seen t hl ht h
    rw [List.foldlM_cons, bind_eq_ok_iff] at h
    obtain ⟨t', ht', h⟩ := h
    have ha : a ∈ l := hl ▸ List.mem_append_right seen List.mem_cons_self
    exact ih (seen ++ [a]) t' (by rw [hl, List.append_cons]) (hstep seen a t t' ha ht ht') h

/-- What holds at the start and is kept by every step that returned holds at the end. -/
theorem foldlM_ok {P : σ → Prop} {f : σ → ι → Except ε σ} {l : List ι} {s s' : σ}
    (h : l.foldlM f s = .ok s') (hs : P s)
    (hstep : ∀ a ∈ l, ∀ t t', P t → f t a = .ok t' → P t') : P s' :=
  foldlM_ok_seen (I := fun _ => P) h hs fun _ a t t' ha => hstep a ha t t'

/-- A fold returns when every step does, from every state the invariant allows. -/
theorem exists_foldlM_ok {P : σ → Prop} {f : σ → ι → Except ε σ} {l : List ι} {s : σ} (hs : P s)
    (hstep : ∀ a ∈ l, ∀ t, P t → ∃ t', f t a = .ok t' ∧ P t') :
    ∃ s', l.foldlM f s = .ok s' ∧ P s' := by
  induction l generalizing s with
  | nil => exact ⟨s, rfl, hs⟩
  | cons a l ih =>
    obtain ⟨t, ht, hPt⟩ := hstep a List.mem_cons_self s hs
    obtain ⟨s', hs', hP⟩ := ih hPt fun b hb => hstep b (List.mem_cons_of_mem a hb)
    refine ⟨s', ?_, hP⟩
    rw [List.foldlM_cons, bind_eq_ok_iff]
    exact ⟨t, ht, hs'⟩

end Lists

end Except
