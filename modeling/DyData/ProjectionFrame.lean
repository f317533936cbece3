import DyData.ProjectionCompactionSpec

/-!
What the writers of the projection leave alone.  A builder replaces the rows of one unpublished
generation, a publication changes the state of one; the rest of the history stays as it was.
-/

namespace DyData.Projection

open Relational List
open DyData.HeavyQueue (Timestamp)

variable {α : Type} {digests : Digests} {g : Generation}

structure SameContent (db db' : Db) (id : String) : Prop where
  manifests : (db'.manifests.rows.filter fun m => m.generationId = id) =
    db.manifests.rows.filter fun m => m.generationId = id
  closure : (db'.closure.rows.filter fun r => r.compactGenerationId = id) =
    db.closure.rows.filter fun r => r.compactGenerationId = id
  overlays : ∀ artifact key, db'.presentCount id artifact key = db.presentCount id artifact key

structure SameRows (db db' : Db) (id : String) : Prop extends SameContent db db' id where
  generation : db'.generations.get? id = db.generations.get? id

/-- Lists with the same rows under a condition have the same rows that meet it. -/
theorem mem_iff_of_filter_eq {p : α → Bool} {l l' : List α} (h : l'.filter p = l.filter p) {a : α}
    (ha : p a = true) : a ∈ l' ↔ a ∈ l := by
  have hiff : a ∈ l'.filter p ↔ a ∈ l.filter p := by rw [h]
  simpa [mem_filter, ha] using hiff

namespace SameContent

variable {db db' : Db} {id : String}

theorem mem_manifests (h : SameContent db db' id) {m : Manifest} (hid : m.generationId = id) :
    m ∈ db'.manifests.rows ↔ m ∈ db.manifests.rows :=
  mem_iff_of_filter_eq h.manifests (decide_eq_true hid)

theorem manifest? (h : SameContent db db' id) (artifact : Artifact) (key : String) :
    db'.manifest? id artifact key = db.manifest? id artifact key := by
  refine Option.ext fun m => ?_
  unfold Db.manifest?
  rw [Table.get?_eq_some_iff, Table.get?_eq_some_iff]
  constructor
  · rintro ⟨hmem, hkey⟩
    exact ⟨(h.mem_manifests (Prod.mk.inj hkey).1).mp hmem, hkey⟩
  · rintro ⟨hmem, hkey⟩
    exact ⟨(h.mem_manifests (Prod.mk.inj hkey).1).mpr hmem, hkey⟩

theorem manifestsOf (h : SameContent db db' id) : db'.manifestsOf id = db.manifestsOf id := by
  rw [Db.manifestsOf, Db.manifestsOf, h.manifests]

end SameContent

theorem Built.frame {db db' : Db} (h : Built digests db g)
    (hsame : SameContent db db' g.generationId) : Built digests db' g := by
  refine ⟨?_, ?_⟩
  · intro m hm hid
    obtain ⟨hbase, href, hkind⟩ := h.rows m ((hsame.mem_manifests hid).mp hm) hid
    refine ⟨hbase, href, ?_⟩
    rw [hsame.overlays]
    exact hkind
  · rw [h.digest, hsame.manifestsOf]

theorem Built.publish {db : Db} (h : Built digests db g) (now : Timestamp) :
    Built digests db (g.publish now) :=
  ⟨h.rows, h.digest⟩

theorem view_frame {db db' : Db} {history : List Generation}
    (hsame : ∀ x ∈ history, SameContent db db' x.generationId) (artifact : Artifact)
    (key : String) : view db' artifact key history = view db artifact key history := by
  induction history with
  | nil => rfl
  | cons g older ih =>
    rw [view, view, (hsame g mem_cons_self).manifest?,
      ih fun x hx => hsame x (mem_cons_of_mem g hx)]

theorem PublishedRow.frame {db db' : Db} (h : PublishedRow db g)
    (hsame : SameRows db db' g.generationId) : PublishedRow db' g :=
  ⟨hsame.generation.trans h.row, h.state⟩

/-- A history holds as long as the rows of its generations stay. -/
theorem History.frame {db db' : Db} {history : List Generation} (h : History digests db history)
    (hsame : ∀ x ∈ history, SameRows db db' x.generationId) : History digests db' history := by
  induction h with
  | @root g published kind rows digest =>
    have hg := hsame g mem_cons_self
    refine .root (published.frame hg) kind ?_ ?_
    · intro m hm hid
      exact rows m ((hg.mem_manifests hid).mp hm) hid
    · rw [digest, hg.manifestsOf]
  | @lineage g b older below published fresh kind base depth bound built ih =>
    have hg := hsame g mem_cons_self
    exact .lineage (ih fun x hx => hsame x (mem_cons_of_mem g hx)) (published.frame hg) fresh
      kind base depth bound (built.frame hg.toSameContent)
  | @compact g b older below published fresh kind base closure bound rows digest ih =>
    have hg := hsame g mem_cons_self
    have holder : ∀ x ∈ b :: older, SameRows db db' x.generationId :=
      fun x hx => hsame x (mem_cons_of_mem g hx)
    refine .compact (ih holder) (published.frame hg) fresh kind base ?_ bound ?_ ?_
    · intro source digest
      rw [mem_iff_of_filter_eq hg.closure (decide_eq_true rfl)]
      exact closure source digest
    · intro artifact key
      rw [hg.manifest?, view_frame fun x hx => (holder x hx).toSameContent]
      exact rows artifact key
    · rw [digest, hg.manifestsOf]

section Promote

variable {db : Db} {id : String} {now : Timestamp}

theorem sameContent_promote (other : String) : SameContent db (db.promote id now) other :=
  ⟨rfl, rfl, fun _ _ => rfl⟩

theorem sameRows_promote {other : String} (hne : other ≠ id) :
    SameRows db (db.promote id now) other := by
  refine ⟨sameContent_promote other, ?_⟩
  rw [Db.get?_promote]
  cases hrow : db.generations.get? other with
  | none => rfl
  | some g =>
    rw [Option.map_some, if_neg]
    rw [db.generations.key_of_get? hrow]
    exact hne

theorem promote_row (hrow : db.generations.get? id = some g) :
    PublishedRow (db.promote id now) (g.publish now) := by
  refine ⟨?_, rfl⟩
  have hid : g.generationId = id := db.generations.key_of_get? hrow
  rw [Generation.publish_generationId, Db.get?_promote, hid, hrow, Option.map_some, if_pos hid]

theorem mem_promote : g ∈ (db.promote id now).generations.rows ↔
      (g ∈ db.generations.rows ∧ g.generationId ≠ id) ∨
        ∃ old ∈ db.generations.rows, old.generationId = id ∧ g = old.publish now := by
  change g ∈ (db.generations.update (fun g => g.generationId = id) (.publish now)
    (Generation.publish_generationId now)).rows ↔ _
  rw [Table.mem_update]
  constructor
  · rintro ⟨old, hold, rfl⟩
    by_cases hid : old.generationId = id
    · rw [if_pos (decide_eq_true hid)]
      exact .inr ⟨old, hold, hid, rfl⟩
    · rw [if_neg (by simpa using hid)]
      exact .inl ⟨hold, hid⟩
  · rintro (⟨hg, hne⟩ | ⟨old, hold, hid, rfl⟩)
    · exact ⟨g, hg, by rw [if_neg (by simpa using hne)]⟩
    · exact ⟨old, hold, by rw [if_pos (decide_eq_true hid)]⟩

end Promote

structure Wrote (db db' : Db) (g : Generation) (manifests : List Manifest)
    (closure : List ClosureRow) (overlays : List OverlayRow) : Prop where
  unpublished : g.state ≠ .published
  old : ∀ old, db.generations.get? g.generationId = some old → old.state ≠ .published
  active : db'.active = db.active
  others : ∀ id, id ≠ g.generationId → SameRows db db' id
  rows : ∀ x, x ∈ db'.generations.rows ↔
    x = g ∨ (x ∈ db.generations.rows ∧ x.generationId ≠ g.generationId)
  manifests : (db'.manifests.rows.filter fun m => m.generationId = g.generationId) = manifests
  closure : (db'.closure.rows.filter fun r => r.compactGenerationId = g.generationId) = closure
  overlays : ∀ artifact key, db'.presentCount g.generationId artifact key =
    overlays.count ⟨g.generationId, artifact, key⟩
  jobs : db'.jobs = db.jobs
  events : db'.events = db.events

theorem filter_rewritten {p q : α → Bool} {rows added : List α}
    (hdisj : ∀ a, q a = true → p a = false) (hadded : ∀ a ∈ added, p a = true) :
    (rows.filter (fun a => !p a) ++ added).filter q = rows.filter q := by
  rw [filter_append, filter_filter]
  have hnone : added.filter q = [] := by
    rw [filter_eq_nil_iff]
    intro a ha hq
    have hp := hadded a ha
    rw [hdisj a hq] at hp
    cases hp
  rw [hnone, append_nil]
  refine filter_congr fun a _ => ?_
  cases hq : q a with
  | false => rfl
  | true => rw [hdisj a hq]; rfl

theorem filter_added {p : α → Bool} {rows added : List α} (hadded : ∀ a ∈ added, p a = true) :
    (rows.filter (fun a => !p a) ++ added).filter p = added := by
  rw [filter_append, filter_filter, filter_eq_self.mpr hadded]
  have hnone : (rows.filter fun a => p a && !p a) = [] := by
    rw [filter_eq_nil_iff]
    intro a _
    cases p a <;> simp
  rw [hnone, nil_append]

theorem count_rewritten [DecidableEq α] {p : α → Bool} {rows added : List α} (a : α)
    (ha : p a = false) (hadded : ∀ a ∈ added, p a = true) :
    (rows.filter (fun a => !p a) ++ added).count a = rows.count a := by
  have hnone : added.count a = 0 := by
    rw [count_eq_zero]
    intro hmem
    rw [hadded a hmem] at ha
    cases ha
  rw [count_append, hnone, count_filter (by rw [ha]; rfl), Nat.add_zero]

theorem count_added [DecidableEq α] {p : α → Bool} {rows added : List α} (a : α) (ha : p a = true) :
    (rows.filter (fun a => !p a) ++ added).count a = added.count a := by
  have hnone : (rows.filter fun a => !p a).count a = 0 := by
    rw [count_eq_zero]
    intro hmem
    have hp := (mem_filter.mp hmem).2
    rw [ha] at hp
    cases hp
  rw [count_append, hnone, Nat.zero_add]

theorem writeGeneration_ok {db db' : Db} {manifests : List Manifest} {closure : List ClosureRow}
    {overlays : List OverlayRow} (h : db.writeGeneration g manifests closure overlays = some db') :
    Wrote db db' g manifests closure overlays := by
  unfold Db.writeGeneration at h
  split at h
  · cases h
  rename_i hwrit
  rw [Bool.not_eq_true', Bool.not_eq_false] at hwrit
  simp only [Db.writable, bool_to_prop, all_eq_true, Option.all_eq_true] at hwrit
  obtain ⟨⟨⟨⟨hstt, hold⟩, hm⟩, hc⟩, ho⟩ := hwrit
  obtain ⟨_, hmans, h⟩ := Option.bind_eq_some_iff.mp h
  obtain ⟨_, hcl, h⟩ := Option.bind_eq_some_iff.mp h
  split at h
  · obtain rfl := Option.some.inj h
    have hmrows := Table.rows_replace? hmans
    have hcrows := Table.rows_replace? hcl
    have hmadd : ∀ m ∈ manifests, decide (m.generationId = g.generationId) = true :=
      fun m hmem => decide_eq_true (hm m hmem)
    have hcadd : ∀ r ∈ closure, decide (r.compactGenerationId = g.generationId) = true :=
      fun r hmem => decide_eq_true (hc r hmem)
    have hoadd : ∀ o ∈ overlays, decide (o.generationId = g.generationId) = true :=
      fun o hmem => decide_eq_true (ho o hmem)
    refine ⟨hstt, hold, rfl, ?_, ?_, ?_, ?_, ?_, rfl, rfl⟩
    · intro id hne
      have hoth : ∀ other, decide (other = id) = true →
          decide (other = g.generationId) = false := by
        intro other hid
        simpa using fun he => hne ((of_decide_eq_true hid).symm.trans he)
      refine ⟨⟨?_, ?_, ?_⟩, ?_⟩
      · dsimp only
        rw [hmrows]
        exact filter_rewritten (fun m => hoth m.generationId) hmadd
      · dsimp only
        rw [hcrows]
        exact filter_rewritten (fun r => hoth r.compactGenerationId) hcadd
      · intro artifact key
        exact count_rewritten _ (hoth id (decide_eq_true rfl)) hoadd
      · exact (Table.get?_put _ _ _).trans (if_neg hne)
    · intro x
      change x ∈ db.generations.rows.filter (fun y => y.generationId ≠ g.generationId) ++ [g] ↔ _
      rw [mem_append, mem_filter, mem_singleton, decide_eq_true_eq, or_comm]
    · dsimp only
      rw [hmrows]
      exact filter_added hmadd
    · dsimp only
      rw [hcrows]
      exact filter_added hcadd
    · intro artifact key
      exact count_added _ (decide_eq_true rfl)
  · cases h

end DyData.Projection
