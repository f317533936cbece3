import DyData.RuleVersions

/-!
The life of the allocation rules: what every operation keeps, and that a published global rule leaves
no lead without a match.
-/

namespace DyData.RuleVersions

open Relational List
open Except (of_bind of_ofOption_bind ofOption_eq_ok_iff)

variable {env : Platform} {db db' : Db} {version : Version} {id : String} {stores : List String}
  {identity ruleId : String}

structure Valid (db : Db) : Prop where
  published : ∀ v ∈ db.versions.rows, ∀ w ∈ db.versions.rows, v.ruleId = w.ruleId →
    v.status = .published → w.status = .published → v = w
  members : ∀ m ∈ db.members, ∀ n ∈ db.members, m.storeId = n.storeId →
    m.storeGroupId = n.storeGroupId

/-- The global rule has a published version. -/
def Db.HasGlobal (db : Db) : Prop :=
  ∃ r ∈ db.rules.rows, r.isGlobal = true ∧
    ∃ v ∈ db.versions.rows, v.ruleId = r.ruleId ∧ v.status = .published

/-- What every operation keeps. -/
structure Kept (db db' : Db) : Prop where
  valid : Valid db → Valid db'
  frozen : ∀ v ∈ db.versions.rows, v.status ≠ .draft → ∃ v' ∈ db'.versions.rows,
    v'.ruleVersionId = v.ruleVersionId ∧ v'.status ≠ .draft ∧ v'.content = v.content
  bindings : ∀ b ∈ db.bindings.rows, b ∈ db'.bindings.rows
  hasGlobal : db.HasGlobal → db'.HasGlobal

theorem Kept.refl (db : Db) : Kept db db :=
  ⟨id, fun v hv hstat => ⟨v, hv, rfl, hstat, rfl⟩, fun _ hb => hb, id⟩

theorem Kept.trans {db'' : Db} (h : Kept db db') (h' : Kept db' db'') : Kept db db'' where
  valid := fun hval => h'.valid (h.valid hval)
  frozen := by
    intro v hv hstat
    obtain ⟨v', hv', hid', hstat', hcont'⟩ := h.frozen v hv hstat
    obtain ⟨v'', hv'', hid'', hstat'', hcont''⟩ := h'.frozen v' hv' hstat'
    exact ⟨v'', hv'', hid''.trans hid', hstat'', hcont''.trans hcont'⟩
  bindings := fun b hb => h'.bindings b (h.bindings b hb)
  hasGlobal := fun hglob => h'.hasGlobal (h.hasGlobal hglob)

/-! ### Store groups -/

theorem available_ok {storeIds : List String} {excluding : Option String} {u : Unit}
    (h : db.validateStoreGroupMembersAvailable storeIds excluding = .ok u) :
    ∀ m ∈ db.members, m.storeId ∈ storeIds → some m.storeGroupId = excluding := by
  intro m hm hid
  rw [Db.validateStoreGroupMembersAvailable, Except.ensure_eq_ok_iff, List.isEmpty_iff,
    filter_eq_nil_iff] at h
  by_contra hoth
  exact h _ hid (any_eq_true.mpr ⟨m, hm, by simpa using hoth⟩)

/-- A group whose stores nobody else has joins the members that are kept. -/
theorem kept_members {kept : List Member} {group : String} {storeIds : List String}
    (hvers : db'.versions = db.versions) (hrules : db'.rules = db.rules)
    (hbs : db'.bindings = db.bindings)
    (hmemb : db'.members = kept ++ storeIds.map (Member.mk group))
    (hkept : ∀ m ∈ kept, m ∈ db.members) (hfree : ∀ m ∈ kept, m.storeId ∉ storeIds) :
    Kept db db' := by
  refine ⟨fun hval => ⟨by rw [hvers]; exact hval.published, ?_⟩, ?_, ?_, ?_⟩
  · have hnew : ∀ m ∈ storeIds.map (Member.mk group),
        m.storeGroupId = group ∧ m.storeId ∈ storeIds := by
      intro m hm
      obtain ⟨_, hst, rfl⟩ := mem_map.mp hm
      exact ⟨rfl, hst⟩
    rw [hmemb]
    intro m hm n hn hst
    rcases mem_append.mp hm with hm | hm <;> rcases mem_append.mp hn with hn | hn
    · exact hval.members m (hkept m hm) n (hkept n hn) hst
    · exact absurd (hst ▸ (hnew n hn).2) (hfree m hm)
    · exact absurd (hst ▸ (hnew m hm).2) (hfree n hn)
    · exact (hnew m hm).1.trans (hnew n hn).1.symm
  · rw [hvers]
    exact (Kept.refl db).frozen
  · rw [hbs]
    exact fun _ hb => hb
  · unfold Db.HasGlobal
    rw [hrules, hvers]
    exact id

theorem createStoreGroup_ok {name : String}
    {memberStoreIds : List String}
    (h : db.createStoreGroup stores identity name memberStoreIds = .ok db') : Kept db db' := by
  iterate 2 obtain ⟨_, -, h⟩ := of_bind h
  obtain ⟨_, _, h⟩ := of_bind h
  obtain ⟨_, _, h⟩ := of_bind h
  obtain ⟨_, havl, h⟩ := of_bind h
  obtain ⟨_, _, h⟩ := of_bind h
  cases h
  refine kept_members rfl rfl rfl rfl (fun _ hm => hm) fun m hm hid => ?_
  cases available_ok havl m hm hid

theorem replaceStoreGroupMembers_ok {memberStoreIds : List String}
    (h : db.replaceStoreGroupMembers stores id memberStoreIds = .ok db') : Kept db db' := by
  obtain ⟨_, _, h⟩ := of_bind h
  obtain ⟨_, _, h⟩ := of_bind h
  obtain ⟨_, _, h⟩ := of_bind h
  obtain ⟨_, havl, h⟩ := of_bind h
  cases h
  refine kept_members rfl rfl rfl rfl (fun m hm => (mem_filter.mp hm).1) fun m hm hid => ?_
  obtain ⟨hm, hoth⟩ := mem_filter.mp hm
  have hgrp := Option.some.inj (available_ok havl m hm hid)
  exact of_decide_eq_true hoth hgrp

/-! ### Versions -/

/-- A step on versions that publishes nothing, and retires nothing of the global rule. -/
theorem kept_versions (hrules : ∀ r ∈ db.rules.rows, r ∈ db'.rules.rows)
    (hmemb : db'.members = db.members) (hbs : ∀ b ∈ db.bindings.rows, b ∈ db'.bindings.rows)
    (hback : ∀ v ∈ db'.versions.rows, v.status = .published → v ∈ db.versions.rows)
    (hfroz : ∀ v ∈ db.versions.rows, v.status ≠ .draft → ∃ v' ∈ db'.versions.rows,
      v'.ruleVersionId = v.ruleVersionId ∧ v'.status ≠ .draft ∧ v'.content = v.content)
    (hglob : ∀ r ∈ db.rules.rows, r.isGlobal = true → ∀ v ∈ db.versions.rows,
      v.ruleId = r.ruleId → v.status = .published → v ∈ db'.versions.rows) : Kept db db' where
  valid := by
    intro hval
    refine ⟨?_, by rw [hmemb]; exact hval.members⟩
    intro v hv w hw hrule hv' hw'
    exact hval.published v (hback v hv hv') w (hback w hw hw') hrule hv' hw'
  frozen := hfroz
  bindings := hbs
  hasGlobal := by
    rintro ⟨r, hr, hsc, v, hv, hrule, hstat⟩
    exact ⟨r, hrules r hr, hsc, v, hglob r hr hsc v hv hrule hstat, hrule, hstat⟩

/-- A step that leaves the versions alone that are no drafts. -/
theorem kept_drafts (hrules : ∀ r ∈ db.rules.rows, r ∈ db'.rules.rows)
    (hmemb : db'.members = db.members) (hbs : ∀ b ∈ db.bindings.rows, b ∈ db'.bindings.rows)
    (hback : ∀ v ∈ db'.versions.rows, v.status = .published → v ∈ db.versions.rows)
    (hstay : ∀ v ∈ db.versions.rows, v.status ≠ .draft → v ∈ db'.versions.rows) : Kept db db' := by
  refine kept_versions hrules hmemb hbs hback
    (fun v hv hstat => ⟨v, hstay v hv hstat, rfl, hstat, rfl⟩) fun _ _ _ v hv _ hstat => ?_
  exact hstay v hv (by rw [hstat]; decide)

theorem createRule_ok {name scopeType : String}
    {city group anchor : Option String}
    (h : db.createRule stores identity name scopeType city group anchor = .ok db') :
    Kept db db' := by
  iterate 7 obtain ⟨_, -, h⟩ := of_bind h
  obtain ⟨_, hins, h⟩ := of_ofOption_bind h
  cases h
  refine kept_drafts (fun r hr => ?_) rfl (fun _ hb => hb) (fun _ hv _ => hv) fun _ hv _ => hv
  rw [Table.rows_insert? hins]
  exact mem_append_left _ hr

theorem createRuleVersion_ok {content : Content}
    (h : db.createRuleVersion env identity ruleId content = .ok db') : Kept db db' := by
  obtain ⟨_, _, h⟩ := of_bind h
  obtain ⟨_, hins, h⟩ := of_ofOption_bind h
  cases h
  have hrows := Table.rows_insert? hins
  refine kept_drafts (fun _ hr => hr) rfl (fun _ hb => hb) (fun v hv hstat => ?_) fun v hv _ => ?_
  · -- the new version is a draft
    rcases mem_append.mp (hrows ▸ hv) with hv | hv
    · exact hv
    · obtain rfl := mem_singleton.mp hv
      cases hstat
  · rw [hrows]
    exact mem_append_left _ hv

theorem draft_ok {α : Type} {f : Version → Except RuleError α} {a : α}
    (h : (db.getRuleVersion id >>= fun v => requireDraft v >>= fun _ => f v) = .ok a) :
    ∃ version ∈ db.versions.rows, version.status = .draft ∧ f version = .ok a := by
  obtain ⟨version, hget, h⟩ := of_bind h
  obtain ⟨_, hdraft, h⟩ := of_bind h
  rw [Db.getRuleVersion, ofOption_eq_ok_iff] at hget
  rw [requireDraft, Except.ensure_eq_ok_iff, decide_eq_true_eq] at hdraft
  exact ⟨version, db.versions.mem_of_get? hget, hdraft, h⟩

/-- A draft shares its identifier with drafts only. -/
theorem ne_of_draft (hver : version ∈ db.versions.rows) (hdraft : version.status = .draft)
    {v : Version} (hv : v ∈ db.versions.rows) (hstat : v.status ≠ .draft) :
    v.ruleVersionId ≠ version.ruleVersionId := by
  intro hid
  rw [db.versions.eq_of_key_eq hv hver hid] at hstat
  exact hstat hdraft

theorem mem_setVersion {f : Version → Version} {hf : ∀ v, (f v).ruleVersionId = v.ruleVersionId}
    {v : Version} : v ∈ (db.setVersion id f hf).versions.rows ↔
      ∃ w ∈ db.versions.rows, (if w.ruleVersionId = id then f w else w) = v := by
  unfold Db.setVersion
  simp only [Table.mem_update, decide_eq_true_eq]

theorem updateRuleVersion_ok {changes : List ContentChange}
    (h : db.updateRuleVersion env id changes = .ok db') : Kept db db' := by
  obtain ⟨version, hver, hdraft, h⟩ := draft_ok h
  obtain ⟨_, _, h⟩ := of_bind h
  cases h
  refine kept_drafts (fun _ hr => hr) rfl (fun _ hb => hb) (fun v hv hstat => ?_)
    fun v hv hstat => ?_
  · obtain ⟨_, hw, rfl⟩ := mem_setVersion.mp hv
    split at hstat
    · -- the draft is no published version
      rename_i hid
      have hsame := db.versions.eq_of_key_eq hw hver hid
      rw [hsame, hdraft] at hstat
      cases hstat
    · rename_i hid
      rw [if_neg hid]
      exact hw
  · exact mem_setVersion.mpr ⟨v, hv, if_neg (ne_of_draft hver hdraft hv hstat)⟩

theorem deleteRuleVersion_ok (h : db.deleteRuleVersion id = .ok db') : Kept db db' := by
  obtain ⟨_, hver, hdraft, h⟩ := draft_ok h
  cases h
  refine kept_drafts (fun _ hr => hr) rfl (fun _ hb => hb) (fun v hv _ => (mem_filter.mp hv).1)
    fun v hv hstat => mem_filter.mpr ⟨hv, ?_⟩
  simpa using ne_of_draft hver hdraft hv hstat

theorem getRule_ok {rule : Rule} (h : db.getRule ruleId = .ok rule) :
    rule ∈ db.rules.rows ∧ rule.ruleId = ruleId := by
  rw [Db.getRule, ofOption_eq_ok_iff] at h
  exact ⟨db.rules.mem_of_get? h, db.rules.key_of_get? h⟩

theorem retireRuleVersion_ok (h : db.retireRuleVersion id = .ok db') : Kept db db' := by
  obtain ⟨version, hget, h⟩ := of_bind h
  obtain ⟨_, _, h⟩ := of_bind h
  obtain ⟨rule, hrule, h⟩ := of_bind h
  obtain ⟨hsc, h⟩ := Except.of_ensure_bind h
  cases h
  rw [Db.getRuleVersion, ofOption_eq_ok_iff] at hget
  rw [Bool.not_eq_true'] at hsc
  obtain ⟨hrule, hruleId⟩ := getRule_ok hrule
  refine kept_versions (fun _ hr => hr) rfl (fun _ hb => hb) (fun v hv hstat => ?_)
    (fun v hv hstat => ?_) fun r hr hglob v hv hof _ => ?_
  · obtain ⟨_, hw, rfl⟩ := mem_setVersion.mp hv
    split at hstat
    · cases hstat
    · rename_i hid
      rw [if_neg hid]
      exact hw
  · refine ⟨_, mem_setVersion.mpr ⟨v, hv, rfl⟩, ?_⟩
    split
    · exact ⟨rfl, by simp [Version.retire], rfl⟩
    · exact ⟨rfl, hstat, rfl⟩
  · -- a version of the global rule is not the retired one
    refine mem_setVersion.mpr ⟨v, hv, if_neg ?_⟩
    intro hid
    have hsame := db.versions.eq_of_key_eq hv (db.versions.mem_of_get? hget) hid
    have hrules := db.rules.eq_of_key_eq hr hrule (by rw [← hof, hsame, hruleId])
    rw [hrules, hsc] at hglob
    cases hglob

/-- The versions after a publication: the new one, and the others with the published ones of its
rule retired. -/
theorem mem_published {now : Timestamp} (hver : version ∈ db.versions.rows)
    (hdraft : version.status = .draft) {v : Version} :
    v ∈ ((db.retirePublished ruleId).setVersion version.ruleVersionId (Version.publish now)
        (Version.publish_id now)).versions.rows ↔
      v = version.publish now ∨ ∃ w ∈ db.versions.rows, w.ruleVersionId ≠ version.ruleVersionId ∧
        v = if w.ruleId = ruleId ∧ w.status = .published then w.retire else w := by
  have hret : ∀ u, u ∈ (db.retirePublished ruleId).versions.rows ↔ ∃ w ∈ db.versions.rows,
      (if w.ruleId = ruleId ∧ w.status = .published then w.retire else w) = u := by
    intro u
    unfold Db.retirePublished
    simp only [Table.mem_update, bool_to_prop]
  have hkey : ∀ w : Version, (if w.ruleId = ruleId ∧ w.status = .published then w.retire
      else w).ruleVersionId = w.ruleVersionId := by
    intro w
    split <;> rfl
  have hkept : ¬ (version.ruleId = ruleId ∧ version.status = .published) := by
    rw [hdraft]
    simp
  simp only [mem_setVersion, hret, exists_exists_and_eq_and, hkey]
  constructor
  · rintro ⟨w, hw, rfl⟩
    by_cases hid : w.ruleVersionId = version.ruleVersionId
    · obtain rfl := db.versions.eq_of_key_eq hw hver hid
      rw [if_pos rfl, if_neg hkept]
      exact .inl rfl
    · rw [if_neg hid]
      exact .inr ⟨w, hw, hid, rfl⟩
  · rintro (rfl | ⟨w, hw, hid, rfl⟩)
    · exact ⟨version, hver, by rw [if_pos rfl, if_neg hkept]⟩
    · exact ⟨w, hw, if_neg hid⟩

theorem publishRuleVersion_ok {now : Timestamp}
    (h : db.publishRuleVersion env id now = .ok db') : Kept db db' := by
  obtain ⟨version, hver, hdraft, h⟩ := draft_ok h
  obtain ⟨rule, hrule, h⟩ := of_bind h
  obtain ⟨_, _, h⟩ := of_bind h
  cases h
  have hmem := @mem_published db version rule.ruleId now hver hdraft
  obtain ⟨-, hruleId⟩ := getRule_ok hrule
  -- a published row is the new version or an old one of another rule
  have hcases : ∀ v, v.status = .published → (v = version.publish now ∨
      ∃ w ∈ db.versions.rows, w.ruleVersionId ≠ version.ruleVersionId ∧
        v = if w.ruleId = rule.ruleId ∧ w.status = .published then w.retire else w) →
      v = version.publish now ∨ v ∈ db.versions.rows ∧ v.ruleId ≠ rule.ruleId := by
    rintro v hstat (rfl | ⟨w, hw, _, rfl⟩)
    · exact .inl rfl
    · split at hstat
      · cases hstat
      · rename_i hnot
        rw [if_neg hnot]
        exact .inr ⟨hw, fun hsame => hnot ⟨hsame, hstat⟩⟩
  refine ⟨fun hval => ⟨fun v hv w hw hsame hv' hw' => ?_, hval.members⟩, fun v hv hstat => ?_,
    fun _ hb => hb, ?_⟩
  · have hnew : (version.publish now).ruleId = rule.ruleId := hruleId.symm
    rcases hcases v hv' (hmem.mp hv) with rfl | ⟨hv, hoth⟩ <;>
      rcases hcases w hw' (hmem.mp hw) with rfl | ⟨hw, hoth'⟩
    · rfl
    · exact absurd (hsame.symm.trans hnew) hoth'
    · exact absurd (hsame.trans hnew) hoth
    · exact hval.published v hv w hw hsame hv' hw'
  · refine ⟨_, hmem.mpr (.inr ⟨v, hv, ne_of_draft hver hdraft hv hstat, rfl⟩), ?_⟩
    split
    · exact ⟨rfl, by simp [Version.retire], rfl⟩
    · exact ⟨rfl, hstat, rfl⟩
  · rintro ⟨r, hr, hsc, v, hv, hof, hstat⟩
    by_cases hsame : r.ruleId = rule.ruleId
    · exact ⟨r, hr, hsc, _, hmem.mpr (.inl rfl), hruleId.symm.trans hsame.symm, rfl⟩
    · refine ⟨r, hr, hsc, v, hmem.mpr (.inr ⟨v, hv, ?_, ?_⟩), hof, hstat⟩
      · exact ne_of_draft hver hdraft hv (by rw [hstat]; decide)
      · exact (if_neg fun hnot => hsame (hof.symm.trans hnot.1)).symm

theorem bindLeadRuleVersion_ok {leadKey : String} {store city : Option String}
    (h : db.bindLeadRuleVersion leadKey store city = .ok db') : Kept db db' := by
  obtain ⟨_, _, h⟩ := of_bind h
  split at h
  · cases h
    exact .refl db
  · obtain ⟨_, _, h⟩ := of_bind h
    obtain ⟨_, hins, h⟩ := of_ofOption_bind h
    cases h
    refine kept_drafts (fun _ hr => hr) rfl (fun b hb => ?_) (fun _ hv _ => hv) fun _ hv _ => hv
    rw [Table.rows_insert? hins]
    exact mem_append_left _ hb

/-! ### Runs -/

theorem kept_act (env : Platform) (db : Db) (action : Action) : Kept db (db.act env action) := by
  unfold Db.act
  cases htry : db.tryAct env action with
  | error _ => exact .refl db
  | ok db' =>
    cases action with
    | createStoreGroup => exact createStoreGroup_ok htry
    | replaceStoreGroupMembers => exact replaceStoreGroupMembers_ok htry
    | createRule => exact createRule_ok htry
    | createRuleVersion => exact createRuleVersion_ok htry
    | updateRuleVersion => exact updateRuleVersion_ok htry
    | deleteRuleVersion => exact deleteRuleVersion_ok htry
    | publishRuleVersion => exact publishRuleVersion_ok htry
    | retireRuleVersion => exact retireRuleVersion_ok htry
    | bindLead => exact bindLeadRuleVersion_ok htry

theorem kept_run (env : Platform) (actions : List Action) :
    ∀ db : Db, Kept db (db.run env actions) := by
  induction actions with
  | nil => exact Kept.refl
  | cons action actions ih => exact fun db => (kept_act env db action).trans (ih _)

theorem mem_publishedRules {condition : Rule → Bool} {found : Rule × Version} :
    found ∈ db.publishedRules condition ↔ found.1 ∈ db.rules.rows ∧ condition found.1 = true ∧
      found.2 ∈ db.versions.rows ∧ found.2.ruleId = found.1.ruleId ∧
      found.2.status = .published := by
  obtain ⟨r, v⟩ := found
  simp only [Db.publishedRules, Db.versionsOf, mem_flatMap, mem_filter, mem_map,
    decide_eq_true_eq, Prod.mk.injEq]
  constructor
  · rintro ⟨_, ⟨hr, hcond⟩, _, ⟨⟨hv, hrule⟩, hstat⟩, rfl, rfl⟩
    exact ⟨hr, hcond, hv, hrule, hstat⟩
  · rintro ⟨hr, hcond, hv, hrule, hstat⟩
    exact ⟨r, ⟨hr, hcond⟩, v, ⟨⟨hv, hrule⟩, hstat⟩, rfl, rfl⟩

theorem hasGlobal_iff : db.HasGlobal ↔ db.publishedRules Rule.isGlobal ≠ [] := by
  rw [ne_eq, eq_nil_iff_forall_not_mem, not_forall_not]
  simp only [mem_publishedRules, Prod.exists, Db.HasGlobal]
  constructor
  · rintro ⟨r, hr, hsc, v, hv, hrule, hstat⟩
    exact ⟨r, v, hr, hsc, hv, hrule, hstat⟩
  · rintro ⟨r, v, hr, hsc, hv, hrule, hstat⟩
    exact ⟨r, hr, hsc, v, hv, hrule, hstat⟩

/-- A published global rule is the last resort of every resolution. -/
theorem isSome_resolve (h : db.HasGlobal) (store city : Option String) :
    (db.resolvePublishedRuleVersion store city).isSome = true := by
  have hglob : (db.publishedMatch Rule.isGlobal).isSome = true := by
    obtain ⟨found, -, heq, -⟩ :=
      @LatestRegister.writeAll_none _ _ _ publicationRank _ (hasGlobal_iff.mp h)
    exact Option.isSome_iff_exists.mpr ⟨found, heq⟩
  unfold Db.resolvePublishedRuleVersion
  simp only [Option.isSome_or, hglob, Bool.or_true]

/-- Over every run: a rule has one published version at most and a store one group; whatever comes
later, a version that is no draft keeps its content, a lead keeps its binding, and once the global
rule is published every store and city finds a match. -/
theorem rule_versions_live_consistently (env : Platform) (actions : List Action) :
    (∀ v ∈ (Db.run env {} actions).versions.rows, ∀ w ∈ (Db.run env {} actions).versions.rows,
      v.ruleId = w.ruleId → v.status = .published → w.status = .published → v = w) ∧
    (∀ m ∈ (Db.run env {} actions).members, ∀ n ∈ (Db.run env {} actions).members,
      m.storeId = n.storeId → m.storeGroupId = n.storeGroupId) ∧
    ∀ later : List Action,
      (∀ id v, (Db.run env {} actions).versions.get? id = some v → v.status ≠ .draft →
        ∃ v', (Db.run env {} (actions ++ later)).versions.get? id = some v' ∧
          v'.status ≠ .draft ∧ v'.content = v.content) ∧
      (∀ leadKey b, (Db.run env {} actions).bindings.get? leadKey = some b →
        (Db.run env {} (actions ++ later)).bindings.get? leadKey = some b) ∧
      ((Db.run env {} actions).publishedRules Rule.isGlobal ≠ [] → ∀ store city,
        ((Db.run env {} (actions ++ later)).resolvePublishedRuleVersion store city).isSome =
          true) := by
  have hempty : Valid ({} : Db) := ⟨fun _ hv => (by cases hv), fun _ hm => (by cases hm)⟩
  have hvalid := (kept_run env actions {}).valid hempty
  refine ⟨hvalid.published, hvalid.members, fun later => ?_⟩
  have hkept := kept_run env later (Db.run env {} actions)
  rw [show Db.run env {} (actions ++ later) = (Db.run env {} actions).run env later from
    foldl_append]
  refine ⟨fun id v hv hstatus => ?_, fun leadKey b hb => ?_, fun hglobal => ?_⟩
  · obtain ⟨hmem, rfl⟩ := (Table.get?_eq_some_iff _).mp hv
    obtain ⟨v', hv', hid, hstatus', hcontent⟩ := hkept.frozen v hmem hstatus
    exact ⟨v', (Table.get?_eq_some_iff _).mpr ⟨hv', hid⟩, hstatus', hcontent⟩
  · obtain ⟨hmem, hkey⟩ := (Table.get?_eq_some_iff _).mp hb
    exact (Table.get?_eq_some_iff _).mpr ⟨hkept.bindings b hmem, hkey⟩
  · exact isSome_resolve (hkept.hasGlobal (hasGlobal_iff.mpr hglobal))

/-- A global rule with the three strategies is published, and any lead finds it. -/
example : ((Db.run ⟨fun weight => weight, fun _ => none⟩ {} [
    .createRule [] "rule" "default" "global" none none none,
    .createRuleVersion "version" "rule" ⟨some false, none, some 7, some 1, some 0, some 30, some 1,
      [⟨"sales_store_priority", true, 1, [("max_distance_km", .num 30)]⟩,
        ⟨"nearby_city_optimization", true, 2, [("max_distance_km", .num 50)]⟩,
        ⟨"city_fallback", true, 3, []⟩]⟩,
    .publishRuleVersion "version" 0]).resolvePublishedRuleVersion (some "store") none).isSome =
      true := by
  decide +kernel

end DyData.RuleVersions
