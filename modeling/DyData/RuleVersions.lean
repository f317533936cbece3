import DyData.ExceptBind
import DyData.JsonValue
import DyData.LatestRegister
import DyData.PythonText
import DyData.RelationalTable

/-!
The allocation rules of leads: store groups, rules with their versions, and the version a lead is
bound to.
-/

namespace DyData.RuleVersions

open Relational
open Except (ofOption ensure)

/-- Microseconds. -/
abbrev Timestamp := Int

inductive RuleError
  | notFound (message : String)
  | validation (message : String)
  | immutable (message : String)
  | resolution (message : String)
  | integrity (constraint : String)
deriving DecidableEq

/-- What the rules take from outside: `Numeric(6, 4)` and the decimals of texts. -/
structure Platform where
  numeric : ℚ → ℚ
  decimal : String → Option ℚ

/-! ### The tables -/

inductive ScopeType
  | global | city | storeGroup | anchorStore
deriving DecidableEq

def ScopeType.name : ScopeType → String
  | global => "global"
  | city => "city"
  | storeGroup => "store_group"
  | anchorStore => "anchor_store"

structure Scope where
  scopeType : ScopeType
  scopeKey : String
  scopeCityCode : Option String := none
  scopeStoreGroupId : Option String := none
  scopeAnchorStoreId : Option String := none
deriving DecidableEq

/-- `clue_allocation_rules`. -/
structure Rule extends Scope where
  ruleId : String
  ruleName : String
deriving DecidableEq

/-- `clue_allocation_strategy_configs`; both columns are not nullable. -/
structure StrategyConfig where
  strategyType : String
  enabled : Bool
  executionOrder : Int
  params : List (String × JsonValue) := []

structure Content where
  autoExpiryEnabled : Option Bool
  firstFollowUpSlaHours : Option Int
  protectionDays : Option Int
  conversionWeight : Option ℚ
  follow24hWeight : Option ℚ
  lookbackDays : Option Int
  minSamples : Option Int
  strategyConfigs : List StrategyConfig

inductive VersionStatus
  | draft | published | retired
deriving DecidableEq

/-- `clue_allocation_rule_versions`, with the strategies of the version. -/
structure Version where
  ruleVersionId : String
  ruleId : String
  versionNo : Nat
  status : VersionStatus := .draft
  content : Content
  publishedAt : Option Timestamp := none

structure StoreGroup where
  storeGroupId : String
  groupName : String
deriving DecidableEq

structure Member where
  storeGroupId : String
  storeId : String
deriving DecidableEq

/-- `clue_lead_rule_version_bindings`, with the rule and the version as they were found. -/
structure Binding where
  leadKey : String
  rule : Rule
  version : Version
  anchorStoreId : Option String
  anchorCityCode : Option String

/-- The uniqueness of group names, scopes, members and published versions is left to the
operations. -/
structure Db where
  groups : Table StoreGroup.storeGroupId := .empty
  members : List Member := []
  rules : Table Rule.ruleId := .empty
  versions : Table Version.ruleVersionId := .empty
  bindings : Table Binding.leadKey := .empty

def optionalText (value : Option String) : Option String :=
  (value.map PythonText.strip).filter (· ≠ "")

def requiredText (name value : String) : Except RuleError String :=
  ofOption (optionalText (some value)) (.validation (name ++ " is required"))

/-! ### Store groups -/

def normalizedStoreIds (memberStoreIds : List String) : Except RuleError (List String) := do
  let normalized ← memberStoreIds.mapM (requiredText "member_store_id")
  ensure normalized.Nodup (.validation "store group members must be unique")
  return normalized.insertionSort (· ≤ ·)

/-- `_validate_store_ids`, over the stores that are known. -/
def validateStoreIds (stores storeIds : List String) : Except RuleError Unit :=
  let missing := storeIds.filter fun storeId => !stores.contains storeId
  ensure missing.isEmpty
    (.validation ("unknown store ids: " ++ String.intercalate ", " missing))

def Db.validateStoreGroupMembersAvailable (db : Db) (storeIds : List String)
    (excluding : Option String) : Except RuleError Unit :=
  let occupied := storeIds.filter fun storeId => db.members.any fun m =>
    m.storeId = storeId && some m.storeGroupId ≠ excluding
  ensure occupied.isEmpty (.validation
    ("stores can belong to only one allocation store group: " ++ String.intercalate ", " occupied))

def Db.createStoreGroup (db : Db) (stores : List String) (identity name : String)
    (memberStoreIds : List String) : Except RuleError Db := do
  let groupName ← requiredText "name" name
  ensure (!db.groups.rows.any fun g => g.groupName = groupName)
    (.validation "store group name already exists")
  let memberIds ← normalizedStoreIds memberStoreIds
  validateStoreIds stores memberIds
  db.validateStoreGroupMembersAvailable memberIds none
  let groups ← ofOption (db.groups.insert? ⟨identity, groupName⟩)
    (.integrity "clue_store_groups_pkey")
  return { db with groups, members := db.members ++ memberIds.map (Member.mk identity) }

def Db.getStoreGroup (db : Db) (storeGroupId : String) : Except RuleError StoreGroup :=
  ofOption (db.groups.get? storeGroupId) (.notFound "clue store group was not found")

def Db.replaceStoreGroupMembers (db : Db) (stores : List String) (storeGroupId : String)
    (memberStoreIds : List String) : Except RuleError Db := do
  let group ← db.getStoreGroup storeGroupId
  let memberIds ← normalizedStoreIds memberStoreIds
  validateStoreIds stores memberIds
  db.validateStoreGroupMembersAvailable memberIds (some group.storeGroupId)
  return { db with
    members := db.members.filter (fun m => m.storeGroupId ≠ group.storeGroupId) ++
      memberIds.map (Member.mk group.storeGroupId) }

/-! ### Rules -/

def canonicalCityCode (value : Option String) : Option String :=
  (optionalText value).map fun code =>
    if code.toList.getLast? = some '市' then String.ofList code.toList.dropLast else code

def scopeTypeOf (name : String) : Except RuleError ScopeType :=
  ofOption ([ScopeType.global, .city, .storeGroup, .anchorStore].find? fun t => t.name = name)
    (.validation "scope_type must be one of: anchor_store, city, global, store_group")

/-- The target of a scope, when no other one is given. -/
def onlyTarget (scopeType : ScopeType) (target : Option String) (others : List (Option String)) :
    Except RuleError String := do
  let selected ← ofOption (target.filter (· ≠ ""))
    (.validation (scopeType.name ++ " scope requires its target identifier"))
  ensure (!others.any fun other => other.any (· ≠ ""))
    (.validation "a logical rule scope can only declare one target")
  return selected

def normalizeScope (scopeType : ScopeType) (cityCode storeGroupId anchorStoreId : Option String) :
    Except RuleError Scope := do
  let city := canonicalCityCode cityCode
  let group := optionalText storeGroupId
  let anchor := optionalText anchorStoreId
  match scopeType with
  | .global =>
    ensure (!List.any [city, group, anchor] fun target => target.any (· ≠ ""))
      (.validation "global scope cannot include a city, store group, or anchor store")
    return { scopeType, scopeKey := "global" }
  | .city =>
    let target ← onlyTarget scopeType city [group, anchor]
    return { scopeType, scopeKey := "city:" ++ target, scopeCityCode := city }
  | .storeGroup =>
    let target ← onlyTarget scopeType group [city, anchor]
    return { scopeType, scopeKey := "store_group:" ++ target, scopeStoreGroupId := group }
  | .anchorStore =>
    let target ← onlyTarget scopeType anchor [city, group]
    return { scopeType, scopeKey := "anchor_store:" ++ target, scopeAnchorStoreId := anchor }

def Db.createRule (db : Db) (stores : List String) (identity name scopeType : String)
    (cityCode storeGroupId anchorStoreId : Option String) : Except RuleError Db := do
  let scopeType ← scopeTypeOf (← requiredText "scope_type" scopeType)
  let scope ← normalizeScope scopeType cityCode storeGroupId anchorStoreId
  ensure (!db.rules.rows.any fun r => r.scopeKey = scope.scopeKey)
    (.validation "a logical rule already exists for this scope")
  scope.scopeStoreGroupId.toList.forM fun id => (db.getStoreGroup id).map fun _ => ()
  ensure (scope.scopeAnchorStoreId.all stores.contains)
    (.validation "anchor_store_id does not reference a known store")
  let ruleName ← requiredText "name" name
  let rules ← ofOption (db.rules.insert? { scope with ruleId := identity, ruleName })
    (.integrity "clue_allocation_rules_pkey")
  return { db with rules }

/-! ### Versions -/

section

variable (env : Platform)

/-- The weights as their columns hold them. -/
def Content.stored (c : Content) : Content :=
  { c with
    conversionWeight := c.conversionWeight.map env.numeric
    follow24hWeight := c.follow24hWeight.map env.numeric }

def Db.getRule (db : Db) (ruleId : String) : Except RuleError Rule :=
  ofOption (db.rules.get? ruleId) (.notFound "clue allocation rule was not found")

def Db.getRuleVersion (db : Db) (id : String) : Except RuleError Version :=
  ofOption (db.versions.get? id) (.notFound "clue allocation rule version was not found")

def Db.versionsOf (db : Db) (ruleId : String) : List Version :=
  db.versions.rows.filter fun v => v.ruleId = ruleId

def Db.createRuleVersion (db : Db) (identity ruleId : String) (content : Content) :
    Except RuleError Db := do
  let rule ← db.getRule ruleId
  let currentMax := ((db.versionsOf rule.ruleId).map Version.versionNo).foldl max 0
  let versions ← ofOption (db.versions.insert? {
      ruleVersionId := identity
      ruleId := rule.ruleId
      versionNo := currentMax + 1
      content := content.stored env })
    (.integrity "clue_allocation_rule_versions_pkey")
  return { db with versions }

def requireDraft (v : Version) : Except RuleError Unit :=
  ensure (v.status = .draft) (.immutable "only draft versions can be changed or deleted")

/-- A keyword of `update_rule_version`. -/
inductive ContentChange
  | autoExpiryEnabled (value : Option Bool)
  | firstFollowUpSlaHours (value : Option Int)
  | protectionDays (value : Option Int)
  | conversionWeight (value : Option ℚ)
  | follow24hWeight (value : Option ℚ)
  | lookbackDays (value : Option Int)
  | minSamples (value : Option Int)
  | strategyConfigs (value : List StrategyConfig)
  | unknown (name : String)

def ContentChange.apply (c : Content) : ContentChange → Content
  | autoExpiryEnabled value => { c with autoExpiryEnabled := value }
  | firstFollowUpSlaHours value => { c with firstFollowUpSlaHours := value }
  | protectionDays value => { c with protectionDays := value }
  | conversionWeight value => { c with conversionWeight := value }
  | follow24hWeight value => { c with follow24hWeight := value }
  | lookbackDays value => { c with lookbackDays := value }
  | minSamples value => { c with minSamples := value }
  | strategyConfigs value => { c with strategyConfigs := value }
  | unknown _ => c

def ContentChange.unknown? : ContentChange → Option String
  | unknown name => some name
  | _ => none

/-- The attributes of one version are set. -/
def Db.setVersion (db : Db) (id : String) (f : Version → Version)
    (hf : ∀ v, (f v).ruleVersionId = v.ruleVersionId) : Db :=
  { db with versions := db.versions.update (fun v => v.ruleVersionId = id) f hf }

def Db.updateRuleVersion (db : Db) (id : String) (changes : List ContentChange) :
    Except RuleError Db := do
  let version ← db.getRuleVersion id
  requireDraft version
  let unknown := (changes.filterMap ContentChange.unknown?).insertionSort (· ≤ ·)
  ensure unknown.isEmpty
    (.validation ("unsupported rule version fields: " ++ String.intercalate ", " unknown))
  return db.setVersion version.ruleVersionId
    (fun v => { v with content := (changes.foldl ContentChange.apply v.content).stored env })
    fun _ => rfl

def Db.deleteRuleVersion (db : Db) (id : String) : Except RuleError Db := do
  let version ← db.getRuleVersion id
  requireDraft version
  return { db with versions := db.versions.delete fun v => v.ruleVersionId = version.ruleVersionId }

/-! ### Publishing -/

def validateIntegerRange (value : Option Int) (name : String) (maximum : Int) :
    Except RuleError Unit :=
  ensure (value.any fun n => 1 ≤ n && n ≤ maximum)
    (.validation (name ++ " must be between 1 and " ++ toString maximum))

def validateWeight (value : Option ℚ) (name : String) : Except RuleError ℚ := do
  let weight ← ofOption value (.validation (name ++ " is required"))
  ensure (0 ≤ weight && weight ≤ 1) (.validation (name ++ " must be between 0 and 1"))
  return weight

def strategyTypes : List String :=
  ["sales_store_priority", "nearby_city_optimization", "city_fallback"]

def distanceStrategyTypes : List String := ["sales_store_priority", "nearby_city_optimization"]

/-- `Decimal(str(value))` of a value that is not a boolean. -/
def Platform.decimalOf : JsonValue → Option ℚ
  | .num n => some n
  | .str text => env.decimal text
  | _ => none

def StrategyConfig.param? (c : StrategyConfig) (name : String) : Option JsonValue :=
  (JsonValue.obj c.params).get? name

def validateDistance (c : StrategyConfig) : Except RuleError Unit := do
  let distance ← ofOption ((c.param? "max_distance_km").bind env.decimalOf)
    (.validation (c.strategyType ++ ".max_distance_km must be a positive number"))
  ensure (0 < distance && distance ≤ 1000)
    (.validation (c.strategyType ++ ".max_distance_km must be between 0 and 1000"))

/-- The strategies of a version in their order of execution. -/
def Content.ordered (c : Content) : List StrategyConfig :=
  c.strategyConfigs.insertionSort fun a b => a.executionOrder ≤ b.executionOrder

def isEnabled (configs : List StrategyConfig) (strategyType : String) : Bool :=
  configs.any fun c => c.strategyType = strategyType && c.enabled

/-- The checks of `selection_mode`. -/
def validateSelectionMode (configs : List StrategyConfig) : Except RuleError Unit := do
  let nearby := configs.find? fun c => c.strategyType = "nearby_city_optimization"
  let mode := ((nearby.bind fun c => c.param? "selection_mode").getD (.str "score")).asString?
  ensure (mode = some "score" || mode = some "douyin_source_store")
    (.validation "unsupported selection_mode")
  if mode = some "douyin_source_store" then
    ensure (isEnabled configs "nearby_city_optimization" &&
        !isEnabled configs "city_fallback")
      (.validation "source-store mode requires the source strategy and disables city fallback")
    ensure (configs.map StrategyConfig.strategyType = strategyTypes)
      (.validation "source-store mode requires sales priority before source store")

def validateStrategy (c : StrategyConfig) : Except RuleError Unit := do
  ensure (0 < c.executionOrder)
    (.validation "strategy execution_order must be a positive integer")
  if distanceStrategyTypes.contains c.strategyType || (c.param? "max_distance_km").isSome then
    validateDistance env c

def validateContent (c : Content) : Except RuleError Unit := do
  let autoExpiry ← ofOption c.autoExpiryEnabled
    (.validation "auto_expiry_enabled must be explicit")
  if autoExpiry || c.firstFollowUpSlaHours.isSome then
    validateIntegerRange c.firstFollowUpSlaHours "first_follow_up_sla_hours" 168
  validateIntegerRange c.protectionDays "protection_days" 365
  validateIntegerRange c.lookbackDays "lookback_days" 365
  validateIntegerRange c.minSamples "min_samples" 10000
  let conversion ← validateWeight c.conversionWeight "conversion_weight"
  let follow ← validateWeight c.follow24hWeight "follow_24h_weight"
  ensure (conversion + follow = 1) (.validation "score weights must sum to 1")
  let configs := c.ordered
  ensure (configs.length = 3 &&
      strategyTypes.all (configs.map StrategyConfig.strategyType).contains)
    (.validation "all three fixed strategy types must be present exactly once")
  validateSelectionMode configs
  configs.forM (validateStrategy env)
  ensure (configs.map StrategyConfig.executionOrder).Nodup
    (.validation "strategy execution_order values must be unique")

/-- The published versions of the rules under a condition, with their rules. -/
def Db.publishedRules (db : Db) (condition : Rule → Bool) : List (Rule × Version) :=
  (db.rules.rows.filter condition).flatMap fun r =>
    ((db.versionsOf r.ruleId).filter fun v => v.status = .published).map (Prod.mk r)

def Rule.isGlobal (r : Rule) : Bool := r.scopeType = .global

def Db.validateForPublish (db : Db) (rule : Rule) (version : Version) : Except RuleError Unit := do
  ensure (rule.isGlobal || !(db.publishedRules Rule.isGlobal).isEmpty)
    (.validation "a published global default rule is required before publishing this scope")
  validateContent env version.content

def Version.retire (v : Version) : Version := { v with status := .retired }

theorem Version.retire_id (v : Version) : v.retire.ruleVersionId = v.ruleVersionId := rfl

def Version.publish (now : Timestamp) (v : Version) : Version :=
  { v with status := .published, publishedAt := some now }

theorem Version.publish_id (now : Timestamp) (v : Version) :
    (v.publish now).ruleVersionId = v.ruleVersionId := rfl

/-- The previous versions of a rule give way to the next one. -/
def Db.retirePublished (db : Db) (ruleId : String) : Db :=
  { db with
    versions := db.versions.update (fun v => v.ruleId = ruleId && v.status = .published)
      Version.retire Version.retire_id }

def Db.publishRuleVersion (db : Db) (id : String) (now : Timestamp) : Except RuleError Db := do
  let version ← db.getRuleVersion id
  requireDraft version
  let rule ← db.getRule version.ruleId
  db.validateForPublish env rule version
  return (db.retirePublished rule.ruleId).setVersion version.ruleVersionId (Version.publish now)
    (Version.publish_id now)

def Db.retireRuleVersion (db : Db) (id : String) : Except RuleError Db := do
  let version ← db.getRuleVersion id
  ensure (version.status = .published)
    (.immutable "only published versions can be retired")
  let rule ← db.getRule version.ruleId
  ensure (!rule.isGlobal)
    (.immutable "the current global default can only be replaced by publishing a new version")
  return db.setVersion version.ruleVersionId Version.retire Version.retire_id

/-! ### Resolution and binding -/

/-- The version published last, then the first rule. -/
def publicationRank (found : Rule × Version) : Timestamp ×ₗ Stringᵒᵈ :=
  toLex (found.2.publishedAt.getD 0, OrderDual.toDual found.1.ruleId)

def Db.publishedMatch (db : Db) (condition : Rule → Bool) : Option (Rule × Version) :=
  LatestRegister.writeAll publicationRank none (db.publishedRules condition)

def Db.resolvePublishedRuleVersion (db : Db) (anchorStoreId anchorCityCode : Option String) :
    Option (Rule × Version) :=
  let store := anchorStoreId.filter (· ≠ "")
  let groups := (db.members.filter fun m => some m.storeId = store).map Member.storeGroupId
  (store.bind fun id => db.publishedMatch fun r =>
      r.scopeType = .anchorStore && r.scopeAnchorStoreId = some id).or <|
    (store.bind fun _ => db.publishedMatch fun r =>
      r.scopeType = .storeGroup && r.scopeStoreGroupId.any groups.contains).or <|
    ((anchorCityCode.filter (· ≠ "")).bind fun code => db.publishedMatch fun r =>
      r.scopeType = .city && r.scopeCityCode = some code).or
    (db.publishedMatch Rule.isGlobal)

def Db.bindLeadRuleVersion (db : Db) (leadKey : String)
    (anchorStoreId anchorCityCode : Option String) : Except RuleError Db := do
  let leadKey ← requiredText "lead_key" leadKey
  if (db.bindings.get? leadKey).isSome then return db
  else
    let (rule, version) ← ofOption
      (db.resolvePublishedRuleVersion anchorStoreId anchorCityCode)
      (.resolution "no published clue allocation rule matches this lead")
    let bindings ← ofOption (db.bindings.insert? {
        leadKey, rule, version, anchorStoreId, anchorCityCode })
      (.integrity "clue_lead_rule_version_bindings_pkey")
    return { db with bindings }

/-! ### Runs -/

/-- The operations; the stores known at the time and new identifiers come with the call. -/
inductive Action
  | createStoreGroup (stores : List String) (identity name : String) (memberStoreIds : List String)
  | replaceStoreGroupMembers (stores : List String) (storeGroupId : String)
      (memberStoreIds : List String)
  | createRule (stores : List String) (identity name scopeType : String)
      (cityCode storeGroupId anchorStoreId : Option String)
  | createRuleVersion (identity ruleId : String) (content : Content)
  | updateRuleVersion (id : String) (changes : List ContentChange)
  | deleteRuleVersion (id : String)
  | publishRuleVersion (id : String) (now : Timestamp)
  | retireRuleVersion (id : String)
  | bindLead (leadKey : String) (anchorStoreId anchorCityCode : Option String)

def Db.tryAct (db : Db) : Action → Except RuleError Db
  | .createStoreGroup stores identity name members =>
    db.createStoreGroup stores identity name members
  | .replaceStoreGroupMembers stores id members => db.replaceStoreGroupMembers stores id members
  | .createRule stores identity name scopeType city group anchor =>
    db.createRule stores identity name scopeType city group anchor
  | .createRuleVersion identity ruleId content => db.createRuleVersion env identity ruleId content
  | .updateRuleVersion id changes => db.updateRuleVersion env id changes
  | .deleteRuleVersion id => db.deleteRuleVersion id
  | .publishRuleVersion id now => db.publishRuleVersion env id now
  | .retireRuleVersion id => db.retireRuleVersion id
  | .bindLead leadKey store city => db.bindLeadRuleVersion leadKey store city

/-- An operation that raises is rolled back. -/
def Db.act (db : Db) (action : Action) : Db :=
  match db.tryAct env action with
  | .ok db' => db'
  | .error _ => db

def Db.run (db : Db) (actions : List Action) : Db := actions.foldl (Db.act env) db

end

end DyData.RuleVersions
