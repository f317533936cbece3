import DyData.ExceptBind

/-!
The limits of the remote endpoints.  Overrides of a reviewed profile may only tighten its numbers,
and a governor spaces the requests of all threads by the interval of their endpoint.
-/

namespace DyData.RequestLimits

open List (pairwise_append pairwise_singleton mem_append mem_singleton not_mem_nil)
open Except (ensure ofOption of_bind of_ofOption_bind of_ensure_bind)

/-! ### Endpoint limits -/

/-- `EndpointLimit`, as its constructor accepts it. -/
structure EndpointLimit where
  requestsPerWindow : ℚ
  windowSeconds : ℚ
  softQuota : Option ℚ
  dailyQuota : Option Int
  requests_pos : 0 < requestsPerWindow
  window_pos : 0 < windowSeconds
  soft_le : ∀ q ∈ softQuota, 0 < q ∧ q ≤ requestsPerWindow
  daily_le : ∀ d ∈ dailyQuota, 0 < d ∧ (d : ℚ) ≤ softQuota.getD requestsPerWindow

namespace EndpointLimit

def effectiveQuota (l : EndpointLimit) : ℚ := l.softQuota.getD l.requestsPerWindow

/-- The daily ledger takes the place of the pacing. -/
def isUnpaced (l : EndpointLimit) : Bool := l.dailyQuota.isSome && 86400 ≤ l.windowSeconds

def intervalSeconds (l : EndpointLimit) : ℚ :=
  if l.isUnpaced then 0 else l.windowSeconds / l.effectiveQuota

/-- `EndpointLimit(…)`. -/
def make (requests window : ℚ) (soft : Option ℚ) (daily : Option Int) :
    Except String EndpointLimit :=
  if hr : 0 < requests then
    if hw : 0 < window then
      if hs : ∀ q ∈ soft, 0 < q ∧ q ≤ requests then
        if hd : ∀ d ∈ daily, 0 < d ∧ (d : ℚ) ≤ soft.getD requests then
          .ok ⟨requests, window, soft, daily, hr, hw, hs, hd⟩
        else .error "daily_quota must be between 0 and the effective quota"
      else .error "soft_quota must be between 0 and the platform quota"
    else .error "window_seconds must be positive"
  else .error "requests_per_window must be positive"

theorem effectiveQuota_pos (l : EndpointLimit) : 0 < l.effectiveQuota := by
  unfold effectiveQuota
  cases hsoft : l.softQuota with
  | none => exact l.requests_pos
  | some q => exact (l.soft_le q hsoft).1

end EndpointLimit

/-! ### Overrides -/

/-- How the values of an override are read. -/
structure Reader (ρ : Type) where
  /-- `sanitize_endpoint`. -/
  sanitize : String → String
  /-- `float(value)`, if it is a number, and its value if that is finite. -/
  float : ρ → Option (Option ℚ)
  /-- `_optional_positive_int` of a value that is given. -/
  positiveInt : ρ → Option Int

/-- The fields of an override by name, without a value for `null`. -/
abbrev Fields (ρ : Type) := List (String × Option ρ)

section

variable {ρ : Type} (reader : Reader ρ)

/-- `_override_number`: the value of the first key that is there. -/
def overrideNumber (fields : Fields ρ) (keys : List String) (default : Option ℚ) :
    Except String (Option ℚ) :=
  match keys.findSome? fun key => fields.lookup key with
  | none => .ok default
  | some none => .ok none
  | some (some raw) => do
    let parsed ← ofOption (reader.float raw) (keys.headD "" ++ " must be a number")
    let value ← ofOption (parsed.filter (0 < ·))
      (keys.headD "" ++ " must be a positive finite number")
    return some value

def overrideDaily (fields : Fields ρ) (key : String) (default : Option Int) :
    Except String (Option Int) :=
  match fields.lookup "daily_quota" with
  | none => .ok default
  | some none => .ok none
  | some (some raw) => do
    let value ← ofOption (reader.positiveInt raw)
      ("daily_quota for " ++ key ++ " must be a positive integer")
    return some value

/-- One override of `_merge_limit_overrides`; it has no fields if it is no object. -/
def mergeOverride (merged : String → Option EndpointLimit) (entry : String × Option (Fields ρ)) :
    Except String (String → Option EndpointLimit) := do
  let key := reader.sanitize entry.1
  let fields ← ofOption entry.2 ("quota configuration for " ++ key ++ " must be an object")
  let existing ← ofOption (merged key) ("cannot configure unverified endpoint " ++ key ++
    "; add it to the reviewed app profile first")
  let requests ← overrideNumber reader fields ["requests_per_window", "quota", "max_requests"]
    existing.requestsPerWindow
  let window ← overrideNumber reader fields ["window_seconds", "window"] existing.windowSeconds
  let missing := "quota configuration for " ++ key ++
    " requires requests_per_window and window_seconds"
  let requests ← ofOption requests missing
  let window ← ofOption window missing
  let soft ← overrideNumber reader fields ["soft_quota", "effective_quota"] existing.softQuota
  let daily ← overrideDaily reader fields key existing.dailyQuota
  let configured ← EndpointLimit.make requests window soft daily
  let refusal := fun text => "quota override for " ++ key ++ " cannot " ++ text
  ensure (configured.requestsPerWindow ≤ existing.requestsPerWindow)
    (refusal "raise requests_per_window")
  ensure (existing.windowSeconds ≤ configured.windowSeconds) (refusal "shorten window_seconds")
  ensure (configured.effectiveQuota ≤ existing.effectiveQuota) (refusal "raise effective quota")
  ensure (existing.dailyQuota.all fun d => configured.dailyQuota.any (· ≤ d))
    (refusal "raise or remove daily_quota")
  return Function.update merged key (some configured)

def mergeLimitOverrides (base : String → Option EndpointLimit)
    (overrides : List (String × Option (Fields ρ))) :
    Except String (String → Option EndpointLimit) :=
  overrides.foldlM (mergeOverride reader) base

end

/-- What the checks compare. -/
structure Tightens (a b : EndpointLimit) : Prop where
  window : a.windowSeconds ≤ b.windowSeconds
  quota : b.effectiveQuota ≤ a.effectiveQuota
  daily : ∀ d, a.dailyQuota = some d → ∃ d', b.dailyQuota = some d' ∧ d' ≤ d

namespace Tightens

variable {a b c : EndpointLimit}

theorem refl (a : EndpointLimit) : Tightens a a := ⟨le_rfl, le_rfl, fun d hd => ⟨d, hd, le_rfl⟩⟩

theorem trans (h : Tightens a b) (h' : Tightens b c) : Tightens a c := by
  refine ⟨h.window.trans h'.window, h'.quota.trans h.quota, fun d hd => ?_⟩
  obtain ⟨d₁, hd₁, hle₁⟩ := h.daily d hd
  obtain ⟨d₂, hd₂, hle₂⟩ := h'.daily d₁ hd₁
  exact ⟨d₂, hd₂, hle₂.trans hle₁⟩

/-- The quotient grows with the window and as the quota shrinks; only the daily ledger takes the
interval away. -/
theorem interval_le_iff (h : Tightens a b) :
    a.intervalSeconds ≤ b.intervalSeconds ↔ (b.isUnpaced = true → a.isUnpaced = true) := by
  have hpos : 0 < a.windowSeconds / a.effectiveQuota := div_pos a.window_pos a.effectiveQuota_pos
  have hle : a.windowSeconds / a.effectiveQuota ≤ b.windowSeconds / b.effectiveQuota :=
    div_le_div₀ b.window_pos.le h.window b.effectiveQuota_pos h.quota
  unfold EndpointLimit.intervalSeconds
  cases a.isUnpaced <;> cases b.isUnpaced <;> simp
  · exact hle
  · exact hpos
  · exact (hpos.trans_le hle).le

end Tightens

theorem mergeOverride_ok {ρ : Type} {reader : Reader ρ}
    {limits merged : String → Option EndpointLimit} {entry : String × Option (Fields ρ)}
    (h : mergeOverride reader limits entry = .ok merged) :
    ∃ key existing configured, limits key = some existing ∧ Tightens existing configured ∧
      merged = Function.update limits key (some configured) := by
  obtain ⟨_, -, h⟩ := of_ofOption_bind h
  obtain ⟨existing, hex, h⟩ := of_ofOption_bind h
  iterate 6 obtain ⟨_, -, h⟩ := of_bind h
  obtain ⟨configured, -, h⟩ := of_bind h
  obtain ⟨-, h⟩ := of_ensure_bind h
  obtain ⟨hwin, h⟩ := of_ensure_bind h
  obtain ⟨hquo, h⟩ := of_ensure_bind h
  obtain ⟨hday, h⟩ := of_ensure_bind h
  cases h
  refine ⟨_, existing, configured, hex,
    ⟨of_decide_eq_true hwin, of_decide_eq_true hquo, fun d hd => ?_⟩, rfl⟩
  rw [hd, Option.all_some, Option.any_eq_true] at hday
  obtain ⟨d', hd', hle⟩ := hday
  exact ⟨d', hd', of_decide_eq_true hle⟩

/-- The limits of the leads in the production profile, and numbers that are integers. -/
def clues (endpoint : String) : Option EndpointLimit :=
  if endpoint = "clues" then
    some ⟨100, 60, some 90, none, by decide, by decide, by decide +kernel, by decide⟩
  else none

def integers : Reader Int where
  sanitize := id
  float n := some (some n)
  positiveInt n := (some n).filter (0 < ·)

/-- `DouyinEndpointProfile`, with the endpoints by their sanitized keys. -/
structure EndpointProfile where
  endpoints : String → Option EndpointLimit
  defaultIntervalSeconds : ℚ

/-- The pace of `acquire`. -/
def EndpointProfile.interval (profile : EndpointProfile) (endpoint : String) : ℚ :=
  (profile.endpoints endpoint).elim profile.defaultIntervalSeconds fun limit =>
    max profile.defaultIntervalSeconds limit.intervalSeconds

/-- A call of `acquire` that has read the clock, or one that has reserved its slot and sleeps. -/
inductive Call
  | read (endpoint : String) (now : ℚ)
  | asleep (slot wakeAt : ℚ)

/-- A `MonotonicRequestGovernor` and the calls of its threads, with the slots reserved so far and
the slot and time of every call that returned. -/
structure Governor (ι : Type) where
  clock : ℚ := 0
  nextAllowedAt : String → Option ℚ := fun _ => none
  calls : ι → Option Call := fun _ => none
  slots : List (String × ℚ) := []
  returned : List (ℚ × ℚ) := []

inductive Event (ι : Type)
  | pass (seconds : ℚ)
  | enter (thread : ι) (endpoint : String)
  | reserve (thread : ι)
  | wake (thread : ι)

section

variable {ι : Type} [DecidableEq ι] (profile : EndpointProfile)

/-- What `acquire` does under the lock. -/
def Governor.reserve (g : Governor ι) (thread : ι) (endpoint : String) (now : ℚ) : Governor ι :=
  let free := (g.nextAllowedAt endpoint).getD now
  let slot := max now free
  { g with
    nextAllowedAt :=
      Function.update g.nextAllowedAt endpoint (some (slot + profile.interval endpoint))
    calls := Function.update g.calls thread (some (.asleep slot (g.clock + max 0 (free - now))))
    slots := g.slots ++ [(endpoint, slot)] }

/-- One step of a thread or of the clock.  Without a positive interval a call returns at once. -/
def Governor.step (g : Governor ι) : Event ι → Governor ι
  | .pass seconds => { g with clock := g.clock + max 0 seconds }
  | .enter thread endpoint =>
    if profile.interval endpoint ≤ 0 ∨ (g.calls thread).isSome then g
    else { g with calls := Function.update g.calls thread (some (.read endpoint g.clock)) }
  | .reserve thread => match g.calls thread with
    | some (.read endpoint now) => g.reserve profile thread endpoint now
    | _ => g
  | .wake thread => match g.calls thread with
    | some (.asleep slot wakeAt) =>
      if g.clock < wakeAt then g
      else { g with
        calls := Function.update g.calls thread none
        returned := g.returned ++ [(slot, g.clock)] }
    | _ => g

def Governor.run (g : Governor ι) (events : List (Event ι)) : Governor ι :=
  events.foldl (Governor.step profile) g

def Call.Timely (clock : ℚ) : Call → Prop
  | .read endpoint now => now ≤ clock ∧ 0 < profile.interval endpoint
  | .asleep slot wakeAt => slot ≤ wakeAt

/-- Every slot lies an interval before the next one of its endpoint and before the time from which
the governor gives out the next. -/
structure Paced (g : Governor ι) : Prop where
  apart : g.slots.Pairwise fun a b => a.1 = b.1 → a.2 + profile.interval a.1 ≤ b.2
  behind : ∀ s ∈ g.slots, ∃ next, g.nextAllowedAt s.1 = some next ∧
    s.2 + profile.interval s.1 ≤ next
  timely : ∀ thread call, g.calls thread = some call → call.Timely profile g.clock
  late : ∀ r ∈ g.returned, r.1 ≤ r.2

end

namespace Paced

variable {ι : Type} [DecidableEq ι] {profile : EndpointProfile} {g : Governor ι}
  (h : Paced profile g)
include h

theorem timely_update {thread : ι} {call : Option Call}
    (hcall : ∀ c, call = some c → c.Timely profile g.clock) (other : ι) (c : Call)
    (hc : Function.update g.calls thread call other = some c) : c.Timely profile g.clock := by
  by_cases heq : other = thread
  · rw [heq, Function.update_self] at hc
    exact hcall c hc
  · rw [Function.update_of_ne heq] at hc
    exact h.timely other c hc

/-- The slot is free, however long ago the call has read the clock. -/
theorem reserve (thread : ι) {endpoint : String} {now : ℚ}
    (hread : (Call.read endpoint now).Timely profile g.clock) :
    Paced profile (g.reserve profile thread endpoint now) := by
  obtain ⟨_, _⟩ := hread
  set slot := max now ((g.nextAllowedAt endpoint).getD now) with hslot
  have hfree : ∀ s ∈ g.slots, s.1 = endpoint → s.2 + profile.interval s.1 ≤ slot := by
    intro s hs hkey
    obtain ⟨next, hnext, hle⟩ := h.behind s hs
    rw [hkey] at hnext
    rw [hslot, hnext]
    exact hle.trans (le_max_right _ _)
  refine ⟨?_, fun s hs => ?_, h.timely_update fun c hc => ?_, h.late⟩
  · refine pairwise_append.mpr ⟨h.apart, pairwise_singleton _ _, fun a ha b hb heq => ?_⟩
    rw [mem_singleton.mp hb] at heq ⊢
    exact hfree a ha heq
  · rcases mem_append.mp hs with hs | hs
    · by_cases hkey : s.1 = endpoint
      · have hle := hfree s hs hkey
        rw [hkey] at hle ⊢
        exact ⟨_, Function.update_self .., by linarith⟩
      · obtain ⟨next, hnext, hle⟩ := h.behind s hs
        exact ⟨next, (Function.update_of_ne hkey ..).trans hnext, hle⟩
    · rw [mem_singleton.mp hs]
      exact ⟨_, Function.update_self .., le_rfl⟩
  · -- the sleep makes up for what is missing between the reading and the slot
    cases hc
    refine max_le ?_ ?_
    · linarith [le_max_left 0 ((g.nextAllowedAt endpoint).getD now - now)]
    · linarith [le_max_right 0 ((g.nextAllowedAt endpoint).getD now - now)]

theorem step (event : Event ι) : Paced profile (g.step profile event) := by
  cases event with
  | pass seconds =>
    refine ⟨h.apart, h.behind, fun thread call hcall => ?_, h.late⟩
    have htime := h.timely thread call hcall
    cases call with
    | read endpoint now =>
      exact ⟨htime.1.trans (le_add_of_nonneg_right (le_max_left 0 seconds)), htime.2⟩
    | asleep slot wakeAt => exact htime
  | enter thread endpoint =>
    rw [Governor.step]
    split
    · exact h
    · rename_i hpos
      refine ⟨h.apart, h.behind, h.timely_update fun c hc => ?_, h.late⟩
      cases hc
      exact ⟨le_rfl, not_le.mp fun hle => hpos (.inl hle)⟩
  | reserve thread =>
    rw [Governor.step]
    split
    · rename_i hcall
      exact h.reserve thread (h.timely thread _ hcall)
    · exact h
  | wake thread =>
    rw [Governor.step]
    split
    · rename_i hcall
      split
      · exact h
      · rename_i hwake
        refine ⟨h.apart, h.behind, h.timely_update nofun, fun r hr => ?_⟩
        rcases mem_append.mp hr with hr | hr
        · exact h.late r hr
        · rw [mem_singleton.mp hr]
          exact le_trans (h.timely thread _ hcall) (not_lt.mp hwake)
    · exact h

theorem run (events : List (Event ι)) : Paced profile (g.run profile events) := by
  induction events generalizing g with
  | nil => exact h
  | cons event events ih => exact ih (h.step event)

end Paced

/-- In every interleaving of calls, the slots of an endpoint are at least its interval apart, and no
call returns before its slot. -/
theorem slots_never_overlap {ι : Type} [DecidableEq ι] (profile : EndpointProfile)
    (events : List (Event ι)) :
    ((Governor.run profile {} events).slots.Pairwise fun a b =>
        a.1 = b.1 → a.2 + profile.interval a.1 ≤ b.2) ∧
      ∀ r ∈ (Governor.run profile {} events).returned, r.1 ≤ r.2 := by
  have hpaced : Paced profile (Governor.run profile ({} : Governor ι) events) := by
    refine Paced.run ⟨.nil, ?_, ?_, ?_⟩ events
    · exact nofun
    · exact nofun
    · exact nofun
  exact ⟨hpaced.apart, hpaced.late⟩

end DyData.RequestLimits
