import Mathlib.Data.List.TakeWhile
import TaskBoard.Config.Settings
import TaskBoard.Proofs.Remote.Expiry

/-!
# What settings are accepted

Raw settings are accepted exactly if they keep a list of rules, and if they do not, the fault is in
the first setting of the list that breaks its rule. What depends on the settings later need not
check them again.
-/

namespace TaskBoard.Config

open Cache Net Time

/-! ## The rules -/

/-- What the raw settings must be like, and the setting that is at fault if they are not. -/
structure Rule where
  key : String
  Holds : Raw → Prop

def addressText (raw : RawServer) : List Char :=
  (nonBlank raw.host).getD defaultHost ++
    ':' :: Text.decimal ((raw.port.map UInt16.toNat).getD defaultPort)

def serverRules : List Rule :=
  [⟨"server.port", fun raw => raw.server.port ≠ some 0⟩,
    ⟨"server.host", fun raw => (SocketAddress.parse? (addressText raw.server)).isSome⟩,
    ⟨"server.graceful_shutdown_seconds", fun raw =>
      raw.server.gracefulShutdownSeconds ≠ some 0⟩]

def loggingRules : List Rule :=
  [⟨"logging.level", fun raw =>
    ∀ text, nonBlank raw.logging.level = some text → (Log.Threshold.parse? text).isSome⟩]

def cacheRules : List Rule :=
  [⟨"cache.backend", fun raw => ∀ name, raw.cache.backend = some name →
      Text.trim name = "redis".toList ∨ Text.trim name = "memory".toList⟩,
    ⟨"cache.ttl_seconds", fun raw => ∀ n, raw.cache.ttlSeconds = some n →
      1 ≤ n.toNat ∧ n.toNat ≤ 2592000⟩,
    ⟨"cache.operation_timeout_ms", fun raw => raw.cache.operationTimeoutMs ≠ some 0⟩,
    ⟨"cache.max_body_bytes", fun raw => ∀ n, raw.cache.maxBodyBytes = some n →
      1 ≤ n.toNat ∧ n.toNat ≤ Text.maxU64⟩,
    ⟨"cache.default_version", fun raw =>
      ':' ∉ (nonBlank raw.cache.defaultVersion).getD "v1".toList⟩,
    ⟨"cache.resource_type", fun raw =>
      ':' ∉ (nonBlank raw.cache.resourceType).getD "tasks".toList⟩]

def rateLimitRules : List Rule :=
  [⟨"rate_limit.window_ms", fun raw => raw.rateLimit.windowMs ≠ some 0⟩,
    ⟨"rate_limit.max_requests", fun raw => raw.rateLimit.maxRequests ≠ some 0⟩]

def rules : List Rule := serverRules ++ loggingRules ++ cacheRules ++ rateLimitRules

/-- The first of the rules that the raw settings break is about the setting `key`. -/
def FirstBroken (raw : Raw) (rules : List Rule) (key : String) : Prop :=
  ∃ kept rule rest, rules = kept ++ rule :: rest ∧ (∀ r ∈ kept, r.Holds raw) ∧
    ¬ rule.Holds raw ∧ rule.key = key

/-! ## One check -/

variable {α β : Type} {good : α → Prop} {key : String}

/-- The outcome of checking one setting: something good if `p` holds of it, and else a fault in
it. -/
def Decides (p : Prop) (key : String) (good : α → Prop) : Except Fault α → Prop
  | .ok a => p ∧ good a
  | .error fault => ¬ p ∧ fault.key = key

theorem positive_decides {ν : Type} {toNat : ν → Nat} {zero : ν} {standard : Nat}
    (hzero : ∀ n, toNat n = 0 ↔ n = zero) (hstandard : standard ≠ 0) (given : Option ν) :
    Decides (given ≠ some zero) key (fun n => n = (given.map toNat).getD standard ∧ 0 < n)
      (positive key ((given.map toNat).getD standard)) := by
  have hiff : (given.map toNat).getD standard = 0 ↔ given = some zero := by
    cases given with
    | none => simp [hstandard]
    | some n => simp [hzero]
  unfold positive
  by_cases hn : (given.map toNat).getD standard = 0
  · rw [if_pos hn]
    exact ⟨not_not.mpr (hiff.mp hn), rfl⟩
  · rw [if_neg hn]
    exact ⟨mt hiff.mpr hn, rfl, Nat.pos_of_ne_zero hn⟩

theorem thresholdOf_decides (level : Option (List Char)) :
    Decides (∀ text, nonBlank level = some text → (Log.Threshold.parse? text).isSome)
      "logging.level" (fun _ => True) (thresholdOf level) := by
  unfold thresholdOf
  cases nonBlank level with
  | none => exact ⟨nofun, trivial⟩
  | some text =>
    simp only [Option.some.injEq, forall_eq']
    cases Log.Threshold.parse? text with
    | none => exact ⟨Bool.false_ne_true, rfl⟩
    | some threshold => exact ⟨rfl, trivial⟩

theorem ofName?_isSome_iff {name : List Char} :
    (Backend.ofName? name).isSome ↔ name = "redis".toList ∨ name = "memory".toList := by
  unfold Backend.ofName?
  rw [List.find?_isSome]
  simp [Backend.all, Backend.name, eq_comm]

theorem backendOf_decides (name : Option (List Char)) :
    Decides (∀ text, name = some text →
      Text.trim text = "redis".toList ∨ Text.trim text = "memory".toList)
      "cache.backend" (fun _ => True) (backendOf name) := by
  unfold backendOf
  cases name with
  | none => exact ⟨nofun, trivial⟩
  | some text =>
    simp only [Option.some.injEq, forall_eq', Option.map_some, ← ofName?_isSome_iff]
    cases Backend.ofName? (Text.trim text) with
    | none => exact ⟨Bool.false_ne_true, rfl⟩
    | some backend => exact ⟨rfl, trivial⟩

theorem ttlOf_decides (seconds : Option UInt64) :
    Decides (∀ n, seconds = some n → 1 ≤ n.toNat ∧ n.toNat ≤ 2592000) "cache.ttl_seconds"
      (fun ttl => ∃ n, 1 ≤ n ∧ n ≤ 2592000 ∧ ttl = Duration.ofSeconds n) (ttlOf seconds) := by
  unfold ttlOf positive
  cases seconds with
  | none => exact ⟨nofun, 300, by decide, by decide, rfl⟩
  | some n =>
    simp only [Option.some.injEq, forall_eq', Option.map_some, Option.getD_some]
    by_cases hzero : n.toNat = 0
    · rw [if_pos hzero]
      exact ⟨by omega, rfl⟩
    rw [if_neg hzero]
    change Decides _ _ _ (if n.toNat > maxTtlSeconds then .error .ttlTooLong
      else .ok (Duration.ofSeconds n.toNat))
    unfold maxTtlSeconds
    by_cases hlong : n.toNat > 2592000
    · rw [if_pos hlong]
      exact ⟨by omega, rfl⟩
    · rw [if_neg hlong]
      exact ⟨by omega, n.toNat, by omega, by omega, rfl⟩

theorem bodyLimitOf_decides (limit : Option UInt64) :
    Decides (∀ n, limit = some n → 1 ≤ n.toNat ∧ n.toNat ≤ Text.maxU64) "cache.max_body_bytes"
      (fun _ => True) (bodyLimitOf limit) := by
  unfold bodyLimitOf
  cases limit with
  | none => exact ⟨nofun, trivial⟩
  | some n =>
    simp only [Option.some.injEq, forall_eq', Option.map_some]
    have hmax : n.toNat ≤ Text.maxU64 := Nat.le_of_lt_succ n.toNat_lt
    by_cases hzero : n.toNat = 0
    · rw [if_pos hzero]
      exact ⟨by omega, rfl⟩
    · rw [if_neg hzero]
      exact ⟨⟨by omega, hmax⟩, trivial⟩

theorem nonBlank_ne_some_nil (s : Option (List Char)) : nonBlank s ≠ some [] := by
  unfold nonBlank
  intro h
  simpa using (Option.filter_eq_some_iff.mp h).2

theorem withoutColon_decides {standard : List Char} (hstandard : standard ≠ [])
    (given : Option (List Char)) :
    Decides (':' ∉ (nonBlank given).getD standard) key (fun s => s ≠ [] ∧ ':' ∉ s)
      (withoutColon key ((nonBlank given).getD standard)) := by
  have hne : (nonBlank given).getD standard ≠ [] := by
    have hsome := nonBlank_ne_some_nil given
    cases h : nonBlank given with
    | none => exact hstandard
    | some s => rintro rfl; exact hsome h
  unfold withoutColon
  by_cases hcolon : ':' ∈ (nonBlank given).getD standard
  · rw [if_pos (List.contains_iff_mem.mpr hcolon)]
    exact ⟨not_not.mpr hcolon, rfl⟩
  · rw [if_neg (mt List.contains_iff_mem.mp hcolon)]
    exact ⟨hcolon, hne, hcolon⟩

/-! ## Checks one after the other -/

variable {fine : β → Prop} {raw : Raw} {rule : Rule} {first rest : List Rule} {fault : Fault}
  {x : Except Fault α}

/-- The outcome of checking rules in their order: something good if all of them are kept, and else
a fault in the setting of the first that is broken. -/
def Checks (raw : Raw) (rules : List Rule) (good : α → Prop) : Except Fault α → Prop
  | .ok a => (∀ rule ∈ rules, rule.Holds raw) ∧ good a
  | .error fault => FirstBroken raw rules fault.key

theorem Checks.pure {a : α} (h : good a) : Checks raw [] good (.ok a) :=
  ⟨fun _ hrule => absurd hrule List.not_mem_nil, h⟩

theorem FirstBroken.head (h : ¬ rule.Holds raw) (hkey : fault.key = rule.key) :
    FirstBroken raw (rule :: rest) fault.key :=
  ⟨[], rule, rest, rfl, fun _ hr => absurd hr List.not_mem_nil, h, hkey.symm⟩

theorem FirstBroken.append_right (h : FirstBroken raw first key) :
    FirstBroken raw (first ++ rest) key := by
  obtain ⟨kept, rule, after, rfl, hbroken⟩ := h
  exact ⟨kept, rule, after ++ rest, by simp, hbroken⟩

theorem FirstBroken.append_left (hfirst : ∀ rule ∈ first, rule.Holds raw)
    (h : FirstBroken raw rest key) : FirstBroken raw (first ++ rest) key := by
  obtain ⟨kept, rule, after, rfl, hkept, hbroken⟩ := h
  exact ⟨first ++ kept, rule, after, by simp, List.forall_mem_append.mpr ⟨hfirst, hkept⟩, hbroken⟩

theorem Checks.append_left (hfirst : ∀ rule ∈ first, rule.Holds raw) (h : Checks raw rest good x) :
    Checks raw (first ++ rest) good x := by
  cases x with
  | error fault => exact FirstBroken.append_left hfirst h
  | ok a => exact ⟨List.forall_mem_append.mpr ⟨hfirst, h.1⟩, h.2⟩

theorem Checks.bind {f : α → Except Fault β} (hx : Checks raw first good x)
    (hf : ∀ a, good a → Checks raw rest fine (f a)) :
    Checks raw (first ++ rest) fine (x >>= f) := by
  cases x with
  | error fault => exact hx.append_right
  | ok a => exact (hf a hx.2).append_left hx.1

theorem Checks.of_decides (h : Decides (rule.Holds raw) rule.key good x) :
    Checks raw [rule] good x := by
  cases x with
  | error fault => exact FirstBroken.head h.1 h.2
  | ok a => exact ⟨List.forall_mem_singleton.mpr h.1, h.2⟩

theorem Decides.bind {f : α → Except Fault β} (hx : Decides (rule.Holds raw) rule.key good x)
    (hf : ∀ a, good a → Checks raw rest fine (f a)) : Checks raw (rule :: rest) fine (x >>= f) :=
  (Checks.of_decides hx).bind hf

theorem Checks.isOk_iff (h : Checks raw first good x) :
    (∃ a, x = .ok a) ↔ ∀ rule ∈ first, rule.Holds raw := by
  cases x with
  | error fault =>
    obtain ⟨kept, rule, after, rfl, -, hbroken, -⟩ := h
    constructor
    · rintro ⟨a, ha⟩
      cases ha
    · intro hall
      exact absurd (hall rule (by simp)) hbroken
  | ok a => exact ⟨fun _ => h.1, fun _ => ⟨a, rfl⟩⟩

/-! ## All settings -/

theorem toNat16_eq_zero_iff (n : UInt16) : n.toNat = 0 ↔ n = 0 := UInt16.toNat_inj (b := 0)
theorem toNat32_eq_zero_iff (n : UInt32) : n.toNat = 0 ↔ n = 0 := UInt32.toNat_inj (b := 0)
theorem toNat64_eq_zero_iff (n : UInt64) : n.toNat = 0 ↔ n = 0 := UInt64.toNat_inj (b := 0)

theorem ServerSettings.ofRaw_checks (raw : Raw) :
    Checks raw serverRules (fun _ => True) (ServerSettings.ofRaw raw.server) := by
  unfold serverRules ServerSettings.ofRaw
  refine Decides.bind (positive_decides toNat16_eq_zero_iff (by decide) _) ?_
  rintro port ⟨rfl, -⟩
  -- What is parsed is now the text that the rule is about.
  cases haddress : SocketAddress.parse? (addressText raw.server) with
  | none =>
    have hserver : ¬ (SocketAddress.parse? (addressText raw.server)).isSome := by simp [haddress]
    unfold addressText at haddress
    simp only [haddress]
    exact FirstBroken.head hserver rfl
  | some address =>
    have hserver : (SocketAddress.parse? (addressText raw.server)).isSome := by simp [haddress]
    unfold addressText at haddress
    simp only [haddress]
    refine Checks.append_left (List.forall_mem_singleton.mpr hserver) ?_
    exact Decides.bind (positive_decides toNat64_eq_zero_iff (by decide) _) fun _ _ =>
      Checks.pure trivial

theorem LoggingSettings.ofRaw_checks (raw : Raw) :
    Checks raw loggingRules (fun _ => True) (LoggingSettings.ofRaw raw.logging) := by
  unfold loggingRules LoggingSettings.ofRaw
  exact Decides.bind (thresholdOf_decides _) fun _ _ => Checks.pure trivial

structure CacheInRange (cache : Cache.Settings) : Prop where
  version : cache.space.defaultVersion ≠ [] ∧ ':' ∉ cache.space.defaultVersion
  resourceType : cache.space.resourceType ≠ [] ∧ ':' ∉ cache.space.resourceType
  ttl : ∃ n, 1 ≤ n ∧ n ≤ 2592000 ∧ cache.ttl = Duration.ofSeconds n

theorem cacheOfRaw_checks (raw : Raw) :
    Checks raw cacheRules (fun c => CacheInRange c.1) (cacheOfRaw raw.cache) := by
  unfold cacheRules cacheOfRaw
  refine Decides.bind (backendOf_decides _) fun backend _ => ?_
  refine Decides.bind (ttlOf_decides _) fun ttl httl => ?_
  refine Decides.bind (positive_decides toNat64_eq_zero_iff (by decide) _) fun timeout _ => ?_
  refine Decides.bind (bodyLimitOf_decides _) fun limit _ => ?_
  refine Decides.bind (withoutColon_decides (by decide) _) fun version hversion => ?_
  refine Decides.bind (withoutColon_decides (by decide) _) fun resourceType hresourceType => ?_
  exact Checks.pure ⟨hversion, hresourceType, httl⟩

theorem rateLimitOfRaw_checks (raw : Raw) :
    Checks raw rateLimitRules (fun limits => 0 < limits.maxRequests)
      (rateLimitOfRaw raw.rateLimit) := by
  unfold rateLimitRules rateLimitOfRaw
  refine Decides.bind (positive_decides toNat64_eq_zero_iff (by decide) _) fun window _ => ?_
  refine Decides.bind (positive_decides toNat32_eq_zero_iff (by decide) _) fun max hmax => ?_
  exact Checks.pure hmax.2

theorem Settings.ofRaw_checks (raw : Raw) :
    Checks raw rules (fun s => CacheInRange s.cache ∧ 0 < s.rateLimit.maxRequests)
      (Settings.ofRaw raw) := by
  have hrules : rules = serverRules ++ (loggingRules ++ (cacheRules ++ (rateLimitRules ++ []))) := by
    simp [rules]
  rw [hrules]
  unfold Settings.ofRaw
  refine (ServerSettings.ofRaw_checks raw).bind fun server _ => ?_
  refine (LoggingSettings.ofRaw_checks raw).bind fun logging _ => ?_
  refine (cacheOfRaw_checks raw).bind fun ⟨cache, store⟩ hcache => ?_
  exact (rateLimitOfRaw_checks raw).bind fun limits hlimits => Checks.pure ⟨hcache, hlimits⟩

/-! ## What relies on the settings -/

theorem ofSeconds_eq_ofMillis (n : Nat) : Duration.ofSeconds n = Duration.ofMillis (n * 1000) := by
  unfold Duration.ofMillis Duration.ofSeconds Duration.nanosPerSecond Duration.nanosPerMilli
  rw [Nat.mul_assoc]

theorem allow_after_window {limits : RateLimit.Settings} {now : Instant}
    {admissions : RateLimit.Admissions} (hmax : 0 < limits.maxRequests)
    (hold : ∀ t ∈ admissions, t + limits.window ≤ now) :
    (RateLimit.allow limits now admissions).1 = .admitted (limits.maxRequests - 1) := by
  have hnone : admissions.dropWhile (!RateLimit.counts limits.window now ·) = [] := by
    rw [List.dropWhile_eq_nil_iff]
    intro t ht
    simp only [RateLimit.counts, Bool.not_eq_true', decide_eq_false_iff_not]
    exact Nat.not_lt.mpr (Nat.le_sub_of_add_le' (hold t ht))
  unfold RateLimit.allow
  simp [hnone, hmax]

/-- What the service relies on. Keys are made of parts that can be told apart. The store in memory
accepts the time to live, and a server is sent exactly as many milliseconds, which are positive and
few. The limiter admits a request whenever the earlier ones are at least a window ago. -/
structure Usable (s : Settings) : Prop where
  version : s.cache.space.defaultVersion ≠ [] ∧ ':' ∉ s.cache.space.defaultVersion
  resourceType : s.cache.space.resourceType ≠ [] ∧ ':' ∉ s.cache.space.resourceType
  memory : ∀ now key value entries,
    (Memory.store now (.set key value s.cache.ttl) entries).1 = .ok ()
  server : ∀ {σ : Type} (server : Remote.Server σ) key value state,
    let set := Cache.Call.set key value s.cache.ttl
    (∀ ttl, (Remote.store server s.store.timeout set state).1 ≠ .error (.invalidTtl ttl)) ∧
    ∃ millis, 1 ≤ millis ∧ millis ≤ 2592000000 ∧ Duration.ofMillis millis = s.cache.ttl ∧
      (Remote.store server.logged s.store.timeout set (state, [])).2.2 =
        [Remote.setCommand key millis value]
  limiter : ∀ now admissions, (∀ t ∈ admissions, t + s.rateLimit.window ≤ now) →
    ∃ remaining, (RateLimit.allow s.rateLimit now admissions).1 = .admitted remaining

theorem CacheInRange.usable {s : Settings} (h : CacheInRange s.cache)
    (hmax : 0 < s.rateLimit.maxRequests) : Usable s := by
  obtain ⟨n, hpos, hle, httl⟩ := h.ttl
  rw [ofSeconds_eq_ofMillis] at httl
  have hlongest : n * 1000 ≤ Remote.longestMillis := by
    unfold Remote.longestMillis
    omega
  have hne : s.cache.ttl ≠ 0 := by
    rw [httl]
    exact Nat.ne_of_gt (Remote.ofMillis_pos (by omega))
  refine ⟨h.version, h.resourceType, fun now key value entries => ?_,
    fun server key value state =>
      ⟨fun ttl hrefused => ?_, n * 1000, by omega, hlongest, httl.symm, ?_⟩,
    fun now admissions hold => ⟨_, allow_after_window hmax hold⟩⟩
  · simp only [Memory.store, if_neg hne]
  · simp only [Remote.store, if_neg hne] at hrefused
    obtain ⟨reason, hreason⟩ := Remote.send_error hrefused
    cases hreason
  · rw [Remote.sent_by_set hne, httl, Remote.expiryMillis_ofMillis hlongest]

/-- Raw settings are accepted exactly if every rule holds of them. The fault of refused ones is in
the setting of the first broken rule. Accepted settings can be relied on. -/
theorem ofRaw_ok_iff_rules (raw : Raw) :
    ((∃ s, Settings.ofRaw raw = .ok s) ↔ ∀ rule ∈ rules, rule.Holds raw) ∧
    (∀ fault, Settings.ofRaw raw = .error fault → FirstBroken raw rules fault.key) ∧
    ∀ s, Settings.ofRaw raw = .ok s → Usable s := by
  have hchecks := Settings.ofRaw_checks raw
  refine ⟨hchecks.isOk_iff, fun fault hfault => ?_, fun s hs => ?_⟩
  · rw [hfault] at hchecks
    exact hchecks
  · rw [hs] at hchecks
    exact hchecks.2.1.usable hchecks.2.2

end TaskBoard.Config
