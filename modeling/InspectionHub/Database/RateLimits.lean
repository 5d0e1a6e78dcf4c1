import InspectionHub.Lib.FixedWindow
import InspectionHub.Lib.Js
import InspectionHub.Lib.Sql

/-!
# Durable rate limits

`rate_limit_buckets`, `command_consume_rate_limit` and
`command_prune_rate_limit_buckets` of `20260715000700_u10_security_operations.sql`
with the validator of `packages/security/src/rate-limit.ts`. A call takes from
the bucket of its policy, key and minute; the validator refuses any row that
the command could not have returned (`durable_rate_limit`).
-/

namespace InspectionHub.Database.RateLimit

/-! ## The table -/

structure Bucket where
  policyName : String
  opaqueKeySha256 : String
  windowStartedAt : Int
  consumedCount : Nat
  updatedAt : Int
deriving DecidableEq

/-- `primary key (policy_name, opaque_key_sha256, window_started_at)` -/
def Bucket.clash (a b : Bucket) : Prop :=
  a.policyName = b.policyName ∧ a.opaqueKeySha256 = b.opaqueKeySha256 ∧
    a.windowStartedAt = b.windowStartedAt

instance : DecidableRel Bucket.clash := fun _ _ => inferInstanceAs (Decidable (_ ∧ _))

abbrev BucketTable := Sql.Table Bucket Bucket.clash

/-- `interval '1 minute'`, in microseconds. -/
def minute : Int := 60 * 1000000

/-- `date_trunc('minute', t)` -/
def truncMinute (t : Int) : Int := t - t % minute

/-- `ceil(extract(epoch from d))::integer` -/
def ceilSeconds (d : Int) : Int := -(-d / 1000000)

/-- The check constraints of `rate_limit_buckets`. -/
def Bucket.checked (b : Bucket) : Bool :=
  ["recipient_access", "privileged_action", "provider_callback", "booking_quote"].contains
      b.policyName &&
    Js.isHexDigest b.opaqueKeySha256 && decide (0 < b.consumedCount) &&
    (decide (b.windowStartedAt = truncMinute b.windowStartedAt) &&
      decide (b.windowStartedAt ≤ b.updatedAt) &&
      decide (b.updatedAt < b.windowStartedAt + minute))

/-- What `do update` makes of a row that is there. -/
def Bucket.updated (row b : Bucket) : Bucket :=
  if b.clash row then { b with consumedCount := row.consumedCount, updatedAt := row.updatedAt }
  else b

theorem Bucket.clash_updated (row b : Bucket) (c : Bucket) :
    ((row.updated b).clash c ↔ b.clash c) ∧ (c.clash (row.updated b) ↔ c.clash b) := by
  unfold Bucket.updated
  split <;> exact ⟨Iff.rfl, Iff.rfl⟩

/-- `insert … on conflict (policy_name, opaque_key_sha256, window_started_at) do update` -/
def upsertBucket (row : Bucket) (buckets : BucketTable) : Except Sql.Error BucketTable := do
  Sql.raiseIf (row.checked = false) "23514" "rate_limit_buckets"
  if ∃ b ∈ buckets.rows, b.clash row then
    return buckets.map row.updated fun a b h =>
      (row.clash_updated b a).2.mp ((row.clash_updated a _).1.mp h)
  else
    let buckets ← buckets.insert "rate_limit_buckets_pkey" row
    return buckets.1

/-! ## The commands -/

/-- The row that `command_consume_rate_limit` returns. -/
structure RateLimitRow where
  allowed : Bool
  remaining : Int
  retryAfterSeconds : Int
deriving DecidableEq

def policyLimit : String → Option Nat
  | "recipient_access" => some 30
  | "privileged_action" => some 10
  | "provider_callback" => some 120
  | "booking_quote" => some 20
  | _ => none

def invalidRateLimit : Sql.Error :=
  ⟨"22023", "invalid rate-limit policy or opaque identity digest"⟩

/-- The condition of the query; a null key equals no bucket's. -/
def Bucket.isFor (policyName : String) (key : Option String) (windowStart : Int) (b : Bucket) :
    Bool :=
  b.policyName = policyName ∧ some b.opaqueKeySha256 = key ∧ b.windowStartedAt = windowStart

/-- The count that the command selects. -/
def currentCount (buckets : BucketTable) (policyName : String) (key : Option String)
    (windowStart : Int) : Nat :=
  ((buckets.rows.find? (·.isFor policyName key windowStart)).map (·.consumedCount)).getD 0

/-- `now` is `statement_timestamp()`; the arguments may be null. -/
def commandConsumeRateLimit (now : Int) (targetPolicyName targetOpaqueKeySha256 : Option String)
    (buckets : BucketTable) : Except Sql.Error (BucketTable × RateLimitRow) := do
  let windowStart := truncMinute now
  match targetPolicyName, targetPolicyName.bind policyLimit with
  | some policyName, some limit =>
      Sql.raiseIf (∃ key ∈ targetOpaqueKeySha256, Js.isHexDigest key = false)
        invalidRateLimit.errcode invalidRateLimit.message
      let count := currentCount buckets policyName targetOpaqueKeySha256 windowStart
      if limit ≤ count then
        let retrySeconds := max 1 (ceilSeconds (windowStart + minute - now))
        return (buckets, ⟨false, 0, retrySeconds⟩)
      else
        let key ← Sql.notNull "opaque_key_sha256" targetOpaqueKeySha256
        let buckets ← upsertBucket ⟨policyName, key, windowStart, count + 1, now⟩ buckets
        return (buckets, ⟨true, limit - count - 1, 0⟩)
  | _, _ => .error invalidRateLimit

/-- Whether `command_prune_rate_limit_buckets` deletes the row. -/
def Bucket.expired (now : Int) (b : Bucket) : Bool :=
  b.windowStartedAt < truncMinute now - 24 * 60 * minute

def commandPruneRateLimitBuckets (now : Int) (buckets : BucketTable) : BucketTable × Nat :=
  (buckets.filter fun b => !b.expired now, buckets.rows.countP (·.expired now))

/-! ## The validator -/

inductive RateLimitPolicy where
  | recipient_access
  | privileged_action
  | provider_callback
  | booking_quote
deriving DecidableEq

def RateLimitPolicy.text : RateLimitPolicy → String
  | .recipient_access => "recipient_access"
  | .privileged_action => "privileged_action"
  | .provider_callback => "provider_callback"
  | .booking_quote => "booking_quote"

def rateLimitPolicies : List RateLimitPolicy :=
  [.recipient_access, .privileged_action, .provider_callback, .booking_quote]

structure RateLimitResult where
  allowed : Bool
  remaining : ℚ
  retryAfterSeconds : ℚ
deriving DecidableEq

def policyLimits : RateLimitPolicy → ℚ
  | .recipient_access => 30
  | .privileged_action => 10
  | .provider_callback => 120
  | .booking_quote => 20

/-- `isPolicy` -/
def RateLimitPolicy.ofText? (value : String) : Option RateLimitPolicy :=
  rateLimitPolicies.find? fun policy => policy.text = value

def isValidResult (result : RateLimitResult) (policy : RateLimitPolicy) : Bool :=
  let limit := policyLimits policy
  if ¬ Js.isSafeInteger result.remaining ∨ result.remaining < 0 ∨ limit ≤ result.remaining ∨
      ¬ Js.isSafeInteger result.retryAfterSeconds ∨ result.retryAfterSeconds < 0 ∨
      60 < result.retryAfterSeconds then false
  else if result.allowed then result.retryAfterSeconds = 0
  else result.remaining = 0 ∧ 1 ≤ result.retryAfterSeconds

/-- `DurableRateLimiter.consume` over a store that takes the policy and the key; an error is
the text that is thrown. -/
def DurableRateLimiter.consume (store : String → String → Except String RateLimitResult)
    (policy opaqueKey : String) : Except String RateLimitResult :=
  match RateLimitPolicy.ofText? policy with
  | none => .error "Rate limiting requires a fixed policy"
  | some fixed =>
      if ¬ Js.isHexDigest opaqueKey then
        .error "Rate-limit keys must be one-way digests, not raw identity or IP data"
      else do
        let result ← store policy opaqueKey
        if ¬ isValidResult result fixed then
          .error "Rate-limit store returned invalid durable state"
        else return result

/-- The row as the application reads it. -/
def RateLimitRow.result (row : RateLimitRow) : RateLimitResult where
  allowed := row.allowed
  remaining := row.remaining
  retryAfterSeconds := row.retryAfterSeconds

/-! ## Runs -/

structure Attempt where
  statementTimestamp : Int
  targetPolicyName : Option String
  targetOpaqueKeySha256 : Option String
deriving DecidableEq

inductive RateLimitCall where
  | consume (attempt : Attempt)
  | prune (statementTimestamp : Int)

def RateLimitCall.timestamp : RateLimitCall → Int
  | .consume attempt => attempt.statementTimestamp
  | .prune statementTimestamp => statementTimestamp

def RateLimitCall.attempt? : RateLimitCall → Option Attempt
  | .consume attempt => some attempt
  | .prune _ => none

structure Answered where
  attempt : Attempt
  reply : Except Sql.Error RateLimitRow

structure RateLimitSession where
  buckets : BucketTable
  log : List Answered

/-- A call that raises leaves the table as it was. -/
def RateLimitSession.next (v : RateLimitSession) : RateLimitCall → RateLimitSession
  | .consume attempt =>
      match commandConsumeRateLimit attempt.statementTimestamp attempt.targetPolicyName
          attempt.targetOpaqueKeySha256 v.buckets with
      | .ok (buckets, row) => ⟨buckets, v.log ++ [⟨attempt, .ok row⟩]⟩
      | .error e => ⟨v.buckets, v.log ++ [⟨attempt, .error e⟩]⟩
  | .prune statementTimestamp =>
      { v with buckets := (commandPruneRateLimitBuckets statementTimestamp v.buckets).1 }

def runRateLimit (calls : List RateLimitCall) : RateLimitSession :=
  calls.foldl RateLimitSession.next ⟨.empty, []⟩

/-- The policy, the key and the minute that a well-formed attempt is counted under. -/
def Attempt.slot (a : Attempt) : Option (String × String × Int) :=
  match a.targetPolicyName, a.targetOpaqueKeySha256 with
  | some policyName, some key =>
      if (policyLimit policyName).isSome ∧ Js.isHexDigest key then
        some (policyName, key, truncMinute a.statementTimestamp)
      else none
  | _, _ => none

def slotLimit (s : String × String × Int) : Nat := (policyLimit s.1).getD 0

/-- The row for an attempt whose slot has admitted `count` attempts. -/
def verdict (limit count : Nat) (now : Int) : RateLimitRow :=
  if limit ≤ count then ⟨false, 0, max 1 (ceilSeconds (truncMinute now + minute - now))⟩
  else ⟨true, limit - count - 1, 0⟩

/-- What the command answers an attempt, by the number admitted before. -/
def Attempt.answer (a : Attempt) (count : Nat) : Except Sql.Error RateLimitRow :=
  match a.slot with
  | some s => .ok (verdict (slotLimit s) count a.statementTimestamp)
  | none =>
      if (a.targetPolicyName.bind policyLimit).isSome ∧ a.targetOpaqueKeySha256 = none then
        .error ⟨"23502", "opaque_key_sha256"⟩
      else .error invalidRateLimit

/-- The row says that the attempt is allowed. -/
def Answered.allowed (a : Answered) : Bool :=
  match a.reply with
  | .ok row => row.allowed
  | .error _ => false

/-- The attempts allowed of a policy, a key and a minute. -/
def allowedIn (policyName key : String) (window : Int) (log : List Answered) : Nat :=
  log.countP fun a => a.attempt.targetPolicyName = some policyName ∧
    a.attempt.targetOpaqueKeySha256 = some key ∧
    truncMinute a.attempt.statementTimestamp = window ∧ a.allowed = true

/-- The attempt names the policy and the key. -/
def Attempt.names (policyName key : Option String) (a : Attempt) : Bool :=
  a.targetPolicyName = policyName ∧ a.targetOpaqueKeySha256 = key

/-- The call is an attempt that names the policy and the key. -/
def RateLimitCall.names (policyName key : Option String) (c : RateLimitCall) : Bool :=
  c.attempt?.any (·.names policyName key)

/-! ## The table against the count -/

variable {buckets buckets' : BucketTable}

theorem updated_of_clash {row b : Bucket} (h : b.clash row) :
    (row.updated b).consumedCount = row.consumedCount := by
  unfold Bucket.updated
  rw [if_pos h]

theorem updated_of_not {row b : Bucket} (h : ¬ b.clash row) : row.updated b = b := if_neg h

variable {p k : String} {w : Int}

theorem isFor_iff {b : Bucket} :
    b.isFor p (some k) w = true ↔
      b.policyName = p ∧ b.opaqueKeySha256 = k ∧ b.windowStartedAt = w := by
  rw [Bucket.isFor, decide_eq_true_eq, Option.some.injEq]

theorem isFor_updated (p k : String) (w : Int) (row b : Bucket) :
    (row.updated b).isFor p (some k) w = b.isFor p (some k) w := by
  unfold Bucket.updated
  split <;> rfl

/-- The row that is written counts for its own policy, key and minute. -/
theorem currentCount_upsert {row : Bucket} (h : upsertBucket row buckets = .ok buckets')
    (p k : String) (w : Int) :
    currentCount buckets' p (some k) w =
      if row.isFor p (some k) w then row.consumedCount
      else currentCount buckets p (some k) w := by
  obtain ⟨-, h⟩ := Sql.check_ok h
  unfold currentCount
  split at h
  · next hconflict =>
      cases h
      have hfind : (buckets.rows.map row.updated).find? (·.isFor p (some k) w) =
          (buckets.rows.find? (·.isFor p (some k) w)).map row.updated := by
        rw [List.find?_map]
        refine congrArg (Option.map row.updated) (List.find?_congr fun b _ => ?_)
        exact isFor_updated p k w row b
      rw [Sql.Table.map, hfind, Option.map_map]
      cases hold : buckets.rows.find? (·.isFor p (some k) w) with
      | none =>
          rw [if_neg]
          · rfl
          · intro hrow
            obtain ⟨rfl, rfl, rfl⟩ := isFor_iff.mp hrow
            obtain ⟨b, hb, hclash⟩ := hconflict
            exact List.find?_eq_none.mp hold b hb (isFor_iff.mpr hclash)
      | some b =>
          obtain ⟨rfl, rfl, rfl⟩ := isFor_iff.mp (List.find?_some hold)
          by_cases hclash : b.clash row
          · rw [if_pos (isFor_iff.mpr ⟨hclash.1.symm, hclash.2.1.symm, hclash.2.2.symm⟩)]
            exact updated_of_clash hclash
          · rw [if_neg fun hrow => hclash (by
              obtain ⟨hp, hk, hw⟩ := isFor_iff.mp hrow
              exact ⟨hp.symm, hk.symm, hw.symm⟩)]
            exact congrArg Bucket.consumedCount (updated_of_not hclash)
  · next hnew =>
      obtain ⟨⟨buckets'', hrows⟩, -, h⟩ := Sql.bind_ok h
      cases h
      rw [hrows, List.find?_append]
      by_cases hrow : row.isFor p (some k) w = true
      · have hnone : buckets.rows.find? (·.isFor p (some k) w) = none := by
          refine List.find?_eq_none.mpr fun b hb hfor => hnew ⟨b, hb, ?_⟩
          obtain ⟨hp, hk, hw⟩ := isFor_iff.mp hrow
          obtain ⟨hp', hk', hw'⟩ := isFor_iff.mp hfor
          exact ⟨hp'.trans hp.symm, hk'.trans hk.symm, hw'.trans hw.symm⟩
        rw [hnone, Option.none_or, List.find?_singleton, if_pos hrow, if_pos hrow]
        rfl
      · rw [List.find?_singleton, if_neg hrow, if_neg hrow, Option.or_none]

/-- Pruning spares the buckets of the current minute and of the minutes to come. -/
theorem currentCount_prune (now : Int) (p k : String) (h : truncMinute now ≤ w) :
    currentCount (commandPruneRateLimitBuckets now buckets).1 p (some k) w =
      currentCount buckets p (some k) w := by
  have hspared : ∀ b ∈ buckets.rows, b.isFor p (some k) w = true → b.expired now = false := by
    intro b _ hfor
    obtain ⟨-, -, rfl⟩ := isFor_iff.mp hfor
    rw [Bucket.expired, decide_eq_false_iff_not]
    have hminute : minute = 60000000 := rfl
    omega
  unfold currentCount
  rw [commandPruneRateLimitBuckets, Sql.Table.filter, List.find?_filter]
  refine congrArg (fun o : Option Bucket => (o.map (·.consumedCount)).getD 0) ?_
  refine List.find?_congr fun b hb => ?_
  rw [Bool.eq_iff_iff, decide_eq_true_eq]
  refine ⟨And.right, fun hfor => ⟨?_, hfor⟩⟩
  rw [hspared b hb hfor, Bool.not_false]

theorem upsert_ok {row : Bucket} (h : row.checked = true) (buckets : BucketTable) :
    ∃ buckets', upsertBucket row buckets = .ok buckets' := by
  unfold upsertBucket
  rw [Sql.check_of (by rw [h]; decide)]
  split
  · exact ⟨_, rfl⟩
  · next hnew =>
      push Not at hnew
      rw [Sql.bind_of (Sql.Table.insert_of hnew _)]
      exact ⟨_, rfl⟩

theorem truncMinute_le (t : Int) : truncMinute t ≤ t ∧ t < truncMinute t + minute := by
  unfold truncMinute minute
  omega

theorem truncMinute_trunc (t : Int) : truncMinute (truncMinute t) = truncMinute t := by
  unfold truncMinute minute
  omega

theorem truncMinute_mono {t t' : Int} (h : t ≤ t') : truncMinute t ≤ truncMinute t' := by
  unfold truncMinute minute
  omega

variable {n : Nat}

/-- The command and the validator fix the same limits of the same policies. -/
theorem policyLimit_eq_some {p : String} (h : policyLimit p = some n) :
    ∃ policy : RateLimitPolicy, policy.text = p ∧ policyLimits policy = n := by
  unfold policyLimit at h
  split at h
  · cases h
    exact ⟨.recipient_access, rfl, rfl⟩
  · cases h
    exact ⟨.privileged_action, rfl, rfl⟩
  · cases h
    exact ⟨.provider_callback, rfl, rfl⟩
  · cases h
    exact ⟨.booking_quote, rfl, rfl⟩
  · cases h

theorem policyLimit_pos {p : String} (h : policyLimit p = some n) : 0 < n := by
  unfold policyLimit at h
  split at h <;> cases h <;> decide

theorem policyLimit_le {p : String} (h : policyLimit p = some n) : n ≤ 120 := by
  unfold policyLimit at h
  split at h <;> cases h <;> decide

theorem checked_of (hlimit : policyLimit p = some n) (hk : Js.isHexDigest k = true) (now : Int)
    (count : Nat) : Bucket.checked ⟨p, k, truncMinute now, count + 1, now⟩ = true := by
  have hname : ["recipient_access", "privileged_action", "provider_callback",
      "booking_quote"].contains p = true := by
    obtain ⟨policy, rfl, -⟩ := policyLimit_eq_some hlimit
    cases policy <;> decide
  obtain ⟨hle, hlt⟩ := truncMinute_le now
  simp only [Bucket.checked, hname, hk, truncMinute_trunc, hle, hlt, Nat.succ_pos, decide_true,
    Bool.and_self]

variable {a : Attempt}

theorem slot_eq_some (h : a.slot = some (p, k, w)) :
    a.targetPolicyName = some p ∧ a.targetOpaqueKeySha256 = some k ∧
      w = truncMinute a.statementTimestamp ∧ (policyLimit p).isSome ∧
      Js.isHexDigest k = true := by
  unfold Attempt.slot at h
  split at h
  · next hname hkey =>
      split at h
      · next hvalid =>
          cases h
          exact ⟨hname, hkey, rfl, hvalid⟩
      · cases h
  · cases h

/-- A well-formed attempt is answered by the count of its slot, and adds to it if allowed. -/
theorem consume_slot (hslot : a.slot = some (p, k, w)) (buckets : BucketTable) :
    ∃ buckets', commandConsumeRateLimit a.statementTimestamp a.targetPolicyName
        a.targetOpaqueKeySha256 buckets =
      .ok (buckets', verdict (slotLimit (p, k, w)) (currentCount buckets p (some k) w)
        a.statementTimestamp) ∧
      ∀ p' k' w', currentCount buckets' p' (some k') w' =
        currentCount buckets p' (some k') w' +
          if a.slot = some (p', k', w') ∧
              currentCount buckets p (some k) w < slotLimit (p, k, w) then 1 else 0 := by
  obtain ⟨hname, hkey, rfl, hlimit, hdigest⟩ := slot_eq_some hslot
  obtain ⟨limit, hlimit⟩ := Option.isSome_iff_exists.mp hlimit
  have hslotLimit : slotLimit (p, k, truncMinute a.statementTimestamp) = limit := by
    rw [slotLimit, hlimit]
    rfl
  rw [hslotLimit, hslot]
  unfold commandConsumeRateLimit verdict
  rw [hname, hkey, Option.bind_some, hlimit]
  dsimp only
  rw [Sql.check_of (by simp [hdigest])]
  by_cases hfull : limit ≤ currentCount buckets p (some k) (truncMinute a.statementTimestamp)
  · rw [if_pos hfull, if_pos hfull]
    refine ⟨buckets, rfl, fun p' k' w' => ?_⟩
    rw [if_neg fun h => absurd hfull (Nat.not_le.mpr h.2), Nat.add_zero]
  · rw [if_neg hfull, if_neg hfull]
    obtain ⟨buckets', hupsert⟩ := upsert_ok (checked_of hlimit hdigest a.statementTimestamp
      (currentCount buckets p (some k) (truncMinute a.statementTimestamp))) buckets
    refine ⟨buckets', ?_, fun p' k' w' => ?_⟩
    · rw [Sql.notNull, Sql.bind_of rfl, Sql.bind_of hupsert]
      rfl
    · rw [currentCount_upsert hupsert]
      by_cases hfor : Bucket.isFor p' (some k') w' ⟨p, k, truncMinute a.statementTimestamp,
          currentCount buckets p (some k) (truncMinute a.statementTimestamp) + 1,
          a.statementTimestamp⟩ = true
      · obtain ⟨rfl, rfl, rfl⟩ := isFor_iff.mp hfor
        rw [if_pos hfor, if_pos ⟨rfl, Nat.not_le.mp hfull⟩]
      · rw [if_neg hfor, if_neg, Nat.add_zero]
        rintro ⟨heq, -⟩
        cases heq
        exact hfor (isFor_iff.mpr ⟨rfl, rfl, rfl⟩)

/-- An attempt that is not well formed raises. -/
theorem consume_none (hslot : a.slot = none) (n : Nat) (buckets : BucketTable) :
    ∃ e, commandConsumeRateLimit a.statementTimestamp a.targetPolicyName
        a.targetOpaqueKeySha256 buckets = .error e ∧ a.answer n = .error e := by
  unfold commandConsumeRateLimit Attempt.answer
  rw [hslot]
  cases hname : a.targetPolicyName with
  | none => exact ⟨_, rfl, rfl⟩
  | some p =>
      rw [Option.bind_some]
      cases hlimit : policyLimit p with
      | none => exact ⟨_, rfl, rfl⟩
      | some limit =>
          cases hkey : a.targetOpaqueKeySha256 with
          | none =>
              -- no bucket is found, and the insertion meets the null key
              have hcount : currentCount buckets p none (truncMinute a.statementTimestamp) = 0 := by
                have hfind : buckets.rows.find?
                    (·.isFor p none (truncMinute a.statementTimestamp)) = none := by
                  refine List.find?_eq_none.mpr fun b _ hfor => ?_
                  exact absurd (of_decide_eq_true hfor).2.1 nofun
                rw [currentCount, hfind]
                rfl
              dsimp only
              rw [Sql.check_of (by simp), hcount, if_neg (Nat.not_le.mpr (policyLimit_pos hlimit))]
              exact ⟨_, rfl, rfl⟩
          | some k =>
              have hdigest : Js.isHexDigest k = false := by
                by_contra h
                rw [Attempt.slot, hname, hkey] at hslot
                dsimp only at hslot
                rw [if_pos ⟨by rw [hlimit]; rfl, Bool.eq_true_of_not_eq_false h⟩] at hslot
                cases hslot
              dsimp only
              rw [Sql.raiseIf, if_pos ⟨k, rfl, hdigest⟩]
              exact ⟨_, rfl, rfl⟩

/-! ## Runs against histories -/

/-- What an attempt with the number admitted before it is answered. -/
def answered (e : Attempt × Nat) : Answered := ⟨e.1, e.1.answer e.2⟩

/-- The attempts of a run in order. -/
def attempts (calls : List RateLimitCall) : List Attempt := calls.filterMap (·.attempt?)

abbrev attemptHistory (calls : List RateLimitCall) : List (Attempt × Nat) :=
  FixedWindow.history Attempt.slot slotLimit (attempts calls)

/-- The run answers as the history does, and the buckets of the current minute and of the
minutes to come hold the counts. -/
structure Follows (v : RateLimitSession) (log : List (Attempt × Nat)) (now : Int) : Prop where
  replies : v.log = log.map answered
  counts : ∀ p k w, truncMinute now ≤ w →
    currentCount v.buckets p (some k) w = FixedWindow.used Attempt.slot slotLimit (p, k, w) log

variable {log : List (Attempt × Nat)} {v : RateLimitSession}

theorem Follows.later {now now' : Int} (h : Follows v log now) (hnow : now ≤ now') :
    Follows v log now' :=
  ⟨h.replies, fun p k w hw => h.counts p k w (Int.le_trans (truncMinute_mono hnow) hw)⟩

theorem Follows.consume (h : Follows v log a.statementTimestamp) :
    Follows (v.next (.consume a))
      (log ++ [(a, FixedWindow.taken Attempt.slot slotLimit log a)]) a.statementTimestamp := by
  cases hslot : a.slot with
  | none =>
      obtain ⟨e, hcall, hanswer⟩ := consume_none hslot
        (FixedWindow.taken Attempt.slot slotLimit log a) v.buckets
      unfold RateLimitSession.next
      dsimp only
      rw [hcall]
      refine ⟨?_, fun p k w hw => ?_⟩
      · rw [List.map_append, ← h.replies, List.map_singleton, answered, hanswer]
      · rw [h.counts p k w hw, FixedWindow.used_snoc, if_neg, Nat.add_zero]
        rw [hslot]
        exact fun hfor => absurd hfor.1 nofun
  | some s =>
      obtain ⟨p, k, w⟩ := s
      obtain ⟨buckets, hcall, hcounts⟩ := consume_slot hslot v.buckets
      have hw : truncMinute a.statementTimestamp ≤ w := (slot_eq_some hslot).2.2.1 ▸ Int.le_refl _
      rw [h.counts p k w hw] at hcall hcounts
      unfold RateLimitSession.next
      dsimp only
      rw [hcall]
      refine ⟨?_, fun p' k' w' hw' => ?_⟩
      · rw [List.map_append, ← h.replies, List.map_singleton, answered, FixedWindow.taken_of hslot,
          Attempt.answer, hslot]
      · rw [hcounts, h.counts p' k' w' hw', FixedWindow.used_snoc, FixedWindow.taken_of hslot]
        congr 1
        refine if_congr (and_congr_right fun hfor => ?_) rfl rfl
        rw [hslot] at hfor
        cases hfor
        exact Iff.rfl

theorem Follows.prune {now : Int} (h : Follows v log now) : Follows (v.next (.prune now)) log now :=
  ⟨h.replies, fun p k w hw => (currentCount_prune now p k hw).trans (h.counts p k w hw)⟩

theorem run_snoc (calls : List RateLimitCall) (c : RateLimitCall) :
    runRateLimit (calls ++ [c]) = (runRateLimit calls).next c := by
  unfold runRateLimit
  rw [List.foldl_append, List.foldl_cons, List.foldl_nil]

theorem run_follows {calls : List RateLimitCall}
    (hsorted : calls.Pairwise fun a b => a.timestamp ≤ b.timestamp) {now : Int}
    (hnow : ∀ c ∈ calls, c.timestamp ≤ now) :
    Follows (runRateLimit calls) (attemptHistory calls) now := by
  induction calls using List.reverseRecOn generalizing now with
  | nil => exact ⟨rfl, fun _ _ _ _ => rfl⟩
  | append_singleton calls c ih =>
      obtain ⟨hsorted, -, hlast⟩ := List.pairwise_append.mp hsorted
      have hbefore : Follows (runRateLimit calls) (attemptHistory calls) c.timestamp :=
        ih hsorted fun b hb => hlast b hb c (List.mem_singleton_self c)
      have hafter : Follows (runRateLimit (calls ++ [c])) (attemptHistory (calls ++ [c]))
          c.timestamp := by
        rw [run_snoc, attemptHistory, attempts, List.filterMap_append]
        cases c with
        | consume a =>
            have hattempt : [RateLimitCall.consume a].filterMap (·.attempt?) = [a] := rfl
            rw [hattempt, FixedWindow.history_snoc]
            exact hbefore.consume
        | prune t =>
            have hattempt : [RateLimitCall.prune t].filterMap (·.attempt?) = [] := rfl
            rw [hattempt, List.append_nil]
            exact hbefore.prune
      exact hafter.later (hnow c (by simp))

/-- The replies of a run are those of the history of its attempts. -/
theorem run_log {calls : List RateLimitCall}
    (hsorted : calls.Pairwise fun a b => a.timestamp ≤ b.timestamp) :
    (runRateLimit calls).log = (attemptHistory calls).map answered := by
  rcases List.eq_nil_or_concat calls with rfl | ⟨before, last, rfl⟩
  · rfl
  · rw [List.concat_eq_append] at hsorted ⊢
    have hlast : ∀ c ∈ before ++ [last], c.timestamp ≤ last.timestamp := by
      intro c hc
      rcases List.mem_append.mp hc with hc | hc
      · exact (List.pairwise_append.mp hsorted).2.2 c hc last (List.mem_singleton_self last)
      · rw [List.mem_singleton.mp hc]
    exact (run_follows hsorted hlast).replies

theorem answered_allowed (e : Attempt × Nat) (p k : String) (w : Int) :
    (e.1.targetPolicyName = some p ∧ e.1.targetOpaqueKeySha256 = some k ∧
        truncMinute e.1.statementTimestamp = w ∧ (answered e).allowed = true) ↔
      e.1.slot = some (p, k, w) ∧ e.2 < slotLimit (p, k, w) := by
  unfold Answered.allowed answered Attempt.answer
  constructor
  · rintro ⟨hp, hk, rfl, hallowed⟩
    cases hslot : e.1.slot with
    | none =>
        rw [hslot] at hallowed
        dsimp only at hallowed
        split at hallowed
        · next heq =>
            split at heq <;> cases heq
        · cases hallowed
    | some s =>
        obtain ⟨p', k', w'⟩ := s
        obtain ⟨hp', hk', rfl, -⟩ := slot_eq_some hslot
        cases hp.symm.trans hp'
        cases hk.symm.trans hk'
        rw [hslot] at hallowed
        refine ⟨rfl, Nat.not_le.mp fun hfull => ?_⟩
        simp only [verdict, if_pos hfull] at hallowed
        cases hallowed
  · rintro ⟨hslot, hroom⟩
    obtain ⟨hp, hk, hw, -⟩ := slot_eq_some hslot
    refine ⟨hp, hk, hw.symm, ?_⟩
    rw [hslot]
    simp only [verdict, if_neg (Nat.not_le.mpr hroom)]

theorem allowedIn_answered (p k : String) (w : Int) (log : List (Attempt × Nat)) :
    allowedIn p k w (log.map answered) =
      FixedWindow.used Attempt.slot slotLimit (p, k, w) log := by
  unfold allowedIn FixedWindow.used
  rw [List.countP_map]
  refine List.countP_congr fun e _ => ?_
  simp only [Function.comp_apply, decide_eq_true_eq]
  exact answered_allowed e p k w

/-! ## The rows that are returned -/

theorem isSafeInteger_of {z : Int} (h : 0 ≤ z) (hle : z ≤ 120) :
    Js.isSafeInteger (z : ℚ) = true := by
  simp only [Js.isSafeInteger, Rat.den_intCast, Rat.num_intCast, decide_true, Bool.true_and]
  exact decide_eq_true (by omega)

/-- The delay of a refusal runs to the end of the minute. -/
theorem retry_bounds (now : Int) :
    1 ≤ max 1 (ceilSeconds (truncMinute now + minute - now)) ∧
      max 1 (ceilSeconds (truncMinute now + minute - now)) ≤ 60 := by
  obtain ⟨hle, -⟩ := truncMinute_le now
  unfold ceilSeconds minute
  omega

/-- The validator on rows of integers. -/
theorem isValidResult_of {policy : RateLimitPolicy} {limit : Nat}
    (hlimit : policyLimits policy = limit) (hle : limit ≤ 120) {row : RateLimitRow}
    (hremaining : 0 ≤ row.remaining ∧ row.remaining < limit)
    (hretry : 0 ≤ row.retryAfterSeconds ∧ row.retryAfterSeconds ≤ 60)
    (hallowed : row.allowed = true → row.retryAfterSeconds = 0)
    (hrefused : row.allowed = false → row.remaining = 0 ∧ 1 ≤ row.retryAfterSeconds) :
    isValidResult row.result policy = true := by
  have hsafe := isSafeInteger_of hremaining.1 (by omega)
  have hsafe' := isSafeInteger_of hretry.1 (by omega)
  have h₁ : (0 : ℚ) ≤ row.remaining := by exact_mod_cast hremaining.1
  have h₂ : (row.remaining : ℚ) < limit := by exact_mod_cast hremaining.2
  have h₃ : (0 : ℚ) ≤ row.retryAfterSeconds := by exact_mod_cast hretry.1
  have h₄ : (row.retryAfterSeconds : ℚ) ≤ 60 := by exact_mod_cast hretry.2
  unfold isValidResult RateLimitRow.result
  dsimp only
  rw [hlimit, if_neg]
  · cases hcase : row.allowed with
    | true =>
        rw [if_pos rfl, hallowed hcase]
        exact decide_eq_true Int.cast_zero
    | false =>
        obtain ⟨hzero, hone⟩ := hrefused hcase
        rw [if_neg Bool.false_ne_true, hzero]
        exact decide_eq_true ⟨Int.cast_zero, by exact_mod_cast hone⟩
  · rintro (h | h | h | h | h | h)
    · exact h hsafe
    · exact absurd h (not_lt.mpr h₁)
    · exact absurd h (not_le.mpr h₂)
    · exact h hsafe'
    · exact absurd h (not_lt.mpr h₃)
    · exact absurd h (not_lt.mpr h₄)

/-- The row of a verdict passes the validator. -/
theorem verdict_valid {policy : RateLimitPolicy} {limit : Nat}
    (hlimit : policyLimits policy = limit) (hpos : 0 < limit) (hle : limit ≤ 120) (count : Nat)
    (now : Int) : isValidResult (verdict limit count now).result policy = true := by
  obtain ⟨hone, hsixty⟩ := retry_bounds now
  refine isValidResult_of hlimit hle ?_ ?_ ?_ ?_ <;> unfold verdict <;> split
  · exact ⟨Int.le_refl 0, Int.ofNat_lt.mpr hpos⟩
  · dsimp only
    omega
  · exact ⟨Int.le_trans (by decide) hone, hsixty⟩
  · exact ⟨Int.le_refl 0, Int.le_of_lt (by decide : (0 : Int) < 60)⟩
  · exact nofun
  · exact fun _ => rfl
  · exact fun _ => ⟨rfl, hone⟩
  · exact nofun

theorem ofText_text (policy : RateLimitPolicy) :
    RateLimitPolicy.ofText? policy.text = some policy := by
  cases policy <;> decide

/-- A row is returned for a well-formed attempt only, and the application accepts it. -/
theorem answered_accepted {e : Attempt × Nat} {row : RateLimitRow}
    (h : (answered e).reply = .ok row) :
    ∃ (policy : RateLimitPolicy) (key : String),
      e.1.slot = some (policy.text, key, truncMinute e.1.statementTimestamp) ∧
      row = verdict (slotLimit (policy.text, key, truncMinute e.1.statementTimestamp)) e.2
        e.1.statementTimestamp ∧
      policyLimits policy = slotLimit (policy.text, key, truncMinute e.1.statementTimestamp) ∧
      DurableRateLimiter.consume (fun _ _ => .ok row.result) policy.text key = .ok row.result := by
  unfold answered Attempt.answer at h
  cases hslot : e.1.slot with
  | none =>
      rw [hslot] at h
      dsimp only at h
      split at h <;> cases h
  | some s =>
      obtain ⟨p, k, w⟩ := s
      rw [hslot] at h
      cases h
      obtain ⟨-, -, rfl, hlimit, hdigest⟩ := slot_eq_some hslot
      obtain ⟨limit, hlimit⟩ := Option.isSome_iff_exists.mp hlimit
      have hmost := policyLimit_le hlimit
      have hpos := policyLimit_pos hlimit
      obtain ⟨policy, rfl, hpolicy⟩ := policyLimit_eq_some hlimit
      have hslotLimit : slotLimit (policy.text, k, truncMinute e.1.statementTimestamp) = limit := by
        rw [slotLimit, hlimit]
        rfl
      refine ⟨policy, k, rfl, rfl, by rw [hslotLimit, hpolicy], ?_⟩
      rw [hslotLimit]
      unfold DurableRateLimiter.consume
      rw [ofText_text]
      dsimp only
      rw [if_neg (not_not.mpr hdigest)]
      exact if_neg (not_not.mpr (verdict_valid hpolicy hpos hmost e.2 e.1.statementTimestamp))

/-- Attempts for one slot name the same policy and key. -/
theorem names_congr {p k : Option String} (a b : Attempt) (s : String × String × Int)
    (ha : a.slot = some s) (hb : b.slot = some s) : a.names p k = b.names p k := by
  obtain ⟨p', k', w⟩ := s
  obtain ⟨hp, hk, -⟩ := slot_eq_some ha
  obtain ⟨hp', hk', -⟩ := slot_eq_some hb
  rw [Attempt.names, Attempt.names, hp, hk, hp', hk']

theorem attempts_filter (p k : Option String) (calls : List RateLimitCall) :
    attempts (calls.filter (·.names p k)) = (attempts calls).filter (·.names p k) := by
  unfold attempts
  induction calls with
  | nil => rfl
  | cons c calls ih =>
      cases c with
      | prune t => exact ih
      | consume a =>
          have hnames : RateLimitCall.names p k (.consume a) = a.names p k := rfl
          have hcons : ∀ calls : List RateLimitCall, (RateLimitCall.consume a :: calls).filterMap
              (·.attempt?) = a :: calls.filterMap (·.attempt?) := fun _ => rfl
          rw [hcons, List.filter_cons, List.filter_cons, hnames]
          split
          · rw [hcons, ih]
          · exact ih

/-! ## The main result -/

/-- **Durable rate limits.** In a run whose statement times do not go back, at most the policy's
limit of attempts is allowed for a policy, a key and a minute; a well-formed attempt is returned
a row, which refuses it exactly when that many were allowed before it and which the application
accepts; and the attempts for a policy and a key are answered as if there had been no others. -/
theorem durable_rate_limit (calls : List RateLimitCall)
    (hsorted : calls.Pairwise fun a b => a.timestamp ≤ b.timestamp) :
    (∀ (policy : RateLimitPolicy) (key : String) (window : Int),
      (allowedIn policy.text key window (runRateLimit calls).log : ℚ) ≤ policyLimits policy) ∧
    (∀ a ∈ (runRateLimit calls).log, a.attempt.slot.isSome → ∃ row, a.reply = .ok row) ∧
    (∀ (before after : List Answered) (a : Answered) (row : RateLimitRow),
      (runRateLimit calls).log = before ++ a :: after → a.reply = .ok row →
      ∃ (policy : RateLimitPolicy) (key : String),
        a.attempt.names (some policy.text) (some key) = true ∧
        (row.allowed = false ↔
          (allowedIn policy.text key (truncMinute a.attempt.statementTimestamp) before : ℚ) =
            policyLimits policy) ∧
        DurableRateLimiter.consume (fun _ _ => .ok row.result) policy.text key =
          .ok row.result) ∧
    ∀ policyName key : Option String,
      (runRateLimit calls).log.filter (fun a => a.attempt.names policyName key) =
        (runRateLimit (calls.filter (·.names policyName key))).log := by
  have hlog := run_log hsorted
  refine ⟨fun policy key window => ?_, fun a ha hslot => ?_,
    fun before after a row hsplit hrow => ?_, fun policyName key => ?_⟩
  · rw [hlog, allowedIn_answered]
    have hle := FixedWindow.used_le Attempt.slot slotLimit (policy.text, key, window)
      (attempts calls)
    have hlimit : policyLimits policy = slotLimit (policy.text, key, window) := by
      cases policy <;> rfl
    rw [hlimit]
    exact_mod_cast hle
  · rw [hlog] at ha
    obtain ⟨e, -, rfl⟩ := List.mem_map.mp ha
    obtain ⟨s, hs⟩ := Option.isSome_iff_exists.mp hslot
    change e.1.slot = some s at hs
    refine ⟨verdict (slotLimit s) e.2 e.1.statementTimestamp, ?_⟩
    simp only [answered, Attempt.answer, hs]
  · rw [hlog] at hsplit
    obtain ⟨before', rest, hhistory, rfl, hrest⟩ := List.map_eq_append_iff.mp hsplit
    obtain ⟨e, after', rfl, rfl, rfl⟩ := List.map_eq_cons_iff.mp hrest
    obtain ⟨policy, key, hslot, rfl, hlimit, haccepted⟩ := answered_accepted hrow
    obtain ⟨hp, hk, -⟩ := slot_eq_some hslot
    refine ⟨policy, key, decide_eq_true ⟨hp, hk⟩, ?_, haccepted⟩
    have hrefused := FixedWindow.refused_iff hhistory hslot
    rw [allowedIn_answered, hlimit]
    refine Iff.trans ?_ (hrefused.trans Nat.cast_inj.symm)
    unfold verdict
    split
    · next hfull => exact iff_of_true rfl hfull
    · next hroom => exact iff_of_false (by rintro ⟨⟩) hroom
  · rw [hlog, run_log (hsorted.filter _), List.filter_map, attemptHistory, attemptHistory,
      attempts_filter, ← FixedWindow.history_filter names_congr]
    rfl

namespace Sample

def key : String := "0123456789abcdef0123456789abcdef0123456789abcdef0123456789abcdef"

def attemptAt (t : Int) (policyName : String) : RateLimitCall :=
  .consume ⟨t, some policyName, some key⟩

/-- Eleven privileged actions and a quote in the first minute, and one more action in the
second after a pruning. -/
def busyMinute : List RateLimitCall :=
  List.replicate 11 (attemptAt 5 "privileged_action") ++
    [attemptAt 6 "booking_quote", .prune 60000000, attemptAt 60000000 "privileged_action"]

theorem durable_rate_limit_busy :
    (∀ (policy : RateLimitPolicy) (key : String) (window : Int),
      (allowedIn policy.text key window (runRateLimit busyMinute).log : ℚ) ≤
        policyLimits policy) ∧
    (runRateLimit busyMinute).log.filter (fun a =>
        a.attempt.names (some "privileged_action") (some key)) =
      (runRateLimit (busyMinute.filter (·.names (some "privileged_action") (some key)))).log := by
  obtain ⟨hlimits, -, -, halone⟩ := durable_rate_limit busyMinute (by decide)
  exact ⟨hlimits, halone (some "privileged_action") (some key)⟩

end Sample

end InspectionHub.Database.RateLimit
