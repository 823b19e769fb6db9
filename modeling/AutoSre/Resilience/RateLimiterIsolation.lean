import AutoSre.Lib.Machine
import AutoSre.Resilience.RateLimiterBounds

/-! # Clients of the rate limiter do not see each other

The store keeps all buckets in one dictionary.  What the calls for one key are
answered, and the bucket they leave, is a function of these calls alone: dropping
every other call from the run changes neither.
-/

namespace AutoSre.Resilience

open AutoSre.Lib

variable {κ : Type} [DecidableEq κ]

namespace InMemoryBucketStore

def consumeCall (store : InMemoryBucketStore κ) (call : BucketCall κ) :
    RateLimitResult × InMemoryBucketStore κ :=
  store.consume call.now call.key call.tokens

/-- Two stores that a caller with this key cannot tell apart. -/
structure SameBucket (key : κ) (store other : InMemoryBucketStore κ) : Prop where
  rps : store.rps = other.rps
  burst : store.burst = other.burst
  bucket : store.buckets.get key = other.buckets.get key

theorem consume_result_congr {key : κ} {store other : InMemoryBucketStore κ}
    (same : SameBucket key store other) (now tokens : ℚ) :
    (store.consume now key tokens).1 = (other.consume now key tokens).1 := by
  have level : store.cur now key = other.cur now key := by
    simp only [cur, same.rps, same.burst, same.bucket]
  simp only [consume, level, same.rps]
  split <;> rfl

theorem SameBucket.consume_self {key : κ} {store other : InMemoryBucketStore κ}
    (same : SameBucket key store other) (now tokens : ℚ) :
    SameBucket key (store.consume now key tokens).2 (other.consume now key tokens).2 where
  rps := by rw [consume_rps, consume_rps, same.rps]
  burst := by rw [consume_burst, consume_burst, same.burst]
  bucket := by rw [consume_get_self, consume_get_self, consume_result_congr same]

theorem SameBucket.consume_other {key caller : κ} {store other : InMemoryBucketStore κ}
    (same : SameBucket key store other) (differ : key ≠ caller) (now tokens : ℚ) :
    SameBucket key (store.consume now caller tokens).2 other where
  rps := by rw [consume_rps, same.rps]
  burst := by rw [consume_burst, same.burst]
  bucket := by rw [consume_get_of_ne store now caller tokens differ, same.bucket]

theorem consumeCall_projects (key : κ) :
    Projects (consumeCall (κ := κ)) consumeCall (Option.guard fun call => decide (call.key = key))
      (SameBucket key) where
  dropped := by
    intro store other call same notKept
    have differ : key ≠ call.key := by
      intro isClient
      simp [Option.guard, isClient] at notKept
    exact same.consume_other differ call.now call.tokens
  kept := by
    intro store other call named same isKept
    obtain ⟨isClient, rfl⟩ : call.key = key ∧ call = named := by
      simpa [Option.guard] using isKept
    cases isClient
    exact ⟨consume_result_congr same call.now call.tokens, same.consume_self call.now call.tokens⟩

end InMemoryBucketStore

open InMemoryBucketStore in
/-- The calls for `key` are answered, and leave its bucket, as if they were the only
    calls made on a fresh store. -/
theorem client_isolation (rps burst : ℚ) (calls : List (BucketCall κ)) (key : κ) :
    (answers consumeCall { rps, burst } calls).filter (fun answer => answer.1.key = key) =
        answers consumeCall { rps, burst } (calls.filter (·.key = key)) ∧
      (final consumeCall { rps, burst } calls).buckets.get key =
        (final consumeCall { rps, burst } (calls.filter (·.key = key))).buckets.get key := by
  have start : SameBucket key (κ := κ) { rps, burst } { rps, burst } := ⟨rfl, rfl, rfl⟩
  obtain ⟨sameAnswers, sameFinal⟩ := (consumeCall_projects key).run_filter start calls
  exact ⟨sameAnswers, sameFinal.bucket⟩

end AutoSre.Resilience
