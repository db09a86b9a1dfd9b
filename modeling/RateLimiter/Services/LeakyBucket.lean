import RateLimiter.Services.TokenBucket

open rate_limiter.go

namespace rate_limiter.services

/-- In-memory leaky bucket (`leakyBucket`), the fallback used when Redis is unavailable.
    Times are monotonic clock readings in nanoseconds. The model runs the operations one at a
    time, so it covers serial runs only: `TryAdd` holds the write lock, but `GetStatus` holds
    only the read lock while its `leak` writes, and two concurrent status reads may interleave
    their writes. -/
structure leakyBucket where
  capacity : Int
  queue : Int
  leakRate : Int
  lastLeak : Int
  deriving Repr, DecidableEq

/-- `NewLeakyBucket`: an empty queue whose leak clock starts at `now`. -/
def NewLeakyBucket (capacity leakRate now : Int) : leakyBucket :=
  { capacity := capacity, queue := 0, leakRate := leakRate, lastLeak := now }

/-- `leakyBucket.leak`: one queued request leaves per whole `leakRate` elapsed since
    `lastLeak`, but only while the queue is non-empty; `lastLeak` advances by the requests
    that left, so time spent with an empty queue is not consumed. -/
def leakyBucket.leak (lb : leakyBucket) (now : Int) : leakyBucket :=
  let leakPeriods := (now - lb.lastLeak).tdiv lb.leakRate
  if leakPeriods > 0 ∧ lb.queue > 0 then
    let requestsToLeak := min leakPeriods lb.queue
    { lb with
      queue := lb.queue - requestsToLeak
      lastLeak := lb.lastLeak + requestsToLeak * lb.leakRate }
  else lb

/-- `leakyBucket.TryAdd`: a negative request is rejected before the bucket is touched;
    otherwise the bucket leaks and queues the requests unless the unchecked `int64` sum
    `queue + requests` exceeds the capacity. -/
def leakyBucket.TryAdd (lb : leakyBucket) (requests now : Int) : Bool × leakyBucket :=
  if requests < 0 then (false, lb)
  else
    let lb := lb.leak now
    if addInt64 lb.queue requests > lb.capacity then (false, lb)
    else (true, { lb with queue := addInt64 lb.queue requests })

/-- `leakyBucket.GetStatus`: leaks, keeping the write, then reports the queue length, the
    capacity and the next leak time `lastLeak + leakRate`. -/
def leakyBucket.GetStatus (lb : leakyBucket) (now : Int) : (Int × Int × Int) × leakyBucket :=
  let lb := lb.leak now
  ((lb.queue, lb.capacity, lb.lastLeak + lb.leakRate), lb)

/-- A call on an in-memory leaky bucket; a status read admits nothing. -/
def leakyBucket.call (lb : leakyBucket) : Call → Bool × leakyBucket
  | .request n now => lb.TryAdd n now
  | .status now => (false, (lb.GetStatus now).2)

section Leak

variable {lb : leakyBucket} {now : Int}

@[simp] theorem leakyBucket.leak_capacity : (lb.leak now).capacity = lb.capacity := by
  dsimp only [leakyBucket.leak]; split <;> rfl

@[simp] theorem leakyBucket.leak_leakRate : (lb.leak now).leakRate = lb.leakRate := by
  dsimp only [leakyBucket.leak]; split <;> rfl

/-- On a clock that has not gone backwards, `leak` drains `min(periods, queue)` requests from
    a non-empty queue, periods counted by floor division. -/
theorem leakyBucket.leak_eq (hle : lb.lastLeak ≤ now) (hP : 0 < lb.leakRate) :
    lb.leak now =
      if 0 < (now - lb.lastLeak) / lb.leakRate ∧ 0 < lb.queue then
        { lb with
          queue := lb.queue - Min.min ((now - lb.lastLeak) / lb.leakRate) lb.queue
          lastLeak := lb.lastLeak + Min.min ((now - lb.lastLeak) / lb.leakRate) lb.queue * lb.leakRate }
      else lb := by
  rw [leakyBucket.leak, Int.tdiv_eq_ediv (by omega) hP.le]
  simp only [gt_iff_lt, min_eq_min]

/-- What a leak does, as one account: the requests that left the queue are exactly the
    periods the leak clock advanced by, no more than the whole periods elapsed, and a queue
    that was not negative stays so. -/
theorem leakyBucket.leak_drained (hle : lb.lastLeak ≤ now) (hP : 0 < lb.leakRate) :
    ∃ r, 0 ≤ r ∧ (lb.leak now).queue = lb.queue - r ∧
      (lb.leak now).lastLeak = lb.lastLeak + r * lb.leakRate ∧
      (lb.leak now).lastLeak ≤ now ∧ (0 ≤ lb.queue → 0 ≤ (lb.leak now).queue) := by
  have hhi := Int.ediv_mul_le (now - lb.lastLeak) hP.ne'
  rw [leakyBucket.leak_eq hle hP]
  split
  · rename_i h
    refine ⟨Min.min ((now - lb.lastLeak) / lb.leakRate) lb.queue, by omega, rfl, rfl, ?_, ?_⟩
    · have : Min.min ((now - lb.lastLeak) / lb.leakRate) lb.queue * lb.leakRate ≤
          (now - lb.lastLeak) / lb.leakRate * lb.leakRate :=
        Int.mul_le_mul_of_nonneg_right (min_le_left _ _) hP.le
      dsimp only; omega
    · dsimp only; omega
  · exact ⟨0, le_rfl, by simp, by simp, hle, id⟩

/-- While `queue + requests` fits `int64`, `TryAdd` admits exactly when the leaked queue plus
    the request is within capacity. -/
theorem leakyBucket.TryAdd_of_lt {n : Int} (hn : 0 ≤ n) (hlo : -2 ^ 63 ≤ (lb.leak now).queue + n)
    (hhi : (lb.leak now).queue + n < 2 ^ 63) :
    lb.TryAdd n now =
      if (lb.leak now).queue + n ≤ lb.capacity then
        (true, { lb.leak now with queue := (lb.leak now).queue + n })
      else (false, lb.leak now) := by
  simp only [leakyBucket.TryAdd, if_neg (not_lt.mpr hn), addInt64_of_lt hlo hhi,
    leakyBucket.leak_capacity, gt_iff_lt]
  by_cases h : (lb.leak now).queue + n ≤ lb.capacity
  · rw [if_neg (not_lt.mpr h), if_pos h]
  · rw [if_pos (lt_of_not_le h), if_neg h]

/-- A leak never raises the queue, and never takes it below both zero and where it was. -/
theorem leakyBucket.leak_queue_le :
    (lb.leak now).queue ≤ lb.queue ∧ Min.min 0 lb.queue ≤ (lb.leak now).queue := by
  dsimp only [leakyBucket.leak]
  split
  · simp only [min_eq_min]
    omega
  · omega

/-- Every call keeps a positive leak rate and a queue inside `int64`: the unchecked sum in
    `TryAdd` wraps back into the range. -/
theorem leakyBucket.call_int64 (hP : 0 < lb.leakRate) (hlo : -2 ^ 63 ≤ lb.queue)
    (hhi : lb.queue < 2 ^ 63) (c : Call) :
    0 < (lb.call c).2.leakRate ∧ -2 ^ 63 ≤ (lb.call c).2.queue ∧ (lb.call c).2.queue < 2 ^ 63 := by
  obtain ⟨hle, hge⟩ := @leakyBucket.leak_queue_le lb c.now
  cases c with
  | request n now =>
    simp only [Call.now] at hle hge
    simp only [leakyBucket.call, leakyBucket.TryAdd]
    split
    · exact ⟨hP, hlo, hhi⟩
    · split <;> dsimp only
      · exact ⟨by simpa using hP, by omega, by omega⟩
      · exact ⟨by simpa using hP, addInt64_ge _ _, addInt64_lt _ _⟩
  | status now =>
    simp only [Call.now] at hle hge
    simp only [leakyBucket.call, leakyBucket.GetStatus, leakyBucket.leak_leakRate]
    exact ⟨hP, by omega, by omega⟩

/-- A clock reading before the leak clock counts no period. -/
theorem leakyBucket.leak_of_lt (hP : 0 < lb.leakRate) (h : now < lb.lastLeak) : lb.leak now = lb := by
  have := tdiv_nonpos_of_neg (by omega : now - lb.lastLeak < 0) hP
  rw [leakyBucket.leak, if_neg (by omega)]

/-- Two leaks compose into one: draining at `t1` and then at `t2` is draining at `t2`, also when
    the queue empties partway, since the leak clock advances only by the requests drained. -/
theorem leakyBucket.leak_leak (hP : 0 < lb.leakRate) {t1 t2 : Int} (ht : t1 ≤ t2) :
    (lb.leak t1).leak t2 = lb.leak t2 := by
  by_cases hL : t1 < lb.lastLeak
  · rw [leakyBucket.leak_of_lt hP hL]
  obtain ⟨C, q, P, L⟩ := lb
  simp only at hP hL ⊢
  have hadv := Int.ediv_mul_le (t1 - L) hP.ne'
  have hmono : (t1 - L) / P ≤ (t2 - L) / P := Int.ediv_le_ediv hP (by omega)
  rw [@leakyBucket.leak_eq ⟨C, q, P, L⟩ t1 (by simp only; omega) hP]
  simp only
  split
  · have hr : Min.min ((t1 - L) / P) q * P ≤ (t1 - L) / P * P :=
      Int.mul_le_mul_of_nonneg_right (min_le_left _ _) hP.le
    rw [@leakyBucket.leak_eq ⟨C, q, P, L⟩ t2 (by simp only; omega) hP,
      leakyBucket.leak_eq (by simp only; omega) hP]
    simp only [sub_add_mul_ediv hP, if_pos (show 0 < (t2 - L) / P ∧ 0 < q by omega)]
    split
    · -- both drains together remove `min(periods, queue)` requests
      have hsum : Min.min ((t1 - L) / P) q +
          Min.min ((t2 - L) / P - Min.min ((t1 - L) / P) q) (q - Min.min ((t1 - L) / P) q) =
          Min.min ((t2 - L) / P) q := by omega
      simp only [leakyBucket.mk.injEq, true_and]
      exact ⟨by omega, by rw [← hsum]; ring⟩
    · have hr : Min.min ((t1 - L) / P) q = Min.min ((t2 - L) / P) q := by omega
      simp only [hr]
  · rfl

end Leak

/-- The unchecked `int64` sum in `TryAdd` wraps: after one queued request, a request for
    `math.MaxInt64` more is accepted and leaves the queue at `math.MinInt64`. -/
theorem leakyBucket_queue_overflow :
    ((NewLeakyBucket 100 1000000000 0).TryAdd 1 0).2.TryAdd (2 ^ 63 - 1) 0 =
      (true, { capacity := 100, queue := -2 ^ 63, leakRate := 1000000000, lastLeak := 0 }) := by
  decide

end rate_limiter.services
