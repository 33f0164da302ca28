import CongestionFabric.Foundation.Exact
import CongestionFabric.Foundation.Meter
import CongestionFabric.Model.Domain

/-!
Contract: the calls of a token bucket (`shaping.hpp`).

Owns:
- `refill` and `try_consume`, in any arithmetic;
- that without rounding a bucket is a meter, call by call;
- the bounds on its tokens and on what it releases between any two calls.

Does not own: `set_rate` and `set_burst`, which nothing calls; the engine replaces
the whole bucket of a domain.
-/

namespace CongestionFabric

open Foundation

/-- A call of `refill` or of `try_consume`. -/
inductive BucketCall (R : Type) where
  | refill (nowS : R)
  | tryConsume (bytes : R)

/-- The call with numbers for its rational arguments. -/
def BucketCall.exact : BucketCall ℚ → BucketCall Exact
  | .refill nowS => .refill (.number nowS)
  | .tryConsume bytes => .tryConsume (.number bytes)

/-- The largest timestamp among the calls, from `0`. -/
def latestTimestamp (calls : List (BucketCall ℚ)) : ℚ :=
  calls.foldl (fun latest call =>
    match call with
    | .refill nowS => max latest nowS
    | .tryConsume _ => latest) 0

namespace TokenBucket

variable {R : Type} [Arithmetic R]

/-- `refill`: a timestamp that is not later than the last one changes nothing. -/
def refill (bucket : TokenBucket R) (nowS : R) : TokenBucket R :=
  let elapsed := nowS - bucket.lastRefillS
  if elapsed > 0.0 then
    { bucket with
      tokens := Arithmetic.stdMin bucket.capacity (bucket.tokens + elapsed * bucket.rate)
      lastRefillS := nowS }
  else
    bucket

/-- `try_consume`. -/
def tryConsume (bucket : TokenBucket R) (bytes : R) : TokenBucket R × Bool :=
  if bytes < 0.0 then (bucket, false)
  else if bucket.tokens ≥ bytes then ({ bucket with tokens := bucket.tokens - bytes }, true)
  else (bucket, false)

/-- The bucket after a call. -/
def after (bucket : TokenBucket R) : BucketCall R → TokenBucket R
  | .refill nowS => bucket.refill nowS
  | .tryConsume bytes => (bucket.tryConsume bytes).1

/-- The bytes a call consumes: all it asks for, or none. -/
def consumed (bucket : TokenBucket R) : BucketCall R → R
  | .refill _ => 0.0
  | .tryConsume bytes => if (bucket.tryConsume bytes).2 then bytes else 0.0

end TokenBucket

/-! ## A bucket is a meter -/

/-- What a call does to a meter. -/
def BucketCall.act : BucketCall ℚ → MeterAct ℚ
  | .refill nowS => .advance nowS
  | .tryConsume bytes => .draw bytes

theorem latestTimestamp_eq (calls : List (BucketCall ℚ)) :
    latestTimestamp calls = (calls.map BucketCall.act).foldl MeterAct.later 0 := by
  rw [List.foldl_map, latestTimestamp]
  congr 1
  funext latest call
  cases call with
  | refill nowS => rfl
  | tryConsume bytes => rfl

namespace TokenBucket

variable {terms : MeterTerms ℚ}

/-- The bucket that reads as a meter. -/
def ofMeter (meter : Meter terms) : TokenBucket Exact where
  rate := .number terms.rate
  capacity := .number terms.limit
  tokens := .number meter.level
  lastRefillS := .number meter.seen

theorem full_eq_ofMeter (terms : MeterTerms ℚ) :
    full (.number terms.rate) (.number terms.limit) = ofMeter (.full terms) := by
  unfold full ofMeter
  rw [Exact.zero_eq]
  rfl

theorem refill_ofMeter (meter : Meter terms) (now : ℚ) :
    (ofMeter meter).refill (.number now) = ofMeter (meter.after (.advance now)) := by
  simp only [refill, ofMeter, Meter.after, Exact.number_sub, Exact.zero_eq, gt_iff_lt,
    Exact.number_lt, sub_pos, Exact.number_mul, Exact.number_add, Exact.stdMin_number]
  split
  · rfl
  · rfl

theorem tryConsume_ofMeter (meter : Meter terms) (bytes : ℚ) :
    (ofMeter meter).tryConsume (.number bytes) =
      (ofMeter (meter.after (.draw bytes)), decide (meter.Grants bytes)) := by
  simp only [tryConsume, ofMeter, Meter.after, Exact.number_sub, Exact.zero_eq, ge_iff_le,
    Exact.number_lt, Exact.number_le]
  by_cases negative : bytes < 0
  · have refused : ¬meter.Grants bytes := fun granted => negative.not_ge granted.1
    rw [if_pos negative, dif_neg refused, decide_eq_false refused]
  · rw [if_neg negative]
    by_cases enough : bytes ≤ meter.level
    · have granted : meter.Grants bytes := ⟨not_lt.mp negative, enough⟩
      rw [if_pos enough, dif_pos granted, decide_eq_true granted]
    · have refused : ¬meter.Grants bytes := fun granted => enough granted.2
      rw [if_neg enough, dif_neg refused, decide_eq_false refused]

/-- A call does to the bucket what its act does to the meter. -/
theorem after_ofMeter (meter : Meter terms) (call : BucketCall ℚ) :
    (ofMeter meter).after call.exact = ofMeter (meter.after call.act) := by
  cases call with
  | refill nowS => exact refill_ofMeter meter nowS
  | tryConsume bytes => exact congrArg Prod.fst (tryConsume_ofMeter meter bytes)

theorem consumed_ofMeter (meter : Meter terms) (call : BucketCall ℚ) :
    (ofMeter meter).consumed call.exact = .number (meter.drawn call.act) := by
  cases call with
  | refill nowS => exact Exact.zero_eq
  | tryConsume bytes =>
      simp only [BucketCall.exact, BucketCall.act, consumed, Meter.drawn, tryConsume_ofMeter,
        decide_eq_true_eq, Exact.zero_eq]
      split
      · rfl
      · rfl

theorem follow_ofMeter (calls : List (BucketCall ℚ)) :
    ∀ meter : Meter terms, follow after (calls.map BucketCall.exact) (ofMeter meter) =
      ofMeter (follow Meter.after (calls.map BucketCall.act) meter) := by
  induction calls with
  | nil =>
      intro meter
      rfl
  | cons call rest inductionHypothesis =>
      intro meter
      rw [List.map_cons, List.map_cons, follow, follow, after_ofMeter, inductionHypothesis]

theorem consumed_followed_ofMeter (calls : List (BucketCall ℚ)) :
    ∀ meter : Meter terms,
      (followed after (calls.map BucketCall.exact) (ofMeter meter)).map
          (fun taken => taken.1.consumed taken.2) =
        ((followed Meter.after (calls.map BucketCall.act) meter).map
          fun taken => taken.1.drawn taken.2).map Exact.number := by
  induction calls with
  | nil =>
      intro meter
      rfl
  | cons call rest inductionHypothesis =>
      intro meter
      rw [List.map_cons, List.map_cons, followed, followed, List.map_cons, List.map_cons,
        List.map_cons, consumed_ofMeter, after_ofMeter, inductionHypothesis]

/-! ## No bandwidth is created -/

/-- Without rounding, after any calls the tokens of a bucket lie between zero and
its capacity; and the calls of any window that follows consume together no more
than the capacity and the rate times what the window adds to the latest
timestamp. -/
theorem consumed_le_capacity_add_rate {rate burst : ℚ} (rateNonneg : 0 ≤ rate)
    (burstNonneg : 0 ≤ burst) (calls window : List (BucketCall ℚ)) :
    let opened := follow after (calls.map BucketCall.exact)
      (full (Exact.number rate) (Exact.number burst))
    opened.capacity = .number burst ∧
      0.0 ≤ opened.tokens ∧ opened.tokens ≤ opened.capacity ∧
      ∃ consumed,
        Exact.total ((followed after (window.map BucketCall.exact) opened).map
          fun taken => taken.1.consumed taken.2) = .number consumed ∧
        consumed ≤
          burst + rate * (latestTimestamp (calls ++ window) - latestTimestamp calls) := by
  let terms : MeterTerms ℚ := ⟨rate, burst, rateNonneg, burstNonneg⟩
  let meter : Meter terms := follow Meter.after (calls.map BucketCall.act) (.full terms)
  have opened : follow after (calls.map BucketCall.exact)
      (full (Exact.number rate) (Exact.number burst)) = ofMeter meter := by
    rw [full_eq_ofMeter terms, follow_ofMeter]
  have seen : meter.seen = latestTimestamp calls := by
    rw [Meter.follow_seen, latestTimestamp_eq]
    rfl
  have seenAfter : latestTimestamp (calls ++ window) =
      (window.map BucketCall.act).foldl MeterAct.later meter.seen := by
    rw [seen, latestTimestamp_eq, latestTimestamp_eq, List.map_append, List.foldl_append]
  simp only [opened, consumed_followed_ofMeter, Exact.total_number, seenAfter, ← seen]
  refine ⟨rfl, ?_, Exact.number_le.mpr meter.levelLeLimit, _, rfl, ?_⟩
  · rw [Exact.zero_eq]
    exact Exact.number_le.mpr meter.levelNonneg
  · exact meter.drawn_le (window.map BucketCall.act)

/-- The bound is attained: 5 bytes that were saved, none for a clock that runs back,
and 2 for a second. -/
theorem consumed_eq_capacity_add_rate :
    let opened := follow after (([.refill 3] : List (BucketCall ℚ)).map BucketCall.exact)
      (full (Exact.number 2) (Exact.number 5))
    let window : List (BucketCall ℚ) := [.tryConsume 5, .refill 1, .refill 4, .tryConsume 2]
    Exact.total ((followed after (window.map BucketCall.exact) opened).map
        fun taken => taken.1.consumed taken.2) = .number 7 ∧
      (7 : ℚ) ≤ 5 + 2 * (latestTimestamp ([.refill 3] ++ window) -
        latestTimestamp [.refill 3]) := by
  obtain ⟨-, -, -, consumed, total, bound⟩ :=
    consumed_le_capacity_add_rate (by decide : (0 : ℚ) ≤ 2) (by decide : (0 : ℚ) ≤ 5)
      [.refill 3] [.tryConsume 5, .refill 1, .refill 4, .tryConsume 2]
  have seven : Exact.total ((followed after
      (([.tryConsume 5, .refill 1, .refill 4, .tryConsume 2] : List (BucketCall ℚ)).map
        BucketCall.exact)
      (follow after (([.refill 3] : List (BucketCall ℚ)).map BucketCall.exact)
        (full (Exact.number 2) (Exact.number 5)))).map
      fun taken => taken.1.consumed taken.2) = .number 7 := by
    decide +kernel
  obtain rfl : consumed = 7 := Exact.number.inj (total.symm.trans seven)
  exact ⟨seven, bound⟩

end TokenBucket

end CongestionFabric
