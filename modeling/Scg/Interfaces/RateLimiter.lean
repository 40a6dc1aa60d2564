import Mathlib.Data.Rat.Cast.Order
import Mathlib.Tactic.FieldSimp
import Mathlib.Tactic.NormNum
import Scg.Library.TokenBucket
import Scg.Policy.Decision

namespace Scg.Interfaces
open Policy (Instant)
open TokenBucket

def asSecs (nanos : Nat) : ℚ := nanos/10^9

def BUCKET_IDLE_EVICT : Nat := 120*10^9

structure RateLimiter where
  buckets : Buckets UInt32 Instant ℚ

namespace RateLimiter

def new : RateLimiter := ⟨fun _ => none⟩

def evictIdle (limiter : RateLimiter) (now : Instant) : RateLimiter :=
  ⟨fun uid => (limiter.buckets uid).filter fun bucket => now-bucket.touched < BUCKET_IDLE_EVICT⟩

def allowUnevicted (limiter : RateLimiter) (uid perMin : UInt32) (now : Instant) : Bool × RateLimiter :=
  let cap : ℚ := max perMin.toNat 1
  let refillPerS : ℚ := perMin.toNat/60
  let entry := (limiter.buckets uid).getD ⟨cap,now⟩
  let elapsed := asSecs (now-entry.touched)
  let tokens := min (entry.tokens+elapsed*refillPerS) cap
  if tokens ≥ 1 then (true,⟨Function.update limiter.buckets uid (some ⟨tokens-1,now⟩)⟩)
  else (false,⟨Function.update limiter.buckets uid (some ⟨tokens,now⟩)⟩)

def allowAt (limiter : RateLimiter) (uid perMin : UInt32) (now : Instant) : Bool × RateLimiter :=
  (limiter.evictIdle now).allowUnevicted uid perMin now

def answersBy (allow : RateLimiter → UInt32 → Instant → Bool × RateLimiter) :
    RateLimiter → List (UInt32 × Instant) → List Bool
  | _,[] => []
  | limiter,(uid,now) :: rest => (allow limiter uid now).1 :: answersBy allow (allow limiter uid now).2 rest

def answers (perMin : UInt32) (requests : List (UInt32 × Instant)) : List Bool :=
  answersBy (fun limiter uid now => limiter.allowAt uid perMin now) new requests

def answersUnevicted (perMin : UInt32) (requests : List (UInt32 × Instant)) : List Bool :=
  answersBy (fun limiter uid now => limiter.allowUnevicted uid perMin now) new requests

end RateLimiter

theorem asSecs_add (a b : Nat) : asSecs (a+b) = asSecs a+asSecs b := by
  unfold asSecs
  push_cast
  ring

theorem asSecs_lt : asSecs a < asSecs b ↔ a < b := by
  unfold asSecs
  rw [div_lt_div_iff_of_pos_right (by positivity)]
  exact Nat.cast_lt

theorem asSecs_sub (order : a ≤ b) : asSecs (b-a) = asSecs b-asSecs a := by
  rw [eq_sub_iff_add_eq,← asSecs_add,Nat.sub_add_cancel order]

def monotonic : Clock Instant ℚ where
  elapsed touched now := asSecs (now-touched)
  nonneg _ _ := by unfold asSecs; positivity
  additive {a b c} first second := by
    rw [asSecs_sub (first.trans second),asSecs_sub first,asSecs_sub second]
    ring

def limits (perMin : UInt32) : Limits Instant ℚ where
  toClock := monotonic
  cap := max perMin.toNat 1
  rate := perMin.toNat/60
  cap_nonneg := by positivity
  rate_nonneg := by positivity

section Refinement
variable (limiter : RateLimiter)

theorem limits_cap (least : 1 ≤ perMin) : (limits perMin).cap = perMin.toNat := by
  have positive : (1 : ℚ) ≤ perMin.toNat := Nat.one_le_cast.mpr (UInt32.le_iff_toNat_le.mp least)
  exact max_eq_left positive

theorem evictIdle_forget : (limiter.evictIdle now).buckets = forget (limits perMin) 120 limiter.buckets now := by
  have idle (bucket : Bucket Instant ℚ) : now-bucket.touched < BUCKET_IDLE_EVICT ↔
      (limits perMin).elapsed bucket.touched now < 120 := by
    have whole : asSecs BUCKET_IDLE_EVICT = 120 := by norm_num [asSecs,BUCKET_IDLE_EVICT]
    rw [← asSecs_lt,whole]
    rfl
  funext uid
  simp only [RateLimiter.evictIdle,forget,idle]

theorem level_entry : level (limits perMin) (limiter.buckets uid) now =
    min (((limiter.buckets uid).getD ⟨(limits perMin).cap,now⟩).tokens+
      asSecs (now-((limiter.buckets uid).getD ⟨(limits perMin).cap,now⟩).touched)*(limits perMin).rate)
      (limits perMin).cap := by
  cases limiter.buckets uid with
  | none => simp [level,asSecs]
  | some bucket => rfl

theorem allow_asks (uid : UInt32) (now : Instant) :
    (limiter.allowUnevicted uid perMin now).1 = (ask (limits perMin) limiter.buckets uid now).1 ∧
    (limiter.allowUnevicted uid perMin now).2.buckets = (ask (limits perMin) limiter.buckets uid now).2 := by
  have allows : limiter.allowUnevicted uid perMin now =
      if 1 ≤ level (limits perMin) (limiter.buckets uid) now then
        (true,⟨Function.update limiter.buckets uid (some ⟨level (limits perMin) (limiter.buckets uid) now-1,now⟩)⟩)
      else (false,⟨Function.update limiter.buckets uid (some ⟨level (limits perMin) (limiter.buckets uid) now,now⟩)⟩) := by
    rw [level_entry]
    rfl
  rw [allows,ask,take]
  split <;> exact ⟨rfl,rfl⟩

theorem answersBy_sweeps {evict : RateLimiter → Instant → RateLimiter}
    {sweep : Buckets UInt32 Instant ℚ → Instant → Buckets UInt32 Instant ℚ}
    (sweeps : ∀ limiter now, (evict limiter now).buckets = sweep limiter.buckets now) (requests : List (UInt32 × Instant)) :
    RateLimiter.answersBy (fun limiter uid now => (evict limiter now).allowUnevicted uid perMin now) limiter requests =
      TokenBucket.answers (limits perMin) sweep limiter.buckets requests := by
  induction requests generalizing limiter with
  | nil => rfl
  | cons request rest ih =>
    obtain ⟨uid,now⟩ := request
    obtain ⟨answer,left⟩ := allow_asks (evict limiter now) uid now
    rw [RateLimiter.answersBy,TokenBucket.answers,ih,answer,left,sweeps]

end Refinement

section Answers
theorem answersUnevicted_keeps : RateLimiter.answersUnevicted perMin requests =
    TokenBucket.answers (limits perMin) keep RateLimiter.new.buckets requests :=
  answersBy_sweeps RateLimiter.new (fun _ _ => rfl) requests

theorem answers_unevicted (least : 1 ≤ perMin) (forward : Forward requests) :
    RateLimiter.answers perMin requests = RateLimiter.answersUnevicted perMin requests := by
  have enough : (limits perMin).cap ≤ 120*(limits perMin).rate := by
    rw [limits_cap least]
    change (perMin.toNat : ℚ) ≤ 120*(perMin.toNat/60)
    linarith
  have empty : Sound RateLimiter.new.buckets (0 : Instant) := ⟨nofun,nofun⟩
  rw [answersUnevicted_keeps]
  exact (answersBy_sweeps RateLimiter.new (fun limiter _ => evictIdle_forget limiter) requests).trans
    (answers_alike enough empty (fun _ => .inl rfl) forward fun request _ => Nat.zero_le request.2)

theorem window_span (opened : start ≤ asSecs one) (closed : asSecs two ≤ start+w)
    (order : one ≤ two) : (limits perMin).elapsed one two ≤ w := by
  change asSecs (two-one) ≤ w
  rw [asSecs_sub order]
  linarith

end Answers

theorem rate_limiter_exact (perMin : UInt32) (least : 1 ≤ perMin) (requests : List (UInt32 × Instant))
    (forward : Forward requests) :
    RateLimiter.answers perMin requests = RateLimiter.answersUnevicted perMin requests ∧
      (∀ uid, answersOf uid requests (RateLimiter.answers perMin requests) =
        RateLimiter.answers perMin (requests.filter fun request => request.1 = uid)) ∧
      ∀ (uid : UInt32) (start w : ℚ), 0 ≤ w →
        (admitted uid (fun now => start ≤ asSecs now ∧ asSecs now ≤ start+w) requests
          (RateLimiter.answers perMin requests) : ℚ) ≤ perMin.toNat+w*perMin.toNat/60 := by
  have alone (uid : UInt32) : Forward (requests.filter fun request => request.1 = uid) := forward.filter _
  refine ⟨answers_unevicted least forward,fun uid => ?_,fun uid start w long => ?_⟩
  · rw [answers_unevicted least forward,answers_unevicted least (alone uid),answersUnevicted_keeps,
      answersUnevicted_keeps]
    exact answers_alone rfl
  · rw [answers_unevicted least forward,answersUnevicted_keeps]
    calc _ ≤ (limits perMin).cap+w*(limits perMin).rate :=
          admitted_window forward (fun _ held => (Option.some_ne_none _ held.symm).elim) long
            fun one _ two _ opened closed => window_span (of_decide_eq_true opened).1 (of_decide_eq_true closed).2
      _ = perMin.toNat+w*perMin.toNat/60 := by
          rw [limits_cap least,mul_div_assoc]
          rfl

-- Two requests within a minute, one of another user and one after the bucket has filled again.
theorem rate_limiter_exact_one : RateLimiter.answers 1 [(7,0),(7,10^9),(8,10^9),(7,10^12)] = [true,false,true,true] ∧
      RateLimiter.answers 1 [(7,0),(7,10^9),(8,10^9),(7,10^12)] =
        RateLimiter.answersUnevicted 1 [(7,0),(7,10^9),(8,10^9),(7,10^12)] :=
  ⟨by decide +kernel,(rate_limiter_exact 1 (by decide) [(7,0),(7,10^9),(8,10^9),(7,10^12)] (by unfold Forward; decide)).1⟩

end Scg.Interfaces
