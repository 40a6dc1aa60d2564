import Mathlib.Algebra.Order.Field.Basic
import Mathlib.Tactic.Linarith
import Mathlib.Tactic.Ring

namespace TokenBucket
open List Function

structure Clock (T K : Type) [LinearOrder T] [Field K] [LinearOrder K] where
  elapsed : T → T → K
  nonneg : ∀ a b, 0 ≤ elapsed a b
  additive : ∀ {a b c}, a ≤ b → b ≤ c → elapsed a c = elapsed a b + elapsed b c

structure Limits (T K : Type) [LinearOrder T] [Field K] [LinearOrder K] extends Clock T K where
  cap : K
  rate : K
  cap_nonneg : 0 ≤ cap
  rate_nonneg : 0 ≤ rate

structure Bucket (T K : Type) where
  tokens : K
  touched : T

variable {T K Key : Type} [LinearOrder T] [Field K] [LinearOrder K] [DecidableEq Key]

def level (limits : Limits T K) (bucket : Option (Bucket T K)) (now : T) : K :=
  match bucket with
  | none => limits.cap
  | some bucket => min (bucket.tokens+limits.elapsed bucket.touched now*limits.rate) limits.cap

def take (limits : Limits T K) (bucket : Option (Bucket T K)) (now : T) : Bool × Bucket T K :=
  if 1 ≤ level limits bucket now then (true,⟨level limits bucket now-1,now⟩) else (false,⟨level limits bucket now,now⟩)

abbrev Buckets (Key T K : Type) := Key → Option (Bucket T K)

def ask (limits : Limits T K) (buckets : Buckets Key T K) (key : Key) (now : T) : Bool × Buckets Key T K :=
  ((take limits (buckets key) now).1,Function.update buckets key (some (take limits (buckets key) now).2))

def forget (limits : Limits T K) (idle : K) (buckets : Buckets Key T K) (now : T) : Buckets Key T K :=
  fun key => (buckets key).filter fun bucket => limits.elapsed bucket.touched now < idle

def answers (limits : Limits T K) (sweep : Buckets Key T K → T → Buckets Key T K) :
    Buckets Key T K → List (Key × T) → List Bool
  | _,[] => []
  | buckets,(key,now) :: rest =>
    (ask limits (sweep buckets now) key now).1 :: answers limits sweep (ask limits (sweep buckets now) key now).2 rest

def keep (buckets : Buckets Key T K) (_ : T) : Buckets Key T K := buckets

def Forward (requests : List (Key × T)) : Prop := requests.Pairwise fun earlier later => earlier.2 ≤ later.2

variable {limits : Limits T K} {key : Key} {requests : List (Key × T)}

structure Sound (buckets : Buckets Key T K) (now : T) : Prop where
  tokens : ∀ key bucket, buckets key = some bucket → 0 ≤ bucket.tokens
  touched : ∀ key bucket, buckets key = some bucket → bucket.touched ≤ now

theorem level_le_cap (bucket : Option (Bucket T K)) : level limits bucket now ≤ limits.cap := by
  unfold level
  split
  · exact le_rfl
  · exact min_le_right _ _

theorem take_touched (bucket : Option (Bucket T K)) : (take limits bucket now).2.touched = now := by
  unfold take
  split <;> rfl

theorem take_tokens (bucket : Option (Bucket T K)) :
    (take limits bucket now).2.tokens = level limits bucket now-(if (take limits bucket now).1 then 1 else 0) := by
  unfold take
  split <;> simp

theorem take_level (same : level limits one now = level limits two now) :
    take limits one now = take limits two now := by
  unfold take
  rw [same]

section Ordered
variable [IsStrictOrderedRing K]

theorem level_nonneg {bucket : Option (Bucket T K)} (tokens : ∀ held, bucket = some held → 0 ≤ held.tokens) :
    0 ≤ level limits bucket now := by
  unfold level
  split
  · exact limits.cap_nonneg
  · rename_i held
    have filled : 0 ≤ limits.elapsed held.touched now*limits.rate := mul_nonneg (limits.nonneg _ _) limits.rate_nonneg
    exact le_min (by linarith [tokens held rfl]) limits.cap_nonneg

theorem take_nonneg {bucket : Option (Bucket T K)} (tokens : ∀ held, bucket = some held → 0 ≤ held.tokens) :
    0 ≤ (take limits bucket now).2.tokens := by
  unfold take
  split
  · simpa using ‹1 ≤ level limits bucket now›
  · exact level_nonneg tokens

theorem ask_sound (sound : Sound buckets now) (forward : now ≤ later) :
    Sound (ask limits buckets key later).2 later := by
  have cases (name : Key) (bucket : Bucket T K) (held : (ask limits buckets key later).2 name = some bucket) :
      bucket = (take limits (buckets key) later).2 ∨ buckets name = some bucket := by
    by_cases same : name = key
    · subst same
      simp only [ask,update_self,Option.some.injEq] at held
      exact .inl held.symm
    · simp only [ask,update_of_ne same] at held
      exact .inr held
  constructor
  · intro name bucket held
    rcases cases name bucket held with rfl | kept
    · exact take_nonneg fun b there => sound.tokens key b there
    · exact sound.tokens name bucket kept
  · intro name bucket held
    rcases cases name bucket held with rfl | kept
    · exact (take_touched _).le
    · exact (sound.touched name bucket kept).trans forward

-- Swept buckets against kept ones: what is gone would be full from now on.
def Alike (limits : Limits T K) (now : T) (swept kept : Buckets Key T K) : Prop :=
  ∀ key, swept key = kept key ∨
    swept key = none ∧ ∀ later, now ≤ later → level limits (kept key) later = limits.cap

theorem level_full (enough : limits.cap ≤ idle*limits.rate) (tokens : 0 ≤ bucket.tokens)
    (long : idle ≤ limits.elapsed bucket.touched now) : level limits (some bucket) now = limits.cap := by
  have filled := mul_le_mul_of_nonneg_right long limits.rate_nonneg
  exact min_eq_right (by linarith)

omit [DecidableEq Key] in
theorem forget_alike (enough : limits.cap ≤ idle*limits.rate) (sound : Sound other now)
    (alike : Alike limits now buckets other) (forward : now ≤ later) :
    Alike limits later (forget limits idle buckets later) other := by
  intro key
  rcases alike key with same | ⟨gone,full⟩
  · cases held : other key with
    | none =>
      left
      simp [forget,same,held]
    | some bucket =>
      by_cases recent : limits.elapsed bucket.touched later < idle
      · left
        simp [forget,same,held,recent]
      · right
        have long := not_lt.mp recent
        refine ⟨by simp [forget,same,held,long],fun beyond after => ?_⟩
        have split := limits.additive ((sound.touched key bucket held).trans forward) after
        have grown := limits.nonneg later beyond
        exact level_full enough (sound.tokens key bucket held) (by linarith)
  · right
    exact ⟨by simp [forget,gone],fun beyond after => full beyond (forward.trans after)⟩

omit [IsStrictOrderedRing K] in
theorem ask_alike (alike : Alike limits now buckets other) (key : Key) :
    (ask limits buckets key now).1 = (ask limits other key now).1 ∧
      Alike limits now (ask limits buckets key now).2 (ask limits other key now).2 := by
  have same : take limits (buckets key) now = take limits (other key) now := by
    apply take_level
    rcases alike key with equal | ⟨gone,full⟩
    · rw [equal]
    · rw [gone,full now le_rfl]
      rfl
  refine ⟨by rw [ask,ask,same],fun name => ?_⟩
  by_cases here : name = key
  · subst here
    left
    simp [ask,same]
  · simpa [ask,here] using alike name

theorem answers_alike (enough : limits.cap ≤ idle*limits.rate) (sound : Sound other now)
    (alike : Alike limits now buckets other) (forward : Forward requests) (after : ∀ request ∈ requests, now ≤ request.2) :
    answers limits (forget limits idle) buckets requests = answers limits keep other requests := by
  induction requests generalizing buckets other now with
  | nil => rfl
  | cons request rest ih =>
    obtain ⟨key,time⟩ := request
    obtain ⟨first,forward⟩ := pairwise_cons.mp forward
    have next : now ≤ time := after _ mem_cons_self
    obtain ⟨answer,alike⟩ := ask_alike (forget_alike enough sound alike next) key
    rw [answers,answer]
    exact congrArg _ (ih (ask_sound sound next) alike forward first)

def answersOf (key : Key) (requests : List (Key × T)) (given : List Bool) : List Bool :=
  ((requests.zip given).filter fun (request,_) => request.1 = key).map Prod.snd

section Counting
variable {window : T → Bool}

omit [LinearOrder T] in
theorem answersOf_here : answersOf key ((key,now) :: requests) (answer :: given) = answer :: answersOf key requests given := by
  simp [answersOf]

omit [LinearOrder T] in
theorem answersOf_elsewhere (different : name ≠ key) :
    answersOf key ((name,now) :: requests) (answer :: given) = answersOf key requests given := by
  simp [answersOf,different]

def admitted (key : Key) (window : T → Bool) (requests : List (Key × T)) (given : List Bool) : Nat :=
  (requests.zip given).countP fun (request,answer) => request.1 = key && window request.2 && answer

omit [LinearOrder T] in
theorem admitted_cons : admitted key window ((name,now) :: requests) (answer :: given) =
    admitted key window requests given+(if name = key ∧ window now = true ∧ answer = true then 1 else 0) := by
  simp [admitted,countP_cons,and_assoc]

omit [LinearOrder T] in
theorem admitted_none (closed : ∀ request ∈ requests, window request.2 = false) :
    admitted key window requests given = 0 := by
  rw [admitted,countP_eq_zero]
  rintro ⟨request,answer⟩ present
  simp [closed request (of_mem_zip present).1]

end Counting

omit [IsStrictOrderedRing K] in
theorem answers_alone (same : buckets key = other key) :
    answersOf key requests (answers limits keep buckets requests) =
      answers limits keep other (requests.filter fun request => request.1 = key) := by
  induction requests generalizing buckets other with
  | nil => rfl
  | cons request rest ih =>
    obtain ⟨name,now⟩ := request
    by_cases here : name = key
    · subst here
      have step : (ask limits (keep buckets now) name now).1 = (ask limits (keep other now) name now).1 := by
        simp [ask,keep,same]
      have next : (ask limits (keep buckets now) name now).2 name = (ask limits (keep other now) name now).2 name := by
        simp [ask,keep,same]
      rw [answers,answersOf_here,ih next,step,filter_cons_of_pos (by simp)]
      rfl
    · have next : (ask limits (keep buckets now) name now).2 key = other key := by simp [ask,keep,Ne.symm here,same]
      rw [answers,answersOf_elsewhere here,ih next,filter_cons_of_neg (by simp [here])]

theorem admitted_ask {window : T → Bool} {span : K}
    (counted : (admitted key window requests (answers limits keep (ask limits buckets key now).2 requests) : K) ≤
      (take limits (buckets key) now).2.tokens+span*limits.rate) :
    (admitted key window ((key,now) :: requests) (answers limits keep buckets ((key,now) :: requests)) : K) ≤
      level limits (buckets key) now+span*limits.rate := by
  rw [take_tokens] at counted
  rw [answers,admitted_cons,Nat.cast_add]
  have one : ((if key = key ∧ window now = true ∧ (take limits (buckets key) now).1 = true then 1 else 0 : Nat) : K) ≤
      if (take limits (buckets key) now).1 then 1 else 0 := by
    cases (take limits (buckets key) now).1 <;> cases window now <;> simp
  have total := add_le_add counted one
  simp only [ask,keep] at total ⊢
  linarith

theorem admitted_since {window : T → Bool} {span : K} (forward : Forward requests) (held : buckets key = some bucket)
    (tokens : 0 ≤ bucket.tokens) (after : ∀ request ∈ requests, bucket.touched ≤ request.2) (long : 0 ≤ span)
    (within : ∀ request ∈ requests, window request.2 = true → limits.elapsed bucket.touched request.2 ≤ span) :
    (admitted key window requests (answers limits keep buckets requests) : K) ≤ bucket.tokens+span*limits.rate := by
  induction requests generalizing buckets bucket span with
  | nil =>
    have filled := mul_nonneg long limits.rate_nonneg
    simp only [admitted,zip_nil_left,countP_nil,Nat.cast_zero]
    linarith
  | cons request rest ih =>
    obtain ⟨name,now⟩ := request
    obtain ⟨first,forward⟩ := pairwise_cons.mp forward
    have behind := fun later present => after later (mem_cons_of_mem _ present)
    have closer := fun later present => within later (mem_cons_of_mem _ present)
    have reached := after _ mem_cons_self
    by_cases near : limits.elapsed bucket.touched now ≤ span
    · by_cases here : name = key
      · subst here
        have filled : level limits (buckets name) now ≤ bucket.tokens+limits.elapsed bucket.touched now*limits.rate := by
          rw [held]
          exact min_le_left _ _
        have counted : (admitted name window rest (answers limits keep (ask limits buckets name now).2 rest) : K) ≤
            (take limits (buckets name) now).2.tokens+(span-limits.elapsed bucket.touched now)*limits.rate := by
          refine ih forward (update_self name _ _) (take_nonneg fun b there => ?_) ?_ (by linarith) ?_
          · rw [held] at there
            cases there
            exact tokens
          · rwa [take_touched]
          · intro later present inside
            rw [take_touched]
            have split := limits.additive reached (first later present)
            linarith [closer later present inside]
        have total := admitted_ask counted
        linarith
      · have next : (ask limits (keep buckets now) name now).2 key = some bucket := by
          simp [ask,keep,Ne.symm here,held]
        rw [answers,admitted_cons]
        simpa [here] using ih forward next tokens behind long closer
    · -- The first request is past the window already.
      have closed : ∀ request ∈ (name,now) :: rest, window request.2 = false := by
        intro request present
        by_contra opened
        have inside := within request present (by simpa using opened)
        have order : now ≤ request.2 := by
          rcases mem_cons.mp present with rfl | present
          · exact le_rfl
          · exact first request present
        have split := limits.additive reached order
        have grown := limits.nonneg now request.2
        linarith
      rw [admitted_none closed]
      have filled := mul_nonneg long limits.rate_nonneg
      rw [Nat.cast_zero]
      linarith

theorem admitted_window {window : T → Bool} {span : K} (forward : Forward requests)
    (tokens : ∀ bucket, buckets key = some bucket → 0 ≤ bucket.tokens) (long : 0 ≤ span)
    (within : ∀ one ∈ requests, ∀ two ∈ requests, window one.2 = true → window two.2 = true → one.2 ≤ two.2 →
      limits.elapsed one.2 two.2 ≤ span) :
    (admitted key window requests (answers limits keep buckets requests) : K) ≤ limits.cap+span*limits.rate := by
  induction requests generalizing buckets with
  | nil =>
    have filled := mul_nonneg long limits.rate_nonneg
    simp only [admitted,zip_nil_left,countP_nil,Nat.cast_zero]
    linarith [limits.cap_nonneg]
  | cons request rest ih =>
    obtain ⟨name,now⟩ := request
    obtain ⟨first,forward⟩ := pairwise_cons.mp forward
    have closer := fun one here two there => within one (mem_cons_of_mem _ here) two (mem_cons_of_mem _ there)
    by_cases here : name = key ∧ window now = true
    · obtain ⟨rfl,inside⟩ := here
      have counted : (admitted name window rest (answers limits keep (ask limits buckets name now).2 rest) : K) ≤
          (take limits (buckets name) now).2.tokens+span*limits.rate := by
        refine admitted_since forward (update_self name _ _) (take_nonneg tokens) ?_ long ?_
        · rwa [take_touched]
        · intro later present opened
          rw [take_touched]
          exact within _ mem_cons_self later (mem_cons_of_mem _ present) inside opened (first later present)
      have total := admitted_ask counted
      have capped : level limits (buckets name) now ≤ limits.cap := level_le_cap _
      linarith
    · have skipped : ¬ (name = key ∧ window now = true ∧ (ask limits (keep buckets now) name now).1 = true) :=
        fun ⟨same,opened,_⟩ => here ⟨same,opened⟩
      rw [answers,admitted_cons,if_neg skipped]
      refine ih forward (fun bucket held => ?_) closer
      by_cases same : key = name
      · subst same
        simp only [ask,update_self,Option.some.injEq] at held
        exact held ▸ take_nonneg tokens
      · simp only [ask,update_of_ne same] at held
        exact tokens bucket held

end Ordered

end TokenBucket
