/-
`retry.py`. The function, the log function and the jitter are the caller's
surroundings. A delay is an integer or a float; the power of two in it is
converted to a double for a float only, and `time.sleep` does not take every
delay.
-/

import ImagePipeline.Common.Doubles
import ImagePipeline.Library.Itemwise
import ImagePipeline.Library.Stateful
import Mathlib.Tactic.Positivity

namespace ImagePipeline.Common

open Library

def maxAttempts : Nat := 3

/-- After the given attempt raised: the next one, or `none` when the loop is
left and the error raised again. -/
def nextAttempt (maxAttempts attempt : Nat) : Option Nat :=
  if attempt = maxAttempts then none else some (attempt + 1)

inductive Seconds where
  | int (value : Int)
  | float (value : PyFloat)

namespace Seconds

/-- The number itself. Python compares integers with floats exactly. -/
def exact : Seconds → PyFloat
  | .int value => .finite value
  | .float value => value

/-- `seconds * (2 ** power)`. -/
def timesPower (power : Nat) : Seconds → Except Exn Seconds
  | .int value => .ok (.int (value * 2 ^ power))
  | .float value =>
      if power < 1024 then .ok (.float (value.timesPower power)) else .error .overflowError

/-- The number is an integer beyond the doubles. -/
def isHuge : Seconds → Bool
  | .int value => PyFloat.ofRat value = .infinity (value < 0)
  | .float _ => false

def NonNegative (seconds : Seconds) : Prop := (PyFloat.finite 0).le seconds.exact = true

end Seconds

/-- The numbers `retry_with_backoff` is called with, and their defaults. -/
structure RetryOptions where
  maxAttempts : Nat := maxAttempts
  baseDelaySeconds : Seconds := .float (.literal 1 10)
  maxDelaySeconds : Seconds := .float (.finite 1)

/-- What is passed to `log_function`. -/
inductive RetryEvent where
  | retrySuccess (operation : Str) (attempts : Nat)
  | retryExhausted (operation : Str) (attempts : Nat) (error : Exn)
  | retryScheduled (operation : Str) (attempt nextAttempt : Nat) (delayMs : PyFloat) (error : Exn)
  deriving DecidableEq

/-- The draws of `random.uniform(0, upper)` after each attempt. -/
structure Jitter where
  draw : (attempt : Nat) → (upper : Seconds) → PyFloat
  inside : ∀ attempt upper, upper.NonNegative →
    (PyFloat.finite 0).le (draw attempt upper) = true ∧ (draw attempt upper).le upper.exact = true

/-- The jitter is as long as it can be. -/
def wholeDelay : Jitter :=
  { draw := fun _ upper => upper.exact
    inside := fun _ _ nonneg => ⟨nonneg, PyFloat.le_refl_of_nonneg nonneg⟩ }

/-- What `time.sleep` raises, if it does: its nanoseconds are an `int64`. -/
def sleepError (seconds : PyFloat) : Option Exn :=
  let nanoseconds := seconds.mul (.finite (10 ^ 9))
  if seconds = .nan then some .valueError
  else if (PyFloat.finite (2 ^ 63)).le nanoseconds || nanoseconds.lt (.finite (-2 ^ 63)) then
    some .overflowError
  else if seconds.lt (.finite 0) then some .valueError
  else none

/-- What `retry_with_backoff` uses of its surroundings besides the function. A
log call changes the state and does not raise. -/
structure Surroundings (σ : Type) where
  uniform : Jitter
  sleep : (seconds : PyFloat) → σ → σ
  logFunction : Option (RetryEvent → σ → σ)

namespace Surroundings

variable {σ : Type} (surroundings : Surroundings σ)

/-- `if log_function is not None: log_function(...)`. -/
def log (event : RetryEvent) (state : σ) : σ :=
  match surroundings.logFunction with
  | some logFunction => logFunction event state
  | none => state

end Surroundings

namespace RetryOptions

/-- `min(max_delay_seconds, base_delay_seconds * (2 ** (attempt - 1)))`. -/
def exponentialDelay (options : RetryOptions) (attempt : Nat) : Except Exn Seconds := do
  let product ← options.baseDelaySeconds.timesPower (attempt - 1)
  pure (if product.exact.lt options.maxDelaySeconds.exact then product
    else options.maxDelaySeconds)

/-- The `delay` after an attempt; `uniform` multiplies an integer with a float. -/
def delay (options : RetryOptions) (uniform : Jitter) (attempt : Nat) : Except Exn PyFloat := do
  let upper ← options.exponentialDelay attempt
  if upper.isHuge then .error .overflowError else pure (uniform.draw attempt upper)

end RetryOptions

/-! ### Delays -/

theorem nanoseconds_nonneg {seconds : PyFloat} (nonneg : (PyFloat.finite 0).le seconds = true) :
    (seconds.mul (.finite (10 ^ 9))).lt (.finite (-2 ^ 63)) = false := by
  rcases PyFloat.nonneg_cases nonneg with ⟨exact, above, rfl⟩ | rfl | rfl
  · rw [PyFloat.mul_finite above (by norm_num)]
    have order : (PyFloat.finite (-2 ^ 63)).le (.ofRat (exact * 10 ^ 9)) = true :=
      PyFloat.le_trans (by decide +kernel : _ = true)
        (PyFloat.ofRat_le le_rfl (mul_nonneg above (by norm_num)))
    rw [PyFloat.lt, order]
    exact Bool.and_false _
  · decide +kernel
  · decide +kernel

theorem sleepError_nonneg {seconds : PyFloat} (nonneg : (PyFloat.finite 0).le seconds = true) :
    sleepError seconds = none ↔
      (PyFloat.finite (2 ^ 63)).le (seconds.mul (.finite (10 ^ 9))) = false := by
  have number : seconds ≠ .nan := by
    rintro rfl
    cases nonneg
  have positive : seconds.lt (.finite 0) = false := by
    rw [PyFloat.lt, nonneg]
    exact Bool.and_false _
  unfold sleepError
  dsimp only
  rw [if_neg number, nanoseconds_nonneg nonneg, Bool.or_false, positive]
  cases (PyFloat.finite (2 ^ 63)).le (seconds.mul (.finite (10 ^ 9))) <;> simp

theorem sleepError_short {seconds : PyFloat} (nonneg : (PyFloat.finite 0).le seconds = true)
    (short : seconds.le (.finite 1) = true) : sleepError seconds = none := by
  rw [sleepError_nonneg nonneg]
  rcases PyFloat.nonneg_cases nonneg with ⟨exact, above, rfl⟩ | rfl | rfl
  · rw [PyFloat.mul_finite above (by norm_num)]
    have bounded : exact * 10 ^ 9 ≤ 1 * 10 ^ 9 :=
      mul_le_mul_of_nonneg_right (of_decide_eq_true short) (by norm_num)
    have below := PyFloat.ofRat_le (mul_nonneg above (by norm_num)) bounded
    by_contra huge
    have impossible := PyFloat.le_trans (Bool.not_eq_false _ ▸ huge) below
    revert impossible
    decide +kernel
  · cases short
  · decide +kernel

theorem le_of_slept {seconds : PyFloat} (nonneg : (PyFloat.finite 0).le seconds = true)
    (slept : sleepError seconds = none) : seconds.le (.finite (2 ^ 63)) = true := by
  rw [sleepError_nonneg nonneg] at slept
  rcases PyFloat.nonneg_cases nonneg with ⟨exact, above, rfl⟩ | rfl | rfl
  · by_contra long
    have longer : (2 : Rat) ^ 63 ≤ exact := by
      rw [PyFloat.le_finite, decide_eq_true_iff, not_le] at long
      exact long.le
    rw [PyFloat.mul_finite above (by norm_num)] at slept
    have product : (2 : Rat) ^ 63 * 10 ^ 9 ≤ exact * 10 ^ 9 :=
      mul_le_mul_of_nonneg_right longer (by norm_num)
    have huge := PyFloat.le_trans (by decide +kernel : (PyFloat.finite (2 ^ 63)).le
      (.ofRat (2 ^ 63 * 10 ^ 9)) = true) (PyFloat.ofRat_le (by norm_num) product)
    rw [huge] at slept
    cases slept
  · revert slept
    decide +kernel
  · decide +kernel

theorem timesPower_nonneg {base product : Seconds} {power : Nat} (nonneg : base.NonNegative)
    (multiplied : base.timesPower power = .ok product) : product.NonNegative := by
  unfold Seconds.NonNegative at *
  cases base with
  | int value =>
      cases multiplied
      have above : (0 : Rat) ≤ (value : Rat) := of_decide_eq_true nonneg
      have scaled : (0 : Rat) ≤ ((value * 2 ^ power : Int) : Rat) := by
        push_cast
        exact mul_nonneg above (by positivity)
      exact decide_eq_true scaled
  | float value =>
      change (if power < 1024 then .ok (.float (value.timesPower power))
        else .error Exn.overflowError) = Except.ok product at multiplied
      by_cases small : power < 1024
      · rw [if_pos small] at multiplied
        cases multiplied
        rcases PyFloat.nonneg_cases nonneg with ⟨exact, above, rfl⟩ | rfl | rfl
        · change (PyFloat.finite 0).le (if 2 ^ 1024 ≤ |exact * 2 ^ power|
            then .infinity (exact < 0) else .finite (exact * 2 ^ power)) = true
          rw [decide_eq_false (not_lt.mpr above)]
          split
          · rfl
          · have scaled : 0 ≤ exact * 2 ^ power := mul_nonneg above (by positivity)
            exact decide_eq_true scaled
        · exact nonneg
        · exact nonneg
      · rw [if_neg small] at multiplied
        cases multiplied

namespace RetryOptions

variable {options : RetryOptions} {uniform : Jitter} {attempt : Nat}

theorem exponentialDelay_ok {upper : Seconds}
    (bounded : options.exponentialDelay attempt = .ok upper) :
    ∃ product, options.baseDelaySeconds.timesPower (attempt - 1) = .ok product ∧
      (upper = product ∧ product.exact.lt options.maxDelaySeconds.exact = true ∨
        upper = options.maxDelaySeconds ∧
          product.exact.lt options.maxDelaySeconds.exact = false) := by
  obtain ⟨product, multiplied, chosen⟩ := bind_ok_iff.mp bounded
  refine ⟨product, multiplied, ?_⟩
  cases chosen
  cases less : product.exact.lt options.maxDelaySeconds.exact with
  | true => exact .inl ⟨if_pos rfl, rfl⟩
  | false => exact .inr ⟨if_neg Bool.false_ne_true, rfl⟩

theorem exponentialDelay_nonneg {upper : Seconds} (base : options.baseDelaySeconds.NonNegative)
    (maximum : options.maxDelaySeconds.NonNegative)
    (bounded : options.exponentialDelay attempt = .ok upper) : upper.NonNegative := by
  obtain ⟨product, multiplied, ⟨rfl, _⟩ | ⟨rfl, _⟩⟩ := exponentialDelay_ok bounded
  · exact timesPower_nonneg base multiplied
  · exact maximum

theorem delay_ok {delay : PyFloat} : options.delay uniform attempt = .ok delay ↔
    ∃ upper, options.exponentialDelay attempt = .ok upper ∧ upper.isHuge = false ∧
      delay = uniform.draw attempt upper := by
  unfold RetryOptions.delay
  rw [bind_ok_iff]
  constructor
  · intro ⟨upper, bounded, drawn⟩
    cases huge : upper.isHuge with
    | true =>
        rw [huge, if_pos rfl] at drawn
        cases drawn
    | false =>
        rw [huge, if_neg Bool.false_ne_true] at drawn
        cases drawn
        exact ⟨upper, bounded, huge, rfl⟩
  · rintro ⟨upper, bounded, huge, rfl⟩
    refine ⟨upper, bounded, ?_⟩
    rw [huge]
    rfl

end RetryOptions

section Loop

variable {σ α : Type} (options : RetryOptions) (surroundings : Surroundings σ)
  (operationName : Str) (function : Nat → EStateM Exn σ α)

def scheduled (attempt : Nat) (delay : PyFloat) (error : Exn) : RetryEvent :=
  .retryScheduled operationName attempt (attempt + 1) ((delay.mul (.finite 1000)).round 2) error

/-- The rest of the loop, from the given attempt on. Only `max_attempts = 0` gets
to its end, and raises `None`. -/
def attemptsFrom : (remaining : Nat) → (attempt : Nat) → EStateM Exn σ α
  | 0, _ => throw .typeError
  | remaining + 1, attempt => fun state =>
      match function attempt state with
      | .ok result state =>
          if attempt > 1 then
            .ok result (surroundings.log (.retrySuccess operationName attempt) state)
          else .ok result state
      | .error error state =>
          if attempt = options.maxAttempts then
            .error error (surroundings.log (.retryExhausted operationName attempt error) state)
          else
            match options.delay surroundings.uniform attempt with
            | .error raised => .error raised state
            | .ok delay =>
                let logged := surroundings.log (scheduled operationName attempt delay error) state
                match sleepError delay with
                | some raised => .error raised logged
                | none => attemptsFrom remaining (attempt + 1) (surroundings.sleep delay logged)

/-- `function` is given the number of its call. -/
def retryWithBackoff : EStateM Exn σ α :=
  attemptsFrom options surroundings operationName function options.maxAttempts 1

variable {options surroundings operationName function} {remaining attempt : Nat}
  {state after : σ}

theorem attemptsFrom_returns {result : α} (called : function attempt state = .ok result after) :
    attemptsFrom options surroundings operationName function (remaining + 1) attempt state =
      .ok result
        (if attempt > 1 then surroundings.log (.retrySuccess operationName attempt) after
          else after) := by
  simp only [attemptsFrom, called]
  split <;> rfl

theorem attemptsFrom_exhausted {error : Exn} (called : function attempt state = .error error after)
    (last : attempt = options.maxAttempts) :
    attemptsFrom options surroundings operationName function (remaining + 1) attempt state =
      .error error (surroundings.log (.retryExhausted operationName attempt error) after) := by
  subst last
  simp only [attemptsFrom, called, if_true]

/-- The loop gets from this attempt to the next one after a delay. -/
structure Waits (options : RetryOptions) (uniform : Jitter) (attempt : Nat) (delay : PyFloat) :
    Prop where
  drawn : options.delay uniform attempt = .ok delay
  slept : sleepError delay = none

theorem waits_default (uniform : Jitter) (attempt : Nat) (early : attempt < maxAttempts) :
    ∃ delay, Waits {} uniform attempt delay := by
  have floats : ({} : RetryOptions).baseDelaySeconds = .float (.literal 1 10) := rfl
  have product : ({} : RetryOptions).baseDelaySeconds.timesPower (attempt - 1) =
      .ok (.float ((PyFloat.literal 1 10).timesPower (attempt - 1))) :=
    if_pos (by unfold maxAttempts at early; omega)
  obtain ⟨upper, bounded⟩ : ∃ upper, ({} : RetryOptions).exponentialDelay attempt = .ok upper := by
    unfold RetryOptions.exponentialDelay
    rw [product]
    exact ⟨_, rfl⟩
  have nonneg := RetryOptions.exponentialDelay_nonneg (by unfold Seconds.NonNegative; decide +kernel)
    (by unfold Seconds.NonNegative; decide +kernel) bounded
  obtain ⟨other, same, chosen⟩ := RetryOptions.exponentialDelay_ok bounded
  rw [product] at same
  cases same
  have short : upper.exact.le (.finite 1) = true ∧ upper.isHuge = false := by
    rcases chosen with ⟨rfl, less⟩ | ⟨rfl, _⟩
    · exact ⟨(Bool.and_eq_true_iff.mp less).1, rfl⟩
    · exact ⟨rfl, rfl⟩
  obtain ⟨above, below⟩ := uniform.inside attempt upper nonneg
  exact ⟨_, RetryOptions.delay_ok.mpr ⟨upper, bounded, short.2, rfl⟩,
    sleepError_short above (PyFloat.le_trans below short.1)⟩

/-- What is raised, and what has been logged then, where the loop does not. -/
inductive Stuck (options : RetryOptions) (surroundings : Surroundings σ) (operationName : Str)
    (attempt : Nat) (error : Exn) (state : σ) : EStateM.Result Exn σ α → Prop
  | undrawn {raised : Exn} (raises : options.delay surroundings.uniform attempt = .error raised) :
      Stuck options surroundings operationName attempt error state (.error raised state)
  | sleepless {delay : PyFloat} {raised : Exn}
      (drawn : options.delay surroundings.uniform attempt = .ok delay)
      (raises : sleepError delay = some raised) :
      Stuck options surroundings operationName attempt error state
        (.error raised (surroundings.log (scheduled operationName attempt delay error) state))

theorem attemptsFrom_again {error : Exn} {delay : PyFloat}
    (called : function attempt state = .error error after)
    (notLast : attempt ≠ options.maxAttempts)
    (waits : Waits options surroundings.uniform attempt delay) :
    attemptsFrom options surroundings operationName function (remaining + 1) attempt state =
      attemptsFrom options surroundings operationName function remaining (attempt + 1)
        (surroundings.sleep delay
          (surroundings.log (scheduled operationName attempt delay error) after)) := by
  simp only [attemptsFrom, called, notLast, if_false, waits.drawn, waits.slept]

theorem attemptsFrom_stuck {error : Exn}
    (called : function attempt state = .error error after)
    (notLast : attempt ≠ options.maxAttempts)
    (never : ∀ delay, ¬ Waits options surroundings.uniform attempt delay) :
    Stuck options surroundings operationName attempt error after
      (attemptsFrom options surroundings operationName function (remaining + 1) attempt state) := by
  simp only [attemptsFrom, called, notLast, if_false]
  cases drawn : options.delay surroundings.uniform attempt with
  | error raised => exact .undrawn drawn
  | ok delay =>
      cases slept : sleepError delay with
      | none => exact absurd ⟨drawn, slept⟩ (never delay)
      | some raised =>
          simp only [slept]
          exact .sleepless drawn slept

/-- What is known before and after every call of the function, and how it ends.
`outcome` is what the calls return or raise, by their number. -/
structure RetryRule (options : RetryOptions) (surroundings : Surroundings σ)
    (operationName : Str) (function : Nat → EStateM Exn σ α) (outcome : Nat → Except Exn α)
    (before returned failed : Nat → σ → Prop) : Prop where
  calls : ∀ attempt state, before attempt state →
    (∃ result after, outcome attempt = .ok result ∧ function attempt state = .ok result after ∧
      returned attempt
        (if attempt > 1 then surroundings.log (.retrySuccess operationName attempt) after
          else after)) ∨
    ∃ error after, outcome attempt = .error error ∧ function attempt state = .error error after ∧
      failed attempt after
  again : ∀ attempt state delay error, attempt ≠ options.maxAttempts → failed attempt state →
    outcome attempt = .error error → options.delay surroundings.uniform attempt = .ok delay →
    before (attempt + 1)
      (surroundings.sleep delay
        (surroundings.log (scheduled operationName attempt delay error) state))

/-- The rule from what holds at the end of each call, and that logging and
sleeping keep it. -/
theorem RetryRule.of_ends {outcome : Nat → Except Exn α}
    {before returned failed : Nat → σ → Prop}
    (calls : ∀ attempt state, before attempt state → Stateful.Ends (function attempt) state
      (fun result after => outcome attempt = .ok result ∧ returned attempt after)
      (fun error after => outcome attempt = .error error ∧ failed attempt after))
    (logs : ∀ attempt event state, returned attempt state →
      returned attempt (surroundings.log event state))
    (again : ∀ attempt event delay state, attempt ≠ options.maxAttempts → failed attempt state →
      before (attempt + 1) (surroundings.sleep delay (surroundings.log event state))) :
    RetryRule options surroundings operationName function outcome before returned failed := by
  constructor
  · intro attempt state known
    have ends := calls attempt state known
    unfold Stateful.Ends at ends
    cases ran : function attempt state with
    | ok result after =>
        rw [ran] at ends
        refine .inl ⟨result, after, ends.1, rfl, ?_⟩
        split
        · exact logs attempt _ after ends.2
        · exact ends.2
    | error error after =>
        rw [ran] at ends
        exact .inr ⟨error, after, ends.1, rfl, ends.2⟩
  · intro attempt state upper error notLast known _ _
    exact again attempt _ _ state notLast known

/-- The calls from `first` on that come before `calls` all raise, and each is
followed by a delay. -/
def RetriedBefore (options : RetryOptions) (uniform : Jitter) (outcome : Nat → Except Exn α)
    (first calls : Nat) : Prop :=
  ∀ attempt, first ≤ attempt → attempt < calls →
    (∃ error, outcome attempt = .error error) ∧ ∃ delay, Waits options uniform attempt delay

/-- How the loop ends: with the first success, with the error of the last call,
or where it cannot wait for the next one. -/
inductive RetryEnding (options : RetryOptions) (surroundings : Surroundings σ)
    (operationName : Str) (outcome : Nat → Except Exn α) (returned failed : Nat → σ → Prop)
    (first : Nat) : EStateM.Result Exn σ α → Prop
  | returned {calls : Nat} {result : α} {state : σ} (started : first ≤ calls)
      (atMost : calls ≤ options.maxAttempts)
      (earlier : RetriedBefore options surroundings.uniform outcome first calls)
      (succeeded : outcome calls = .ok result) (known : returned calls state) :
      RetryEnding options surroundings operationName outcome returned failed first
        (.ok result state)
  | exhausted {error : Exn} {state : σ}
      (earlier : RetriedBefore options surroundings.uniform outcome first options.maxAttempts)
      (raised : outcome options.maxAttempts = .error error)
      (known : failed options.maxAttempts state) :
      RetryEnding options surroundings operationName outcome returned failed first
        (.error error (surroundings.log (.retryExhausted operationName options.maxAttempts error)
          state))
  | stuck {calls : Nat} {error : Exn} {state : σ} {result : EStateM.Result Exn σ α}
      (started : first ≤ calls) (below : calls < options.maxAttempts)
      (earlier : RetriedBefore options surroundings.uniform outcome first calls)
      (failing : outcome calls = .error error) (known : failed calls state)
      (never : ∀ delay, ¬ Waits options surroundings.uniform calls delay)
      (ends : Stuck options surroundings operationName calls error state result) :
      RetryEnding options surroundings operationName outcome returned failed first result

theorem RetriedBefore.cons {uniform : Jitter} {outcome : Nat → Except Exn α} {first calls : Nat}
    {error : Exn} {delay : PyFloat} (atFirst : outcome first = .error error)
    (waits : Waits options uniform first delay)
    (later : RetriedBefore options uniform outcome (first + 1) calls) :
    RetriedBefore options uniform outcome first calls := by
  intro attempt started before
  rcases Nat.eq_or_lt_of_le started with rfl | further
  · exact ⟨⟨error, atFirst⟩, delay, waits⟩
  · exact later attempt further before

theorem RetryEnding.step {outcome : Nat → Except Exn α} {returned failed : Nat → σ → Prop}
    {first : Nat} {error : Exn} {delay : PyFloat} {result : EStateM.Result Exn σ α}
    (atFirst : outcome first = .error error)
    (waits : Waits options surroundings.uniform first delay)
    (later : RetryEnding options surroundings operationName outcome returned failed (first + 1)
      result) :
    RetryEnding options surroundings operationName outcome returned failed first result := by
  cases later with
  | returned started atMost earlier succeeded known =>
      exact .returned (by omega) atMost (earlier.cons atFirst waits) succeeded known
  | exhausted earlier raised known => exact .exhausted (earlier.cons atFirst waits) raised known
  | stuck started below earlier failing known never ends =>
      exact .stuck (by omega) below (earlier.cons atFirst waits) failing known never ends

/-- The rule of the loop: one call is looked at, and the rest is by induction on
the attempts that are left. -/
theorem attemptsFrom_ends {outcome : Nat → Except Exn α} {before returned failed : Nat → σ → Prop}
    (rule : RetryRule options surroundings operationName function outcome before returned failed)
    (left : attempt + remaining = options.maxAttempts + 1) (positive : 0 < remaining)
    (known : before attempt state) :
    RetryEnding options surroundings operationName outcome returned failed attempt
      (attemptsFrom options surroundings operationName function remaining attempt state) := by
  induction remaining generalizing attempt state with
  | zero => omega
  | succ remaining ih =>
      have none : RetriedBefore options surroundings.uniform outcome attempt attempt :=
        fun earlier started before => by omega
      rcases rule.calls attempt state known with
        ⟨result, after, succeeded, called, ending⟩ | ⟨error, after, raised, called, ending⟩
      · rw [attemptsFrom_returns called]
        exact .returned (le_refl _) (by omega) none succeeded ending
      · by_cases last : attempt = options.maxAttempts
        · rw [attemptsFrom_exhausted called last]
          subst last
          exact .exhausted none raised ending
        · by_cases waiting : ∃ delay, Waits options surroundings.uniform attempt delay
          · obtain ⟨delay, waits⟩ := waiting
            rw [attemptsFrom_again called last waits]
            exact .step raised waits (ih (by omega) (by omega)
              (rule.again attempt after delay error last ending raised waits.drawn))
          · have never := not_exists.mp waiting
            exact .stuck (le_refl _) (by omega) none raised ending never
              (attemptsFrom_stuck called last never)

theorem retryWithBackoff_ends {outcome : Nat → Except Exn α}
    {before returned failed : Nat → σ → Prop}
    (rule : RetryRule options surroundings operationName function outcome before returned failed)
    (positive : 0 < options.maxAttempts) (known : before 1 state) :
    RetryEnding options surroundings operationName outcome returned failed 1
      (retryWithBackoff options surroundings operationName function state) :=
  attemptsFrom_ends rule (by omega) positive known

theorem retryWithBackoff_waiting {outcome : Nat → Except Exn α}
    {before returned failed : Nat → σ → Prop}
    (rule : RetryRule options surroundings operationName function outcome before returned failed)
    (positive : 0 < options.maxAttempts)
    (waits : ∀ attempt < options.maxAttempts,
      ∃ delay, Waits options surroundings.uniform attempt delay)
    (known : before 1 state) :
    Stateful.Ends (retryWithBackoff options surroundings operationName function) state
      (fun result after => ∃ calls, 1 ≤ calls ∧ calls ≤ options.maxAttempts ∧
        outcome calls = .ok result ∧ returned calls after)
      (fun error after =>
        (∀ attempt, 1 ≤ attempt → attempt ≤ options.maxAttempts →
          ∃ raised, outcome attempt = .error raised) ∧
        ∃ last, failed options.maxAttempts last ∧ after =
          surroundings.log (.retryExhausted operationName options.maxAttempts error) last) := by
  have ends := retryWithBackoff_ends rule positive known
  unfold Stateful.Ends
  generalize retryWithBackoff options surroundings operationName function state = ending at ends
  cases ends with
  | @returned calls result after started atMost earlier succeeded known =>
      exact ⟨calls, started, atMost, succeeded, known⟩
  | @exhausted error last earlier raised known =>
      refine ⟨?_, last, known, rfl⟩
      intro attempt first atMost
      rcases Nat.eq_or_lt_of_le atMost with rfl | sooner
      · exact ⟨error, raised⟩
      · exact (earlier attempt first sooner).1
  | stuck started below earlier failing known never ends =>
      obtain ⟨delay, waiting⟩ := waits _ below
      exact absurd waiting (never delay)

end Loop

end ImagePipeline.Common
