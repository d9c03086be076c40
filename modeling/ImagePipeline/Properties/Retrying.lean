/-
What `retry_with_backoff` is for: call until the first success or the last
attempt, sleep between calls, log every retry and how it ended. Where the power
of two in a delay outgrows the doubles, or the delay what `time.sleep` takes,
the loop ends with that error instead.
-/

import ImagePipeline.Common.Retry

namespace ImagePipeline.Properties.Retrying

open Common
open Library.Stateful (resultOf stateOf)

/-- What is seen of the loop from outside, in order. -/
inductive Event where
  | called (attempt : Nat)
  | logged (event : RetryEvent)
  | slept (seconds : PyFloat)
  deriving DecidableEq

def Event.isCall : Event → Bool
  | .called _ => true
  | _ => false

def Event.isSleep : Event → Bool
  | .slept _ => true
  | _ => false

variable {α : Type}

def recorded (outcome : Nat → Except Exn α) (attempt : Nat) : EStateM Exn (List Event) α :=
  fun trace =>
    match outcome attempt with
    | .ok result => .ok result (trace ++ [.called attempt])
    | .error error => .error error (trace ++ [.called attempt])

/-- The sleeps are recorded, and the log events if there is a log function. -/
def observed (uniform : Jitter) (logs : Bool) : Surroundings (List Event) :=
  { uniform := uniform
    sleep := fun seconds trace => trace ++ [.slept seconds]
    logFunction := if logs then some (fun event trace => trace ++ [.logged event]) else none }

def errorOf : Except Exn α → Exn
  | .error error => error
  | .ok _ => .other

/-- `base * 2 ** power` without any limits. -/
def exponential (base : Seconds) (power : Nat) : PyFloat :=
  match base.exact with
  | .finite value => .finite (value * 2 ^ power)
  | other => other

/-- The interval of the sleep after the given attempt. -/
structure InInterval (options : RetryOptions) (attempt : Nat) (delay : PyFloat) : Prop where
  nonneg : (PyFloat.finite 0).le delay = true
  maximum : delay.le options.maxDelaySeconds.exact = true
  exponential : delay.le (exponential options.baseDelaySeconds (attempt - 1)) = true

/-- A failed attempt that is not the last one, as it is seen. -/
def retried (operationName : Str) (outcome : Nat → Except Exn α) (logs : Bool)
    (delays : Nat → PyFloat) (attempt : Nat) : List Event :=
  .called attempt ::
    ((if logs then
      [.logged (scheduled operationName attempt (delays attempt) (errorOf (outcome attempt)))]
    else []) ++ [.slept (delays attempt)])

/-- The last log event of a call that took `calls` attempts. -/
def closing (operationName : Str) (outcome : Nat → Except Exn α) (logs : Bool)
    (calls : Nat) : List Event :=
  if logs then
    match outcome calls with
    | .ok _ => if calls > 1 then [.logged (.retrySuccess operationName calls)] else []
    | .error error => [.logged (.retryExhausted operationName calls error)]
  else []

/-- `calls` is the smaller one of the number of attempts and the index of the
first success. -/
structure IsCallCount (options : RetryOptions) (outcome : Nat → Except Exn α)
    (calls : Nat) : Prop where
  positive : 1 ≤ calls
  atMost : calls ≤ options.maxAttempts
  failing : ∀ attempt, 1 ≤ attempt → attempt < calls → ∃ error, outcome attempt = .error error
  last : calls = options.maxAttempts ∨ ∃ result, outcome calls = .ok result

/-- What is specified of one call that makes `calls` attempts. -/
structure Specified (options : RetryOptions) (operationName : Str)
    (outcome : Nat → Except Exn α) (logs : Bool) (calls : Nat) (delays : Nat → PyFloat)
    (ending : EStateM.Result Exn (List Event) α) : Prop where
  count : IsCallCount options outcome calls
  result : resultOf ending = outcome calls
  called : (stateOf ending).countP Event.isCall = calls
  slept : (stateOf ending).countP Event.isSleep = calls - 1
  bounded : ∀ attempt, 1 ≤ attempt → attempt < calls → InInterval options attempt (delays attempt)
  trace : stateOf ending =
    (List.range' 1 (calls - 1)).flatMap (retried operationName outcome logs delays) ++
      .called calls :: closing operationName outcome logs calls

def call (options : RetryOptions) (operationName : Str) (outcome : Nat → Except Exn α)
    (uniform : Jitter) (logs : Bool) : EStateM.Result Exn (List Event) α :=
  retryWithBackoff options (observed uniform logs) operationName (recorded outcome) []

variable {options : RetryOptions} {operationName : Str} {outcome : Nat → Except Exn α}
  {uniform : Jitter} {logs : Bool}

def drawn (options : RetryOptions) (uniform : Jitter) (attempt : Nat) : PyFloat :=
  match options.delay uniform attempt with
  | .ok delay => delay
  | .error _ => .nan

def eventsBefore (options : RetryOptions) (operationName : Str) (outcome : Nat → Except Exn α)
    (uniform : Jitter) (logs : Bool) (attempt : Nat) : List Event :=
  (List.range' 1 (attempt - 1)).flatMap
    (retried operationName outcome logs (drawn options uniform))

theorem eventsBefore_succ {attempt : Nat} (positive : 1 ≤ attempt) :
    eventsBefore options operationName outcome uniform logs (attempt + 1) =
      eventsBefore options operationName outcome uniform logs attempt ++
        retried operationName outcome logs (drawn options uniform) attempt := by
  unfold eventsBefore
  obtain ⟨earlier, rfl⟩ : ∃ earlier, attempt = earlier + 1 := ⟨attempt - 1, by omega⟩
  rw [Nat.add_sub_cancel, Nat.add_sub_cancel, List.range'_1_concat, List.flatMap_append,
    List.flatMap_singleton, Nat.add_comm 1 earlier]

theorem log_observed (event : RetryEvent) (trace : List Event) :
    (observed uniform logs).log event trace = trace ++ if logs then [.logged event] else [] := by
  cases logs with
  | true => rfl
  | false => exact (List.append_nil trace).symm

/-- The trace before a call, after one that raised, and at a success. -/
theorem observed_rule :
    RetryRule options (observed uniform logs) operationName (recorded outcome) outcome
      (fun attempt trace => 1 ≤ attempt ∧
        trace = eventsBefore options operationName outcome uniform logs attempt)
      (fun attempt trace => trace =
        eventsBefore options operationName outcome uniform logs attempt ++
          .called attempt :: closing operationName outcome logs attempt)
      (fun attempt trace => 1 ≤ attempt ∧ trace =
        eventsBefore options operationName outcome uniform logs attempt ++ [.called attempt]) := by
  constructor
  · rintro attempt trace ⟨positive, rfl⟩
    cases ended : outcome attempt with
    | error error =>
        refine .inr ⟨error, _, rfl, ?_, positive, rfl⟩
        simp only [recorded, ended]
    | ok result =>
        left
        refine ⟨result, eventsBefore options operationName outcome uniform logs attempt ++
          [.called attempt], rfl, ?_, ?_⟩
        · simp only [recorded, ended]
        · rw [log_observed]
          unfold closing
          rw [ended]
          cases logs with
          | true => split <;> simp
          | false => simp
  · rintro attempt trace delay error _ ⟨positive, rfl⟩ raised isDrawn
    refine ⟨by omega, ?_⟩
    have same : drawn options uniform attempt = delay := by
      change options.delay uniform attempt = .ok delay at isDrawn
      unfold drawn
      rw [isDrawn]
    rw [eventsBefore_succ positive, log_observed]
    unfold observed retried errorOf
    rw [raised, same]
    simp

theorem countP_retried (operationName : Str) (outcome : Nat → Except Exn α) (logs : Bool)
    (delays : Nat → PyFloat) (attempts : List Nat) :
    (attempts.flatMap (retried operationName outcome logs delays)).countP Event.isCall =
      attempts.length ∧
    (attempts.flatMap (retried operationName outcome logs delays)).countP Event.isSleep =
      attempts.length := by
  induction attempts with
  | nil => exact ⟨rfl, rfl⟩
  | cons attempt rest ih =>
      rw [List.flatMap_cons, List.countP_append, List.countP_append, ih.1, ih.2, List.length_cons]
      cases logs with
      | true => exact ⟨Nat.add_comm .., Nat.add_comm ..⟩
      | false => exact ⟨Nat.add_comm .., Nat.add_comm ..⟩

theorem countP_closing (operationName : Str) (outcome : Nat → Except Exn α) (logs : Bool)
    (calls : Nat) :
    (closing operationName outcome logs calls).countP Event.isCall = 0 ∧
      (closing operationName outcome logs calls).countP Event.isSleep = 0 := by
  unfold closing
  split
  · split
    · split <;> exact ⟨rfl, rfl⟩
    · exact ⟨rfl, rfl⟩
  · exact ⟨rfl, rfl⟩

/-! ### The interval -/

theorem timesPower_cases {base product : Seconds} {power : Nat} (nonneg : base.NonNegative)
    (multiplied : base.timesPower power = .ok product) :
    product.exact = exponential base power ∨
      product.exact = .infinity false ∧
        (PyFloat.finite (2 ^ 63)).le (exponential base power) = true := by
  cases base with
  | int value =>
      cases multiplied
      left
      change PyFloat.finite ((value * 2 ^ power : Int) : Rat) = .finite (value * 2 ^ power)
      push_cast
      rfl
  | float value =>
      change (if power < 1024 then .ok (.float (value.timesPower power))
        else .error Exn.overflowError) = Except.ok product at multiplied
      by_cases small : power < 1024
      · rw [if_pos small] at multiplied
        cases multiplied
        rcases PyFloat.nonneg_cases nonneg with ⟨exact, above, same⟩ | same | same
        · change value = .finite exact at same
          subst same
          change (if 2 ^ 1024 ≤ |exact * 2 ^ power| then PyFloat.infinity (exact < 0)
            else .finite (exact * 2 ^ power)) = .finite (exact * 2 ^ power) ∨
              (if 2 ^ 1024 ≤ |exact * 2 ^ power| then PyFloat.infinity (exact < 0)
                else .finite (exact * 2 ^ power)) = .infinity false ∧
                decide ((2 : Rat) ^ 63 ≤ exact * 2 ^ power) = true
          have product : 0 ≤ exact * 2 ^ power := mul_nonneg above (by positivity)
          by_cases large : 2 ^ 1024 ≤ |exact * 2 ^ power|
          · rw [if_pos large, decide_eq_false (not_lt.mpr above)]
            rw [abs_of_nonneg product] at large
            have fewer : (2 : Rat) ^ 63 ≤ 2 ^ 1024 := pow_le_pow_right₀ (by norm_num) (by decide)
            exact .inr ⟨rfl, decide_eq_true (fewer.trans large)⟩
          · rw [if_neg large]
            exact .inl rfl
        · change value = _ at same
          subst same
          exact .inl rfl
        · change value = _ at same
          subst same
          exact .inl rfl
      · rw [if_neg small] at multiplied
        cases multiplied

theorem inInterval_of_waits (base : options.baseDelaySeconds.NonNegative)
    (maximum : options.maxDelaySeconds.NonNegative) {attempt : Nat} {delay : PyFloat}
    (waits : Waits options uniform attempt delay) : InInterval options attempt delay := by
  obtain ⟨upper, bounded, _, rfl⟩ := RetryOptions.delay_ok.mp waits.drawn
  obtain ⟨above, below⟩ := uniform.inside attempt upper
    (RetryOptions.exponentialDelay_nonneg base maximum bounded)
  obtain ⟨product, multiplied, chosen⟩ := RetryOptions.exponentialDelay_ok bounded
  have number {seconds : PyFloat} (nonneg : (PyFloat.finite 0).le seconds = true) :
      seconds ≠ .nan := by
    rintro rfl
    cases nonneg
  have slept := le_of_slept above waits.slept
  have product_le (under : (uniform.draw attempt upper).le product.exact = true) :
      (uniform.draw attempt upper).le
        (exponential options.baseDelaySeconds (attempt - 1)) = true := by
    rcases timesPower_cases base multiplied with same | ⟨_, large⟩
    · exact same ▸ under
    · exact PyFloat.le_trans slept large
  rcases chosen with ⟨rfl, less⟩ | ⟨rfl, notLess⟩
  · exact ⟨above, PyFloat.le_trans below (Bool.and_eq_true_iff.mp less).1, product_le below⟩
  · have under := PyFloat.le_of_not_lt (number (timesPower_nonneg base multiplied))
      (number maximum) notLess
    exact ⟨above, below, product_le (PyFloat.le_trans below under)⟩

/-! ### The specification -/

/-- An attempt that fails and is not the last one. -/
structure Retries (options : RetryOptions) (outcome : Nat → Except Exn α) (attempt : Nat) :
    Prop where
  positive : 1 ≤ attempt
  below : attempt < options.maxAttempts
  failing : ∀ earlier, 1 ≤ earlier → earlier ≤ attempt → ∃ error, outcome earlier = .error error

/-- The base is an integer or the power has a double, an integer delay is no
larger than the doubles, and `time.sleep` takes what is drawn. -/
structure Waitable (options : RetryOptions) (uniform : Jitter) (attempt : Nat) : Prop where
  double : ∀ value, options.baseDelaySeconds = .float value → attempt ≤ 1024
  accepted : ∀ upper, options.exponentialDelay attempt = .ok upper →
    upper.isHuge = false ∧ sleepError (uniform.draw attempt upper) = none

theorem waitable_iff {attempt : Nat} :
    Waitable options uniform attempt ↔ ∃ delay, Waits options uniform attempt delay := by
  constructor
  · intro ⟨double, accepted⟩
    obtain ⟨product, multiplied⟩ :
        ∃ product, options.baseDelaySeconds.timesPower (attempt - 1) = .ok product := by
      cases base : options.baseDelaySeconds with
      | int value => exact ⟨_, rfl⟩
      | float value =>
          have small := double value base
          exact ⟨_, if_pos (by omega)⟩
    obtain ⟨upper, bounded⟩ : ∃ upper, options.exponentialDelay attempt = .ok upper := by
      unfold RetryOptions.exponentialDelay
      rw [multiplied]
      exact ⟨_, rfl⟩
    obtain ⟨fits, slept⟩ := accepted upper bounded
    exact ⟨_, RetryOptions.delay_ok.mpr ⟨upper, bounded, fits, rfl⟩, slept⟩
  · intro ⟨delay, drawn, slept⟩
    obtain ⟨upper, bounded, fits, rfl⟩ := RetryOptions.delay_ok.mp drawn
    constructor
    · intro value base
      obtain ⟨product, multiplied, _⟩ := RetryOptions.exponentialDelay_ok bounded
      rw [base] at multiplied
      by_contra many
      have large : ¬ attempt - 1 < 1024 := by omega
      change (if attempt - 1 < 1024 then .ok (.float (value.timesPower (attempt - 1)))
        else .error Exn.overflowError) = Except.ok product at multiplied
      rw [if_neg large] at multiplied
      cases multiplied
    · intro other same
      rw [bounded] at same
      cases same
      exact ⟨fits, slept⟩

theorem specified_of_trace (base : options.baseDelaySeconds.NonNegative)
    (maximum : options.maxDelaySeconds.NonNegative) {calls : Nat}
    {ending : EStateM.Result Exn (List Event) α}
    (earlier : RetriedBefore options uniform outcome 1 calls)
    (count : IsCallCount options outcome calls)
    (result : resultOf ending = outcome calls)
    (trace : stateOf ending = eventsBefore options operationName outcome uniform logs calls ++
      .called calls :: closing operationName outcome logs calls) :
    Specified options operationName outcome logs calls (drawn options uniform) ending := by
  have positive := count.positive
  have counts := countP_retried operationName outcome logs (drawn options uniform)
    (List.range' 1 (calls - 1))
  have none := countP_closing operationName outcome logs calls
  constructor
  · exact count
  · exact result
  · rw [trace, List.countP_append, List.countP_cons_of_pos rfl]
    unfold eventsBefore
    rw [counts.1, none.1, List.length_range']
    omega
  · rw [trace, List.countP_append, List.countP_cons_of_neg Bool.false_ne_true]
    unfold eventsBefore
    rw [counts.2, none.2, List.length_range']
    omega
  · intro attempt started before
    obtain ⟨_, delay, waits⟩ := earlier attempt started before
    have same : drawn options uniform attempt = delay := by
      unfold drawn
      rw [waits.drawn]
    rw [same]
    exact inInterval_of_waits base maximum waits
  · exact trace

/-- The calls that are seen when the loop cannot wait for the next one. -/
theorem countP_stuck {calls : Nat} {error : Exn} {ending : EStateM.Result Exn (List Event) α}
    (started : 1 ≤ calls)
    (ends : Stuck options (observed uniform logs) operationName calls error
      (eventsBefore options operationName outcome uniform logs calls ++ [.called calls]) ending) :
    (stateOf ending).countP Event.isCall = calls := by
  have before : (eventsBefore options operationName outcome uniform logs calls ++
      [Event.called calls]).countP Event.isCall = calls := by
    have counts := (countP_retried operationName outcome logs (drawn options uniform)
      (List.range' 1 (calls - 1))).1
    unfold eventsBefore
    rw [List.countP_append, counts, List.length_range']
    change calls - 1 + 1 = calls
    omega
  cases ends with
  | undrawn raises => exact before
  | sleepless isDrawn raises =>
      change ((observed uniform logs).log _ _).countP Event.isCall = calls
      rw [log_observed, List.countP_append, before]
      cases logs <;> rfl

/-- The loop ends as specified after the calls that could be retried, or it is
stuck behind one that could not. -/
theorem call_cases (operationName : Str) (outcome : Nat → Except Exn α) (uniform : Jitter)
    (logs : Bool) (positive : 1 ≤ options.maxAttempts)
    (base : options.baseDelaySeconds.NonNegative)
    (maximum : options.maxDelaySeconds.NonNegative) :
    (∃ calls, RetriedBefore options uniform outcome 1 calls ∧
      Specified options operationName outcome logs calls (drawn options uniform)
        (call options operationName outcome uniform logs)) ∨
    ∃ calls, Retries options outcome calls ∧ ¬ Waitable options uniform calls ∧
      (stateOf (call options operationName outcome uniform logs)).countP Event.isCall = calls := by
  have started : 1 ≤ 1 ∧ [] = eventsBefore options operationName outcome uniform logs 1 :=
    ⟨le_refl 1, rfl⟩
  have ends := retryWithBackoff_ends observed_rule positive started
  unfold call
  generalize retryWithBackoff options (observed uniform logs) operationName (recorded outcome) [] =
    ending at ends
  cases ends with
  | @returned calls result trace started atMost earlier succeeded known =>
      refine .inl ⟨calls, earlier,
        specified_of_trace base maximum earlier ?_ succeeded.symm known⟩
      exact ⟨started, atMost, fun attempt first before => (earlier attempt first before).1,
        .inr ⟨result, succeeded⟩⟩
  | @exhausted error trace earlier raised known =>
      refine .inl ⟨options.maxAttempts, earlier,
        specified_of_trace base maximum earlier ?_ raised.symm ?_⟩
      · exact ⟨positive, le_refl _, fun attempt first before => (earlier attempt first before).1,
          .inl rfl⟩
      · change (observed uniform logs).log _ trace = _
        rw [log_observed, known.2]
        unfold closing
        rw [raised]
        cases logs <;> simp
  | @stuck calls error trace _ started below earlier failing known never ends =>
      refine .inr ⟨calls, ⟨started, below, ?_⟩, ?_, ?_⟩
      · intro attempt first before
        rcases Nat.eq_or_lt_of_le before with rfl | sooner
        · exact ⟨error, failing⟩
        · exact (earlier attempt first sooner).1
      · intro waitable
        obtain ⟨delay, waits⟩ := waitable_iff.mp waitable
        exact never delay waits
      · rw [known.2] at ends
        exact countP_stuck started ends

/-- The loop keeps to its specification exactly if it can wait after every
attempt that fails and has another one after it. -/
theorem retry_specified_iff (positive : 1 ≤ options.maxAttempts)
    (base : options.baseDelaySeconds.NonNegative)
    (maximum : options.maxDelaySeconds.NonNegative) :
    (∃ calls delays, Specified options operationName outcome logs calls delays
      (call options operationName outcome uniform logs)) ↔
    ∀ attempt, Retries options outcome attempt → Waitable options uniform attempt := by
  have cases := call_cases operationName outcome uniform logs positive base maximum
  constructor
  · intro ⟨calls, delays, specified⟩ attempt retries
    -- every attempt that is retried comes before the call that ends the loop
    have before : attempt < calls := by
      by_contra notBefore
      rcases specified.count.last with last | ⟨result, succeeded⟩
      · have below := retries.below
        omega
      · obtain ⟨error, failed⟩ := retries.failing calls specified.count.positive (by omega)
        rw [succeeded] at failed
        cases failed
    rcases cases with ⟨other, earlier, known⟩ | ⟨other, stuck, _, counted⟩
    · have same : other = calls := known.called.symm.trans specified.called
      exact waitable_iff.mpr (earlier attempt retries.positive (same ▸ before)).2
    · have same : other = calls := counted.symm.trans specified.called
      subst same
      rcases specified.count.last with last | ⟨result, succeeded⟩
      · have below := stuck.below
        omega
      · obtain ⟨error, failed⟩ := stuck.failing other stuck.positive (le_refl _)
        rw [succeeded] at failed
        cases failed
  · intro waitable
    rcases cases with ⟨calls, _, specified⟩ | ⟨calls, stuck, unwaitable, _⟩
    · exact ⟨calls, drawn options uniform, specified⟩
    · exact absurd (waitable calls stuck) unwaitable

/-! ### Two calls -/

theorem defaults_nonneg : ({} : RetryOptions).baseDelaySeconds.NonNegative ∧
    ({} : RetryOptions).maxDelaySeconds.NonNegative := by
  unfold Seconds.NonNegative
  decide +kernel

/-- A store that is down, with more attempts than the delays allow. -/
theorem manyAttempts_unspecified :
    let options : RetryOptions := { maxAttempts := 1026 }
    let down : Nat → Except Exn Unit := fun _ => .error .other
    ¬ ∃ calls delays, Specified options (str "storage_download") down true calls delays
      (call options (str "storage_download") down wholeDelay true) := by
  intro options down specified
  have retries : Retries options down 1025 :=
    ⟨by decide, (by decide : 1025 < 1026), fun _ _ _ => ⟨_, rfl⟩⟩
  have base : options.baseDelaySeconds.NonNegative := defaults_nonneg.1
  have maximum : options.maxDelaySeconds.NonNegative := defaults_nonneg.2
  have waitable : Waitable options wholeDelay 1025 :=
    (retry_specified_iff (by decide : 1 ≤ 1026) base maximum).mp specified 1025 retries
  exact absurd (waitable.double _ rfl) (by decide)

/-- The worker's three attempts, of which the third one succeeds. -/
theorem retry_specified_iff_third :
    let outcome : Nat → Except Exn Nat := fun attempt =>
      if attempt = 3 then .ok 7 else .error .other
    let tenth := PyFloat.literal 1 10
    let fifth := PyFloat.literal 1 5
    resultOf (call {} (str "storage_download") outcome wholeDelay true) = .ok 7 ∧
      stateOf (call {} (str "storage_download") outcome wholeDelay true) =
        [.called 1, .logged (.retryScheduled (str "storage_download") 1 2 (.finite 100) .other),
          .slept tenth, .called 2,
          .logged (.retryScheduled (str "storage_download") 2 3 (.finite 200) .other),
          .slept fifth, .called 3, .logged (.retrySuccess (str "storage_download") 3)] ∧
      ∃ calls delays, Specified {} (str "storage_download") outcome true calls delays
        (call {} (str "storage_download") outcome wholeDelay true) := by
  intro outcome tenth fifth
  refine ⟨by decide +kernel, by decide +kernel, ?_⟩
  refine (retry_specified_iff (by decide) defaults_nonneg.1 defaults_nonneg.2).mpr ?_
  intro attempt retries
  exact waitable_iff.mpr (waits_default wholeDelay attempt retries.below)

end ImagePipeline.Properties.Retrying
