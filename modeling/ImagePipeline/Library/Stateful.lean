/-
Computations that may raise and that keep their state when they do (`EStateM`):
what holds when one ends, by return or by exception, with one rule for each way
of building it.
-/

import Mathlib.Init

namespace ImagePipeline.Library.Stateful

variable {ε σ α β : Type}

def resultOf : EStateM.Result ε σ α → Except ε α
  | .ok value _ => .ok value
  | .error error _ => .error error

def stateOf : EStateM.Result ε σ α → σ
  | .ok _ after => after
  | .error _ after => after

def Ends (computation : EStateM ε σ α) (state : σ) (returned : α → σ → Prop)
    (raised : ε → σ → Prop) : Prop :=
  match computation state with
  | .ok value after => returned value after
  | .error error after => raised error after

variable {state : σ} {returned : α → σ → Prop} {raised : ε → σ → Prop}

theorem Ends.of_ok {computation : EStateM ε σ α} {value : α} {after : σ}
    (ran : computation state = .ok value after) (fine : returned value after) :
    Ends computation state returned raised := by
  rw [Ends, ran]
  exact fine

theorem Ends.of_error {computation : EStateM ε σ α} {error : ε} {after : σ}
    (ran : computation state = .error error after) (failed : raised error after) :
    Ends computation state returned raised := by
  rw [Ends, ran]
  exact failed

theorem Ends.pure {value : α} (fine : returned value state) :
    Ends (Pure.pure value) state returned raised := Ends.of_ok rfl fine

theorem Ends.bind {first : EStateM ε σ α} {next : α → EStateM ε σ β} {failed : ε → σ → Prop}
    {finished : β → σ → Prop} (atFirst : Ends first state returned failed)
    (atRaise : ∀ error after, failed error after → raised error after)
    (atNext : ∀ value after, returned value after → Ends (next value) after finished raised) :
    Ends (first >>= next) state finished raised := by
  change Ends (EStateM.bind first next) state finished raised
  unfold Ends EStateM.bind
  unfold Ends at atFirst
  cases ran : first state with
  | ok value after =>
      rw [ran] at atFirst
      exact atNext value after atFirst
  | error error after =>
      rw [ran] at atFirst
      exact atRaise error after atFirst

theorem Ends.get_bind {next : σ → EStateM ε σ α} (ends : Ends (next state) state returned raised) :
    Ends (get >>= next) state returned raised := ends

theorem Ends.modify_bind {change : σ → σ} {next : PUnit → EStateM ε σ α}
    (ends : Ends (next ⟨⟩) (change state) returned raised) :
    Ends (modify change >>= next) state returned raised := ends

theorem Ends.tryCatch {body : EStateM ε σ α} {handler : ε → EStateM ε σ α}
    {escaped : ε → σ → Prop} (atBody : Ends body state returned raised)
    (atHandler : ∀ error after, raised error after → Ends (handler error) after returned escaped) :
    Ends (MonadExcept.tryCatch body handler) state returned escaped := by
  change Ends (EStateM.tryCatch body handler) state returned escaped
  unfold Ends EStateM.tryCatch
  unfold Ends at atBody
  cases ran : body state with
  | ok value after =>
      rw [ran] at atBody
      exact atBody
  | error error after =>
      rw [ran] at atBody
      exact atHandler error after atBody

/-- The final part runs in both cases; if it raises, its exception counts. -/
theorem Ends.andFinally {body : EStateM ε σ α} {final : EStateM ε σ β} {finished : α → σ → Prop}
    {escaped : ε → σ → Prop} (atBody : Ends body state returned raised)
    (afterReturn : ∀ value after, returned value after →
      Ends final after (fun _ last => finished value last) escaped)
    (afterRaise : ∀ error after, raised error after →
      Ends final after (fun _ last => escaped error last) escaped) :
    Ends (tryFinally body final) state finished escaped := by
  unfold Ends at atBody
  simp only [Ends, tryFinally, tryFinally', Functor.map, EStateM.map]
  cases ran : body state with
  | ok value after =>
      rw [ran] at atBody
      have last := afterReturn value after atBody
      unfold Ends at last
      cases ending : final after with
      | ok other world => simpa only [ending] using last
      | error error world => simpa only [ending] using last
  | error error after =>
      rw [ran] at atBody
      have last := afterRaise error after atBody
      unfold Ends at last
      cases ending : final after with
      | ok other world => simpa only [ending] using last
      | error later world => simpa only [ending] using last

theorem Ends.mono {computation : EStateM ε σ α} {finished : α → σ → Prop}
    {escaped : ε → σ → Prop} (ends : Ends computation state returned raised)
    (atReturn : ∀ value after, returned value after → finished value after)
    (atRaise : ∀ error after, raised error after → escaped error after) :
    Ends computation state finished escaped := by
  unfold Ends at ends ⊢
  split
  · rename_i value after ran
    rw [ran] at ends
    exact atReturn value after ends
  · rename_i error after ran
    rw [ran] at ends
    exact atRaise error after ends

theorem Ends.and {computation : EStateM ε σ α} {finished : α → σ → Prop}
    {escaped : ε → σ → Prop} (first : Ends computation state returned raised)
    (second : Ends computation state finished escaped) :
    Ends computation state (fun value after => returned value after ∧ finished value after)
      (fun error after => raised error after ∧ escaped error after) := by
  unfold Ends at first second ⊢
  split
  · rename_i value after ran
    rw [ran] at first second
    exact ⟨first, second⟩
  · rename_i error after ran
    rw [ran] at first second
    exact ⟨first, second⟩

section Loops

variable {ι : Type} {items : List ι}

/-- A loop, with an invariant that speaks of the items it is through with. -/
theorem Ends.forM {step : ι → EStateM ε σ Unit} (invariant : List ι → σ → Prop)
    (each : ∀ done item rest before, items = done ++ item :: rest → invariant done before →
      Ends (step item) before (fun _ after => invariant (done ++ [item]) after) raised)
    (initially : invariant [] state) :
    Ends (items.forM step) state (fun _ after => invariant items after) raised := by
  have loop (done rest : List ι) (split : items = done ++ rest) (before : σ)
      (sofar : invariant done before) :
      Ends (rest.forM step) before (fun _ after => invariant items after) raised := by
    induction rest generalizing done before with
    | nil =>
        rw [List.append_nil] at split
        rw [split]
        exact Ends.of_ok rfl sofar
    | cons item rest ih =>
        change Ends (step item >>= fun _ => rest.forM step) before _ _
        apply Ends.bind (each done item rest before split sofar)
        · exact fun _ _ failed => failed
        · intro _ after now
          exact ih (done ++ [item]) (by rw [split, List.append_assoc, List.singleton_append])
            after now
  exact loop [] items rfl state initially

/-- The same for a loop that collects results. -/
theorem Ends.mapM {step : ι → EStateM ε σ β} (invariant : List ι → List β → σ → Prop)
    (each : ∀ done item rest results before, items = done ++ item :: rest →
      invariant done results before →
      Ends (step item) before
        (fun result after => invariant (done ++ [item]) (results ++ [result]) after) raised)
    (initially : invariant [] [] state) :
    Ends (items.mapM step) state (fun results after => invariant items results after) raised := by
  have loop (done rest : List ι) (split : items = done ++ rest) (results : List β) (before : σ)
      (sofar : invariant done results before) :
      Ends (rest.mapM step) before (fun more after => invariant items (results ++ more) after)
        raised := by
    induction rest generalizing done results before with
    | nil =>
        rw [List.append_nil] at split
        rw [split, List.mapM_nil]
        exact Ends.of_ok rfl ((List.append_nil results).symm ▸ sofar)
    | cons item rest ih =>
        rw [List.mapM_cons]
        apply Ends.bind (each done item rest results before split sofar)
        · exact fun _ _ failed => failed
        · intro result after now
          have later := ih (done ++ [item])
            (by rw [split, List.append_assoc, List.singleton_append]) (results ++ [result])
            after now
          apply Ends.bind later
          · exact fun _ _ failed => failed
          · intro more last ended
            apply Ends.pure
            rw [List.append_assoc, List.singleton_append] at ended
            exact ended
  exact loop [] items rfl [] state initially

end Loops

theorem Ends.of_returned {computation : EStateM ε σ α} {value : α}
    (ends : Ends computation state returned raised)
    (result : resultOf (computation state) = .ok value) :
    returned value (stateOf (computation state)) := by
  unfold Ends at ends
  cases ran : computation state with
  | ok other after =>
      rw [ran] at ends result
      cases result
      exact ends
  | error error after =>
      rw [ran] at result
      cases result

theorem Ends.of_raised {computation : EStateM ε σ α} {error : ε}
    (ends : Ends computation state returned raised)
    (result : resultOf (computation state) = .error error) :
    raised error (stateOf (computation state)) := by
  unfold Ends at ends
  cases ran : computation state with
  | ok value after =>
      rw [ran] at result
      cases result
  | error other after =>
      rw [ran] at ends result
      cases result
      exact ends

theorem Ends.always {computation : EStateM ε σ α} {holds : σ → Prop}
    (ends : Ends computation state (fun _ after => holds after) (fun _ after => holds after)) :
    holds (stateOf (computation state)) := by
  unfold Ends at ends
  cases ran : computation state <;> rw [ran] at ends <;> exact ends

end ImagePipeline.Library.Stateful
