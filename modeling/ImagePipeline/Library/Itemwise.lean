/-
Computations that may raise: what a sequence of two returns comes from both, and
what it raises from one of them. Mapping such a function over a list succeeds item
by item, and it fails with the exception of the first item that raises.
-/

import Mathlib.Data.List.Forall2

namespace ImagePipeline.Library

/-! ### Sequences -/

section Sequences

variable {ε α β : Type} {first : Except ε α} {next : α → Except ε β}

theorem bind_ok_iff {result : β} :
    (first >>= next) = .ok result ↔ ∃ value, first = .ok value ∧ next value = .ok result := by
  cases first with
  | error raised =>
      constructor
      · intro impossible
        cases impossible
      · intro ⟨_, impossible, _⟩
        cases impossible
  | ok value =>
      constructor
      · intro returned
        exact ⟨value, rfl, returned⟩
      · intro ⟨_, same, returned⟩
        cases same
        exact returned

theorem bind_error_iff {raised : ε} :
    (first >>= next) = .error raised ↔
      first = .error raised ∨ ∃ value, first = .ok value ∧ next value = .error raised := by
  cases first with
  | error earlier =>
      constructor
      · intro failed
        cases failed
        exact .inl rfl
      · intro failed
        rcases failed with same | ⟨_, impossible, _⟩
        · cases same
          rfl
        · cases impossible
  | ok value =>
      constructor
      · intro failed
        exact .inr ⟨value, rfl, failed⟩
      · intro failed
        rcases failed with impossible | ⟨_, same, failed⟩
        · cases impossible
        · cases same
          exact failed

/-- Whatever a sequence raises is raised by one of its parts. -/
theorem raises_bind {property : ε → Prop}
    (atFirst : ∀ raised, first = .error raised → property raised)
    (atNext : ∀ value, first = .ok value → ∀ raised, next value = .error raised → property raised)
    {raised : ε} (failed : (first >>= next) = .error raised) : property raised := by
  rcases bind_error_iff.mp failed with early | ⟨value, returned, late⟩
  · exact atFirst raised early
  · exact atNext value returned raised late

theorem exists_ok_of_isOk {result : Except ε α} (returned : result.isOk = true) :
    ∃ value, result = .ok value := by
  cases result with
  | error raised => cases returned
  | ok value => exact ⟨value, rfl⟩

end Sequences

/-! ### Lists -/

theorem exists_mem_of_mem_right {α β : Type} {relation : α → β → Prop} {left : List α}
    {right : List β} (itemwise : List.Forall₂ relation left right) {other : β}
    (member : other ∈ right) : ∃ item ∈ left, relation item other := by
  induction itemwise with
  | nil => exact absurd member List.not_mem_nil
  | cons related _ ih =>
      rcases List.mem_cons.mp member with rfl | later
      · exact ⟨_, List.mem_cons_self, related⟩
      · obtain ⟨item, present, same⟩ := ih later
        exact ⟨item, List.mem_cons_of_mem _ present, same⟩

theorem exists_mem_of_mem_left {α β : Type} {relation : α → β → Prop} {left : List α}
    {right : List β} (itemwise : List.Forall₂ relation left right) {item : α}
    (member : item ∈ left) : ∃ other ∈ right, relation item other :=
  exists_mem_of_mem_right itemwise.flip member

theorem exists_forall₂ {α β : Type} {relation : α → β → Prop} {left : List α}
    (each : ∀ item ∈ left, ∃ other, relation item other) :
    ∃ right, List.Forall₂ relation left right := by
  induction left with
  | nil => exact ⟨[], .nil⟩
  | cons item rest ih =>
      obtain ⟨other, related⟩ := each item List.mem_cons_self
      obtain ⟨others, itemwise⟩ := ih fun later member => each later (List.mem_cons_of_mem _ member)
      exact ⟨other :: others, .cons related itemwise⟩

theorem map_eq_of_forall₂ {α β γ : Type} {relation : α → β → Prop} {print : α → γ}
    {printOther : β → γ} {left : List α} {right : List β}
    (itemwise : List.Forall₂ relation left right)
    (each : ∀ item ∈ left, ∀ other ∈ right, relation item other →
      print item = printOther other) : left.map print = right.map printOther := by
  induction itemwise with
  | nil => rfl
  | cons same _ ih =>
      rw [List.map_cons, List.map_cons, each _ List.mem_cons_self _ List.mem_cons_self same,
        ih fun item member other present =>
          each item (List.mem_cons_of_mem _ member) other (List.mem_cons_of_mem _ present)]

variable {α β ε : Type} {f : α → Except ε β}

theorem mapM_cons_ok {item : α} {rest : List α} {value : β} (first : f item = .ok value) :
    (item :: rest).mapM f = (rest.mapM f).map (fun values => value :: values) := by
  rw [List.mapM_cons, first]
  cases rest.mapM f <;> rfl

theorem mapM_cons_error {item : α} {rest : List α} {raised : ε} (first : f item = .error raised) :
    (item :: rest).mapM f = .error raised := by
  rw [List.mapM_cons, first]
  rfl

/-- A function that succeeds on every item does so on the list. -/
theorem mapM_map_ok {γ : Type} {g : γ → α} {h : γ → β} {items : List γ}
    (each : ∀ item ∈ items, f (g item) = .ok (h item)) :
    (items.map g).mapM f = .ok (items.map h) := by
  induction items with
  | nil => rfl
  | cons item rest ih =>
      rw [List.map_cons, mapM_cons_ok (each item List.mem_cons_self),
        ih (fun other member => each other (List.mem_cons_of_mem _ member))]
      rfl

theorem mapM_eq_map {h : α → β} {items : List α} (each : ∀ item ∈ items, f item = .ok (h item)) :
    items.mapM f = .ok (items.map h) := by
  have mapped := mapM_map_ok (g := id) each
  rwa [List.map_id] at mapped

theorem mapM_ok_iff {items : List α} {values : List β} :
    items.mapM f = .ok values ↔
      List.Forall₂ (fun item value => f item = .ok value) items values := by
  induction items generalizing values with
  | nil =>
      rw [List.forall₂_nil_left_iff, List.mapM_nil]
      constructor
      · intro same
        cases same
        rfl
      · rintro rfl
        rfl
  | cons item rest ih =>
      rw [List.forall₂_cons_left_iff]
      cases first : f item with
      | error raised =>
          rw [mapM_cons_error first]
          constructor
          · intro impossible
            cases impossible
          · intro ⟨_, _, impossible, _⟩
            cases impossible
      | ok value =>
          rw [mapM_cons_ok first]
          constructor
          · intro mapped
            cases later : rest.mapM f with
            | error raised =>
                rw [later] at mapped
                cases mapped
            | ok others =>
                rw [later] at mapped
                cases mapped
                exact ⟨value, others, rfl, ih.mp later, rfl⟩
          · rintro ⟨_, others, same, later, rfl⟩
            cases same
            rw [ih.mpr later]
            rfl

theorem exists_mapM_ok {items : List α} (each : ∀ item ∈ items, ∃ value, f item = .ok value) :
    ∃ values, items.mapM f = .ok values := by
  obtain ⟨values, itemwise⟩ := exists_forall₂ each
  exact ⟨values, mapM_ok_iff.mpr itemwise⟩

theorem mapM_error_iff {items : List α} {raised : ε} :
    items.mapM f = .error raised ↔ ∃ before item after, items = before ++ item :: after ∧
      (∀ earlier ∈ before, ∃ value, f earlier = .ok value) ∧ f item = .error raised := by
  induction items with
  | nil =>
      constructor
      · intro impossible
        cases impossible
      · intro ⟨before, item, after, impossible, _⟩
        cases before <;> cases impossible
  | cons item rest ih =>
      cases first : f item with
      | error other =>
          rw [mapM_cons_error first]
          constructor
          · intro same
            cases same
            exact ⟨[], item, rest, rfl, fun _ none => absurd none List.not_mem_nil, first⟩
          · intro ⟨before, culprit, after, split, fine, failed⟩
            cases before with
            | nil =>
                cases split
                rw [first] at failed
                cases failed
                rfl
            | cons head tail =>
                cases split
                obtain ⟨value, succeeded⟩ := fine item List.mem_cons_self
                rw [first] at succeeded
                cases succeeded
      | ok value =>
          have mapped : (item :: rest).mapM f = .error raised ↔ rest.mapM f = .error raised := by
            rw [mapM_cons_ok first]
            cases rest.mapM f with
            | error other => exact Iff.rfl
            | ok others =>
                constructor <;>
                  (intro impossible; cases impossible)
          rw [mapped, ih]
          constructor
          · rintro ⟨before, culprit, after, rfl, fine, failed⟩
            refine ⟨item :: before, culprit, after, rfl, ?_, failed⟩
            intro earlier member
            rcases List.mem_cons.mp member with rfl | later
            · exact ⟨value, first⟩
            · exact fine earlier later
          · intro ⟨before, culprit, after, split, fine, failed⟩
            cases before with
            | nil =>
                cases split
                rw [first] at failed
                cases failed
            | cons head tail =>
                cases split
                exact ⟨tail, culprit, after, rfl,
                  fun earlier member => fine earlier (List.mem_cons_of_mem _ member), failed⟩

end ImagePipeline.Library
