/-
Texts that can be read back. A printed value is followed by more text; reading
is unambiguous if two prints with their continuations can only be equal when
the values are the same and the continuations are too. There is one rule for
each way of printing: runs of letters up to a stop, letter codes up to a
closing letter, and lists with a separator.
A loop that takes one code word in each round reads them back one by one.
-/

import Mathlib.Data.List.Basic
import Mathlib.Data.List.Forall2

namespace ImagePipeline.Library

variable {α β V : Type}

/-- The text is empty or goes on with a letter that ends what is before it. -/
def Stops (stop : α → Prop) (text : List α) : Prop := ∀ letter ∈ text.head?, stop letter

theorem Stops.cons {stop : α → Prop} {letter : α} {text : List α} (ends : stop letter) :
    Stops stop (letter :: text) := by
  intro first same
  cases same
  exact ends

theorem Stops.nil {stop : α → Prop} : Stops stop [] := by
  intro first impossible
  cases impossible

/-- Reading one of two prints back, whatever follows them. -/
def Reads (stop : α → Prop) (print : V → List α) (same : V → V → Prop) (left right : V) : Prop :=
  ∀ restLeft restRight, Stops stop restLeft → Stops stop restRight →
    print left ++ restLeft = print right ++ restRight → same left right ∧ restLeft = restRight

theorem run_reads {stop : α → Prop} {left right restLeft restRight : List α}
    (runLeft : ∀ letter ∈ left, ¬ stop letter) (runRight : ∀ letter ∈ right, ¬ stop letter)
    (stopsLeft : Stops stop restLeft) (stopsRight : Stops stop restRight)
    (equal : left ++ restLeft = right ++ restRight) : left = right ∧ restLeft = restRight := by
  induction left generalizing right with
  | nil =>
      cases right with
      | nil => exact ⟨rfl, equal⟩
      | cons letter more =>
          rw [List.nil_append, List.cons_append] at equal
          subst equal
          exact absurd (stopsLeft letter rfl) (runRight letter List.mem_cons_self)
  | cons head tail ih =>
      cases right with
      | nil =>
          rw [List.nil_append, List.cons_append] at equal
          subst equal
          exact absurd (stopsRight head rfl) (runLeft head List.mem_cons_self)
      | cons letter more =>
          rw [List.cons_append, List.cons_append, List.cons.injEq] at equal
          obtain ⟨rfl, later⟩ := equal
          obtain ⟨rfl, rest⟩ := ih
            (fun letter member => runLeft letter (List.mem_cons_of_mem _ member))
            (fun letter member => runRight letter (List.mem_cons_of_mem _ member)) later
          exact ⟨rfl, rest⟩

/-- A code whose words can be told apart from left to right. -/
def Instant (code : β → List α) : Prop :=
  ∀ left right restLeft restRight, code left ++ restLeft = code right ++ restRight →
    left = right ∧ restLeft = restRight

/-- Code words up to a closing letter that none of them begins with. -/
theorem Instant.flatMap_reads {code : β → List α} (instant : Instant code) {closing : α}
    (opens : ∀ item rest, code item ≠ closing :: rest) (nonempty : ∀ item, code item ≠ [])
    {left right : List β} {restLeft restRight : List α}
    (equal :
      left.flatMap code ++ closing :: restLeft = right.flatMap code ++ closing :: restRight) :
    left = right ∧ restLeft = restRight := by
  have begins (item : β) (text rest : List α) : code item ++ text ≠ closing :: rest := by
    intro same
    cases word : code item with
    | nil => exact nonempty item word
    | cons letter more =>
        rw [word, List.cons_append, List.cons.injEq] at same
        exact opens item more (same.1 ▸ word)
  induction left generalizing right with
  | nil =>
      cases right with
      | nil => exact ⟨rfl, (List.cons.inj equal).2⟩
      | cons item more =>
          rw [List.flatMap_cons, List.append_assoc] at equal
          exact absurd equal.symm (begins item _ _)
  | cons head tail ih =>
      cases right with
      | nil =>
          rw [List.flatMap_cons, List.append_assoc] at equal
          exact absurd equal (begins head _ _)
      | cons item more =>
          rw [List.flatMap_cons, List.flatMap_cons, List.append_assoc, List.append_assoc] at equal
          obtain ⟨rfl, later⟩ := instant _ _ _ _ equal
          obtain ⟨rfl, rest⟩ := ih later
          exact ⟨rfl, rest⟩

theorem Instant.flatMap_injective {code : β → List α} (instant : Instant code)
    (nonempty : ∀ item, code item ≠ []) {left right : List β}
    (equal : left.flatMap code = right.flatMap code) : left = right := by
  induction left generalizing right with
  | nil =>
      cases right with
      | nil => rfl
      | cons item more =>
          rw [List.flatMap_nil, List.flatMap_cons] at equal
          exact absurd (List.append_eq_nil_iff.mp equal.symm).1 (nonempty item)
  | cons head tail ih =>
      cases right with
      | nil =>
          rw [List.flatMap_nil, List.flatMap_cons] at equal
          exact absurd (List.append_eq_nil_iff.mp equal).1 (nonempty head)
      | cons item more =>
          rw [List.flatMap_cons, List.flatMap_cons] at equal
          obtain ⟨rfl, later⟩ := instant _ _ _ _ equal
          rw [ih later]

/-- `separator.join(texts)`. -/
def joinWith (separator : α) : List (List α) → List α
  | [] => []
  | [text] => text
  | text :: rest => text ++ separator :: joinWith separator rest

theorem joinWith_cons (separator : α) (text : List α) (rest : List (List α)) :
    joinWith separator (text :: rest) =
      text ++ (if rest = [] then [] else separator :: joinWith separator rest) := by
  cases rest with
  | nil => exact (List.append_nil text).symm
  | cons next more => rfl

/-- A list with a separator and a closing letter, if its items can be read and
none of them begins with the closing letter. -/
theorem joinWith_reads {stop : α → Prop} {print : V → List α} {same : V → V → Prop}
    {separator closing : α} (stopsSeparator : stop separator) (stopsClosing : stop closing)
    (different : separator ≠ closing) {left right : List V}
    (opens : ∀ item, ∃ letter rest, print item = letter :: rest ∧ letter ≠ closing)
    (reads : ∀ item ∈ left, ∀ other ∈ right, Reads stop print same item other)
    {restLeft restRight : List α}
    (equal : joinWith separator (left.map print) ++ closing :: restLeft =
      joinWith separator (right.map print) ++ closing :: restRight) :
    List.Forall₂ same left right ∧ restLeft = restRight := by
  have follows (items : List V) (rest : List α) : Stops stop
      ((if items.map print = [] then [] else separator :: joinWith separator (items.map print)) ++
        closing :: rest) := by
    cases items with
    | nil => exact Stops.cons stopsClosing
    | cons item more => exact Stops.cons stopsSeparator
  induction left generalizing right with
  | nil =>
      cases right with
      | nil => exact ⟨.nil, (List.cons.inj equal).2⟩
      | cons other more =>
          obtain ⟨letter, rest, printed, other⟩ := opens other
          rw [List.map_cons, joinWith_cons, printed] at equal
          exact absurd (List.cons.inj equal).1.symm other
  | cons item rest ih =>
      cases right with
      | nil =>
          obtain ⟨letter, rest, printed, other⟩ := opens item
          rw [List.map_cons, joinWith_cons, printed] at equal
          exact absurd (List.cons.inj equal).1 other
      | cons other more =>
          rw [List.map_cons, List.map_cons, joinWith_cons, joinWith_cons, List.append_assoc,
            List.append_assoc] at equal
          obtain ⟨sameItem, later⟩ := reads item List.mem_cons_self other List.mem_cons_self _ _
            (follows rest restLeft) (follows more restRight) equal
          cases rest with
          | nil =>
              cases more with
              | nil => exact ⟨.cons sameItem .nil, (List.cons.inj later).2⟩
              | cons next further =>
                  exact absurd (List.cons.inj later).1.symm different
          | cons following further =>
              cases more with
              | nil => exact absurd (List.cons.inj later).1 different
              | cons next others =>
                  have tails := (List.cons.inj later).2
                  obtain ⟨sameRest, rests⟩ := ih
                    (fun item member other present => reads item (List.mem_cons_of_mem _ member)
                      other (List.mem_cons_of_mem _ present)) tails
                  exact ⟨.cons sameItem sameRest, rests⟩

/-! ### Code words -/

section Words

variable {α β ε V : Type}

/-- What one round of the loop comes to. -/
inductive Scanned (α β : Type) where
  | emits (letters : List β) (rest : List α)
  | ends (rest : List α)

/-- The letters up to the end, and what follows it; `stuck` is only raised if the
rounds do not suffice. -/
def scan (stuck : ε) (step : List α → Except ε (Scanned α β)) :
    Nat → List α → Except ε (List β × List α)
  | 0, _ => .error stuck
  | rounds + 1, text =>
      match step text with
      | .error raised => .error raised
      | .ok (.ends rest) => .ok ([], rest)
      | .ok (.emits letters rest) =>
          (scan stuck step rounds rest).map (fun scanned => (letters ++ scanned.1, scanned.2))

variable {stuck : ε} {step : List α → Except ε (Scanned α β)}

theorem scan_words {code : V → List α} {meaning : V → List β} {items : List V}
    (reads : ∀ item ∈ items, ∀ rest, step (code item ++ rest) = .ok (.emits (meaning item) rest))
    {closing rest : List α} (ends : step closing = .ok (.ends rest)) {rounds : Nat}
    (enough : items.length < rounds) :
    scan stuck step rounds (items.flatMap code ++ closing) = .ok (items.flatMap meaning, rest) := by
  induction items generalizing rounds with
  | nil =>
      cases rounds with
      | zero => exact absurd enough (Nat.not_lt_zero _)
      | succ rounds =>
          rw [List.flatMap_nil, List.nil_append, scan, ends]
          rfl
  | cons item items ih =>
      cases rounds with
      | zero => exact absurd enough (Nat.not_lt_zero _)
      | succ rounds =>
          have later := ih (fun other member => reads other (List.mem_cons_of_mem _ member))
            (Nat.lt_of_succ_lt_succ enough)
          rw [List.flatMap_cons, List.append_assoc, scan, reads item List.mem_cons_self]
          dsimp only
          rw [later]
          rfl

theorem length_le_flatMap {code : V → List α} {items : List V}
    (nonempty : ∀ item ∈ items, code item ≠ []) : items.length ≤ (items.flatMap code).length := by
  induction items with
  | nil => exact Nat.zero_le _
  | cons item items ih =>
      have later := ih fun other member => nonempty other (List.mem_cons_of_mem _ member)
      have word := List.length_pos_of_ne_nil (nonempty item List.mem_cons_self)
      rw [List.flatMap_cons, List.length_cons, List.length_append]
      omega

end Words

end ImagePipeline.Library
