/-
Backlogs in a sequence of observations. A watcher waits for a busy item and
takes the first idle one after it for the end of the backlog. If the items get
busy again, they are idle for good only later.
-/

import Mathlib.Data.Set.Finite.Lemmas
import Mathlib.Data.Set.Finite.List

namespace ImagePipeline.Library

/-- What a watcher reports. -/
inductive Backlog (α : Type) where
  | never
  | pending
  | cleared (item : α)

namespace Backlog

section Definitions

variable {α : Type} (busy : α → Bool)

/-- The rest of a watch that has met a busy item already, or not yet. -/
def watchFrom : Bool → List α → Backlog α
  | seen, [] => if seen then .pending else .never
  | seen, item :: rest =>
      if busy item then watchFrom true rest
      else if seen then .cleared item
      else watchFrom false rest

def watch (items : List α) : Backlog α := watchFrom busy false items

/-- The items that the watcher gets to see if it watches only the late ones. -/
def watchedFrom (late : α → Bool) : Bool → List α → List α
  | _, [] => []
  | seen, item :: rest =>
      item ::
        if late item = false then watchedFrom late seen rest
        else if busy item then watchedFrom late true rest
        else if seen then []
        else watchedFrom late false rest

/-- The item at which a backlog was cleared. -/
def item? : Backlog α → Option α
  | .cleared item => some item
  | _ => none

def map {β : Type} (read : α → β) : Backlog α → Backlog β
  | .never => .never
  | .pending => .pending
  | .cleared item => .cleared (read item)

/-- Idle items and then only busy ones. -/
def IsOpen (items : List α) : Prop :=
  ∃ idle backlog, items = idle ++ backlog ∧ backlog ≠ [] ∧
    (∀ item ∈ idle, busy item = false) ∧ ∀ item ∈ backlog, busy item = true

/-- The item is the first idle one after a busy one. -/
def Clears (items : List α) (item : α) : Prop :=
  ∃ before after, items = before ++ item :: after ∧ IsOpen busy before ∧ busy item = false

end Definitions

variable {α : Type} {busy : α → Bool}

theorem watchFrom_idle {idle : List α} (quiet : ∀ item ∈ idle, busy item = false)
    (rest : List α) : watchFrom busy false (idle ++ rest) = watchFrom busy false rest := by
  induction idle with
  | nil => rfl
  | cons item idle ih =>
      have atHead := quiet item List.mem_cons_self
      simp only [List.cons_append, watchFrom, atHead, Bool.false_eq_true, if_false]
      exact ih (fun later member => quiet later (List.mem_cons_of_mem _ member))

theorem watchFrom_busy {backlog : List α} (loud : ∀ item ∈ backlog, busy item = true)
    (rest : List α) : watchFrom busy true (backlog ++ rest) = watchFrom busy true rest := by
  induction backlog with
  | nil => rfl
  | cons item backlog ih =>
      have atHead := loud item List.mem_cons_self
      simp only [List.cons_append, watchFrom, atHead, if_true]
      exact ih (fun later member => loud later (List.mem_cons_of_mem _ member))

theorem IsOpen.watchFrom {before : List α} (isOpen : IsOpen busy before) (rest : List α) :
    watchFrom busy false (before ++ rest) = watchFrom busy true rest := by
  obtain ⟨idle, backlog, rfl, some, quiet, loud⟩ := isOpen
  cases backlog with
  | nil => exact absurd rfl some
  | cons first backlog =>
      have atFirst := loud first List.mem_cons_self
      rw [List.append_assoc, watchFrom_idle quiet, List.cons_append, Backlog.watchFrom,
        if_pos atFirst]
      exact watchFrom_busy (fun later member => loud later (List.mem_cons_of_mem _ member)) rest

theorem IsOpen.exists_busy {items : List α} (isOpen : IsOpen busy items) :
    ∃ item ∈ items, busy item = true := by
  obtain ⟨idle, backlog, rfl, some, _, loud⟩ := isOpen
  obtain ⟨first, member⟩ := List.exists_mem_of_ne_nil backlog some
  exact ⟨first, List.mem_append_right _ member, loud first member⟩

theorem IsOpen.filter {items : List α} (isOpen : IsOpen busy items) {kept : α → Bool}
    (keeps : ∀ item ∈ items, busy item = true → kept item = true) :
    IsOpen busy (items.filter kept) := by
  obtain ⟨idle, backlog, rfl, some, quiet, loud⟩ := isOpen
  have all : backlog.filter kept = backlog := by
    rw [List.filter_eq_self]
    intro item member
    exact keeps item (List.mem_append_right _ member) (loud item member)
  refine ⟨idle.filter kept, backlog, by rw [List.filter_append, all], some, ?_, loud⟩
  intro item member
  exact quiet item ((List.mem_filter.mp member).1)

/-! ### What a watcher reports -/

theorem watch_of_idle {items : List α} (quiet : ∀ item ∈ items, busy item = false) :
    watch busy items = .never := by
  have ends := watchFrom_idle quiet []
  rw [List.append_nil] at ends
  exact ends

theorem IsOpen.watch {items : List α} (isOpen : IsOpen busy items) :
    watch busy items = .pending := by
  have ends := isOpen.watchFrom []
  rw [List.append_nil] at ends
  exact ends

theorem watch_of_clears {before after : List α} {item : α} (isOpen : IsOpen busy before)
    (idle : busy item = false) : watch busy (before ++ item :: after) = .cleared item := by
  rw [Backlog.watch, isOpen.watchFrom]
  simp only [Backlog.watchFrom, idle, Bool.false_eq_true, if_false, if_true]

theorem outline (items : List α) :
    (∀ item ∈ items, busy item = false) ∨ IsOpen busy items ∨ ∃ item, Clears busy items item := by
  cases first : items.find? busy with
  | none =>
      left
      intro item member
      exact Bool.eq_false_iff.mpr (List.find?_eq_none.mp first item member)
  | some head =>
      right
      obtain ⟨atHead, idle, rest, rfl, quiet⟩ := List.find?_eq_some_iff_append.mp first
      have quiet (item : α) (member : item ∈ idle) : busy item = false := by
        simpa using quiet item member
      cases next : rest.find? (fun item => !busy item) with
      | none =>
          left
          refine ⟨idle, head :: rest, rfl, List.cons_ne_nil _ _, quiet, ?_⟩
          intro item member
          rcases List.mem_cons.mp member with rfl | later
          · exact atHead
          · simpa using List.find?_eq_none.mp next item later
      | some item =>
          right
          obtain ⟨idleItem, backlog, after, rfl, loud⟩ := List.find?_eq_some_iff_append.mp next
          refine ⟨item, idle ++ head :: backlog, after, by simp, ?_, by simpa using idleItem⟩
          refine ⟨idle, head :: backlog, rfl, List.cons_ne_nil _ _, quiet, ?_⟩
          intro other member
          rcases List.mem_cons.mp member with rfl | later
          · exact atHead
          · simpa using loud other later

theorem watch_eq_never {items : List α} :
    watch busy items = .never ↔ ∀ item ∈ items, busy item = false := by
  constructor
  · intro never
    rcases outline items with quiet | isOpen | ⟨item, before, after, rfl, isOpen, idle⟩
    · exact quiet
    · rw [isOpen.watch] at never
      cases never
    · rw [watch_of_clears isOpen idle] at never
      cases never
  · exact watch_of_idle

theorem watch_eq_pending {items : List α} : watch busy items = .pending ↔ IsOpen busy items := by
  constructor
  · intro pending
    rcases outline items with quiet | isOpen | ⟨item, before, after, rfl, isOpen, idle⟩
    · rw [watch_of_idle quiet] at pending
      cases pending
    · exact isOpen
    · rw [watch_of_clears isOpen idle] at pending
      cases pending
  · exact IsOpen.watch

theorem watch_eq_cleared {items : List α} {item : α} :
    watch busy items = .cleared item ↔ Clears busy items item := by
  constructor
  · intro cleared
    rcases outline items with quiet | isOpen | ⟨other, clears⟩
    · rw [watch_of_idle quiet] at cleared
      cases cleared
    · rw [isOpen.watch] at cleared
      cases cleared
    · obtain ⟨before, after, rfl, isOpen, idle⟩ := clears
      rw [watch_of_clears isOpen idle] at cleared
      cases cleared
      exact ⟨before, after, rfl, isOpen, idle⟩
  · rintro ⟨before, after, rfl, isOpen, idle⟩
    exact watch_of_clears isOpen idle

theorem watchFrom_map {β : Type} (read : β → α) (seen : Bool) (items : List β) :
    watchFrom busy seen (items.map read) =
      (watchFrom (fun item => busy (read item)) seen items).map read := by
  induction items generalizing seen with
  | nil => cases seen <;> rfl
  | cons item rest ih =>
      rw [List.map_cons, watchFrom, watchFrom]
      split
      · exact ih true
      · split
        · rfl
        · exact ih false

theorem watch_map {β : Type} (read : β → α) (items : List β) :
    watch busy (items.map read) = (watch (fun item => busy (read item)) items).map read :=
  watchFrom_map read false items

/-! ### How far a watcher gets -/

theorem watchedFrom_append (late : α → Bool) (items rest : List α) {seen : Bool}
    (uncleared : ∀ item, watchFrom busy seen (items.filter late) ≠ .cleared item) :
    watchedFrom busy late seen (items ++ rest) =
      items ++ watchedFrom busy late (seen || (items.filter late).any busy) rest := by
  induction items generalizing seen with
  | nil => simp
  | cons item items ih =>
      rw [List.cons_append, watchedFrom, List.cons_append, List.cons_inj_right]
      cases counts : late item with
      | false =>
          rw [List.filter_cons_of_neg (by simp [counts])] at uncleared ⊢
          rw [if_pos rfl]
          exact ih uncleared
      | true =>
          rw [List.filter_cons_of_pos counts] at uncleared ⊢
          rw [if_neg (Bool.false_ne_true ∘ Eq.symm), List.any_cons]
          cases loud : busy item with
          | true =>
              simp only [watchFrom, loud, if_true] at uncleared
              rw [if_pos rfl, ih uncleared, Bool.true_or, Bool.or_comm, Bool.true_or]
          | false =>
              cases seen with
              | true => exact absurd (by simp [watchFrom, loud]) (uncleared item)
              | false =>
                  simp only [watchFrom, loud, Bool.false_eq_true, if_false] at uncleared
                  rw [if_neg Bool.false_ne_true, if_neg Bool.false_ne_true, ih uncleared]
                  rfl

theorem watchedFrom_all {late : α → Bool} {items : List α}
    (uncleared : ∀ item, watch busy (items.filter late) ≠ .cleared item) :
    watchedFrom busy late false items = items := by
  have all := watchedFrom_append late items [] uncleared
  rw [List.append_nil] at all
  rw [all, watchedFrom, List.append_nil]

theorem watchedFrom_clears {late : α → Bool} {before after : List α} {item : α}
    (isOpen : IsOpen busy (before.filter late)) (counts : late item = true)
    (idle : busy item = false) :
    watchedFrom busy late false (before ++ item :: after) = before ++ [item] := by
  have uncleared (other : α) : watch busy (before.filter late) ≠ .cleared other := by
    rw [isOpen.watch]
    intro same
    cases same
  have some : (before.filter late).any busy = true := List.any_eq_true.mpr isOpen.exists_busy
  rw [watchedFrom_append late before (item :: after) uncleared, some]
  simp [watchedFrom, counts, idle]

/-- Where the item that clears the backlog of the late items stands. -/
theorem Clears.of_filter {late : α → Bool} {items : List α} {item : α}
    (clears : Clears busy (items.filter late) item) :
    ∃ before after, items = before ++ item :: after ∧ IsOpen busy (before.filter late) ∧
      late item = true ∧ busy item = false := by
  obtain ⟨before, after, split, isOpen, idle⟩ := clears
  obtain ⟨first, second, rfl, rfl, restSplit⟩ := List.filter_eq_append_iff.mp split
  obtain ⟨ignored, rest, rfl, none, counts, rfl⟩ := List.filter_eq_cons_iff.mp restSplit
  have skipped : ignored.filter late = [] := List.filter_eq_nil_iff.mpr none
  exact ⟨first ++ ignored, rest, by simp, by simpa [skipped] using isOpen, counts, idle⟩

/-- A watcher that reports a backlog has seen something busy. -/
theorem exists_busy_watched {late : α → Bool} {items : List α}
    (reported : watch busy (items.filter late) ≠ .never) :
    ∃ item ∈ watchedFrom busy late false items, busy item = true := by
  rcases outline (items.filter late) with quiet | isOpen | ⟨item, clears⟩
  · exact absurd (watch_of_idle quiet) reported
  · have uncleared (other : α) : watch busy (items.filter late) ≠ .cleared other := by
      rw [isOpen.watch]
      intro same
      cases same
    obtain ⟨item, member, loud⟩ := isOpen.exists_busy
    rw [watchedFrom_all uncleared]
    exact ⟨item, (List.mem_filter.mp member).1, loud⟩
  · obtain ⟨before, after, rfl, isOpen, counts, idle⟩ := clears.of_filter
    obtain ⟨loudItem, member, loud⟩ := isOpen.exists_busy
    rw [watchedFrom_clears isOpen counts idle]
    exact ⟨loudItem, List.mem_append_left _ (List.mem_filter.mp member).1, loud⟩

/-! ### Idle from a time on -/

section Times

variable {τ : Type} [LinearOrder τ] (busy : α → Bool) (time : α → τ) (items : List α)

/-- The times of items from which on no item is busy, in whatever order they stand. -/
def idleFrom : Set τ :=
  {moment | (∃ item ∈ items, time item = moment) ∧
    ∀ later ∈ items, moment ≤ time later → busy later = false}

/-- An item of the latest time is busy. -/
def BusyAtEnd : Prop :=
  ∃ last ∈ items, busy last = true ∧ ∀ other ∈ items, time other ≤ time last

variable {busy time items}

theorem exists_isLeast_idleFrom (some : (idleFrom busy time items).Nonempty) :
    ∃ moment, IsLeast (idleFrom busy time items) moment := by
  have finite : (idleFrom busy time items).Finite := by
    apply (items.finite_toSet.image time).subset
    rintro moment ⟨⟨item, member, rfl⟩, _⟩
    exact ⟨item, member, rfl⟩
  obtain ⟨moment, member, least⟩ := Set.exists_min_image _ id finite some
  exact ⟨moment, member, least⟩

theorem BusyAtEnd.not_mem_idleFrom (atEnd : BusyAtEnd busy time items) (moment : τ) :
    moment ∉ idleFrom busy time items := by
  obtain ⟨last, member, loud, latest⟩ := atEnd
  rintro ⟨⟨item, known, rfl⟩, quiet⟩
  rw [quiet last member (latest item known)] at loud
  cases loud

theorem idleFrom_nonempty (some : items ≠ []) (idle : ¬ BusyAtEnd busy time items) :
    (idleFrom busy time items).Nonempty := by
  obtain ⟨last, member, latest⟩ := Set.exists_max_image {item | item ∈ items} time
    items.finite_toSet (List.exists_mem_of_ne_nil items some)
  refine ⟨time last, ⟨last, member, rfl⟩, ?_⟩
  intro later known notEarlier
  by_contra loud
  -- whatever is as late as the last item is of the latest time itself
  refine idle ⟨later, known, by simpa using loud, ?_⟩
  intro other otherKnown
  exact (latest other otherKnown).trans notEarlier

/-- What is idle for a watcher that takes more items for busy is idle. -/
theorem idleFrom_subset {busier : α → Bool}
    (more : ∀ item ∈ items, busy item = true → busier item = true) :
    idleFrom busier time items ⊆ idleFrom busy time items := by
  rintro moment ⟨present, quiet⟩
  refine ⟨present, fun later member notEarlier => ?_⟩
  by_contra loud
  have louder := more later member (by simpa using loud)
  rw [quiet later member notEarlier] at louder
  cases louder

end Times

/-! ### Idle items that are put in between -/

/-- Idle items that are added to a sequence change the report only if one of
them stands where a backlog is open. -/
theorem watch_filter (busy : α → Bool) (items : List α) (kept : α → Bool)
    (idleAdded : ∀ item ∈ items, kept item = false → busy item = false) :
    (∃ before item after, items = before ++ item :: after ∧ IsOpen busy before ∧
      kept item = false) ∨ watch busy (items.filter kept) = watch busy items := by
  have keeps (item : α) (member : item ∈ items) (loud : busy item = true) : kept item = true := by
    by_contra added
    have idle := idleAdded item member (Bool.eq_false_iff.mpr added)
    rw [loud] at idle
    cases idle
  rcases outline items with quiet | isOpen | ⟨item, before, after, rfl, isOpen, idle⟩
  · right
    rw [watch_of_idle quiet, watch_of_idle]
    intro item member
    exact quiet item ((List.mem_filter.mp member).1)
  · right
    rw [isOpen.watch, (isOpen.filter keeps).watch]
  · cases ofOriginal : kept item with
    | false => exact .inl ⟨before, item, after, rfl, isOpen, ofOriginal⟩
    | true =>
        right
        have isOpenKept : IsOpen busy (before.filter kept) :=
          isOpen.filter (fun other member => keeps other (List.mem_append_left _ member))
        rw [List.filter_append, List.filter_cons_of_pos ofOriginal,
          watch_of_clears isOpen idle, watch_of_clears isOpenKept idle]

end Backlog

end ImagePipeline.Library
