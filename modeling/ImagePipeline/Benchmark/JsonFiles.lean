/-
`json.loads` reads back what `json.dumps` prints, at every depth and with any
white space: the log lines of the services and the JSON files of a run.
-/

import ImagePipeline.Benchmark.JsonTokens

namespace ImagePipeline.Benchmark

open Common
open Loadtest (skipSpace_cons NumberText)

/-! ### Containers -/

def Begins (text : Str) : Prop :=
  ∃ letter more, text = letter :: more ∧ isJsonSpace letter = false ∧ letter ≠ codePoint ']' ∧
    letter ≠ byteOrderMark

/-- In front of all that may follow a value, the text is read as this one. -/
structure ReadBack (value : ValueScanner) (text : Str) (json : Json) : Prop where
  begins : Begins text
  reads : ∀ rest, Closes rest → value (text ++ rest) = .ok (json, rest)

theorem skipSpace_blank {blank : Str} (allSpace : blank.all isJsonSpace = true) (rest : Str) :
    skipSpace (blank ++ rest) = skipSpace rest :=
  List.dropWhile_append_of_pos (List.all_eq_true.mp allSpace)

variable {layout : JsonLayout} {value : ValueScanner}

theorem newline_blank (layout : JsonLayout) (level : Nat) :
    (layout.newline level).all isJsonSpace = true := by
  unfold JsonLayout.newline
  cases layout.indent with
  | none => rfl
  | some width =>
      rw [List.all_cons, List.all_replicate]
      split_ifs <;> rfl

theorem closes_blank {blank rest : Str} (allSpace : blank.all isJsonSpace = true)
    (closes : Closes rest) : Closes (blank ++ rest) := by
  cases blank with
  | nil => exact closes
  | cons letter more =>
      intro first same
      cases same
      rw [List.all_cons, Bool.and_eq_true] at allSpace
      exact .inr allSpace.1

theorem closed_cons (level : Nat) (closing : CodePoint) (item : Str) (rest : List Str) :
    layout.closed level closing (item :: rest) =
      item ++ (if rest = [] then layout.newline level ++ [closing]
        else codePoint ',' :: (layout.afterComma ++ (layout.newline (level + 1) ++
          layout.closed level closing rest))) := by
  cases rest with
  | nil => rfl
  | cons next rest => rfl

theorem length_le_closed (layout : JsonLayout) (level : Nat) (closing : CodePoint)
    {texts : List Str} (nonempty : ∀ text ∈ texts, text ≠ []) :
    texts.length ≤ (layout.closed level closing texts).length := by
  induction texts with
  | nil => exact Nat.zero_le _
  | cons text rest ih =>
      have here := List.length_pos_of_ne_nil (nonempty text List.mem_cons_self)
      have later := ih fun other member => nonempty other (List.mem_cons_of_mem _ member)
      rw [closed_cons, List.length_append, List.length_cons]
      split_ifs with last
      · rw [last, List.length_nil]
        omega
      · simp only [List.length_cons, List.length_append]
        omega

theorem skipSpace_text {text : Str} (begins : Begins text) (rest : Str) :
    skipSpace (text ++ rest) = text ++ rest := by
  obtain ⟨letter, more, rfl, noSpace, _⟩ := begins
  exact skipSpace_cons noSpace _

theorem skipSpace_closed (layout : JsonLayout) (level : Nat) (closing : CodePoint) {text : Str}
    (others : List Str) (begins : Begins text) (rest : Str) :
    skipSpace (layout.closed level closing (text :: others) ++ rest) =
      layout.closed level closing (text :: others) ++ rest := by
  rw [closed_cons, List.append_assoc]
  exact skipSpace_text begins _

section Items

variable {ι : Type} {text : ι → Str} {json : ι → Json}

theorem scanItems_closed (layout : JsonLayout) (level : Nat) {items : List ι}
    (some : items ≠ []) (reads : ∀ item ∈ items, ReadBack value (text item) (json item))
    (rest : Str) {rounds : Nat}
    (enough : items.length ≤ rounds) :
    scanItems value rounds (layout.closed level (codePoint ']') (items.map text) ++ rest) =
      .ok (items.map json, rest) := by
  induction items generalizing rounds with
  | nil => exact absurd rfl some
  | cons item more ih =>
      obtain ⟨rounds, rfl⟩ : ∃ fewer, rounds = fewer + 1 :=
        Nat.exists_eq_add_one_of_ne_zero (by rw [List.length_cons] at enough; omega)
      have atItem := (reads item List.mem_cons_self).reads
      rw [List.map_cons, closed_cons, List.append_assoc]
      unfold scanItems
      cases more with
      | nil =>
          have bracket : skipSpace (codePoint ']' :: rest) = codePoint ']' :: rest :=
            skipSpace_cons rfl rest
          have behind : Closes (layout.newline level ++ codePoint ']' :: rest) :=
            closes_blank (newline_blank layout level) (.letter (by decide) rest)
          simp only [List.map_nil, if_true, List.append_assoc, List.singleton_append,
            atItem _ behind, bind, Except.bind, skipSpace_blank (newline_blank layout level),
            bracket]
          rfl
      | cons next others =>
          have later := ih (List.cons_ne_nil _ _)
            (fun other member => reads other (List.mem_cons_of_mem _ member))
            (Nat.le_of_succ_le_succ enough)
          have noneLeft : (next :: others).map text ≠ [] := List.cons_ne_nil _ _
          have atComma (after : Str) :
              skipSpace (codePoint ',' :: after) = codePoint ',' :: after :=
            skipSpace_cons rfl after
          have stops : codePoint ',' ∈ stopLetters := by decide
          have noBracket : codePoint ',' ≠ codePoint ']' := by decide
          have begins := skipSpace_closed layout level (codePoint ']') (others.map text)
            (reads next (List.mem_cons_of_mem _ List.mem_cons_self)).begins rest
          simp only [if_neg noneLeft, List.cons_append, List.append_assoc,
            atItem _ (.letter stops _), bind, Except.bind, atComma, if_neg noBracket, if_true,
            skipSpace_blank layout.blankComma, skipSpace_blank (newline_blank layout (level + 1))]
          rw [List.map_cons, begins, ← List.map_cons, later]
          rfl

theorem scanArray_bracketed (layout : JsonLayout) (level : Nat) {items : List ι}
    (reads : ∀ item ∈ items, ReadBack value (text item) (json item)) (rest : Str) :
    ∃ body, layout.bracketed level (codePoint '[') (codePoint ']') (items.map text) ++ rest =
        codePoint '[' :: body ∧
      scanArray value body = .ok (.arr (items.map json), rest) := by
  cases items with
  | nil => exact ⟨codePoint ']' :: rest, rfl, rfl⟩
  | cons item more =>
      have first := (reads item List.mem_cons_self).begins
      have begins := skipSpace_closed layout level (codePoint ']') (more.map text) first rest
      have nonempty : ∀ inner ∈ (item :: more).map text, inner ≠ [] := by
        intro inner member
        obtain ⟨other, present, rfl⟩ := List.mem_map.mp member
        obtain ⟨letter, later, split, _⟩ := (reads other present).begins
        rw [split]
        exact List.cons_ne_nil _ _
      have enough : (item :: more).length ≤ (layout.newline (level + 1) ++
          (layout.closed level (codePoint ']') ((item :: more).map text) ++ rest)).length + 1 := by
        have lengths := length_le_closed layout level (codePoint ']') nonempty
        rw [List.length_map] at lengths
        rw [List.length_append, List.length_append]
        omega
      have scanned := scanItems_closed layout level (List.cons_ne_nil item more) reads rest enough
      refine ⟨_, congrArg (List.cons _) (List.append_assoc _ _ _), ?_⟩
      unfold scanArray
      rw [skipSpace_blank (newline_blank layout (level + 1)), begins]
      obtain ⟨letter, later, split, _, noBracket, _⟩ := first
      obtain ⟨after, opens⟩ : ∃ after, layout.closed level (codePoint ']')
          ((item :: more).map text) ++ rest = letter :: after := by
        rw [List.map_cons, closed_cons, split]
        exact ⟨_, rfl⟩
      rw [opens] at scanned
      rw [← List.map_cons, opens]
      dsimp only
      rw [if_neg noBracket, scanned]
      rfl

end Items

section Fields

variable {ι : Type} {key : ι → Str} {text : ι → Str} {json : ι → Json}

def printedField (layout : JsonLayout) (key text : ι → Str) (item : ι) : Str :=
  layout.field (key item) (text item)

theorem printedField_begins (layout : JsonLayout) (key text : ι → Str) (item : ι) :
    Begins (printedField layout key text item) :=
  ⟨codePoint '"', _, rfl, rfl, by decide, by decide⟩

theorem scanPair_field (layout : JsonLayout) {item : ι} (joined : Joined (key item))
    (reads : ReadBack value (text item) (json item)) {rest : Str} (closes : Closes rest) :
    scanPair value (printedField layout key text item ++ rest) =
      .ok ((key item, json item), rest) := by
  have colon (after : Str) : skipSpace (codePoint ':' :: after) = codePoint ':' :: after :=
    skipSpace_cons rfl after
  unfold printedField JsonLayout.field
  rw [List.append_assoc, quote_append]
  unfold scanPair
  simp only [if_true, scanString_quoted joined, bind, Except.bind, List.cons_append,
    List.append_assoc, colon, skipSpace_blank layout.blankColon, skipSpace_text reads.begins,
    reads.reads rest closes]
  rfl

theorem scanPairs_closed (layout : JsonLayout) (level : Nat) {fields : List ι}
    (some : fields ≠ []) (joined : ∀ field ∈ fields, Joined (key field))
    (reads : ∀ field ∈ fields, ReadBack value (text field) (json field)) (rest : Str)
    {rounds : Nat} (enough : fields.length ≤ rounds) :
    scanPairs value rounds (layout.closed level (codePoint '\x7d')
        (fields.map (printedField layout key text)) ++ rest) =
      .ok (fields.map (fun field => (key field, json field)), rest) := by
  induction fields generalizing rounds with
  | nil => exact absurd rfl some
  | cons field more ih =>
      obtain ⟨rounds, rfl⟩ : ∃ fewer, rounds = fewer + 1 :=
        Nat.exists_eq_add_one_of_ne_zero (by rw [List.length_cons] at enough; omega)
      have atField {after : Str} (closes : Closes after) :=
        scanPair_field layout (joined field List.mem_cons_self)
          (reads field List.mem_cons_self) closes
      rw [List.map_cons, closed_cons, List.append_assoc]
      unfold scanPairs
      cases more with
      | nil =>
          have brace : skipSpace (codePoint '\x7d' :: rest) = codePoint '\x7d' :: rest :=
            skipSpace_cons rfl rest
          have behind : Closes (layout.newline level ++ codePoint '\x7d' :: rest) :=
            closes_blank (newline_blank layout level) (.letter (by decide) rest)
          simp only [List.map_nil, if_true, List.append_assoc, List.singleton_append,
            atField behind, bind, Except.bind, skipSpace_blank (newline_blank layout level), brace]
          rfl
      | cons next others =>
          have later := ih (List.cons_ne_nil _ _)
            (fun other member => joined other (List.mem_cons_of_mem _ member))
            (fun other member => reads other (List.mem_cons_of_mem _ member))
            (Nat.le_of_succ_le_succ enough)
          have noneLeft : (next :: others).map (printedField layout key text) ≠ [] :=
            List.cons_ne_nil _ _
          have atComma (after : Str) :
              skipSpace (codePoint ',' :: after) = codePoint ',' :: after :=
            skipSpace_cons rfl after
          have stops : codePoint ',' ∈ stopLetters := by decide
          have noBrace : codePoint ',' ≠ codePoint '\x7d' := by decide
          have begins := skipSpace_closed layout level (codePoint '\x7d')
            (others.map (printedField layout key text)) (printedField_begins layout key text next)
            rest
          simp only [if_neg noneLeft, List.cons_append, List.append_assoc,
            atField (.letter stops _), bind, Except.bind, atComma, if_neg noBrace, if_true,
            skipSpace_blank layout.blankComma, skipSpace_blank (newline_blank layout (level + 1))]
          rw [List.map_cons, begins, ← List.map_cons, later]
          rfl

theorem scanObject_bracketed (layout : JsonLayout) (level : Nat) {fields : List ι}
    (distinct : (fields.map key).Nodup) (joined : ∀ field ∈ fields, Joined (key field))
    (reads : ∀ field ∈ fields, ReadBack value (text field) (json field)) (rest : Str) :
    ∃ body, layout.bracketed level (codePoint '\x7b') (codePoint '\x7d')
        (fields.map (printedField layout key text)) ++ rest = codePoint '\x7b' :: body ∧
      scanObject value body =
        .ok (.obj (fields.map (fun field => (key field, json field))), rest) := by
  cases fields with
  | nil => exact ⟨codePoint '\x7d' :: rest, rfl, rfl⟩
  | cons field more =>
      have begins := skipSpace_closed layout level (codePoint '\x7d')
        (more.map (printedField layout key text)) (printedField_begins layout key text field) rest
      have nonempty : ∀ inner ∈ (field :: more).map (printedField layout key text),
          inner ≠ [] := by
        intro inner member
        obtain ⟨other, _, rfl⟩ := List.mem_map.mp member
        exact List.cons_ne_nil _ _
      have enough : (field :: more).length ≤ (layout.newline (level + 1) ++
          (layout.closed level (codePoint '\x7d')
            ((field :: more).map (printedField layout key text)) ++ rest)).length + 1 := by
        have lengths := length_le_closed layout level (codePoint '\x7d') nonempty
        rw [List.length_map] at lengths
        rw [List.length_append, List.length_append]
        omega
      have scanned := scanPairs_closed layout level (List.cons_ne_nil field more) joined reads
        rest enough
      have keys : (((field :: more).map (fun field => (key field, json field))).map
          Prod.fst).Nodup := by
        rw [List.map_map]
        exact distinct
      refine ⟨_, congrArg (List.cons _) (List.append_assoc _ _ _), ?_⟩
      unfold scanObject
      rw [skipSpace_blank (newline_blank layout (level + 1)), begins]
      obtain ⟨after, opens⟩ : ∃ after, layout.closed level (codePoint '\x7d')
          ((field :: more).map (printedField layout key text)) ++ rest =
            codePoint '"' :: after := by
        rw [List.map_cons, closed_cons]
        exact ⟨_, rfl⟩
      have noBrace : codePoint '"' ≠ codePoint '\x7d' := by decide
      rw [opens] at scanned
      rw [← List.map_cons, opens]
      dsimp only
      rw [if_neg noBrace, scanned]
      exact congrArg (fun dict => Except.ok (Json.obj dict, rest)) (Loadtest.dictOf_distinct keys)

end Fields

/-! ### Values -/

section Values

mutual

def depth : Json → Nat
  | .arr items => depthOfItems items + 1
  | .obj fields => depthOfFields fields + 1
  | _ => 0

def depthOfItems : List Json → Nat
  | [] => 0
  | item :: rest => max (depth item) (depthOfItems rest)

def depthOfFields : List (Str × Json) → Nat
  | [] => 0
  | (_, item) :: rest => max (depth item) (depthOfFields rest)

end

theorem depth_item {items : List Json} {item : Json} (member : item ∈ items) :
    depth item ≤ depthOfItems items := by
  induction items with
  | nil => cases member
  | cons first rest ih =>
      rw [depthOfItems]
      rcases List.mem_cons.mp member with rfl | later
      · exact Nat.le_max_left _ _
      · exact Nat.le_trans (ih later) (Nat.le_max_right _ _)

theorem depth_field {fields : List (Str × Json)} {field : Str × Json} (member : field ∈ fields) :
    depth field.2 ≤ depthOfFields fields := by
  induction fields with
  | nil => cases member
  | cons first rest ih =>
      obtain ⟨key, inner⟩ := first
      rw [depthOfFields]
      rcases List.mem_cons.mp member with rfl | later
      · exact Nat.le_max_left _ _
      · exact Nat.le_trans (ih later) (Nat.le_max_right _ _)

/-- What `repr` prints for a float is a number that `float` takes for it. -/
def ReadsFloat (runtime : Runtime) (decoder : JsonDecoder) (value : PyFloat) : Prop :=
  ∃ number : NumberText, runtime.floatRepr value = number.text ∧
    number.json decoder = .float value

/-- What is printed for a value can be read where so many containers may be opened. -/
structure Readable (runtime : Runtime) (decoder : JsonDecoder) (levels : Nat) (json : Json) :
    Prop where
  loaded : json.Loaded
  integers : ∀ number : Int, Json.Part (.int number) json →
    (natDigits number.natAbs).length ≤ maxStrDigits
  floats : ∀ value : PyFloat, Json.Part (.float value) json → value.isFinite = true →
    ReadsFloat runtime decoder value
  nested : depth json ≤ levels

variable {runtime : Runtime} {decoder : JsonDecoder} {levels : Nat}

theorem Readable.items {items : List Json}
    (readable : Readable runtime decoder levels (.arr items)) :
    ∃ inside, levels = inside + 1 ∧
      ∀ item ∈ items, Readable runtime decoder inside item := by
  have nested := readable.nested
  rw [depth] at nested
  obtain ⟨inside, rfl⟩ : ∃ inside, levels = inside + 1 :=
    Nat.exists_eq_add_one_of_ne_zero (by omega)
  refine ⟨inside, rfl, ?_⟩
  intro item member
  exact
    { loaded := readable.loaded.item member
      integers := fun number part => readable.integers number (.item member part)
      floats := fun value part => readable.floats value (.item member part)
      nested := Nat.le_trans (depth_item member) (Nat.le_of_succ_le_succ nested) }

theorem Readable.fields {fields : List (Str × Json)}
    (readable : Readable runtime decoder levels (.obj fields)) :
    ∃ inside, levels = inside + 1 ∧
      ∀ field ∈ fields, Readable runtime decoder inside field.2 := by
  have nested := readable.nested
  rw [depth] at nested
  obtain ⟨inside, rfl⟩ : ∃ inside, levels = inside + 1 :=
    Nat.exists_eq_add_one_of_ne_zero (by omega)
  refine ⟨inside, rfl, ?_⟩
  intro field member
  exact
    { loaded := (readable.loaded.field member).2
      integers := fun number part => readable.integers number (.field member part)
      floats := fun value part => readable.floats value (.field member part)
      nested := Nat.le_trans (depth_field member) (Nat.le_of_succ_le_succ nested) }

theorem Readable.ofText {text : Str} (joined : Joined text) :
    Readable runtime decoder levels (.str text) where
  loaded := .ofStr joined
  integers _ part := by cases part
  floats _ part := by cases part
  nested := Nat.zero_le _

theorem loaded_of_scalar {value : Json} (scalar : value.scalar = true)
    (textless : ∀ text, value ≠ .str text) : value.Loaded where
  keys fields part := by
    rw [← (Json.part_scalar scalar).mp part] at scalar
    cases scalar
  texts text has := absurd ((Json.hasText_scalar scalar).mp has) (textless text)

theorem Readable.ofNull : Readable runtime decoder levels .null where
  loaded := loaded_of_scalar rfl nofun
  integers _ part := by cases part
  floats _ part := by cases part
  nested := Nat.zero_le _

theorem Readable.ofFloat {value : PyFloat}
    (reads : value.isFinite = true → ReadsFloat runtime decoder value) :
    Readable runtime decoder levels (.float value) where
  loaded := loaded_of_scalar rfl nofun
  integers _ part := by cases part
  floats _ part := by
    cases part
    exact reads
  nested := Nat.zero_le _

theorem depthOfFields_le {fields : List (Str × Json)}
    (nested : ∀ field ∈ fields, depth field.2 ≤ levels) : depthOfFields fields ≤ levels := by
  induction fields with
  | nil => exact Nat.zero_le _
  | cons field rest ih =>
      obtain ⟨hereLe, laterLe⟩ := List.forall_mem_cons.mp nested
      have later := ih laterLe
      rw [depthOfFields]
      omega

theorem Readable.ofFields {fields : List (Str × Json)} (distinct : (fields.map Prod.fst).Nodup)
    (joined : ∀ field ∈ fields, Joined field.1)
    (inside : ∀ field ∈ fields, Readable runtime decoder levels field.2) :
    Readable runtime decoder (levels + 1) (.obj fields) where
  loaded := .ofObj distinct fun field member => ⟨joined field member, (inside field member).loaded⟩
  integers number part := by
    cases part with
    | field member deeper => exact (inside _ member).integers number deeper
  floats value part := by
    cases part with
    | field member deeper => exact (inside _ member).floats value deeper
  nested := Nat.succ_le_succ (depthOfFields_le fun field member => (inside field member).nested)

theorem depthOfItems_le {items : List Json} (nested : ∀ item ∈ items, depth item ≤ levels) :
    depthOfItems items ≤ levels := by
  induction items with
  | nil => exact Nat.zero_le _
  | cons item rest ih =>
      obtain ⟨hereLe, laterLe⟩ := List.forall_mem_cons.mp nested
      have later := ih laterLe
      rw [depthOfItems]
      omega

theorem Readable.ofItems {items : List Json}
    (inside : ∀ item ∈ items, Readable runtime decoder levels item) :
    Readable runtime decoder (levels + 1) (.arr items) where
  loaded := .ofArr fun item member => (inside item member).loaded
  integers number part := by
    cases part with
    | item member deeper => exact (inside _ member).integers number deeper
  floats value part := by
    cases part with
    | item member deeper => exact (inside _ member).floats value deeper
  nested := Nat.succ_le_succ (depthOfItems_le fun item member => (inside item member).nested)

theorem Readable.ofInt {value : Int} (short : (natDigits value.natAbs).length ≤ maxStrDigits) :
    Readable runtime decoder levels (.int value) where
  loaded := loaded_of_scalar rfl nofun
  integers _ part := by
    cases part
    exact short
  floats _ part := by cases part
  nested := Nat.zero_le _

theorem scanOnce_number (decoder : JsonDecoder) {text : Str} {digit : CodePoint} {more : Str}
    (digital : isDigit digit = true)
    (begins : text = digit :: more ∨ text = codePoint '-' :: digit :: more) (levels : Nat)
    (rest : Str) :
    Begins text ∧ scanOnce decoder levels (text ++ rest) = scanNumber decoder (text ++ rest) := by
  have other (letter : CodePoint) (noDigit : isDigit letter = false) : digit ≠ letter := by
    rintro rfl
    rw [noDigit] at digital
    cases digital
  have noWord : ∀ letter ∈ str "ntfNI", isDigit letter = false := all_letters (by decide)
  have words : jsonWords.find? (fun word => word.1.isPrefixOf (text ++ rest)) = none := by
    rw [List.find?_eq_none]
    intro word member isPrefix
    obtain ⟨first, second, later, spelled, letters⟩ := Loadtest.jsonWords_begin member
    obtain ⟨after, same⟩ := List.isPrefixOf_iff_prefix.mp isPrefix
    rw [spelled] at same
    rcases begins with rfl | rfl
    · have sameFirst : first = digit := (List.cons.inj same).1
      rcases letters with isWord | ⟨isSign, _⟩
      · exact other first (noWord first isWord) sameFirst.symm
      · exact other (codePoint '-') rfl (sameFirst.symm.trans isSign)
    · have sameFirst : first = codePoint '-' := (List.cons.inj same).1
      have sameSecond : second = digit := (List.cons.inj (List.cons.inj same).2).1
      rcases letters with isWord | ⟨_, isWord⟩
      · exact absurd (sameFirst ▸ isWord) (by decide)
      · exact other second (noWord second isWord) sameSecond.symm
  obtain ⟨inner, scanner⟩ := Loadtest.scanOnce_eq decoder levels
  rw [scanner]
  rcases begins with rfl | rfl
  · refine ⟨⟨digit, more, rfl, ?_, other _ rfl, other _ rfl⟩, ?_⟩
    · unfold isDigit at digital
      simp only [Bool.and_eq_true, decide_eq_true_eq] at digital
      unfold isJsonSpace
      simp only [Bool.or_eq_false_iff, decide_eq_false_iff_not]
      omega
    · rw [List.cons_append] at words ⊢
      unfold scanValue
      dsimp only
      rw [if_neg (other _ rfl), if_neg (other _ rfl), if_neg (other _ rfl), words]
  · refine ⟨⟨_, _, rfl, rfl, by decide, by decide⟩, ?_⟩
    have noQuote : codePoint '-' ≠ codePoint '"' := by decide
    have noBrace : codePoint '-' ≠ codePoint '\x7b' := by decide
    have noBracket : codePoint '-' ≠ codePoint '[' := by decide
    rw [List.cons_append] at words ⊢
    unfold scanValue
    dsimp only
    rw [if_neg noQuote, if_neg noBrace, if_neg noBracket, words]

theorem readBack_int {value : Int} (short : (natDigits value.natAbs).length ≤ maxStrDigits)
    (levels : Nat) : ReadBack (scanOnce decoder levels) (intRepr value) (.int value) := by
  obtain ⟨digit, more, digital, begins⟩ : ∃ digit more, isDigit digit = true ∧
      (intRepr value = digit :: more ∨ intRepr value = codePoint '-' :: digit :: more) := by
    cases value with
    | ofNat value =>
        obtain ⟨digit, more, split, digital⟩ := natDigits_begins value
        exact ⟨digit, more, digital, .inl split⟩
    | negSucc value =>
        obtain ⟨digit, more, split, digital⟩ := natDigits_begins (value + 1)
        exact ⟨digit, more, digital, .inr (congrArg (List.cons _) split)⟩
  refine ⟨(scanOnce_number decoder digital begins levels []).1, ?_⟩
  intro rest closes
  rw [(scanOnce_number decoder digital begins levels rest).2]
  exact scanNumber_int decoder short closes

theorem readBack_number (number : NumberText) (levels : Nat) :
    ReadBack (scanOnce decoder levels) number.text (number.json decoder) := by
  obtain ⟨digit, more, digital, begins⟩ := number.text_begins
  refine ⟨(scanOnce_number decoder digital begins levels []).1, ?_⟩
  intro rest closes
  rw [(scanOnce_number decoder digital begins levels rest).2]
  exact scanNumber_text decoder number closes

theorem floatToken_finite {value : PyFloat} (finite : value.isFinite = true) :
    runtime.floatToken value = runtime.floatRepr value := by
  cases value with
  | finite | negativeZero => rfl
  | nan | infinity => cases finite

theorem readBack_float {value : PyFloat}
    (floats : value.isFinite = true → ReadsFloat runtime decoder value) (levels : Nat) :
    ReadBack (scanOnce decoder levels) (runtime.floatToken value) (.float value) := by
  obtain ⟨inner, scanner⟩ := Loadtest.scanOnce_eq decoder levels
  cases finite : value.isFinite with
  | true =>
      obtain ⟨number, printed, read⟩ := floats finite
      rw [floatToken_finite finite, printed, ← read]
      exact readBack_number number levels
  | false =>
      rw [scanner]
      cases value with
      | nan => exact ⟨⟨_, _, rfl, rfl, by decide, by decide⟩, fun rest _ => rfl⟩
      | infinity negative =>
          cases negative <;> exact ⟨⟨_, _, rfl, rfl, by decide, by decide⟩, fun rest _ => rfl⟩
      | finite | negativeZero => cases finite

theorem readBack_quote {text : Str} (joined : Joined text) (levels : Nat) :
    ReadBack (scanOnce decoder levels) (quote text) (.str text) := by
  refine ⟨⟨codePoint '"', _, rfl, rfl, by decide, by decide⟩, ?_⟩
  intro rest _
  obtain ⟨inner, scanner⟩ := Loadtest.scanOnce_eq decoder levels
  rw [scanner, quote_append]
  change (scanString _).map _ = _
  rw [scanString_quoted joined]
  rfl

theorem readBack_textAt (layout : JsonLayout) (value : Json) :
    ∀ level levels, Readable runtime decoder levels value →
      ReadBack (scanOnce decoder levels) (layout.textAt runtime level value) value := by
  induction value using Json.induction with
  | null =>
      intro level levels _
      obtain ⟨inner, scanner⟩ := Loadtest.scanOnce_eq decoder levels
      rw [scanner]
      exact ⟨⟨_, _, rfl, rfl, by decide, by decide⟩, fun rest _ => rfl⟩
  | bool value =>
      intro level levels _
      obtain ⟨inner, scanner⟩ := Loadtest.scanOnce_eq decoder levels
      rw [scanner]
      cases value <;> exact ⟨⟨_, _, rfl, rfl, by decide, by decide⟩, fun rest _ => rfl⟩
  | int value =>
      intro level levels readable
      exact readBack_int (readable.integers value (.self _)) levels
  | float value =>
      intro level levels readable
      exact readBack_float (readable.floats value (.self _)) levels
  | str text =>
      intro level levels readable
      exact readBack_quote (readable.loaded.texts text (.string (.self _))) levels
  | arr items ih =>
      intro level levels readable
      obtain ⟨inside, rfl, each⟩ := readable.items
      have reads : ∀ item ∈ items, ReadBack (scanOnce decoder inside)
          (layout.textAt runtime (level + 1) item) item :=
        fun item member => ih item member _ _ (each item member)
      rw [JsonLayout.textAt, JsonLayout.itemsAt_eq]
      have scanned := scanArray_bracketed layout level reads
      constructor
      · obtain ⟨body, opens, _⟩ := scanned []
        rw [List.append_nil] at opens
        exact ⟨_, _, opens, rfl, by decide, by decide⟩
      · intro rest _
        obtain ⟨body, opens, read⟩ := scanned rest
        rw [opens]
        change scanArray (scanOnce decoder inside) body = _
        rw [read, List.map_id']
  | obj fields ih =>
      intro level levels readable
      obtain ⟨inside, rfl, each⟩ := readable.fields
      have reads : ∀ field ∈ fields, ReadBack (scanOnce decoder inside)
          (layout.textAt runtime (level + 1) field.2) field.2 :=
        fun field member => ih field member _ _ (each field member)
      have distinct : (fields.map Prod.fst).Nodup := readable.loaded.keys fields (.self _)
      have joined : ∀ field ∈ fields, Joined field.1 :=
        fun field member => (readable.loaded.field member).1
      have scanned := scanObject_bracketed layout level distinct joined reads
      rw [JsonLayout.textAt, JsonLayout.fieldsAt_eq]
      constructor
      · obtain ⟨body, opens, _⟩ := scanned []
        rw [List.append_nil] at opens
        exact ⟨_, _, opens, rfl, by decide, by decide⟩
      · intro rest _
        obtain ⟨body, opens, read⟩ := scanned rest
        change layout.bracketed level _ _ (fields.map (printedField layout Prod.fst _)) ++ rest = _
          at opens
        change scanOnce decoder (inside + 1) (layout.bracketed level _ _
          (fields.map (printedField layout Prod.fst _)) ++ rest) = _
        rw [opens]
        change scanObject (scanOnce decoder inside) body = _
        rw [read, List.map_id']

theorem jsonLoads_dumps (layout : JsonLayout) {value : Json}
    (readable : Readable runtime decoder decoder.recursionLimit value) :
    jsonLoads decoder (layout.dumps runtime value) = .ok value := by
  obtain ⟨begins, reads⟩ := readBack_textAt layout value 0 _ readable
  have read := reads [] fun letter none => nomatch none
  rw [List.append_nil] at read
  have kept := skipSpace_text begins []
  rw [List.append_nil] at kept
  obtain ⟨letter, more, split, _, _, noMark⟩ := begins
  have noMarkAhead : (layout.dumps runtime value).head? ≠ some byteOrderMark := by
    intro same
    unfold JsonLayout.dumps at same
    rw [split] at same
    exact noMark (Option.some.inj same)
  unfold jsonLoads
  rw [if_neg noMarkAhead]
  unfold JsonLayout.dumps
  rw [kept, read]
  rfl

end Values

/-! ### One line -/

def isPrintable (letter : CodePoint) : Bool := 0x20 ≤ letter.val && letter.val ≤ 0x7E

theorem printable_digits {digits : Str} (all : digits.all isDigit = true) :
    digits.all isPrintable = true := by
  rw [List.all_eq_true] at all ⊢
  intro letter member
  have digital := all letter member
  unfold isDigit at digital
  unfold isPrintable
  simp only [Bool.and_eq_true, decide_eq_true_eq] at digital ⊢
  omega

theorem printable_hex4 (value : Nat) : (hex4 value).all isPrintable = true := by
  have digit : ∀ digit < 16, isPrintable (codePoint (Nat.digitChar digit)) = true := by decide
  unfold hex4
  simp only [List.map_cons, List.map_nil, List.all_cons, List.all_nil,
    digit _ (Nat.mod_lt _ (by decide)), Bool.and_self]

theorem printable_quote (text : Str) : (quote text).all isPrintable = true := by
  have unit (unit : Utf16Unit) : (escapeUnit unit).all isPrintable = true := by
    unfold escapeUnit
    split
    · rename_i letter short
      have shorts : ∀ entry ∈ shortEscapes, isPrintable entry.2 = true := by decide
      rw [List.all_cons, List.all_cons, shorts _ (shortEscape_mem short)]
      rfl
    · split_ifs with plain
      · simp only [List.all_cons, List.all_nil, Bool.and_true]
        unfold isPrintable
        simp only [Bool.and_eq_true, decide_eq_true_eq]
        exact plain
      · rw [List.all_cons, List.all_cons, printable_hex4]
        rfl
  have points : (text.flatMap escapeCodePoint).all isPrintable = true := by
    rw [List.all_flatMap, List.all_eq_true]
    intro point _
    rw [escapeCodePoint_eq, List.all_flatMap, List.all_eq_true]
    exact fun half _ => unit half
  have quotes : (str "\"").all isPrintable = true := by decide
  unfold quote
  rw [List.all_append, List.all_append, points, quotes]
  rfl

theorem printable_number (number : NumberText) : number.text.all isPrintable = true := by
  have sign : number.sign.all isPrintable = true := by
    unfold NumberText.sign
    split_ifs <;> decide
  have point : number.point.all isPrintable = true := by
    unfold NumberText.point
    split_ifs
    · rfl
    · rw [List.all_cons, printable_digits number.fractionDigits]
      rfl
  have power : number.power.all isPrintable = true := by
    unfold NumberText.power
    split
    · rfl
    · rename_i powerSign digits given
      obtain ⟨isSign, _, all⟩ := number.exponentDigits _ given
      have signs : ∀ letter ∈ str "+-", isPrintable letter = true := all_letters (by decide)
      rw [List.all_cons, List.all_cons, signs powerSign isSign, printable_digits all]
      rfl
  unfold NumberText.text
  simp only [List.all_append, sign, printable_digits number.wholeDigits, point, power,
    Bool.and_self]

theorem printable_intRepr (value : Int) : (intRepr value).all isPrintable = true := by
  cases value with
  | ofNat value => exact printable_digits (natDigits_isDigit value)
  | negSucc value =>
      unfold intRepr
      rw [List.all_append, printable_digits (natDigits_isDigit (value + 1))]
      rfl

section OneLine

variable {runtime : Runtime} {decoder : JsonDecoder}

theorem printable_floatToken {value : PyFloat}
    (floats : value.isFinite = true → ReadsFloat runtime decoder value) :
    (runtime.floatToken value).all isPrintable = true := by
  cases finite : value.isFinite with
  | true =>
      obtain ⟨number, printed, _⟩ := floats finite
      rw [floatToken_finite finite, printed]
      exact printable_number number
  | false =>
      cases value with
      | nan => rfl
      | infinity negative => cases negative <;> rfl
      | finite | negativeZero => cases finite

theorem printable_closed (level : Nat) {closing : CodePoint}
    (bracket : isPrintable closing = true) {texts : List Str}
    (all : ∀ text ∈ texts, text.all isPrintable = true) :
    (JsonLayout.oneLine.closed level closing texts).all isPrintable = true := by
  induction texts with
  | nil =>
      change [closing].all isPrintable = true
      rw [List.all_cons, bracket]
      rfl
  | cons text rest ih =>
      have later := ih fun other member => all other (List.mem_cons_of_mem _ member)
      rw [closed_cons, List.all_append, all text List.mem_cons_self]
      split_ifs
      · change [closing].all isPrintable = true
        rw [List.all_cons, bracket]
        rfl
      · change (codePoint ',' :: codePoint ' ' ::
          JsonLayout.oneLine.closed level closing rest).all isPrintable = true
        rw [List.all_cons, List.all_cons, later]
        rfl

theorem printable_bracketed (level : Nat) {opening closing : CodePoint}
    (opens : isPrintable opening = true) (closes : isPrintable closing = true) {texts : List Str}
    (all : ∀ text ∈ texts, text.all isPrintable = true) :
    (JsonLayout.oneLine.bracketed level opening closing texts).all isPrintable = true := by
  cases texts with
  | nil =>
      change [opening, closing].all isPrintable = true
      rw [List.all_cons, List.all_cons, opens, closes]
      rfl
  | cons text rest =>
      change (opening :: JsonLayout.oneLine.closed level closing (text :: rest)).all isPrintable =
        true
      rw [List.all_cons, opens, printable_closed level closes all]
      rfl

/-- A value without an indent is printed on one line of ASCII. -/
theorem printable_textAt (value : Json) : ∀ level levels, Readable runtime decoder levels value →
    (JsonLayout.oneLine.textAt runtime level value).all isPrintable = true := by
  induction value using Json.induction with
  | null => exact fun _ _ _ => rfl
  | bool value => exact fun _ _ _ => by cases value <;> rfl
  | int value => exact fun _ _ _ => printable_intRepr value
  | float value =>
      exact fun _ _ readable => printable_floatToken (readable.floats value (.self _))
  | str text => exact fun _ _ _ => printable_quote text
  | arr items ih =>
      intro level levels readable
      obtain ⟨inside, _, each⟩ := readable.items
      rw [JsonLayout.textAt, JsonLayout.itemsAt_eq]
      apply printable_bracketed _ rfl rfl
      intro text member
      obtain ⟨item, present, rfl⟩ := List.mem_map.mp member
      exact ih item present _ _ (each item present)
  | obj fields ih =>
      intro level levels readable
      obtain ⟨inside, _, each⟩ := readable.fields
      rw [JsonLayout.textAt, JsonLayout.fieldsAt_eq]
      apply printable_bracketed _ rfl rfl
      intro text member
      obtain ⟨field, present, rfl⟩ := List.mem_map.mp member
      change (quote field.1 ++ codePoint ':' :: codePoint ' ' ::
        JsonLayout.oneLine.textAt runtime (level + 1) field.2).all isPrintable = true
      rw [List.all_append, printable_quote, List.all_cons, List.all_cons,
        ih field present _ _ (each field present)]
      rfl

end OneLine

end ImagePipeline.Benchmark
