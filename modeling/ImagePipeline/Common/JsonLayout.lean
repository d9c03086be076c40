/-
`json.dumps` with white space between the parts: after commas and colons, as it
is by default, or with `indent`. Keys keep their order.
-/

import ImagePipeline.Common.JsonLoads

namespace ImagePipeline.Common

/-- What `separators` adds to the comma and the colon, and `indent`. -/
structure JsonLayout where
  afterComma : Str
  afterColon : Str
  indent : Option Nat
  blankComma : afterComma.all isJsonSpace = true
  blankColon : afterColon.all isJsonSpace = true

/-- `json.dumps(value)`. -/
def JsonLayout.oneLine : JsonLayout :=
  { afterComma := str " "
    afterColon := str " "
    indent := none
    blankComma := by decide
    blankColon := by decide }

/-- `json.dumps(value, indent=2)`: the comma ends the line. -/
def JsonLayout.indented : JsonLayout :=
  { afterComma := []
    afterColon := str " "
    indent := some 2
    blankComma := by decide
    blankColon := by decide }

namespace JsonLayout

variable (layout : JsonLayout)

/-- `newline_indent`. -/
def newline (level : Nat) : Str :=
  match layout.indent with
  | none => []
  | some width => codePoint '\n' :: List.replicate (width * level) (codePoint ' ')

/-- The items of a container, and its closing bracket behind the last of them. -/
def closed (level : Nat) (closing : CodePoint) : List Str → Str
  | [] => [closing]
  | [item] => item ++ (layout.newline level ++ [closing])
  | item :: next :: rest =>
      item ++ codePoint ',' :: (layout.afterComma ++ (layout.newline (level + 1) ++
        closed level closing (next :: rest)))

def bracketed (level : Nat) (opening closing : CodePoint) : List Str → Str
  | [] => [opening, closing]
  | item :: rest =>
      opening :: (layout.newline (level + 1) ++ layout.closed level closing (item :: rest))

def field (key text : Str) : Str := quote key ++ codePoint ':' :: (layout.afterColon ++ text)

mutual

/-- The text of a value that stands in so many containers. -/
def textAt (runtime : Runtime) (level : Nat) : Json → Str
  | .null => str "null"
  | .bool true => str "true"
  | .bool false => str "false"
  | .int value => intRepr value
  | .float value => runtime.floatToken value
  | .str text => quote text
  | .arr items =>
      layout.bracketed level (codePoint '[') (codePoint ']') (itemsAt runtime (level + 1) items)
  | .obj fields =>
      layout.bracketed level (codePoint '\x7b') (codePoint '\x7d')
        (fieldsAt runtime (level + 1) fields)

def itemsAt (runtime : Runtime) (level : Nat) : List Json → List Str
  | [] => []
  | item :: rest => textAt runtime level item :: itemsAt runtime level rest

def fieldsAt (runtime : Runtime) (level : Nat) : List (Str × Json) → List Str
  | [] => []
  | (key, value) :: rest =>
      layout.field key (textAt runtime level value) :: fieldsAt runtime level rest

end

def dumps (runtime : Runtime) (value : Json) : Str := layout.textAt runtime 0 value

theorem itemsAt_eq (runtime : Runtime) (level : Nat) (items : List Json) :
    layout.itemsAt runtime level items = items.map (layout.textAt runtime level) := by
  induction items with
  | nil => rw [itemsAt, List.map_nil]
  | cons item rest ih => rw [itemsAt, ih, List.map_cons]

theorem fieldsAt_eq (runtime : Runtime) (level : Nat) (fields : List (Str × Json)) :
    layout.fieldsAt runtime level fields =
      fields.map (fun field => layout.field field.1 (layout.textAt runtime level field.2)) := by
  induction fields with
  | nil => rw [fieldsAt, List.map_nil]
  | cons field rest ih =>
      obtain ⟨key, value⟩ := field
      rw [fieldsAt, ih, List.map_cons]

end JsonLayout

end ImagePipeline.Common
