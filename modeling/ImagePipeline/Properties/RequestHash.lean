/-
The hash under which a request is remembered with its idempotency key: two
requests have the same one exactly if they are the same request.
-/

import ImagePipeline.Api.PipelineGrammar
import ImagePipeline.Common.JsonReading
import ImagePipeline.Worker.ImageProcessor

namespace ImagePipeline.Properties.RequestHash

open Common Api
open Json (Alike)

/-- The same operation, and the same parameters up to the order of keys at
every depth. -/
def SameRequestStep (left right : PipelineStep) : Prop :=
  left.operation = right.operation ∧ Alike Eq (.obj left.parameters) (.obj right.parameters)

/-- What `hashlib.sha256(data).hexdigest()` is taken for. -/
structure Digests (runtime : Runtime) : Prop where
  injective : Function.Injective runtime.sha256
  hexadecimal : ∀ data, ∀ letter ∈ runtime.sha256 data, letter ∈ str "0123456789abcdef"

theorem joined_of_ascii {text : Str} (ascii : ∀ letter ∈ text, letter.val < 0x80) :
    Joined text := by
  apply List.Pairwise.isChain
  apply List.Pairwise.imp_of_mem (R := fun _ _ => True)
  · intro left right member _ _ ⟨high, _⟩
    have below := ascii left member
    have above := high.1
    omega
  · exact List.pairwise_of_forall (fun _ _ => trivial)

theorem keys_joined {keys : List Str}
    (ascii : keys.all (fun key => key.all (fun letter => letter.val < 0x80)) = true) :
    ∀ key ∈ keys, Joined key := by
  intro key member
  exact joined_of_ascii (all_letters (List.all_eq_true.mp ascii key member))

theorem parameters_loaded {item : Json} {step : PipelineStep} (loaded : item.Loaded)
    (denotes : Denotes item step) : (Json.obj step.parameters).Loaded := by
  obtain ⟨fields, rfl, _, given⟩ := denotes.fields
  unfold Dict.getD Dict.get? at given
  cases found : fields.find? (fun field => field.1 = str "parameters") with
  | none =>
      rw [found] at given
      have empty : step.parameters = [] := (Json.obj.inj given).symm
      rw [empty]
      exact Json.Loaded.ofObj List.nodup_nil (fun field none => absurd none List.not_mem_nil)
  | some field =>
      rw [found] at given
      have content : field.2 = .obj step.parameters := given
      rw [← content]
      exact (loaded.field (List.mem_of_find?_eq_some found)).2

theorem allowed_joined {operation : Str} (allowed : operation ∈ allowedOperations) :
    Joined operation := by
  have ascii : ∀ name ∈ allowedOperations,
      name.all (fun letter => decide (letter.val < 0x80)) = true := by decide
  exact joined_of_ascii (all_letters (ascii operation allowed))

theorem pipelineToJson_loaded {runtime : Runtime} {form : Json} {pipeline : List PipelineStep}
    (loaded : form.Loaded) (parsed : parsePipeline runtime (some form) = .ok pipeline) :
    (pipelineToJson pipeline).Loaded := by
  obtain ⟨items, same, _, itemwise⟩ := parsePipeline_ok_iff.mp parsed
  cases same
  have names : Joined (str "operation") ∧ Joined (str "parameters") :=
    ⟨joined_of_ascii (all_letters (by decide)), joined_of_ascii (all_letters (by decide))⟩
  have distinct : [str "operation", str "parameters"].Nodup := by decide
  apply Json.Loaded.ofArr
  intro entry member
  obtain ⟨step, inside, rfl⟩ := List.mem_map.mp member
  obtain ⟨item, listed, denotes⟩ := Library.exists_mem_of_mem_right itemwise inside
  apply Json.Loaded.ofObj
  · exact distinct
  · intro field present
    rcases List.mem_cons.mp present with rfl | later
    · exact ⟨names.1, Json.Loaded.ofStr (allowed_joined denotes.allowed)⟩
    · cases List.mem_singleton.mp later
      exact ⟨names.2, parameters_loaded (loaded.item listed) denotes⟩

theorem pipelineToJson_alike_iff {left right : List PipelineStep} :
    Alike Eq (pipelineToJson left) (pipelineToJson right) ↔
      List.Forall₂ SameRequestStep left right := by
  have different : str "operation" ≠ str "parameters" := by
    rw [Ne, str_inj]
    decide
  have step (step other : PipelineStep) : Alike Eq
      (.obj [(str "operation", .str step.operation), (str "parameters", .obj step.parameters)])
      (.obj [(str "operation", .str other.operation), (str "parameters", .obj other.parameters)]) ↔
      SameRequestStep step other := by
    rw [Json.alike_pair different]
    unfold SameRequestStep
    constructor
    · intro ⟨operation, parameters⟩
      exact ⟨Json.str.inj operation, parameters⟩
    · intro ⟨operation, parameters⟩
      exact ⟨congrArg Json.str operation, parameters⟩
  unfold pipelineToJson
  rw [Json.alike_arr, List.forall₂_map_left_iff, List.forall₂_map_right_iff]
  simp only [step]

/-- The request hash is the request. -/
theorem requestHash_eq_iff {runtime : Runtime} (floats : runtime.PrintsFloats)
    (digests : Digests runtime) {form otherForm : Json} (loaded : form.Loaded)
    (otherLoaded : otherForm.Loaded) {pipeline other : List PipelineStep}
    (parsed : parsePipeline runtime (some form) = .ok pipeline)
    (otherParsed : parsePipeline runtime (some otherForm) = .ok other)
    (imageBytes otherBytes : Bytes) :
    buildIdempotencyRequestHash runtime pipeline imageBytes =
        buildIdempotencyRequestHash runtime other otherBytes ↔
      imageBytes = otherBytes ∧ List.Forall₂ SameRequestStep pipeline other := by
  have different : str "pipeline" ≠ str "image_sha256" := by
    rw [Ne, str_inj]
    decide
  have names : Joined (str "pipeline") ∧ Joined (str "image_sha256") :=
    ⟨joined_of_ascii (all_letters (by decide)), joined_of_ascii (all_letters (by decide))⟩
  have distinct : [str "pipeline", str "image_sha256"].Nodup := by decide
  have payload {form : Json} {pipeline : List PipelineStep} (loaded : form.Loaded)
      (parsed : parsePipeline runtime (some form) = .ok pipeline) (data : Bytes) :
      (Json.obj [(str "pipeline", pipelineToJson pipeline),
        (str "image_sha256", .str (runtime.sha256 data))]).Loaded := by
    apply Json.Loaded.ofObj
    · exact distinct
    · intro field present
      rcases List.mem_cons.mp present with rfl | later
      · exact ⟨names.1, pipelineToJson_loaded loaded parsed⟩
      · cases List.mem_singleton.mp later
        have ascii : ∀ letter ∈ str "0123456789abcdef", letter.val < 0x80 :=
          all_letters (by decide)
        exact ⟨names.2, Json.Loaded.ofStr (joined_of_ascii fun letter member =>
          ascii letter (digests.hexadecimal data letter member))⟩
  unfold buildIdempotencyRequestHash
  constructor
  · intro same
    have printed := encodeUtf8_injective (digests.injective same)
    have alike := (dumps_eq_iff floats (payload loaded parsed imageBytes)
      (payload otherLoaded otherParsed otherBytes)).mp printed
    obtain ⟨steps, images⟩ := (Json.alike_pair different).mp alike
    exact ⟨digests.injective (Json.str.inj images), pipelineToJson_alike_iff.mp steps⟩
  · rintro ⟨rfl, steps⟩
    have alike := (Json.alike_pair different).mpr
      ⟨pipelineToJson_alike_iff.mpr steps, Json.alike_refl (fun _ => rfl)
        (.str (runtime.sha256 imageBytes))⟩
    rw [(dumps_eq_iff floats (payload loaded parsed imageBytes)
      (payload otherLoaded otherParsed imageBytes)).mpr alike]

/-! ### One order in two spellings -/

def hexByte (byte : UInt8) : Str :=
  [codePoint (Nat.digitChar (byte.toNat / 16)), codePoint (Nat.digitChar (byte.toNat % 16))]

theorem hexByte_instant : Library.Instant hexByte := by
  intro left right restLeft restRight same
  have boundLeft := left.toNat_lt
  have boundRight := right.toNat_lt
  simp only [hexByte, List.cons_append, List.nil_append, List.cons.injEq] at same
  have first := digitChar_injective _ (by omega) _ (by omega) (codePoint_injective same.1)
  have second := digitChar_injective _ (by omega) _ (by omega) (codePoint_injective same.2.1)
  exact ⟨UInt8.toNat_inj.mp (by omega), same.2.2⟩

theorem hexByte_length (data : Bytes) : (data.flatMap hexByte).length = 2 * data.length := by
  induction data with
  | nil => rfl
  | cons byte rest ih =>
      rw [List.flatMap_cons, List.length_append, ih, List.length_cons]
      change 2 + 2 * rest.length = 2 * (rest.length + 1)
      omega

theorem hexByte_letters (data : Bytes) :
    ∀ letter ∈ data.flatMap hexByte, letter ∈ str "0123456789abcdef" := by
  have digit : ∀ value < 16, codePoint (Nat.digitChar value) ∈ str "0123456789abcdef" := by decide
  intro letter member
  obtain ⟨byte, _, inByte⟩ := List.mem_flatMap.mp member
  have bound := byte.toNat_lt
  simp only [hexByte, List.mem_cons, List.not_mem_nil, or_false] at inByte
  rcases inByte with rfl | rfl
  · exact digit _ (by omega)
  · exact digit _ (by omega)

def blurPayload : Bytes :=
  encodeUtf8 (str "\x7b\"image_sha256\":\"" ++
    str "29ed444ca1f60c900547fc9b077bdd96e6d2d3729734f115f02e3631c374341d" ++
    str "\",\"pipeline\":[\x7b\"operation\":\"blur\",\"parameters\":" ++
    str "\x7b\"radius\":2,\"repeat\":3\x7d\x7d]\x7d")

/-- SHA-256 of the pixel and of the payload; elsewhere something injective that
has another length. -/
def blurDigest (data : Bytes) : Str :=
  if data = Worker.blackPixel then
    str "29ed444ca1f60c900547fc9b077bdd96e6d2d3729734f115f02e3631c374341d"
  else if data = blurPayload then
    str "0f8b7bc90dcbbe2b2e4f05215b8cf511faa7193bf47fdcc0d87e2811abe30200"
  else codePoint '0' :: data.flatMap hexByte

def blurRuntime : Runtime :=
  { intOfStr := fun _ => none
    floatRepr := fun value =>
      match value with
      | .finite number => intRepr number.num ++ codePoint 'e' :: natDigits number.den
      | .negativeZero => str "-0.0"
      | .nan | .infinity _ => []
    sha256 := blurDigest }

theorem blurRuntime_digests : Digests blurRuntime := by
  have short (data : Bytes) (digest : String) (long : (str digest).length = 64) :
      codePoint '0' :: data.flatMap hexByte ≠ str digest := by
    intro same
    have lengths := congrArg List.length same
    rw [List.length_cons, hexByte_length, long] at lengths
    omega
  have lengths : (str "29ed444ca1f60c900547fc9b077bdd96e6d2d3729734f115f02e3631c374341d").length =
      64 ∧ (str "0f8b7bc90dcbbe2b2e4f05215b8cf511faa7193bf47fdcc0d87e2811abe30200").length = 64 := by
    decide
  constructor
  · intro left right same
    change blurDigest left = blurDigest right at same
    unfold blurDigest at same
    have apart : str "29ed444ca1f60c900547fc9b077bdd96e6d2d3729734f115f02e3631c374341d" ≠
        str "0f8b7bc90dcbbe2b2e4f05215b8cf511faa7193bf47fdcc0d87e2811abe30200" := by
      rw [Ne, str_inj]
      decide
    split_ifs at same with pixel otherPixel otherPayload payload otherPixel otherPayload
      otherPixel otherPayload
    · rw [pixel, otherPixel]
    · exact absurd same apart
    · exact absurd same.symm (short right _ lengths.1)
    · exact absurd same.symm apart
    · rw [payload, otherPayload]
    · exact absurd same.symm (short right _ lengths.2)
    · exact absurd same (short left _ lengths.1)
    · exact absurd same (short left _ lengths.2)
    · exact hexByte_instant.flatMap_injective (fun _ => List.cons_ne_nil _ _) (List.cons.inj same).2
  · intro data
    change ∀ letter ∈ blurDigest data, _
    unfold blurDigest
    split_ifs
    · exact all_letters (by decide)
    · exact all_letters (by decide)
    · exact List.forall_mem_cons.mpr ⟨by decide, hexByte_letters data⟩

theorem blurRuntime_floats : blurRuntime.PrintsFloats := by
  have exponent : codePoint 'e' ∉ integerLetters := by decide
  have point : codePoint '.' ∉ integerLetters ++ str "e" := by decide
  have sign (number : Int) : codePoint 'e' ∉ intRepr number :=
    fun member => exponent (intRepr_letters number _ member)
  have letters (number : Rat) :
      ∀ letter ∈ intRepr number.num ++ codePoint 'e' :: natDigits number.den,
        letter ∈ integerLetters ++ str "e" := by
    intro letter member
    rcases List.mem_append.mp member with inNumerator | later
    · exact List.mem_append_left _ (intRepr_letters _ letter inNumerator)
    · rcases List.mem_cons.mp later with rfl | inDenominator
      · decide
      · exact List.mem_append_left _
          (List.mem_append_left _ (natDigits_letters _ letter inDenominator))
  have zero (number : Rat) :
      intRepr number.num ++ codePoint 'e' :: natDigits number.den ≠ str "-0.0" := by
    intro same
    have present : codePoint '.' ∈ str "-0.0" := by decide
    rw [← same] at present
    exact point (letters number _ present)
  constructor
  · intro left right finiteLeft finiteRight same
    cases left with
    | nan | infinity => cases finiteLeft
    | finite number =>
        cases right with
        | nan | infinity => cases finiteRight
        | finite other =>
            have numerators := intRepr_injective
              (prefix_eq_of_separator (sign number.num) (sign other.num) same)
            change intRepr number.num ++ codePoint 'e' :: natDigits number.den =
              intRepr other.num ++ codePoint 'e' :: natDigits other.den at same
            rw [numerators] at same
            have denominators :=
              natDigits_injective (List.cons.inj (List.append_cancel_left same)).2
            rw [Rat.ext numerators denominators]
        | negativeZero => exact absurd same (zero number)
    | negativeZero =>
        cases right with
        | nan | infinity => cases finiteRight
        | finite other => exact absurd same.symm (zero other)
        | negativeZero => rfl
  · intro value finite letter member
    have inside : ∀ letter ∈ integerLetters ++ str "e", letter ∈ numberLetters :=
      all_letters (by decide)
    cases value with
    | nan | infinity => cases finite
    | finite number => exact inside letter (letters number letter member)
    | negativeZero =>
        have known : ∀ letter ∈ str "-0.0", letter ∈ numberLetters := all_letters (by decide)
        exact known letter member
  · intro value finite
    cases value with
    | nan | infinity => cases finite
    | finite number => exact List.append_ne_nil_of_right_ne_nil _ (List.cons_ne_nil _ _)
    | negativeZero => exact List.cons_ne_nil _ _
  · intro value number finite same
    cases value with
    | nan | infinity => cases finite
    | finite other =>
        apply sign number
        rw [← same]
        exact List.mem_append_right _ List.mem_cons_self
    | negativeZero =>
        have decimal : codePoint '.' ∈ intRepr number := by
          rw [← same]
          decide
        exact point (List.mem_append_left _ (intRepr_letters number _ decimal))

def blurForm (parameters : List (Str × Json)) : Json :=
  .arr [.obj [(str "operation", .str (str "blur")), (str "parameters", .obj parameters)]]

theorem blurForm_parsed (parameters : List (Str × Json)) :
    parsePipeline blurRuntime (some (blurForm parameters)) = .ok [⟨str "blur", parameters⟩] := by
  have allowed : str "blur" ∈ allowedOperations := by decide
  exact parsePipeline_ok_iff.mpr
    ⟨_, rfl, List.cons_ne_nil _ _, .cons ⟨⟨_, rfl, rfl, rfl⟩, allowed⟩ .nil⟩

theorem blurForm_loaded {parameters : List (Str × Json)} (loaded : (Json.obj parameters).Loaded) :
    (blurForm parameters).Loaded := by
  have distinct : [str "operation", str "parameters"].Nodup := by decide
  have name : Joined (str "parameters") := joined_of_ascii (all_letters (by decide))
  apply Json.Loaded.ofArr
  intro item member
  cases List.mem_singleton.mp member
  apply Json.Loaded.ofObj
  · exact distinct
  · intro field present
    rcases List.mem_cons.mp present with rfl | later
    · exact ⟨joined_of_ascii (all_letters (by decide)),
        Json.Loaded.ofStr (joined_of_ascii (all_letters (by decide)))⟩
    · cases List.mem_singleton.mp later
      exact ⟨name, loaded⟩

/-- Writing the parameters the other way round is still the same request. -/
theorem requestHash_of_reordered :
    let radius : Str × Json := (str "radius", .int 2)
    let times : Str × Json := (str "repeat", .int 3)
    buildIdempotencyRequestHash blurRuntime [⟨str "blur", [radius, times]⟩] Worker.blackPixel =
      buildIdempotencyRequestHash blurRuntime [⟨str "blur", [times, radius]⟩]
        Worker.blackPixel := by
  intro radius times
  have number (name : Str) (value : Int)
      (ascii : name.all (fun letter => letter.val < 0x80) = true) :
      Joined name ∧ (Json.int value).Loaded := by
    refine ⟨joined_of_ascii (all_letters ascii), ?_, ?_⟩
    · intro fields inside
      cases (Json.part_scalar rfl).mp inside
    · intro text has
      cases (Json.hasText_scalar rfl).mp has
  have loaded (first second : Str × Json) (distinct : [first.1, second.1].Nodup)
      (atFirst : Joined first.1 ∧ first.2.Loaded) (atSecond : Joined second.1 ∧ second.2.Loaded) :
      (blurForm [first, second]).Loaded := by
    apply blurForm_loaded
    apply Json.Loaded.ofObj
    · exact distinct
    · simp only [List.forall_mem_cons, List.not_mem_nil, false_implies, implies_true, and_true]
      exact ⟨atFirst, atSecond⟩
  have atRadius := number (str "radius") 2 (by decide)
  have atRepeat := number (str "repeat") 3 (by decide)
  apply (requestHash_eq_iff blurRuntime_floats blurRuntime_digests
    (loaded radius times (by decide) atRadius atRepeat)
    (loaded times radius (by decide) atRepeat atRadius) (blurForm_parsed _) (blurForm_parsed _)
    Worker.blackPixel Worker.blackPixel).mpr
  refine ⟨rfl, .cons ⟨rfl, ?_⟩ .nil⟩
  rw [Json.alike_obj]
  exact ⟨[radius, times], .swap _ _ _, List.forall₂_same.mpr fun field _ =>
    ⟨rfl, Json.alike_refl (fun _ => rfl) field.2⟩⟩

end ImagePipeline.Properties.RequestHash
