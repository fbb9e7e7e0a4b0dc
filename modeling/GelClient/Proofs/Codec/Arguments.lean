import GelClient.Proofs.Codec.Compound

/-!
# Arguments that no element has the name of

The arguments of a query are given by name, and the codec says which names there are. A codec without
elements, an input shape and a named tuple refuse the first field that has none of the names, before they
write anything. The codec of an object asks for its elements by name and never looks at the other fields:
it writes what it writes without them, and an element whose argument is misspelt is written as absent, if
it may be.
-/

namespace GelClient

open Packet (Put PutM)

variable {v : Value} {fields : List (String × Value)} {names : List String}

/-- An element is found unless no element has its name. -/
theorem ObjectShape.isNone_position?_iff {shape : ObjectShape} {name : String} :
    (position? shape name).isNone = true ↔ name ∉ shape.map (·.name) := by
  simp [position?]

namespace Codec

/-- The names of the elements of a codec whose arguments are given by name. -/
def elementNames? : Codec → Option (List String)
  | null => some []
  | namedTuple codecs => some (codecs.map (·.1))
  | object shape | sparseObject shape => some (shape.map (·.name))
  | _ => none

/-- The fields without those that have none of the names. -/
def knownFields (names : List String) (fields : List (String × Value)) : List (String × Value) :=
  fields.filter (·.1 ∈ names)

/-- Fields of other names do not supply an element. -/
private theorem supplied?_knownFields {name : String} (h : name ∈ names) :
    supplied? (knownFields names fields) name = supplied? fields name := by
  have hfind : (fields.filter (·.1 ∈ names)).find? (·.1 == name) = fields.find? (·.1 == name) := by
    rw [List.find?_filter]
    refine congrArg (fields.find? ·) (funext fun f => ?_)
    by_cases hf : f.1 = name
    · simp [hf, h]
    · simp [hf]
  rw [supplied?, supplied?, Value.lookup, Value.lookup, knownFields, hfind]

/-- Fields of other names do not change what is written for the elements of an object. -/
private theorem putShape_knownFields {shape : ObjectShape} (h : ∀ e ∈ shape, e.name ∈ names) :
    putShape shape (knownFields names fields) = putShape shape fields := by
  induction shape with
  | nil => simp only [putShape]
  | cons e shape ih =>
    simp only [putShape, supplied?_knownFields (h e List.mem_cons_self),
      ih fun d hd => h d (List.mem_cons_of_mem e hd)]

/-- The arguments of an object are written as without the fields of other names. -/
theorem putArguments_object (shape : ObjectShape) (hv : fields? v = some fields) :
    (object shape).putArguments v =
      (object shape).putArguments (.object (knownFields (shape.map (·.name)) fields)) := by
  have hshape : putShape shape (knownFields (shape.map (·.name)) fields) = putShape shape fields :=
    putShape_knownFields fun e he => List.mem_map_of_mem he
  have hknown (known : List (String × Value)) : fields? (.object known) = some known := rfl
  simp only [putArguments, put, putAs, hv, hknown, hshape]

/-- An input shape refuses the first field that has none of its names. -/
theorem putArguments_sparseObject {shape : ObjectShape} {f : String × Value} (hv : fields? v = some fields)
    (hf : fields.find? (·.1 ∉ shape.map (·.name)) = some f) :
    (sparseObject shape).putArguments v = throw (.unknownArgument f.1) := by
  have hnames (g : String × Value) :
      (ObjectShape.position? shape g.1).isNone = decide (g.1 ∉ shape.map (·.name)) := by
    rw [Bool.eq_iff_iff, ObjectShape.isNone_position?_iff, decide_eq_true_iff]
  simp only [putArguments, put, putAs, hv, hnames, hf]

/-- A named tuple refuses the first field that has none of its names. -/
theorem putArguments_namedTuple {codecs : List (String × Codec)} {f : String × Value}
    (hv : fields? v = some fields) (hf : fields.find? (·.1 ∉ codecs.map (·.1)) = some f) :
    (namedTuple codecs).putArguments v = throw (.unknownArgument f.1) := by
  have hnames (g : String × Value) :
      (!codecs.any (·.1 == g.1)) = decide (g.1 ∉ codecs.map (·.1)) := by
    rw [Bool.eq_iff_iff, Bool.not_eq_true', List.any_eq_false, decide_eq_true_iff, List.mem_map]
    simp only [beq_iff_eq, not_exists, not_and]
  simp only [putArguments, put, putAs, hv, hnames, hf]

/-- The type without data refuses the first field. -/
theorem putArguments_null {f : String × Value} (hv : fields? v = some fields)
    (hf : fields.find? (·.1 ∉ []) = some f) : null.putArguments v = throw (.unknownArgument f.1) := by
  cases fields with
  | nil => cases hf
  | cons g rest =>
    cases hf
    cases v with
    | object _ | namedTuple _ =>
      cases hv
      rfl
    | _ => cases hv

/-- A field that has none of the names of the elements is refused before anything is written, the first
one of this kind, by every codec whose arguments are given by name but that of an object. To this one it
makes no difference. -/
theorem putArguments_of_unknown {c : Codec} {names : List String} {v : Value}
    {fields : List (String × Value)} (hc : c.elementNames? = some names) (hv : fields? v = some fields)
    (hunknown : ∃ f ∈ fields, f.1 ∉ names) :
    (∀ shape, c = object shape →
        c.putArguments v = c.putArguments (.object (knownFields names fields))) ∧
      ((∀ shape, c ≠ object shape) →
        ∃ f, fields.find? (·.1 ∉ names) = some f ∧ c.putArguments v = throw (.unknownArgument f.1)) := by
  obtain ⟨f, hf⟩ : ∃ f, fields.find? (·.1 ∉ names) = some f := by
    obtain ⟨g, hg, hname⟩ := hunknown
    exact Option.isSome_iff_exists.mp (List.find?_isSome.mpr ⟨g, hg, decide_eq_true hname⟩)
  cases c with
  | object shape =>
    cases hc
    exact ⟨fun _ _ => putArguments_object shape hv, fun h => absurd rfl (h shape)⟩
  | null =>
    cases hc
    exact ⟨nofun, fun _ => ⟨f, hf, putArguments_null hv hf⟩⟩
  | namedTuple codecs =>
    cases hc
    exact ⟨nofun, fun _ => ⟨f, hf, putArguments_namedTuple hv hf⟩⟩
  | sparseObject shape =>
    cases hc
    exact ⟨nofun, fun _ => ⟨f, hf, putArguments_sparseObject hv hf⟩⟩
  | _ => cases hc

/-- The elements of a person, of which the age may be left out. -/
def personShape : ObjectShape :=
  [⟨"name", .scalar .str, some .one, 0⟩, ⟨"age", .scalar .int32, some .atMostOne, 0⟩]

/-- A person whose age is given under a misspelt name. -/
def misspelt : List (String × Value) := [("name", .str "gel"), ("aeg", .int32 3)]

/-- The misspelt age makes no difference to the object, and is refused by the input shape. -/
theorem putArguments_of_unknown_misspelt :
    (object personShape).putArguments (.object misspelt) =
        (object personShape).putArguments (.object [("name", .str "gel")]) ∧
      (sparseObject personShape).putArguments (.namedTuple misspelt) = throw (.unknownArgument "aeg") := by
  have hunknown : ∃ f ∈ misspelt, f.1 ∉ ["name", "age"] :=
    ⟨("aeg", .int32 3), by simp [misspelt], by decide⟩
  have hobject :=
    putArguments_of_unknown (c := object personShape) (v := .object misspelt) rfl rfl hunknown
  have hinput :=
    putArguments_of_unknown (c := sparseObject personShape) (v := .namedTuple misspelt) rfl rfl hunknown
  obtain ⟨f, hf, hput⟩ := hinput.2 nofun
  cases hf
  exact ⟨hobject.1 personShape rfl, hput⟩

/-- Arguments that no element has the name of are not refused in general: an object goes out without the
misspelt age. -/
theorem exists_encodeArguments_of_unknown :
    ¬∀ (c : Codec) (names : List String) (v : Value) (fields : List (String × Value)),
      c.elementNames? = some names → fields? v = some fields → (∃ f ∈ fields, f.1 ∉ names) →
        ∀ b, c.encodeArguments v ≠ .ok b := by
  intro h
  have hwritten : (object personShape).encodeArguments (.object misspelt) =
      .ok [0, 0, 0, 2, 0, 0, 0, 0, 0, 0, 0, 3, 103, 101, 108, 0, 0, 0, 0, 255, 255, 255, 255] := by rfl
  exact h _ _ _ _ rfl rfl ⟨("aeg", .int32 3), by simp [misspelt], by decide⟩ _ hwritten

end Codec

end GelClient
