import Tgdex.Items.Controller

namespace Tgdex.Items

open Tgdex.Data Tgdex.Query

/-! # The request bodies of POST and PUT

The router checks a body against docs/openapi.yaml before any handler runs.
Properties that a schema does not name are not checked. -/

inductive TextRule where
  | pattern (source : String)
  | format (name : String)
  | maxLength (bound : Nat)
  | enum (values : List String)
deriving Repr, DecidableEq

inductive Schema where
  | text (rules : List TextRule)
  | integer
  | array (items : Schema)
  | object (required : List String) (anyOf : List (List String)) (properties : List (String × Schema))

section

variable (conforms : TextRule → String → Bool)

/-- Patterns and formats are left to the validator's engine. -/
def TextRule.accepts (text : String) : TextRule → Bool
  | .maxLength bound => text.length ≤ bound
  | .enum values => values.contains text
  | rule => conforms rule text

def isInteger (literal : String) : Bool := literal.toInt?.isSome

def requires (fields : List (String × Json)) (names : List String) : Bool :=
  names.all fun name => (fields.lookup name).isSome

mutual
def Schema.accepts : Schema → Json → Bool
  | .text rules, .str text => rules.all (TextRule.accepts conforms text)
  | .integer, .num literal => isInteger literal
  | .array items, .arr values => values.all items.accepts
  | .object required anyOf properties, .obj fields =>
      requires fields required && (anyOf.isEmpty || anyOf.any (requires fields)) && propertiesAccept properties fields
  | _, _ => false

def propertiesAccept : List (String × Schema) → List (String × Json) → Bool
  | [], _ => true
  | (name, schema) :: rest, fields =>
      (match fields.lookup name with
        | some value => schema.accepts value
        | none => true) && propertiesAccept rest fields
end

end

def plainText : Schema := .text []

def uuidPattern : TextRule :=
  .pattern "^[a-zA-Z0-9]\x7b8\x7d-[a-zA-Z0-9]\x7b4\x7d-[a-zA-Z0-9]\x7b4\x7d-[a-zA-Z0-9]\x7b4\x7d-[a-zA-Z0-9]\x7b12\x7d$"

def accessPolicyText : Schema := .text [.pattern "^(RESTRICTED|OPEN|PRIVATE)$"]

def label : Schema := .text [.maxLength 512]

def shortDescription : Schema := .text [.maxLength 3200]

def description : Schema := .text [.maxLength 12000]

/-- exampleEntityAIModel -/
def aiModelSchema : Schema :=
  .object
    ["name", "type", "label", "shortDescription", "description", "tags", "accessPolicy", "organizationType",
     "organizationId", "modelType", "fileFormat", "industry", "license", "fileSize"] []
    [("@context", .text [.format "uri"]), ("id", .text [uuidPattern]),
     ("name", .text [.pattern "^[a-zA-Z0-9][a-zA-Z0-9 _\\-:,;)(]*$", .maxLength 512]),
     ("type", .array plainText), ("label", label), ("shortDescription", shortDescription),
     ("description", description), ("tags", .array plainText), ("accessPolicy", accessPolicyText),
     ("organizationType", .text [.enum ["Private", "Public", "Academic Institution", "NGO/Non-profit", "NA", ""]]),
     ("organizationId", .text [uuidPattern]), ("department", plainText), ("modelType", plainText),
     ("fileFormat", plainText), ("industry", plainText), ("license", plainText), ("fileSize", plainText)]

/-- exampleEntityDataBank -/
def dataBankSchema : Schema :=
  .object
    ["name", "type", "label", "shortDescription", "description", "tags", "organizationId", "accessPolicy",
     "organizationType", "fileFormat", "industry", "geoCoverage", "yearRange", "verifiedBy", "uploadFrequency",
     "license"] []
    [("@context", plainText), ("id", .text [.format "uuid"]), ("name", plainText), ("type", .array plainText),
     ("label", label), ("shortDescription", shortDescription), ("description", description),
     ("tags", .array plainText), ("organizationId", .text [.format "uuid"]), ("accessPolicy", plainText),
     ("organizationType", plainText), ("fileFormat", plainText), ("dataReadiness", .integer),
     ("department", plainText), ("resourceType", plainText), ("industry", plainText), ("geoCoverage", plainText),
     ("yearRange", plainText), ("verifiedBy", plainText), ("uploadFrequency", plainText), ("license", plainText)]

def subsectionSchema : Schema :=
  .object [] [["subtitle", "points"], ["subtitle", "content"]]
    [("subtitle", plainText), ("content", plainText), ("points", .array plainText)]

def sectionSchema : Schema :=
  .object ["title"] [["content"], ["points"], ["subsections"]]
    [("title", plainText), ("content", plainText), ("points", .array plainText),
     ("subsections", .array subsectionSchema)]

/-- exampleEntityPotentialApps -/
def appsSchema : Schema :=
  .object
    ["sections", "name", "type", "tags", "label", "industry", "shortDescription", "description", "organizationType",
     "accessPolicy"] []
    [("sections", .array sectionSchema), ("name", .text [.maxLength 512]), ("type", .array plainText),
     ("tags", .array plainText), ("label", label), ("industry", plainText), ("shortDescription", shortDescription),
     ("description", description),
     ("organizationType",
       .text [.enum ["Private", "Public", "Academic Institution", "NGO/Non-profit", "Other", "NA", ""]]),
     ("accessPolicy", accessPolicyText)]

def itemSchemas : List Schema := [aiModelSchema, dataBankSchema, appsSchema]

section

variable {conforms : TextRule → String → Bool}

/-- The body matches exactly one of the schemas. -/
def admitsBody (conforms : TextRule → String → Bool) (body : Option JsonObject) : Bool :=
  match body with
  | none => false
  | some body => (itemSchemas.filter fun schema => schema.accepts conforms (.obj body.fields)).length == 1

/-- Reads and deletes carry no body. -/
def ItemRequest.Admitted (conforms : TextRule → String → Bool) : ItemRequest → Prop
  | .post _ body _ | .put _ body _ => admitsBody conforms body = true
  | .get _ _ | .delete _ _ => True

theorem property_of_accepts {properties : List (String × Schema)} {fields : List (String × Json)} {name : String}
    {schema : Schema} {value : Json} (accepted : propertiesAccept conforms properties fields = true)
    (member : (name, schema) ∈ properties) (stored : fields.lookup name = some value) :
    schema.accepts conforms value = true := by
  induction properties with
  | nil => cases member
  | cons property rest ih =>
      simp only [propertiesAccept, Bool.and_eq_true] at accepted
      rcases List.mem_cons.mp member with rfl | later
      · simpa only [stored] using accepted.1
      · exact ih accepted.2 later

theorem texts_of_accepts {items : List Json}
    (accepted : (Schema.array plainText).accepts conforms (.arr items) = true) :
    ∃ texts : List String, items = texts.map .str := by
  simp only [Schema.accepts, List.all_eq_true] at accepted
  induction items with
  | nil => exact ⟨[], rfl⟩
  | cons item rest ih =>
      obtain ⟨texts, rfl⟩ := ih fun other member => accepted other (List.mem_cons_of_mem _ member)
      have first := accepted item List.mem_cons_self
      cases item with
      | str text => exact ⟨text :: texts, rfl⟩
      | _ => simp [plainText, Schema.accepts] at first

theorem itemSchemas_type :
    ∀ schema ∈ itemSchemas, ∃ required anyOf properties, schema = .object required anyOf properties ∧
      ("type", .array plainText) ∈ properties := by
  intro schema member
  simp only [itemSchemas, List.mem_cons, List.not_mem_nil, or_false] at member
  rcases member with rfl | rfl | rfl <;> exact ⟨_, _, _, rfl, by simp⟩

/-- The type list of an admitted body holds texts only. -/
theorem types_of_admitted {body : Option JsonObject} (admitted : admitsBody conforms body = true)
    {given : JsonObject} (hasBody : body = some given) {types : List Json}
    (stored : given.get? "type" = some (.arr types)) : ∃ texts : List String, types = texts.map .str := by
  subst hasBody
  simp only [admitsBody, beq_iff_eq] at admitted
  obtain ⟨schema, only⟩ := List.length_eq_one_iff.mp admitted
  have member : schema ∈ itemSchemas.filter fun schema => schema.accepts conforms (.obj given.fields) := by
    rw [only]
    exact List.mem_singleton_self schema
  obtain ⟨known, accepted⟩ := List.mem_filter.mp member
  obtain ⟨required, anyOf, properties, rfl, typed⟩ := itemSchemas_type schema known
  simp only [Schema.accepts, Bool.and_eq_true] at accepted
  exact texts_of_accepts (property_of_accepts accepted.2 typed stored)

end

end Tgdex.Items
