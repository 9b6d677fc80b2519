import Mathlib.Data.List.Sublists
import Tgdex.Items.Schema
import Tgdex.Items.Writes
import Tgdex.Properties.Deletion

namespace Tgdex.Properties

open Tgdex.Data Tgdex.Java Tgdex.Effects Tgdex.Elastic Tgdex.Query Tgdex.Items

/-! # The type of an item

The role check, the validators, the item classes and the index each pick a
type in their own way.  They agree on whatever gets as far as a write. -/

variable {engine : Engine} {config : Config} {caller : Caller} {method : Method} {body : Option JsonObject}
  {moment : Moment} {store : Index}

theorem joined_types : ∀ known ∈ itemTypes.sublists,
    ", ".intercalate known ∈ [itemTypeAiModel, itemTypeDataBank, itemTypeApps] →
      known = [", ".intercalate known] := by
  decide +kernel

theorem mem_types_of_validator {itemType : String}
    {result : JsonObject → Settled (Item × Statics) → Settled JsonObject}
    (validator : (itemType, result) ∈ validators method) :
    itemType ∈ [itemTypeAiModel, itemTypeDataBank, itemTypeApps] := by
  simp only [validators, List.mem_cons, Prod.mk.injEq, List.not_mem_nil, or_false] at validator ⊢
  rcases validator with ⟨same, -⟩ | ⟨same, -⟩ | ⟨same, -⟩ <;> simp [same]

/-- The joined text is the name of a validator only if one type is named. -/
theorem listed_of_submission (submission : Submission config caller method body moment) :
    ∃ types, submission.given.get? "type" = some (.arr types) ∧
      itemTypes.filter (containsText types) = [submission.itemType] := by
  have typed := submission.typed
  simp only [extractAndValidateItemType] at typed
  split at typed
  · rename_i types read
    refine ⟨types, JsonObject.getJsonArray_eq_ok.mp read, ?_⟩
    split at typed
    · cases typed
    · obtain joined := Option.some.inj typed
      have sublist : itemTypes.filter (containsText types) ∈ itemTypes.sublists :=
        List.mem_sublists.mpr List.filter_sublist
      have known := joined_types _ sublist (joined ▸ mem_types_of_validator submission.validator)
      rw [joined] at known
      exact known
  · cases typed

theorem containsText_iff {types : List Json} {text : String} :
    containsText types text = true ↔ .str text ∈ types := by
  simp only [containsText, List.any_eq_true]
  refine ⟨?_, ?_⟩
  · intro shown
    obtain ⟨item, member, same⟩ := shown
    split at same
    · rw [beq_iff_eq] at same
      rwa [← same]
    · cases same
  · exact fun member => ⟨_, member, by simp⟩

theorem eq_of_listed {types : List Json} {known type : String}
    (only : itemTypes.filter (containsText types) = [type]) (present : .str known ∈ types)
    (catalogued : known ∈ itemTypes) : known = type := by
  have member : known ∈ itemTypes.filter (containsText types) :=
    List.mem_filter.mpr ⟨catalogued, containsText_iff.mpr present⟩
  rw [only] at member
  exact List.mem_singleton.mp member

/-- A list of types in the body holds nothing but texts, as the API description asks. -/
def TypesAreTexts (body : Option JsonObject) : Prop :=
  ∀ given types, body = some given → given.get? "type" = some (.arr types) → ∃ texts : List String, types = texts.map .str

theorem containsText_texts (texts : List String) :
    containsText (texts.map .str) = fun text => decide (text ∈ texts) := by
  funext text
  rw [Bool.eq_iff_iff]
  simp only [containsText, List.any_map, Function.comp_def, List.any_eq_true, beq_iff_eq, exists_eq_right,
    decide_eq_true_eq]

theorem types_of_submission (submission : Submission config caller method body moment) (plain : TypesAreTexts body) :
    ∃ texts : List String, submission.given.get? "type" = some (.arr (texts.map .str)) ∧
      itemTypes.filter (fun known => decide (known ∈ texts)) = [submission.itemType] := by
  obtain ⟨types, stored, only⟩ := listed_of_submission submission
  obtain ⟨texts, rfl⟩ := plain _ types submission.hasBody stored
  rw [containsText_texts] at only
  exact ⟨texts, stored, only⟩

theorem type_of_item {submission : Submission config caller method body moment}
    {settled : Settled (ElasticsearchResponse × Statics)} {request : JsonObject} {item : Item}
    (success : submission.validated settled = .success request) (parsed : parse request = .ok item)
    {types : List Json} (stored : submission.given.get? "type" = some (.arr types)) :
    item.toJson.get? "type" = some (.arr types) ∧ item.known.get? "type" = some (.arr types) := by
  obtain ⟨readers, known, read⟩ := class_of_parse parsed
  have same : request.get? "type" = submission.given.get? "type" :=
    (submission.get?_request success (by decide)).trans (get?_submitted (by decide))
  exact toJson_type known read (JsonObject.getJsonArray_eq_ok.mpr (same.trans stored))

def readersOf : ItemType → List Reader
  | .aiModel => aiModelReaders
  | .dataBank => dataBankReaders
  | .apps => appsReaders

theorem readersOf_mem (type : ItemType) : readersOf type ∈ itemClasses := by
  cases type <;> simp [readersOf, itemClasses]

theorem typeValue_mem (type : ItemType) : type.typeValue ∈ itemTypes := by
  cases type <;> simp [ItemType.typeValue, itemTypes]

theorem typeValue_inj {type other : ItemType} (same : type.typeValue = other.typeValue) : type = other := by
  cases type <;> cases other <;> first | rfl | exact absurd same (by decide)

/-- What ItemFactory.parse accepts begins with the exact name of its class. -/
theorem parse_cases {request : JsonObject} {item : Item} (parsed : parse request = .ok item) :
    ∃ (type : ItemType) (rest : List Json), request.get? "type" = some (.arr (.str type.typeValue :: rest)) ∧
      fromJson (readersOf type) request = .ok item := by
  simp only [parse, bind_eq_ok, nonNull_eq_ok] at parsed
  obtain ⟨_, read, types, rfl, parsed⟩ := parsed
  have stored := JsonObject.getJsonArray_eq_ok.mp read
  split at parsed
  · cases parsed
  simp only [bind_eq_ok, nonNull_eq_ok] at parsed
  obtain ⟨_, first, name, rfl, chosen⟩ := parsed
  obtain ⟨rest, rfl⟩ : ∃ rest, types = .str name :: rest := by
    cases types with
    | nil => cases first
    | cons head rest =>
        cases head with
        | str text =>
            cases first
            exact ⟨rest, rfl⟩
        | _ => cases first
  split at chosen
  · rename_i dataBank
    subst dataBank
    exact ⟨.dataBank, rest, stored, chosen⟩
  split at chosen
  · rename_i apps
    subst apps
    exact ⟨.apps, rest, stored, chosen⟩
  split at chosen
  · rename_i aiModel
    subst aiModel
    exact ⟨.aiModel, rest, stored, chosen⟩
  · cases chosen

theorem parse_eq {request : JsonObject} {type : ItemType} {rest : List Json}
    (stored : request.get? "type" = some (.arr (.str type.typeValue :: rest))) :
    parse request = fromJson (readersOf type) request := by
  simp only [parse, JsonObject.getJsonArray_eq_ok.mpr stored]
  cases type <;> rfl

/-- ItemFactory.from builds the only class that is named, wherever it stands. -/
theorem from_eq {document : JsonObject} {type : ItemType} {types : List Json}
    (stored : document.get? "type" = some (.arr types))
    (only : itemTypes.filter (containsText types) = [type.typeValue]) :
    from_ document = fromJson (readersOf type) document := by
  have named : ∀ other : ItemType, containsText types other.typeValue = true ↔ other = type := by
    intro other
    refine ⟨?_, ?_⟩
    · intro present
      exact typeValue_inj (eq_of_listed only (containsText_iff.mp present) (typeValue_mem other))
    · intro same
      subst same
      have member : other.typeValue ∈ itemTypes.filter (containsText types) := by
        rw [only]
        exact List.mem_singleton_self _
      exact (List.mem_filter.mp member).2
  have aiModel := named .aiModel
  have apps := named .apps
  have dataBank := named .dataBank
  simp only [ItemType.typeValue] at aiModel apps dataBank
  have read := JsonObject.getJsonArray_eq_ok.mpr stored
  simp only [from_, read, nonNull, bind, Except.bind, aiModel, apps, dataBank]
  cases type <;> rfl

/-- A validated request that is parsed names the type that its validator was
chosen for, and names it first. -/
theorem class_of_request {submission : Submission config caller method body moment}
    {settled : Settled (ElasticsearchResponse × Statics)} {request : JsonObject} {item : Item}
    (success : submission.validated settled = .success request) (parsed : parse request = .ok item) :
    ∃ (type : ItemType) (rest : List Json), submission.itemType = type.typeValue ∧
      submission.given.get? "type" = some (.arr (.str type.typeValue :: rest)) ∧
      itemTypes.filter (containsText (.str type.typeValue :: rest)) = [type.typeValue] ∧
      fromJson (readersOf type) request = .ok item := by
  obtain ⟨type, rest, requested, read⟩ := parse_cases parsed
  obtain ⟨types, given, only⟩ := listed_of_submission submission
  have same : request.get? "type" = submission.given.get? "type" :=
    (submission.get?_request success (by decide)).trans (get?_submitted (by decide))
  rw [requested, given] at same
  obtain rfl := Json.arr.inj (Option.some.inj same)
  have named : type.typeValue = submission.itemType := eq_of_listed only List.mem_cons_self (typeValue_mem type)
  rw [← named] at only
  exact ⟨type, rest, named.symm, given, only, read⟩

/-- The type that the lookup of an update asks for is the one it is submitted as. -/
theorem type_of_update (update : Update engine config caller body moment store) :
    update.type = update.submission.itemType := by
  obtain ⟨type, rest, named, given, -⟩ := class_of_request update.valid update.parsed
  obtain ⟨-, known⟩ := type_of_item update.valid update.parsed given
  have listed : update.types = .str type.typeValue :: rest :=
    Option.some.inj (Except.ok.inj (update.getType.symm.trans (JsonObject.getJsonArray_eq_ok.mpr known)))
  have first := update.firstType
  rw [listed] at first
  rw [named]
  exact (Option.some.inj (Except.ok.inj first)).symm

def requiredRole : ItemType → String
  | .aiModel | .dataBank => "provider"
  | .apps => "cos_admin"

/-- The token lists the role that the type asks for, in any letter case. -/
def HoldsRole (unicode : Unicode) (caller : Caller) (type : ItemType) : Prop :=
  ∃ principal access roles role text, caller.user = some principal ∧
    principal.getJsonObject "realm_access" = .ok (some access) ∧ access.getJsonArray "roles" = .ok (some roles) ∧
    role ∈ roles ∧ toText role = .ok text ∧
    equalsIgnoreCase unicode (requiredRole type) (unicode.lowerCase text) = true

theorem exists_of_anyM {α : Type} {test : α → Except Throwable Bool} {items : List α}
    (found : items.anyM test = .ok true) : ∃ item ∈ items, test item = .ok true := by
  induction items with
  | nil => cases found
  | cons item rest ih =>
      simp only [List.anyM, bind_eq_ok] at found
      obtain ⟨here, tested, found⟩ := found
      cases here with
      | true => exact ⟨item, List.mem_cons_self, tested⟩
      | false =>
          obtain ⟨other, member, tested⟩ := ih found
          exact ⟨other, List.mem_cons_of_mem _ member, tested⟩

theorem role_of_allows {role : String × List ItemType} {type : ItemType} (known : role ∈ dxRoles)
    (allows : role.2.contains type = true) : role.1 = requiredRole type := by
  simp only [dxRoles, List.mem_cons, List.not_mem_nil, or_false] at known
  rcases known with rfl | rfl | rfl | rfl | rfl <;> cases type <;> first | rfl | exact absurd allows (by decide)

theorem roleAllows_true {unicode : Unicode} {type : ItemType} {role : Json}
    (allowed : roleAllows unicode type role = .ok true) :
    ∃ text, toText role = .ok text ∧
      equalsIgnoreCase unicode (requiredRole type) (unicode.lowerCase text) = true := by
  simp only [roleAllows, bind_eq_ok] at allowed
  obtain ⟨text, written, allowed⟩ := allowed
  refine ⟨text, written, ?_⟩
  split at allowed
  · rename_i known found
    have allows : known.2.contains type = true := Except.ok.inj allowed
    rw [← role_of_allows (List.mem_of_find?_eq_some found) allows]
    exact List.find?_some (p := fun role : String × List ItemType => equalsIgnoreCase unicode role.1 (unicode.lowerCase text)) found
  · cases allowed

theorem verifyItemTypeAndRole_none {unicode : Unicode}
    (allowed : verifyItemTypeAndRole unicode caller body = .ok none) :
    ∃ given first rest type, body = some given ∧ given.get? "type" = some (.arr (first :: rest)) ∧
      fromTypeValue unicode (textOf first) = some type ∧ HoldsRole unicode caller type := by
  simp only [verifyItemTypeAndRole] at allowed
  split at allowed
  · cases allowed
  rename_i principal user
  simp only [bind_eq_ok] at allowed
  obtain ⟨access, read, allowed⟩ := allowed
  split at allowed
  · cases allowed
  rename_i access
  split at allowed
  · cases allowed
  simp only [bind_eq_ok, nonNull_eq_ok] at allowed
  obtain ⟨given, hasBody, listed, listRead, types, rfl, allowed⟩ := allowed
  split at allowed
  · cases allowed
  rename_i first rest
  simp only [bind_eq_ok] at allowed
  obtain ⟨firstText, named, userRoles, rolesRead, allowed⟩ := allowed
  obtain rfl := Except.ok.inj named
  split at allowed
  · cases allowed
  rename_i type requested
  simp only [bind_eq_ok, nonNull_eq_ok] at allowed
  obtain ⟨roles, rfl, held, any, allowed⟩ := allowed
  split at allowed
  · rename_i true_
    subst true_
    obtain ⟨role, member, allows⟩ := exists_of_anyM any
    obtain ⟨text, written, same⟩ := roleAllows_true allows
    exact ⟨given, first, rest, type, hasBody, JsonObject.getJsonArray_eq_ok.mp listRead, requested,
      principal, access, roles, role, text, user, read, rolesRead, member, written, same⟩
  · cases allowed

theorem eq_of_fromTypeValue {unicode : Unicode} {type : ItemType} (other : ItemType)
    (found : fromTypeValue unicode (some other.typeValue) = some type) : type = other := by
  have same := List.find?_some (p := fun type : ItemType => equalsIgnoreCase unicode type.typeValue other.typeValue) found
  have lengths := length_of_equalsIgnoreCase same
  cases type <;> cases other <;> first | rfl | exact absurd lengths (by decide)

def validatorOf : ItemType → JsonObject → Method → Moment → Except Throwable (Future JsonObject)
  | .aiModel => validateAiModel
  | .dataBank => validateDataBank
  | .apps => validateApps

/-- The documents that a write of the item can leave in the index. -/
def StoredAs (wire : Wire) (item : Item) (document : JsonObject) : Prop :=
  document = wire.written item.toJson ∨ ∃ old : JsonObject, document = old.mergeDeep (wire.written item.toJson)

theorem get?_storedAs {wire : Wire} {item : Item} {document : JsonObject} (stored : StoredAs wire item document)
    {key : String} {value written : Json} (given : item.toJson.get? key = some value)
    (entry : wire.stays.entry key value = some written) (scalar : written.isObject = false) :
    document.get? key = some written := by
  have sent : (wire.written item.toJson).get? key = some written := by
    rw [wire.get?_written, given, Option.bind_some, entry]
  rcases stored with rfl | ⟨old, rfl⟩
  · exact sent
  · exact JsonObject.get?_mergeDeep_scalar _ sent scalar

theorem get?_storedAs_text {wire : Wire} {item : Item} {document : JsonObject} (stored : StoredAs wire item document)
    {key text : String} (given : item.toJson.get? key = some (.str text)) (visible : text ≠ "") :
    document.get? key = some (.str text) :=
  get?_storedAs stored given (by rw [Stays.entry_str, if_neg visible]) rfl

theorem containsText_encoded (stays : Stays) (items : List Json) (text : String) :
    containsText (encodedItems stays items) text = containsText items text := by
  rw [encodedItems_eq_map, containsText, containsText, List.any_map]
  refine List.any_congr rfl fun item => ?_
  cases item <;> rfl

theorem listed_encoded {stays : Stays} {types : List Json} {type : ItemType}
    (only : itemTypes.filter (containsText types) = [type.typeValue]) :
    itemTypes.filter (containsText (encodedItems stays types)) = [type.typeValue] := by
  rw [← only]
  exact List.filter_congr fun known _ => containsText_encoded stays types known

/-- One type is checked against the roles, validated, parsed and built again. -/
structure Dispatched (config : Config) (caller : Caller) (method : Method) (moment : Moment)
    (given document : JsonObject) (itemType : String) (request : JsonObject) (item : Item) (type : ItemType) : Prop where
  role : HoldsRole config.unicode caller type
  checked : ∃ first rest, given.get? "type" = some (.arr (first :: rest)) ∧
    fromTypeValue config.unicode (textOf first) = some type
  named : itemType = type.typeValue
  validator : validateItemExistence itemType document method moment = some <$> validatorOf type document method moment
  parsed : parse request = fromJson (readersOf type) request
  rebuilt : ∀ stored, StoredAs config.wire item stored → from_ stored = fromJson (readersOf type) stored ∧
    from_ (readSource stored) = fromJson (readersOf type) (readSource stored)

theorem dispatched {submission : Submission config caller method body moment}
    {settled : Settled (ElasticsearchResponse × Statics)} {request : JsonObject} {item : Item}
    (success : submission.validated settled = .success request) (parsed : parse request = .ok item) :
    ∃ type, Dispatched config caller method moment submission.given
      (entered config submission.principal submission.given) submission.itemType request item type := by
  obtain ⟨type, rest, named, given, only, read⟩ := class_of_request success parsed
  obtain ⟨body_, first, others, checked, hasBody, listed, requested, role⟩ :=
    verifyItemTypeAndRole_none submission.role
  obtain rfl := Option.some.inj (submission.hasBody.symm.trans hasBody)
  obtain ⟨rfl, rfl⟩ := List.cons.inj (Json.arr.inj (Option.some.inj (given.symm.trans listed)))
  obtain rfl := eq_of_fromTypeValue type requested
  have requested_ : request.get? "type" = some (.arr (.str checked.typeValue :: rest)) :=
    (submission.get?_request success (by decide)).trans ((get?_submitted (by decide)).trans given)
  have written : item.toJson.get? "type" = some (.arr (.str checked.typeValue :: rest)) :=
    (toJson_type (readersOf_mem checked) read (JsonObject.getJsonArray_eq_ok.mpr requested_)).1
  refine ⟨checked, role, ⟨_, _, given, requested⟩, named, ?_, parse_eq requested_, fun stored write => ?_⟩
  · rw [named]
    cases checked <;> rfl
  · have listed := get?_storedAs write written (Stays.entry_arr_cons _ _ _ _) rfl
    have once := @listed_encoded (config.wire.stays.under "type") _ _ only
    refine ⟨from_eq listed once, from_eq ?_ (@listed_encoded (Stays.nowhere.under "type") _ _ once)⟩
    rw [get?_readSource stored (by decide), listed]
    rfl

/-- A create or update is refused before its validator, or it is the chosen
validator followed by the write.  Whatever the validator lets through to the
write has one type for the role check, the validator and both factories, and
the caller holds the role of that type. -/
theorem type_dispatch_agrees (config : Config) (caller : Caller) (method : Method) (body : Option JsonObject)
    (moment : Moment) :
    (∃ outcomes, createOrUpdate config caller method body moment = .done outcomes ∧ Refuses outcomes) ∨
    ∃ given document itemType validation, body = some given ∧ extractAndValidateItemType given = some itemType ∧
      validateItemExistence itemType document method moment = .ok (some validation) ∧
      createOrUpdate config caller method body moment = validation.bind (onValidated config method) ∧
      ∀ request item, validation.Ends (.success request) → parse request = .ok item →
        ∃ type, Dispatched config caller method moment given document itemType request item type := by
  rcases createOrUpdate_cases config caller method body moment with ⟨outcomes, done, refuses⟩ | ⟨submission, goes⟩
  · exact .inl ⟨outcomes, done, refuses⟩
  have chosen := (validateItemExistence_of_validator moment submission.validator
    (entered config submission.principal submission.given)).2
  rw [validateNamed_of_named submission.decided submission.named] at chosen
  refine .inr ⟨submission.given, _, submission.itemType, _, submission.hasBody, submission.typed, chosen, ?_, ?_⟩
  · rw [goes, Task.bind_assoc]
    rfl
  · intro request item ends parsed
    obtain ⟨settled, -, success⟩ := Task.ends_bind.mp ends
    exact dispatched success parsed

/-- The document that a name lookup answers with is read as an item, counts as
none when there is nothing to read of it, or fails the validation. -/
theorem nameLookupResult_hit (hit : Hit) (statics : Statics) :
    (∃ item, (readSource hit.source).fields.isEmpty = false ∧ from_ (readSource hit.source) = .ok item ∧
      nameLookupResult (.success (responseOf (some hit), statics)) = .success (item, statics)) ∨
    ((readSource hit.source).fields.isEmpty = true ∧
      nameLookupResult (.success (responseOf (some hit), statics)) = .failure (.runtime detailItemNotFound)) ∨
    nameLookupResult (.success (responseOf (some hit), statics)) =
      .failure (.runtime "Fail: Unable to parse existing item") := by
  simp only [nameLookupResult, responseOf]
  cases empty : (readSource hit.source).fields.isEmpty with
  | true => exact .inr (.inl ⟨rfl, rfl⟩)
  | false =>
      cases read : from_ (readSource hit.source) with
      | error cause => exact .inr (.inr rfl)
      | ok item => exact .inl ⟨item, rfl, rfl, rfl⟩

/-- A document under its id, of the one catalogue type that it names first. -/
structure Catalogued (id : String) (type : ItemType) (document : JsonObject) : Prop where
  carries : document.get? "id" = some (.str id)
  uuid : isValidUuid id = true
  types : ∃ others : List String, document.get? "type" = some (.arr (.str type.typeValue :: others.map .str)) ∧
    ∀ other : ItemType, other.typeValue ∈ others → other = type

theorem read_nonempty {document : JsonObject} {id : String} {type : ItemType}
    (catalogued : Catalogued id type document) : (readSource document).fields.isEmpty = false := by
  have named := readSource_text catalogued.carries (ne_empty_of_isValidUuid catalogued.uuid) (by decide)
  cases shown : (readSource document).fields with
  | nil => simp [JsonObject.get?, shown] at named
  | cons field rest => rfl

def AllCatalogued (store : Index) : Prop :=
  ∀ id document, store.lookup id = some document → ∃ type, Catalogued id type document

theorem fieldTexts_of_texts {document : JsonObject} {key : String} {texts : List String}
    (stored : document.get? key = some (.arr (texts.map .str))) : fieldTexts document [key] = texts := by
  have each : (elementsOf (texts.map .str)).filterMap scalarText = texts := by
    clear stored
    induction texts with
    | nil => rfl
    | cons text rest ih => simp only [List.map_cons, elementsOf, elements, List.cons_append, List.nil_append,
        List.filterMap_cons, scalarText, ih]
  rw [fieldTexts_single, stored, Option.toList_some, List.flatMap_singleton]
  simpa only [textsAt, elements] using each

theorem type_of_updateHit (valid : ValidIds store) {id type : String} {document : JsonObject}
    (present : store.lookup id = some document) (found : engine.hits (some (updateLookup id type)) store ≠ []) :
    type ∈ fieldTexts document ["type"] := by
  obtain ⟨hit, rest, hits⟩ := List.exists_cons_of_ne_nil found
  have member : hit ∈ engine.hits (some (updateLookup id type)) store := by
    rw [hits]
    exact List.mem_cons_self
  obtain ⟨stored, matched⟩ := Engine.mem_hits.mp member
  have holds := matched _ rfl
  rw [Engine.matchesQuery, updateLookup, BoolQuery.holds_must_iff] at holds
  have named := holds (.leaf (.term "id.keyword" id)) (by simp)
  have typed := holds (.leaf (.match_ "type.keyword" type none none)) (by simp)
  simp [Engine.leafHolds, Engine.indexedTerms, Engine.queryTerms, fieldTexts_of_text (valid _ _ stored).1] at named typed
  rw [← named.1] at stored
  obtain rfl := Option.some.inj (present.symm.trans stored)
  exact typed.1

theorem Catalogued.mem_iff {id : String} {type : ItemType} {document : JsonObject}
    (catalogued : Catalogued id type document) {other : ItemType} :
    other.typeValue ∈ fieldTexts document ["type"] ↔ other = type := by
  obtain ⟨others, stored, only⟩ := catalogued.types
  have listed : fieldTexts document ["type"] = type.typeValue :: others :=
    @fieldTexts_of_texts document "type" (type.typeValue :: others) stored
  rw [listed, List.mem_cons]
  refine ⟨?_, ?_⟩
  · intro named
    rcases named with first | later
    · exact typeValue_inj first
    · exact only other later
  · intro same
    exact .inl (congrArg ItemType.typeValue same)

theorem Catalogued.unique {id other : String} {type another : ItemType} {document : JsonObject}
    (catalogued : Catalogued id type document) (too : Catalogued other another document) : type = another :=
  too.mem_iff.mp (catalogued.mem_iff.mpr rfl)

/-- An item that is written has the type that it is submitted as. -/
structure Typed (type : ItemType) (item : Item) : Prop where
  written : ∃ others : List String, item.toJson.get? "type" = some (.arr (.str type.typeValue :: others.map .str)) ∧
    ∀ other : ItemType, other.typeValue ∈ others → other = type

theorem typed_of_request {submission : Submission config caller method body moment}
    {settled : Settled (ElasticsearchResponse × Statics)} {request : JsonObject} {item : Item}
    (success : submission.validated settled = .success request) (parsed : parse request = .ok item)
    (plain : TypesAreTexts body) : ∃ type, submission.itemType = type.typeValue ∧ Typed type item := by
  obtain ⟨type, rest, named, given, only, -⟩ := class_of_request success parsed
  obtain ⟨texts, listed⟩ := plain _ _ submission.hasBody given
  obtain ⟨others, rfl⟩ : ∃ others : List String, rest = others.map .str := by
    cases texts with
    | nil => cases listed
    | cons text others => exact ⟨others, (List.cons.inj listed).2⟩
  obtain ⟨written, -⟩ := type_of_item success parsed given
  refine ⟨type, named, others, written, fun other member => ?_⟩
  have present : Json.str other.typeValue ∈ .str type.typeValue :: others.map .str :=
    List.mem_cons_of_mem _ (List.mem_map_of_mem member)
  exact typeValue_inj (eq_of_listed only present (typeValue_mem other))

theorem catalogued_storedAs {wire : Wire} {item : Item} {document : JsonObject} {id : String} {type : ItemType}
    (stored : StoredAs wire item document) (named : item.toJson.get? "id" = some (.str id))
    (uuid : isValidUuid id = true) (typed : Typed type item) : Catalogued id type document := by
  obtain ⟨others, written, only⟩ := typed.written
  have listed : wire.stays.entry "type" (.arr (.str type.typeValue :: others.map .str)) = some _ :=
    Stays.entry_texts _ _ (by simp) (by simp)
  exact ⟨get?_storedAs_text stored named (ne_empty_of_isValidUuid uuid), uuid, others,
    get?_storedAs stored written listed rfl, only⟩

theorem catalogued_creation (creation : Creation engine config caller body moment store) (plain : TypesAreTexts body) :
    ∃ type, creation.submission.itemType = type.typeValue ∧
      Catalogued creation.id type (config.wire.written creation.item.toJson) := by
  obtain ⟨type, named, typed⟩ := typed_of_request creation.valid creation.parsed plain
  obtain ⟨-, submitted⟩ := creation.submitted
  exact ⟨type, named, catalogued_storedAs (.inl rfl) submitted.id submitted.valid typed⟩

/-- The lookup of an update finds the item under its type only, so the type stays. -/
theorem catalogued_update (update : Update engine config caller body moment store) (plain : TypesAreTexts body)
    {type : ItemType} (before : Catalogued update.id type update.stored) (valid : ValidIds store) :
    update.submission.itemType = type.typeValue ∧ Typed type update.item ∧
      Catalogued update.id type (update.stored.mergeDeep (config.wire.written update.item.toJson)) := by
  obtain ⟨new, named, typed⟩ := typed_of_request update.valid update.parsed plain
  obtain ⟨-, submitted⟩ := update.submitted
  have found := type_of_updateHit valid update.present update.found
  rw [type_of_update, named] at found
  obtain rfl := before.mem_iff.mp found
  exact ⟨named, typed, catalogued_storedAs (.inr ⟨_, rfl⟩) submitted.id submitted.valid typed⟩

/-- The body matches the API description, which the router checks first. -/
def RequestAdmitted (conforms : TextRule → String → Bool) (_ : Server.State) : Request → Prop
  | .item request => request.Admitted conforms
  | _ => True

theorem admitted_of_onlyReads {conforms : TextRule → String → Bool} {state : Server.State} {request : Request}
    (reads : request.OnlyReads) : RequestAdmitted conforms state request := by
  cases request with
  | item request =>
      cases request with
      | get caller id => trivial
      | post caller body moment => exact absurd reads not_false
      | put caller body moment => exact absurd reads not_false
      | delete caller id => trivial
  | _ => trivial

theorem typesAreTexts_of_admitted {conforms : TextRule → String → Bool} (admitted : admitsBody conforms body = true) :
    TypesAreTexts body :=
  fun _ _ hasBody stored => types_of_admitted admitted hasBody stored

theorem AllCatalogued.validIds (all : AllCatalogued store) : ValidIds store := by
  intro id document stored
  obtain ⟨type, catalogued⟩ := all id document stored
  exact ⟨catalogued.carries, catalogued.uuid⟩

theorem AllCatalogued.insert (all : AllCatalogued store) {id : String} {document : JsonObject}
    (catalogued : ∃ type, Catalogued id type document) : AllCatalogued (store.insert id document) := by
  exact forall_lookup_insert all catalogued

theorem AllCatalogued.erase (all : AllCatalogued store) (id : String) : AllCatalogued (store.erase id) := by
  exact forall_lookup_erase all id

/-- No document has changed its type. -/
def KeepsTypes (before after : Index) : Prop :=
  ∀ id document type, before.lookup id = some document → Catalogued id type document →
    ∃ updated, after.lookup id = some updated ∧ Catalogued id type updated

theorem ensures_catalogued_put (server : Server) {state : Server.State} (all : AllCatalogued state.store)
    (plain : TypesAreTexts body) :
    (Request.handler server.config (.item (.put caller body moment))).Ensures server.engine.backend state
      fun _ after => AllCatalogued after.store ∧ KeepsTypes state.store after.store := by
  have same : KeepsTypes state.store state.store := fun id document type stored catalogued => ⟨document, stored, catalogued⟩
  refine ensures_put (fun _ _ _ => ⟨all, same⟩) fun update _ => ?_
  obtain ⟨type, before⟩ := all _ _ update.present
  obtain ⟨-, -, after⟩ := catalogued_update update plain before all.validIds
  refine ⟨all.insert ⟨type, after⟩, fun id document other stored catalogued => ?_⟩
  by_cases here : id = update.id
  · subst here
    obtain rfl := Option.some.inj (update.present.symm.trans stored)
    obtain rfl := before.unique catalogued
    exact ⟨_, AList.lookup_insert _, after⟩
  · exact ⟨document, (AList.lookup_insert_ne here).trans stored, catalogued⟩

theorem ensures_allCatalogued (server : Server) (conforms : TextRule → String → Bool) (state : Server.State)
    (request : Request) (admitted : RequestAdmitted conforms state request) (all : AllCatalogued state.store) :
    (request.handler server.config).Ensures server.engine.backend state fun _ after => AllCatalogued after.store := by
  cases request using Request.byWrite with
  | reads request reads => exact (ensures_of_onlyReads reads state).imp fun _ after same => same.symm ▸ all
  | post caller body moment =>
      refine ensures_post (fun _ _ _ => all) fun creation _ => ?_
      obtain ⟨type, -, catalogued⟩ := catalogued_creation creation (typesAreTexts_of_admitted admitted)
      exact all.insert ⟨type, catalogued⟩
  | put caller body moment =>
      exact (ensures_catalogued_put server all (typesAreTexts_of_admitted admitted)).imp fun _ _ kept => kept.1
  | delete caller id => exact ensures_deleteRoute (fun _ _ _ => all) fun _ hit _ _ _ _ _ => all.erase hit.id

theorem allCatalogued_empty : AllCatalogued ∅ := by
  intro id document stored
  cases stored

theorem allCatalogued_of_run {server : Server} {conforms : TextRule → String → Bool}
    {requests : List (Request × (Nat → Choice))}
    (admitted : server.Meets (RequestAdmitted conforms) Server.initial requests) :
    AllCatalogued (server.serveAll Server.initial requests).store :=
  Server.serveAll_preserves (fun state => AllCatalogued state.store) (ensures_allCatalogued server conforms) admitted
    allCatalogued_empty

/-- In every run each document lies under the UUID it carries, which no other
document carries, its first type is its only catalogue type, and an update that
is served next changes the type of none. -/
theorem store_represents_items (server : Server) (conforms : TextRule → String → Bool)
    (requests : List (Request × (Nat → Choice)))
    (admitted : server.Meets (RequestAdmitted conforms) Server.initial requests) :
    let state := server.serveAll Server.initial requests
    (∀ id document, state.store.lookup id = some document → ∃ type, Catalogued id type document) ∧
      (∀ id document other another, state.store.lookup id = some document → state.store.lookup other = some another →
        document.get? "id" = another.get? "id" → id = other) ∧
      ∀ caller body moment choices, admitsBody conforms body = true →
        KeepsTypes state.store (server.serve state (.item (.put caller body moment)) choices).2.store := by
  intro state
  have all := allCatalogued_of_run admitted
  refine ⟨all, ?_, ?_⟩
  · intro id document other another stored otherStored same
    rw [(all.validIds id document stored).1, (all.validIds other another otherStored).1] at same
    exact Json.str.inj (Option.some.inj same)
  · intro caller body moment choices accepted
    have ensured : (Request.handler server.config (.item (.put caller body moment))).Ensures server.engine.backend
        state fun _ after => AllCatalogued after.store ∧ KeepsTypes state.store after.store :=
      ensures_catalogued_put server all (typesAreTexts_of_admitted accepted)
    exact (Task.ensures_iff_run.mp ensured choices).2

def hasText (key text : String) (document : JsonObject) : Bool :=
  match document.get? key with
  | some (.str stored) => stored == text
  | _ => false

theorem hasText_iff {key text : String} {document : JsonObject} :
    hasText key text document = true ↔ document.get? key = some (.str text) := by
  simp only [hasText]
  split
  · rename_i stored found
    rw [found, beq_iff_eq, Option.some.injEq, Json.str.injEq]
  · rename_i other
    simp only [Bool.false_eq_true, false_iff]
    exact other text

def provider (sub : String) : Caller where
  token := some "token"
  user := some ⟨[("sub", .str sub), ("realm_access", .obj [("roles", .arr [.str "provider"])])]⟩

def modelId : String := "4d5e6f70-cccc-4ddd-8eee-234567890abc"

/-- A body with every field that the API description asks of an AI model. -/
def modelBody (name : String) : JsonObject :=
  ⟨[("id", .str modelId), ("type", .arr [.str "adex:AiModel"]), ("name", .str name), ("label", .str name),
    ("shortDescription", .str "a model"), ("description", .str "a model"), ("tags", .arr [.str "crops"]),
    ("accessPolicy", .str "OPEN"), ("organizationType", .str "Public"),
    ("organizationId", .str "5e6f7081-dddd-4eee-8fff-34567890abcd"), ("modelType", .str "tree"),
    ("fileFormat", .str "bin"), ("industry", .str "crops"), ("license", .str "MIT"), ("fileSize", .str "15MB")]⟩

def withModel : Server.State :=
  asciiServer.serveAll Server.initial
    [(.item (.post (provider "first") (some (modelBody "wheat")) someMoment), fun _ => .plain)]

theorem admitted_modelBody : admitsBody (fun _ _ => true) (some (modelBody "wheat")) = true := by decide +kernel

theorem keys_withModel : withModel.store.keys = [modelId] := by decide +kernel

theorem id_withModel {id : String} {document : JsonObject} (stored : withModel.store.lookup id = some document) :
    id = modelId := by
  have here : id ∈ withModel.store.keys := AList.lookup_isSome.mp (Option.isSome_iff_exists.mpr ⟨_, stored⟩)
  rwa [keys_withModel, List.mem_singleton] at here

theorem catalogued_withModel : AllCatalogued withModel.store :=
  @allCatalogued_of_run asciiServer (fun _ _ => true) _ ⟨admitted_modelBody, trivial⟩

/-- A model is created, updated, deleted and created again. -/
def modelRequests : List (Request × (Nat → Choice)) :=
  [(.item (.post (provider "first") (some (modelBody "wheat")) someMoment), fun _ => .plain),
    (.item (.put (provider "first") (some (modelBody "maize")) someMoment), fun _ => .plain),
    (.item (.delete (provider "first") (some modelId)), fun _ => .plain),
    (.item (.post (provider "second") (some (modelBody "wheat")) someMoment), fun _ => .plain)]

def modelName (state : Server.State) : Option String :=
  (state.store.lookup modelId).bind fun document => document.getString "name"

theorem meets_modelRequests : asciiServer.Meets (RequestAdmitted fun _ _ => true) Server.initial modelRequests := by
  refine ⟨admitted_modelBody, ?_, trivial, admitted_modelBody, trivial⟩
  change admitsBody (fun _ _ => true) (some (modelBody "maize")) = true
  decide +kernel

theorem store_represents_items_model :
    [1, 2, 3, 4].map (fun served => modelName (asciiServer.serveAll Server.initial (modelRequests.take served))) =
      [some "wheat", some "maize", none, some "wheat"] ∧
    AllCatalogued (asciiServer.serveAll Server.initial modelRequests).store ∧
    ∀ caller body moment choices, admitsBody (fun _ _ => true) body = true →
      KeepsTypes (asciiServer.serveAll Server.initial modelRequests).store
        (asciiServer.serve (asciiServer.serveAll Server.initial modelRequests) (.item (.put caller body moment))
          choices).2.store := by
  have run := store_represents_items asciiServer (fun _ _ => true) modelRequests meets_modelRequests
  exact ⟨by decide +kernel, run.1, run.2.2⟩

/-- A model that names a type of its own beside. -/
def mixedModel : JsonObject := (modelBody "wheat").put "type" (.arr [.str "adex:AiModel", .str "custom"])

theorem statuses_mixedModel :
    (asciiServer.serve Server.initial (.item (.post (provider "first") (some mixedModel) someMoment))
      fun _ => .plain).1.map Outcome.status = [201] := by
  decide +kernel

theorem type_dispatch_agrees_mixed :
    ∃ (document : JsonObject) (itemType : String) (validation : Future JsonObject) (request : JsonObject) (item : Item)
      (type : ItemType),
      createOrUpdate asciiServer.config (provider "first") .post (some mixedModel) someMoment =
        validation.bind (onValidated asciiServer.config .post) ∧
      validation.Ends (.success request) ∧ parse request = .ok item ∧
      Dispatched asciiServer.config (provider "first") .post someMoment mixedModel document itemType request item type := by
  have told := statuses_mixedModel
  have ends : (createOrUpdate asciiServer.config (provider "first") .post (some mixedModel) someMoment).Ends
      (asciiServer.serve Server.initial (.item (.post (provider "first") (some mixedModel) someMoment))
        fun _ => .plain).1 := Task.ends_run _ _ _
  have served : ∀ outcomes, outcomes.map Outcome.status = [201] → ¬Refuses outcomes := by
    intro outcomes statuses refuses
    obtain ⟨outcome, member, same⟩ := List.mem_map.mp (statuses ▸ List.mem_singleton_self 201)
    exact absurd (refuses outcome member) (by rw [same]; decide)
  rcases type_dispatch_agrees asciiServer.config (provider "first") .post (some mixedModel) someMoment with
    ⟨outcomes, done, refuses⟩ | ⟨given, document, itemType, validation, hasBody, -, -, goes, dispatched⟩
  · rw [done] at ends
    exact absurd (ends ▸ refuses) (served _ told)
  · obtain rfl := Option.some.inj hasBody
    rw [goes] at ends
    obtain ⟨settled, validated, continued⟩ := Task.ends_bind.mp ends
    rcases onValidated_cases asciiServer.config .post settled with
      ⟨outcomes, done, refuses⟩ | ⟨request, item, handler, rfl, parsed, -, -⟩
    · rw [done] at continued
      exact absurd (continued ▸ refuses) (served _ told)
    · obtain ⟨type, agrees⟩ := dispatched request item validated parsed
      exact ⟨document, itemType, validation, request, item, type, goes, validated, parsed, agrees⟩

end Tgdex.Properties
