import Tgdex.Properties.ItemTypes

namespace Tgdex.Properties

open Tgdex.Data Tgdex.Java Tgdex.Effects Tgdex.Elastic Tgdex.Query Tgdex.Items

/-! # One item of a name

Creates look their name up and updates do not mind whose name they find. -/

variable {engine : Engine} {config : Config} {caller : Caller} {method : Method} {body : Option JsonObject}
  {moment : Moment} {store : Index}

def NamesUnique (store : Index) : Prop :=
  ∀ id document other another type, store.lookup id = some document → store.lookup other = some another →
    Catalogued id type document → Catalogued other type another →
    document.get? "name" = another.get? "name" → id = other

structure Names (given : JsonObject) (type : ItemType) (name : String) : Prop where
  typed : ∃ rest, given.get? "type" = some (.arr (.str type.typeValue :: rest))
  named : given.getString "name" = some name

/-- An item of the type is stored with the name already, where an empty name is
stored as none, and it is not the item of this id. -/
def NameTaken (store : Index) (type : ItemType) (name : String) (id : Option String) : Prop :=
  ∃ other document, some other ≠ id ∧ store.lookup other = some document ∧ Catalogued other type document ∧
    document.get? "name" = (notEmpty (some name)).map .str

def nameLookup (type : ItemType) (name : String) : Elastic.Query :=
  .bool [.leaf (.match_ "type" type.typeValue none none), .leaf (.match_ "name.keyword" name none none)] [] [] [] none

/-- The type list of the document has the name of the type in one of its texts. -/
def MentionsType (type : ItemType) (document : JsonObject) : Prop :=
  ∃ types, (readSource document).get? "type" = some (.arr types) ∧ itemsMention type.typeValue types = true

/-- The name lookup of a create cannot miss the item that has the name. -/
def NoticesName (engine : Engine) (store : Index) (type : ItemType) (name : String) : Prop :=
  name ≠ "" ∧ utf16Length name ≤ 256 ∧
    (type = .apps ∨ ∀ hit ∈ engine.hits (some (nameLookup type name)) store, MentionsType type hit.source)

/-- A create whose name is taken notices it, and an update of an item does not
bring the name of another one.  An empty name in an update brings none. -/
def KeepsNames (server : Server) (conforms : TextRule → String → Bool) (state : Server.State) : Request → Prop
  | .item (.post _ body _) => admitsBody conforms body = true ∧
      ∀ given type name, body = some given → Names given type name →
        NameTaken state.store type name none → NoticesName server.engine state.store type name
  | .item (.put _ body moment) => admitsBody conforms body = true ∧
      ∀ given type name id document, body = some given → Names given type name →
        (addId given moment).getString "id" = some id → state.store.lookup id = some document →
        Catalogued id type document → name ≠ "" → ¬NameTaken state.store type name (some id)
  | _ => True

theorem keepsNames_admitted {server : Server} {conforms : TextRule → String → Bool} {state : Server.State}
    {request : Request} (keeps : KeepsNames server conforms state request) : RequestAdmitted conforms state request := by
  cases request using Request.byWrite with
  | reads request reads => exact admitted_of_onlyReads reads
  | post caller body moment => exact keeps.1
  | put caller body moment => exact keeps.1
  | delete caller id => trivial

theorem names_of_submission (submission : Submission config caller method body moment) {type : ItemType}
    {rest : List Json} (given : submission.given.get? "type" = some (.arr (.str type.typeValue :: rest))) :
    Names submission.given type submission.name :=
  ⟨⟨rest, given⟩, (JsonObject.getString_congr (get?_submitted (by decide))).symm.trans submission.named⟩

theorem name_of_request {submission : Submission config caller method body moment}
    {settled : Settled (ElasticsearchResponse × Statics)} {request : JsonObject} {item : Item}
    (success : submission.validated settled = .success request) (parsed : parse request = .ok item) :
    item.toJson.get? "name" = some (nullable (some submission.name)) := by
  obtain ⟨readers, known, read⟩ := class_of_parse parsed
  have same : request.get? "name" = submission.document.get? "name" := submission.get?_request success (by decide)
  rw [(toJson_text read (classes_read_text readers known "name" (by simp))).1, JsonObject.getString_congr same]
  exact congrArg (fun name => some (nullable name)) submission.named

theorem nameLookup_finds (words : ∀ type : ItemType, engine.analyzer.tokens type.typeValue ≠ []) {type : ItemType}
    {name id : String} {document : JsonObject} (stored : store.lookup id = some document)
    (catalogued : Catalogued id type document) (named : document.get? "name" = some (.str name))
    (short : utf16Length name ≤ 256) :
    (⟨id, document⟩ : Hit) ∈ engine.hits (some (nameLookup type name)) store := by
  refine Engine.mem_hits.mpr ⟨stored, fun asked same => ?_⟩
  obtain rfl := Option.some.inj same
  have typed : type.typeValue ∈ fieldTexts document ["type"] := catalogued.mem_iff.mpr rfl
  obtain ⟨word, more, tokens⟩ := List.exists_cons_of_ne_nil (words type)
  have word_ : word ∈ engine.analyzer.tokens type.typeValue := by
    rw [tokens]
    exact List.mem_cons_self
  rw [Engine.matchesQuery, nameLookup, BoolQuery.holds_must_iff]
  intro clause member
  simp only [List.mem_cons, List.not_mem_nil, or_false] at member
  rcases member with rfl | rfl
  · simp only [BoolQuery.holds_leaf, Engine.leafHolds, Engine.indexedTerms, Engine.queryTerms, catMapping_type,
      List.any_eq_true, List.contains_iff_mem, List.mem_flatMap]
    exact ⟨word, word_, _, typed, word_⟩
  · simp [BoolQuery.holds_leaf, Engine.leafHolds, Engine.indexedTerms, Engine.queryTerms, fieldTexts_of_text named, short]

theorem mentions_of_from {document : JsonObject} {item : Item} {type : ItemType}
    (read : from_ (readSource document) = .ok item) (mentions : MentionsType type document) :
    returnTypeContains item.toJson type.typeValue = .ok true := by
  obtain ⟨types, stored, found⟩ := mentions
  obtain ⟨readers, known, reads⟩ := class_of_from read
  have written := (toJson_type known reads (JsonObject.getJsonArray_eq_ok.mpr stored)).1
  simp only [returnTypeContains, JsonObject.getJsonArray_eq_ok.mpr written, bind_eq_ok, nonNull_eq_ok]
  exact ⟨_, rfl, types, rfl, congrArg Except.ok found⟩

/-- A create that notices a taken name does not get through. -/
theorem not_taken_of_creation (all : AllCatalogued store) (words : ∀ type : ItemType, engine.analyzer.tokens type.typeValue ≠ [])
    (creation : Creation engine config caller body moment store) {first : Option Hit} {statics : Statics}
    (answers : Answers (engine.hits (some creation.submission.nameQuery) store) first)
    (count : statics.totalHits =
      min (engine.hits (some creation.submission.nameQuery) store).length trackTotalHitsUpTo)
    (settled : creation.settled = .success (responseOf first, statics)) {type : ItemType}
    (named : creation.submission.itemType = type.typeValue)
    (notices : NameTaken store type creation.submission.name none →
      NoticesName engine store type creation.submission.name) :
    ¬NameTaken store type creation.submission.name none := by
  intro taken
  obtain ⟨visible, short, mentions⟩ := notices taken
  obtain ⟨other, document, -, stored, catalogued, same⟩ := taken
  rw [notEmpty_visible visible] at same
  have query : creation.submission.nameQuery = nameLookup type creation.submission.name := by
    rw [Submission.nameQuery, named]
    rfl
  have found := nameLookup_finds words stored catalogued same short
  rw [query] at count
  have counted : statics.totalHits ≠ 0 := fun none =>
    List.ne_nil_of_mem found (counted_zero.mp (count.symm.trans none))
  cases first with
  | none =>
      rw [query] at answers
      exact List.ne_nil_of_mem found answers
  | some hit =>
      have valid := (settle_success creation.valid).2
      rw [settled] at valid
      rcases nameLookupResult_hit hit statics with ⟨item, -, read, looked⟩ | ⟨empty, -⟩ | looked
      · rw [looked] at valid
        rcases validator_found creation.submission.validator valid with ⟨apps, none⟩ | ⟨uploadable, absent⟩
        · exact counted none
        · rcases mentions with apps | mentioned
          · exact uploadable (by rw [named, apps]; rfl)
          · rw [query] at answers
            rw [named, mentions_of_from read (mentioned hit answers)] at absent
            cases absent
      · obtain ⟨kind, listed⟩ := all _ _ (Engine.mem_hits.mp answers).1
        rw [read_nonempty listed] at empty
        cases empty
      · rw [looked] at valid
        exact absurd (validator_failure creation.submission.validator valid) (by decide)

/-- A document may be stored when its name is that of no other item of its type. -/
theorem namesUnique_insert (unique : NamesUnique store) {id : String} {type : ItemType} {document : JsonObject}
    (catalogued : Catalogued id type document)
    (apart : ∀ other another, other ≠ id → store.lookup other = some another → Catalogued other type another →
      document.get? "name" ≠ another.get? "name") : NamesUnique (store.insert id document) := by
  intro one oneDocument two twoDocument common oneStored twoStored oneTyped twoTyped same
  rw [lookup_insert] at oneStored twoStored
  by_cases oneHere : one = id
  · by_cases twoHere : two = id
    · rw [oneHere, twoHere]
    · rw [if_pos oneHere] at oneStored
      rw [if_neg twoHere] at twoStored
      obtain rfl := Option.some.inj oneStored
      obtain rfl := oneTyped.unique catalogued
      exact absurd same (apart two twoDocument twoHere twoStored twoTyped)
  · rw [if_neg oneHere] at oneStored
    by_cases twoHere : two = id
    · rw [if_pos twoHere] at twoStored
      obtain rfl := Option.some.inj twoStored
      obtain rfl := twoTyped.unique catalogued
      exact absurd same.symm (apart one oneDocument oneHere oneStored oneTyped)
    · rw [if_neg twoHere] at twoStored
      exact unique one oneDocument two twoDocument common oneStored twoStored oneTyped twoTyped same

theorem namesUnique_erase (unique : NamesUnique store) (id : String) : NamesUnique (store.erase id) := by
  intro one oneDocument two twoDocument type oneStored twoStored
  rw [lookup_erase] at oneStored twoStored
  split at oneStored
  · cases oneStored
  split at twoStored
  · cases twoStored
  exact unique one oneDocument two twoDocument type oneStored twoStored

theorem namesUnique_creation (creation : Creation engine config caller body moment store) (plain : TypesAreTexts body)
    (unique : NamesUnique store) {type : ItemType} (named : creation.submission.itemType = type.typeValue)
    (free : ¬NameTaken store type creation.submission.name none) : NamesUnique creation.after := by
  obtain ⟨typed, same, catalogued⟩ := catalogued_creation creation plain
  obtain rfl := typeValue_inj (same.symm.trans named)
  refine namesUnique_insert unique catalogued fun other another _ stored listed same => free ?_
  have written := config.wire.written_nullable (name_of_request creation.valid creation.parsed)
  exact ⟨other, another, by simp, stored, listed, same.symm.trans written⟩

theorem namesUnique_update (update : Update engine config caller body moment store) (plain : TypesAreTexts body)
    (all : AllCatalogued store) (unique : NamesUnique store)
    (free : ∀ given type name id document, body = some given → Names given type name →
      (addId given moment).getString "id" = some id → store.lookup id = some document →
      Catalogued id type document → name ≠ "" → ¬NameTaken store type name (some id)) : NamesUnique update.after := by
  obtain ⟨type, before⟩ := all _ _ update.present
  obtain ⟨named, -, after⟩ := catalogued_update update plain before all.validIds
  obtain ⟨same, rest, itemType, given, -⟩ := class_of_request update.valid update.parsed
  obtain rfl := typeValue_inj (itemType.symm.trans named)
  refine namesUnique_insert unique after fun other another differs stored listed same => ?_
  have sent := config.wire.written_nullable (name_of_request update.valid update.parsed)
  by_cases empty : update.submission.name = ""
  · rw [JsonObject.get?_mergeDeep, sent, empty] at same
    exact differs (unique _ _ _ _ _ update.present stored before listed same).symm
  · refine free _ _ _ _ _ update.submission.hasBody (names_of_submission update.submission given) update.submitted.1
      update.present before empty ⟨other, another, fun equal => differs (Option.some.inj equal), stored, listed, ?_⟩
    rw [notEmpty_visible empty] at sent ⊢
    exact same.symm.trans (JsonObject.get?_mergeDeep_scalar _ sent rfl)

theorem ensures_namesUnique (server : Server) (conforms : TextRule → String → Bool)
    (words : ∀ type : ItemType, server.engine.analyzer.tokens type.typeValue ≠ []) (state : Server.State)
    (request : Request) (keeps : KeepsNames server conforms state request) (all : AllCatalogued state.store)
    (unique : NamesUnique state.store) :
    (request.handler server.config).Ensures server.engine.backend state fun _ after => NamesUnique after.store := by
  cases request using Request.byWrite with
  | reads request reads => exact (ensures_of_onlyReads reads state).imp fun _ after same => same.symm ▸ unique
  | post caller body moment =>
      refine ensures_post_looked (fun _ _ _ => unique) fun creation first statics _ answers count settled => ?_
      obtain ⟨type, rest, named, given, -⟩ := class_of_request creation.valid creation.parsed
      exact namesUnique_creation creation (typesAreTexts_of_admitted keeps.1) unique named
        (not_taken_of_creation all words creation answers count settled named
          (keeps.2 _ _ _ creation.submission.hasBody (names_of_submission creation.submission given)))
  | put caller body moment =>
      exact ensures_put (fun _ _ _ => unique) fun update _ =>
        namesUnique_update update (typesAreTexts_of_admitted keeps.1) all unique keeps.2
  | delete caller id =>
      exact ensures_deleteRoute (fun _ _ _ => unique) fun _ hit _ _ _ _ _ => namesUnique_erase unique hit.id

/-- In a run whose creates notice every taken name, and whose updates bring no
name of another item, the items of a type have different names throughout. -/
theorem names_unique_of_run (server : Server) (conforms : TextRule → String → Bool)
    (words : ∀ type : ItemType, server.engine.analyzer.tokens type.typeValue ≠ [])
    (requests : List (Request × (Nat → Choice)))
    (keeps : server.Meets (KeepsNames server conforms) Server.initial requests) :
    let state := server.serveAll Server.initial requests
    AllCatalogued state.store ∧ NamesUnique state.store := by
  have kept : ∀ state request, KeepsNames server conforms state request →
      AllCatalogued state.store ∧ NamesUnique state.store →
      (request.handler server.config).Ensures server.engine.backend state
        fun _ after => AllCatalogued after.store ∧ NamesUnique after.store :=
    fun state request keeps now =>
      (ensures_allCatalogued server conforms state request (keepsNames_admitted keeps) now.1).and
        (ensures_namesUnique server conforms words state request keeps now.1 now.2)
  have start : NamesUnique Server.initial.store := by
    intro id document other another type stored
    cases stored
  exact Server.serveAll_preserves (fun state => AllCatalogued state.store ∧ NamesUnique state.store) kept keeps
    ⟨allCatalogued_empty, start⟩

def secondId : String := "6f708192-eeee-4fff-8aaa-4567890abcde"

def secondModel (name : String) : JsonObject := (modelBody name).put "id" (.str secondId)

def mentionsModel (document : JsonObject) : Bool :=
  match (readSource document).get? "type" with
  | some (.arr types) => itemsMention itemTypeAiModel types
  | _ => false

/-- The only model is found under its name and mentions its type. -/
theorem notices_wheat {type : ItemType} {name : String} (names : Names (secondModel "wheat") type name) :
    NoticesName asciiEngine withModel.store type name := by
  obtain ⟨rest, typed⟩ := names.typed
  have types : (secondModel "wheat").get? "type" = some (.arr [.str (ItemType.typeValue .aiModel)]) := rfl
  obtain ⟨same, -⟩ := List.cons.inj (Json.arr.inj (Option.some.inj (typed.symm.trans types)))
  obtain rfl := typeValue_inj (Json.str.inj same)
  have wheat : (secondModel "wheat").getString "name" = some "wheat" := rfl
  obtain rfl := Option.some.inj (wheat.symm.trans names.named)
  refine ⟨by decide, by decide, .inr fun hit found => ?_⟩
  have stored := (Engine.mem_hits.mp found).1
  have mentioned : (withModel.store.lookup modelId).any mentionsModel = true := by decide +kernel
  rw [← id_withModel stored, stored, Option.any_some, mentionsModel] at mentioned
  split at mentioned
  · rename_i listed shown
    exact ⟨listed, shown, mentioned⟩
  · cases mentioned

/-- A model, another one under its name, and an update that brings a free name. -/
def renamed : List (Request × (Nat → Choice)) :=
  [(.item (.post (provider "first") (some (modelBody "wheat")) someMoment), fun _ => .plain),
    (.item (.post (provider "second") (some (secondModel "wheat")) someMoment), fun _ => .plain),
    (.item (.put (provider "first") (some (modelBody "maize")) someMoment), fun _ => .plain)]

def withRefused : Server.State :=
  (asciiServer.serve withModel (.item (.post (provider "second") (some (secondModel "wheat")) someMoment))
    fun _ => .plain).2

theorem keys_withRefused : withRefused.store.keys = [modelId] := by decide +kernel

theorem wheat_taken : NameTaken withModel.store .aiModel "wheat" none := by
  have wheat : (withModel.store.lookup modelId).any (fun document =>
      decide (itemTypeAiModel ∈ fieldTexts document ["type"]) && hasText "name" "wheat" document) = true := by
    decide +kernel
  obtain ⟨document, stored, holds⟩ := (Option.any_eq_true _ _).mp wheat
  rw [Bool.and_eq_true, decide_eq_true_eq, hasText_iff] at holds
  obtain ⟨type, catalogued⟩ := catalogued_withModel modelId document stored
  obtain rfl : .aiModel = type := catalogued.mem_iff.mp holds.1
  exact ⟨modelId, document, by simp, stored, catalogued, holds.2⟩

theorem names_unique_of_run_model :
    NamesUnique (asciiServer.serveAll Server.initial renamed).store ∧
      NameTaken withModel.store .aiModel "wheat" none ∧
      (asciiServer.serve withModel (.item (.post (provider "second") (some (secondModel "wheat")) someMoment))
        fun _ => .plain).1.map Outcome.status = [400] ∧
      (asciiServer.serve withRefused (.item (.put (provider "first") (some (modelBody "maize")) someMoment))
        fun _ => .plain).1.map Outcome.status = [200] := by
  have words : ∀ type : ItemType, asciiServer.engine.analyzer.tokens type.typeValue ≠ [] := by
    intro type
    cases type <;> decide
  have empty : ∀ type name, ¬NameTaken Server.initial.store type name none := by
    intro type name taken
    obtain ⟨other, document, -, stored, -⟩ := taken
    cases stored
  have again : admitsBody (fun _ _ => true) (some (secondModel "wheat")) = true := by decide +kernel
  have maize : admitsBody (fun _ _ => true) (some (modelBody "maize")) = true := by decide +kernel
  have run := names_unique_of_run asciiServer (fun _ _ => true) words renamed
    ⟨⟨admitted_modelBody, ?_⟩, ⟨again, ?_⟩, ⟨maize, ?_⟩, trivial⟩
  · exact ⟨run.2, wheat_taken, by decide +kernel, by decide +kernel⟩
  · exact fun given type name _ _ taken => absurd taken (empty type name)
  · intro given type name hasBody names _
    obtain rfl := Option.some.inj hasBody
    exact notices_wheat names
  · intro given type name id document hasBody _ addressed _ _ _ taken
    obtain rfl := Option.some.inj hasBody
    have own : (addId (modelBody "maize") someMoment).getString "id" = some modelId := by decide +kernel
    obtain rfl := Option.some.inj (own.symm.trans addressed)
    obtain ⟨other, document, differs, stored, -⟩ := taken
    have here : other ∈ withRefused.store.keys := AList.lookup_isSome.mp (Option.isSome_iff_exists.mpr ⟨_, stored⟩)
    rw [keys_withRefused, List.mem_singleton] at here
    exact differs (congrArg some here)

def twoModels : List (Request × (Nat → Choice)) :=
  [(.item (.post (provider "first") (some (modelBody "wheat")) someMoment), fun _ => .plain),
    (.item (.post (provider "second") (some (secondModel "maize")) someMoment), fun _ => .plain),
    (.item (.put (provider "second") (some (secondModel "wheat")) someMoment), fun _ => .plain)]

theorem update_shares_name :
    asciiServer.Meets (RequestAdmitted fun _ _ => true) Server.initial twoModels ∧
      ¬NamesUnique (asciiServer.serveAll Server.initial twoModels).store := by
  have admitted : asciiServer.Meets (RequestAdmitted fun _ _ => true) Server.initial twoModels := by
    refine ⟨admitted_modelBody, ?_, ?_, trivial⟩
    · change admitsBody (fun _ _ => true) (some (secondModel "maize")) = true
      decide +kernel
    · change admitsBody (fun _ _ => true) (some (secondModel "wheat")) = true
      decide +kernel
  have all := allCatalogued_of_run admitted
  have wheat : ∀ id ∈ [modelId, secondId], ((asciiServer.serveAll Server.initial twoModels).store.lookup id).any
      (fun document => decide (itemTypeAiModel ∈ fieldTexts document ["type"]) && hasText "name" "wheat" document) = true := by
    decide +kernel
  have named : ∀ id ∈ [modelId, secondId], ∃ document,
      (asciiServer.serveAll Server.initial twoModels).store.lookup id = some document ∧
        Catalogued id .aiModel document ∧ document.get? "name" = some (.str "wheat") := by
    intro id member
    obtain ⟨document, stored, holds⟩ := (Option.any_eq_true _ _).mp (wheat id member)
    rw [Bool.and_eq_true, decide_eq_true_eq, hasText_iff] at holds
    obtain ⟨type, catalogued⟩ := all id document stored
    obtain rfl : .aiModel = type := catalogued.mem_iff.mp holds.1
    exact ⟨document, stored, catalogued, holds.2⟩
  refine ⟨admitted, fun unique => ?_⟩
  obtain ⟨document, stored, catalogued, name⟩ := named modelId (by simp)
  obtain ⟨another, otherStored, otherTyped, otherName⟩ := named secondId (by simp)
  exact absurd (unique _ _ _ _ _ stored otherStored catalogued otherTyped (name.trans otherName.symm)) (by decide)

end Tgdex.Properties
