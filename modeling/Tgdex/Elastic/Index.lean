import Mathlib.Data.List.AList
import Tgdex.Elastic.Mapping

namespace Tgdex.Elastic

open Tgdex.Data

/-! # The index and what its queries match -/

/-- A text analyzer.  The laws say how the three access policies are analyzed. -/
structure Analyzer where
  tokens : String → List String
  tokens_open : tokens "OPEN" = ["open"]
  tokens_restricted : tokens "RESTRICTED" = ["restricted"]
  tokens_private : tokens "PRIVATE" = ["private"]

/-- A colon or an underscore does not end a word. -/
def isWordChar (char : Char) : Bool :=
  char.isAlphanum || char == '_' || char == ':'

def wordsFrom (word : List Char) : List Char → List String
  | [] => if word.isEmpty then [] else [String.ofList word]
  | char :: rest =>
      if isWordChar char then wordsFrom (word ++ [char.toLower]) rest
      else if word.isEmpty then wordsFrom [] rest
      else String.ofList word :: wordsFrom [] rest

/-- The standard analyzer as it is on ASCII text without inner full stops and
apostrophes: lower-cased words. -/
def asciiAnalyzer : Analyzer where
  tokens text := wordsFrom [] text.toList
  tokens_open := by decide
  tokens_restricted := by decide
  tokens_private := by decide

/-- What is left open about the search engine: the analyzer, the conditions
that no lemma depends on, which documents the mapping accepts, and which part
of a source an include list selects. -/
structure Engine where
  analyzer : Analyzer
  otherwise : Leaf → JsonObject → Bool
  accepts : JsonObject → Bool
  selects : List String → JsonObject → JsonObject

def asciiEngine : Engine := ⟨asciiAnalyzer, fun _ _ => false, fun _ => true, fun _ source => source⟩

namespace Engine

variable (engine : Engine) (document : JsonObject)

/-- The terms a document is found under in a field, or `none` for a field whose
queries are not interpreted. -/
def indexedTerms (field : String) : Option (List String) :=
  match catMapping field with
  | none => some []
  | some ⟨path, .text⟩ => some ((fieldTexts document path).flatMap engine.analyzer.tokens)
  | some ⟨path, .keyword none⟩ => some (fieldTexts document path)
  | some ⟨path, .keyword (some ignoreAbove)⟩ =>
      some ((fieldTexts document path).filter fun text => utf16Length text ≤ ignoreAbove)
  | some ⟨_, .special⟩ => none

def queryTerms (field query : String) : List String :=
  match catMapping field with
  | some ⟨_, .text⟩ => engine.analyzer.tokens query
  | _ => [query]

def leafHolds : Leaf → Bool
  | .term field value =>
      match engine.indexedTerms document field with
      | some terms => terms.contains value
      | none => engine.otherwise (.term field value) document
  | .match_ field query none none =>
      match engine.indexedTerms document field with
      | some terms => (engine.queryTerms field query).any terms.contains
      | none => engine.otherwise (.match_ field query none none) document
  | leaf => engine.otherwise leaf document

def matchesQuery (query : Query) : Bool := query.holds (engine.leafHolds document)

end Engine

abbrev Index := AList (fun _ : String => JsonObject)

structure Hit where
  id : String
  source : JsonObject
deriving Inhabited

/-- The stored documents that a query matches; no query matches all of them. -/
def Engine.hits (engine : Engine) (query : Option Query) (index : Index) : List Hit :=
  (index.entries.filter fun entry => query.all fun query => engine.matchesQuery entry.2 query).map
    fun entry => ⟨entry.1, entry.2⟩

theorem Engine.mem_hits {engine : Engine} {query : Option Query} {index : Index} {hit : Hit} :
    hit ∈ engine.hits query index ↔
      index.lookup hit.id = some hit.source ∧
        ∀ asked, query = some asked → engine.matchesQuery hit.source asked = true := by
  have stored : index.lookup hit.id = some hit.source ↔ Sigma.mk hit.id hit.source ∈ index.entries := by
    rw [← Option.mem_def, AList.mem_lookup_iff]
  rw [stored]
  obtain ⟨id, source⟩ := hit
  simp only [hits, List.mem_map, List.mem_filter, Hit.mk.injEq]
  refine ⟨?_, ?_⟩
  · intro shown
    obtain ⟨⟨key, value⟩, ⟨member, matched⟩, rfl, rfl⟩ := shown
    refine ⟨member, fun asked given => ?_⟩
    subst given
    simpa using matched
  · intro shown
    obtain ⟨member, matched⟩ := shown
    refine ⟨⟨id, source⟩, ⟨member, ?_⟩, rfl, rfl⟩
    cases query with
    | none => rfl
    | some asked => simpa using matched asked rfl

structure TermsAggregation where
  field : String
  size : Option Int

structure SearchRequest where
  query : Option Query
  aggregations : List (String × TermsAggregation)
  size : Int
  from_ : Option Int
  includes : Option (List String)
  sort : List (String × String)

/-- The `options` argument of `search`, as far as the services use it. -/
inductive Options where
  | sourceOnly
  | aggregationList
  | countAggregationOnly
deriving Repr, DecidableEq

inductive Call where
  | singleSearch (query : Query)
  | search (request : SearchRequest) (options : Options)
  | bulkIndex (id : Option String) (document : JsonObject)
  | exists_ (id : String)
  | update (id : String) (partialDocument : JsonObject)
  | delete (id : String)

structure SearchAnswer where
  total : Nat
  hits : List Hit
  aggregations : Option JsonObject
deriving Inhabited

/-- What a call that does not fail is answered with: for a bulk request whether
it reports errors, for `exists` and `delete` whether there was a document. -/
abbrev Answer : Call → Type
  | .singleSearch _ | .search _ _ => SearchAnswer
  | .bulkIndex _ _ | .exists_ _ | .delete _ => Bool
  | .update _ _ => Unit

abbrev Reply (call : Call) : Type := Except String (Answer call)

structure Ranking where
  order : List Hit → List Hit
  perm : ∀ hits, (order hits).Perm hits

def Ranking.asStored : Ranking := ⟨id, fun _ => .refl _⟩

/-- How the engine behaves on one call.  A call that fails changes nothing.
Aggregations are computed from the documents that the query matches. -/
inductive Choice where
  | fails (reason : String)
  | answers (ranking : Ranking) (aggregate : List Hit → Option JsonObject) (generatedId : String)

def Choice.plain : Choice := .answers .asStored (fun _ => none) ""

instance : Nonempty Choice := ⟨.plain⟩

def trackTotalHitsUpTo : Nat := 10000

def Engine.answer (engine : Engine) (query : Option Query) (page : List Hit → List Hit)
    (ranking : Ranking) (aggregate : List Hit → Option JsonObject) (index : Index) : SearchAnswer :=
  let hits := ranking.order (engine.hits query index)
  ⟨min hits.length trackTotalHitsUpTo, page hits, aggregate (engine.hits query index)⟩

def SearchRequest.page (request : SearchRequest) (engine : Engine) (hits : List Hit) : List Hit :=
  ((hits.drop (request.from_.getD 0).toNat).take request.size.toNat).map fun hit =>
    match request.includes with
    | some fields => { hit with source := engine.selects fields hit.source }
    | none => hit

/-- One atomic call.  A bulk request replaces a document with the given id;
without an id it creates a document under a new one. -/
def Engine.execute (engine : Engine) : (call : Call) → Choice → Index → Reply call × Index
  | _, .fails reason, index => (.error reason, index)
  | .singleSearch query, .answers ranking aggregate _, index =>
      (.ok (engine.answer (some query) (List.take 1) ranking aggregate index), index)
  | .search request _, .answers ranking aggregate _, index =>
      (.ok (engine.answer request.query (request.page engine) ranking aggregate index), index)
  | .bulkIndex (some id) document, .answers _ _ _, index =>
      if engine.accepts document then (.ok false, index.insert id document) else (.ok true, index)
  | .bulkIndex none document, .answers _ _ generatedId, index =>
      if engine.accepts document && generatedId ∉ index then (.ok false, index.insert generatedId document)
      else (.ok true, index)
  | .exists_ id, .answers _ _ _, index => (.ok (decide (id ∈ index)), index)
  | .update id partialDocument, .answers _ _ _, index =>
      match index.lookup id with
      | none => (.error "document missing", index)
      | some stored =>
          let merged := stored.mergeDeep partialDocument
          if engine.accepts merged then (.ok (), index.insert id merged)
          else (.error "failed to parse document", index)
  | .delete id, .answers _ _ _, index =>
      if id ∈ index then (.ok true, index.erase id) else (.ok false, index)

inductive Effect (index : Index) : Call → Index → Prop
  | unchanged {call : Call} : Effect index call index
  | indexed {id : String} {document : JsonObject} :
      Effect index (.bulkIndex (some id) document) (index.insert id document)
  | created {id : String} {document : JsonObject} (fresh : id ∉ index) :
      Effect index (.bulkIndex none document) (index.insert id document)
  | updated {id : String} {stored partialDocument : JsonObject} (present : index.lookup id = some stored) :
      Effect index (.update id partialDocument) (index.insert id (stored.mergeDeep partialDocument))
  | deleted {id : String} (present : id ∈ index) : Effect index (.delete id) (index.erase id)

theorem Engine.effect_of_execute (engine : Engine) (call : Call) (choice : Choice) (index : Index) :
    Effect index call (engine.execute call choice index).2 := by
  cases choice with
  | fails reason => cases call <;> exact .unchanged
  | answers ranking aggregate generatedId =>
      cases call with
      | singleSearch query => exact .unchanged
      | search request options => exact .unchanged
      | exists_ id => exact .unchanged
      | bulkIndex id document =>
          cases id with
          | some id =>
              simp only [execute]
              split
              · exact .indexed
              · exact .unchanged
          | none =>
              simp only [execute]
              split
              · rename_i accepted
                simp only [Bool.and_eq_true, decide_eq_true_eq] at accepted
                exact .created accepted.2
              · exact .unchanged
      | update id partialDocument =>
          simp only [execute]
          split
          · exact .unchanged
          · rename_i stored present
            split
            · exact .updated present
            · exact .unchanged
      | delete id =>
          simp only [execute]
          split
          · rename_i present
            exact .deleted present
          · exact .unchanged

end Tgdex.Elastic
