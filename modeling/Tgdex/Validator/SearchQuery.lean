import Tgdex.Data.Pattern
import Tgdex.Effects.Promise
import Tgdex.Query.Decoder

namespace Tgdex.Validator

open Tgdex.Data Tgdex.Java Tgdex.Effects Tgdex.Query

/-! # The search validation of ValidatorServiceImpl

A promise is failed with the text of an error response.  The schema validators
settle their futures at once, so that every handler runs when it is registered,
in the thread of the call, and what it throws reaches the caller. -/

structure SchemaValidators where
  term : JsonObject → Except String Unit
  range : JsonObject → Except String Unit
  temporal : JsonObject → Except String Unit
  textSearch : JsonObject → Except String Unit
  filterSearch : JsonObject → Except String Unit

/-- What the JVM makes of a number that is not written as an integer, and of an
ISO date-time with an offset. -/
structure Jvm where
  truncated : String → Int
  parseDateTime : List Char → Option Int

abbrev Validation (Value Result : Type) : Type := Procedure Throwable JsonObject Value Result

def fail {Value : Type} (message : JsonObject) : Validation Value Unit :=
  Procedure.settle .illegalState (.failed message)

def complete {Value : Type} (value : Value) : Validation Value Unit :=
  Procedure.settle .illegalState (.completed value)

def attempt {Value Result : Type} (attempted : Except Throwable Result) : Validation Value Result :=
  Procedure.attempt attempted

def contains (text part : String) : Bool := occursIn part.toList text.toList

def typeInvalidPropertyValue : String := "urn:dx:cat:InvalidPropertyValue"

def failedResponse (type detail : String) : JsonObject :=
  ⟨[("title", .str "failed"), ("type", .str type), ("detail", .str detail)]⟩

def textSearchDetail (errorMsg : String) : String :=
  if contains errorMsg "is too long" then "The max string(q) size supported is 100"
  else if contains errorMsg "pattern" then "Invalid 'q' format"
  else if contains errorMsg "has missing required properties" then "Mandatory field(s) not provided; " ++ errorMsg
  else errorMsg

def filterSearchDetail (errorMsg : String) : String :=
  if contains errorMsg "is too long" then "The max number of 'filter' should be 10"
  else if contains errorMsg "pattern" then "Invalid format in 'filter'"
  else if contains errorMsg "has missing required properties" then "Mandatory field(s) not provided"
  else errorMsg

/-- Both result handlers: the promise is failed, but never completed. -/
def onFailure (validated : Except String Unit) (response : String → JsonObject) : Validation JsonObject Unit :=
  match validated with
  | .ok () => pure ()
  | .error errorMsg => fail (response errorMsg)

section

variable (validators : SchemaValidators) (jvm : Jvm)

def validateTextSearchQuery (request : JsonObject) : Validation JsonObject Unit :=
  onFailure (validators.textSearch request) fun errorMsg =>
    failedResponse typeInvalidPropertyValue (textSearchDetail errorMsg)

def validateFilterSearchQuery (request : JsonObject) : Validation JsonObject Unit :=
  onFailure (validators.filterSearch request) fun errorMsg =>
    failedResponse "urn:dx:cat:BadFilter" (filterSearchDetail errorMsg)

/-- `((Number) value).intValue()`, unboxed. -/
def intValue : Json → Except Throwable Int
  | .num literal =>
      match literal.toInt? with
      | some value => .ok (toInt32 value)
      | none => .ok (jvm.truncated literal)
  | .null => .error .nullPointer
  | _ => .error .classCast

/-- `replaceAll("([+-]\\d{2})(\\d{2})$", "$1:$2")`; the dollar also stands before a last line terminator. -/
def withColon (text : List Char) : List Char :=
  let ending := match text.reverse with
    | '\n' :: '\r' :: _ => 2
    | char :: _ => if isLineTerminator char then 1 else 0
    | [] => 0
  match text.reverse.drop ending with
  | m :: n :: h :: i :: sign :: front =>
      if (sign = '+' ∨ sign = '-') ∧ [m, n, h, i].all Char.isDigit then
        front.reverse ++ [sign, i, h, ':', n, m] ++ (text.reverse.take ending).reverse
      else text
  | _ => text

def isValidDateTimeOrder (start end_ : String) : Bool :=
  match jvm.parseDateTime (withColon start.toList), jvm.parseDateTime (withColon end_.toList) with
  | some startTime, some endTime => startTime < endTime
  | _, _ => false

def isValidRangeOrder (start end_ : Int) : Bool := start ≤ end_

def itemAt (values : List Json) (index : Nat) : Except Throwable Json :=
  match values[index]? with
  | some value => .ok value
  | none => .error .indexOutOfBounds

def temporalOrder (values : List Json) : Except Throwable Bool := do
  let start ← toText (← itemAt values 0)
  let end_ ← toText (← itemAt values 1)
  return isValidDateTimeOrder jvm start end_

def rangeOrder (values : List Json) : Except Throwable Bool := do
  let start ← intValue jvm (← itemAt values 0)
  let end_ ← intValue jvm (← itemAt values 1)
  return isValidRangeOrder start end_

/-- Why the values of a criterion are refused, if they are. -/
def valuesRefused (criterion : JsonObject) : Except Throwable (Option String) := do
  let searchType ← nonNull (criterion.getString "searchType")
  if searchType = "term" then return none
  else if searchType = "betweenTemporal" then
    let values ← nonNull (← criterion.getJsonArray "values")
    if values.length ≠ 2 then return some "'betweenTemporal' must contain exactly two values"
    else if ← temporalOrder jvm values then return none
    else return some "'endTime' must be after 'time'"
  else if searchType = "betweenRange" then
    let values ← nonNull (← criterion.getJsonArray "values")
    if values.length ≠ 2 then return some "'betweenRange' must contain exactly two values"
    else if ← rangeOrder jvm values then return none
    else return some "'endRange' must be after 'range'"
  else if isBefore searchType || isAfter searchType then
    let values ← nonNull (← criterion.getJsonArray "values")
    if values.length ≠ 1 then return some ("'" ++ searchType ++ "' must contain exactly one value")
    else return none
  else return some ("Unsupported searchType: " ++ searchType)

def objectOf : Json → Except Throwable JsonObject
  | .obj fields => .ok ⟨fields⟩
  | .null => .error .nullPointer
  | _ => .error .classCast

def isRange (type : String) : Bool := type = "betweenRange" || type = "beforeRange" || type = "afterRange"

def isTemporal (type : String) : Bool := type = "betweenTemporal" || type = "beforeTemporal" || type = "afterTemporal"

/-- The validation of a criterion against the schema for its type; other types have none. -/
def schemaValidation (searchType : String) (criterion : JsonObject) : Option (Except String Unit) :=
  if searchType = "term" then some (validators.term criterion)
  else if isRange searchType then some (validators.range criterion)
  else if isTemporal searchType then some (validators.temporal criterion)
  else none

/-- One turn of the loop of validateSearchCriteria.  It goes on after the
promise is failed: the switch throws on a null search type, an unknown type
fails the promise once more, and then `recover` is called on a null future. -/
def criterionValidation (index : Nat) (element : Json) : Validation JsonObject (Except String Unit) := do
  let criterion ← attempt (objectOf element)
  let searchType := criterion.getString "searchType"
  if searchType.all isBlank then
    fail (failedResponse typeInvalidPropertyValue
      ("'searchType' is missing or empty in searchCriteria at index " ++ toString index))
  let searchType ← attempt (nonNull searchType)
  match schemaValidation validators searchType criterion with
  | some validation => return validation
  | none =>
      fail (failedResponse typeInvalidPropertyValue ("Invalid searchType: " ++ searchType))
      throw .nullPointer

def criteriaValidations : Nat → List Json → Validation JsonObject (List (Except String Unit))
  | _, [] => return []
  | index, element :: rest => do
      let first ← criterionValidation validators index element
      let others ← criteriaValidations (index + 1) rest
      return first :: others

/-- handleSearchCriteriaResult, with a schema validation that has succeeded. -/
def handleSearchCriteriaResult : List Json → Validation JsonObject Unit
  | [] => complete ⟨[("title", .str "Success")]⟩
  | element :: rest => do
      let criterion ← attempt (objectOf element)
      match ← attempt (valuesRefused jvm criterion) with
      | none => handleSearchCriteriaResult rest
      | some message =>
          fail ⟨[("type", .str typeInvalidPropertyValue), ("title", .str "Invalid Property Values"),
            ("detail", .str message)]⟩

/-- The composite of the validations has a handler for success only. -/
def validateSearchCriteria (request : JsonObject) : Validation JsonObject Unit := do
  let criteria ← attempt (request.getJsonArray "searchCriteria")
  let criteria ← attempt (nonNull criteria)
  let validations ← criteriaValidations validators 0 criteria
  if validations.all fun validation => validation.toBool then handleSearchCriteriaResult jvm criteria

def getInteger (request : JsonObject) (key : String) (default_ : Int) : Except Throwable Int :=
  match request.get? key with
  | none => .ok default_
  | some value => intValue jvm value

def maxResultWindow : Int := 10000

def windowResponse : JsonObject :=
  failedResponse typeInvalidPropertyValue
    ("The limit + offset should be between 1 to " ++ toString maxResultWindow)

/-- `Future.all`: it fails with the first failure, and otherwise ends when all have been completed. -/
def firstFailure : List (Promise JsonObject JsonObject) → Option JsonObject
  | [] => none
  | .failed message :: _ => some message
  | _ :: rest => firstFailure rest

/-- The validation runs when the search type contains its name. -/
def validationIf (named : Bool) (validation : Validation JsonObject Unit) :
    Validation Unit (List (Promise JsonObject JsonObject)) :=
  if named then do return [← validation.onNewPromise] else return []

def checkWindow (request : JsonObject) : Validation Unit Unit :=
  if request.containsKey "limit" || request.containsKey "offset" then do
    let limit ← attempt (getInteger jvm request "limit" 0)
    let offset ← attempt (getInteger jvm request "offset" 0)
    let totalSize := toInt32 (limit + offset)
    if totalSize ≤ 0 || totalSize > maxResultWindow then fail windowResponse
  else return ()

def validateSearchQuery (request : JsonObject) : Validation Unit Unit := do
  let searchType ← attempt (nonNull (request.getStringOr "searchType" ""))
  let text ← validationIf (contains searchType "textSearch_") (validateTextSearchQuery validators request)
  let criteria ← validationIf (contains searchType "searchCriteria_") (validateSearchCriteria validators jvm request)
  let filter ← validationIf (contains searchType "responseFilter_") (validateFilterSearchQuery validators request)
  if let some message := firstFailure (text ++ criteria ++ filter) then fail message
  checkWindow jvm request
  complete ()

end

end Tgdex.Validator
