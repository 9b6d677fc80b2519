import Tgdex.Data.Pattern
import Tgdex.Java

namespace Tgdex.Validator

open Tgdex.Data Tgdex.Java

/-! # The messages of Validator

Texts are lists of characters here.  A message about one field stands for each
error of a report.  They are written as one list and split apart again. -/

inductive LogLevel where
  | debug | info | warning | error | fatal | none
deriving Repr, DecidableEq

/-- What validate reads of a message: the pointer of its instance and its text. -/
structure ProcessingMessage where
  level : LogLevel
  pointer : Option (List Char)
  message : Option (List Char)
deriving Repr, DecidableEq

/-- `\s`. -/
def isSpace (char : Char) : Bool := char == ' ' || (0x09 ≤ char.toNat && char.toNat ≤ 0x0D)

def literal (text : String) : Piece := .literal text.toList

/-- `.*` and `.*?`. -/
def anything (shortest captured : Bool) : Piece := .run (fun char => !isLineTerminator char) 0 shortest captured

/-- `\d+`. -/
def digits (captured : Bool) : Piece := .run Char.isDigit 1 false captured

/-- `\["(.*?)"\]`. -/
def bracketed : List Piece := [literal "[\"", anything true true, literal "\"]"]

/-- `Field\s+"([^"]+)"`. -/
def namedField : List Piece :=
  [literal "Field", .run isSpace 1 false false, literal "\"", .run (fun char => char != '"') 1 false true, literal "\""]

/-- `Field\s+"name"\s*:\s*`. -/
def fieldPrefix (name : List Char) : List Piece :=
  [literal "Field", .run isSpace 1 false false, literal "\"", .literal name, literal "\"", .run isSpace 0 false false,
    literal ":", .run isSpace 0 false false]

/-- `instance value \("(.*?)"\).*?values: \[(.*?)\]`. -/
def enumValues : List Piece :=
  [literal "instance value (\"", anything true true, literal "\")", anything true false, literal "values: [",
    anything true true, literal "]"]

def typeMismatch : List Piece :=
  [anything false false, literal "instance type (", anything false false,
    literal ") does not match any allowed primitive type", anything false false]

/-- `instance type \((.*?)\).*allowed: \[(.*?)\]`. -/
def foundAndAllowed : List Piece :=
  [literal "instance type (", anything true true, literal ")", anything false false, literal "allowed: [",
    anything true true, literal "]"]

def tooLong : List Piece :=
  [anything false false, literal "is too long (length: ", digits false, literal ", maximum allowed: ", digits false,
    literal ")", anything false false]

def lengthAndMaximum : List Piece := [literal "length: ", digits true, literal ", maximum allowed: ", digits true]

def textContains (text : List Char) (part : String) : Bool := occursIn part.toList text

def isTrimmed (char : Char) : Bool := char.toNat ≤ 0x20

/-- `trim()`. -/
def trimmed (text : List Char) : List Char := (text.dropWhile isTrimmed).rdropWhile isTrimmed

/-- `replaceAll("^\\[|\\]$", "")`, of a text that does not end with a line terminator. -/
def withoutBrackets (text : List Char) : List Char :=
  let body := if text.head? = some '[' then text.drop 1 else text
  if body.getLast? = some ']' then body.dropLast else body

def startsField (text : List Char) : Bool := "Field".toList.isPrefixOf (text.dropWhile isSpace)

def unescapeQuotes : List Char → List Char
  | '\\' :: '"' :: rest => '"' :: unescapeQuotes rest
  | char :: rest => char :: unescapeQuotes rest
  | [] => []

def notBackslash (char : Char) : Bool := char != '\\'

def cleaned (part : List Char) : List Char := (unescapeQuotes (trimmed part)).filter notBackslash

/-- `String.format` with a field name that may be null. -/
def fieldMessage (fieldName : Option (List Char)) (text : List Char) : List Char :=
  "Field \"".toList ++ fieldName.getD "null".toList ++ "\": ".toList ++ text

def regexMessage (msg : List Char) : String :=
  if textContains msg "^[a-zA-Z0-9]{8}-[a-zA-Z0-9]{4}-[a-zA-Z0-9]{4}-[a-zA-Z0-9]{4}-[a-zA-Z0-9]{12}$" then
    "does not match pattern for UUID."
  else if textContains msg "^(RESTRICTED|OPEN|PRIVATE)$" then
    "must be one of: \"RESTRICTED\", \"OPEN\", or \"PRIVATE\"."
  else "does not match required format."

def requiredMessage (msg : List Char) : List Char :=
  match group bracketed 0 msg with
  | some names => "Field \"".toList ++ names ++ "\": is required.".toList
  | none => "A required field is missing.".toList

/-- `val.trim().replaceAll("^\"|\"$", "")` in quotes; the value is part of one line. -/
def enumValue (value : List Char) : List Char :=
  let value := trimmed value
  let value := if value.head? = some '"' then value.drop 1 else value
  let value := if value.getLast? = some '"' then value.dropLast else value
  '"' :: value ++ ['"']

def enumMessage (msg : List Char) : List Char :=
  match group enumValues 1 msg with
  | some rawEnumValues =>
      let valuesList := (split ',' (String.ofList rawEnumValues)).map fun value => enumValue value.toList
      "must be one of: ".toList ++ ", ".toList.intercalate valuesList ++ ".".toList
  | none => "contains an invalid value.".toList

def typeMessage (msg : List Char) : List Char :=
  match group foundAndAllowed 0 msg, group foundAndAllowed 1 msg with
  | some foundType, some allowed =>
      "expected type ".toList ++ allowed.filter (· ≠ '"') ++ ", but found ".toList ++ foundType ++ ".".toList
  | _, _ => "has a type mismatch.".toList

def lengthMessage (msg : List Char) : List Char :=
  match group lengthAndMaximum 0 msg, group lengthAndMaximum 1 msg with
  | some actualLength, some maxLength =>
      "exceeds maximum allowed length of ".toList ++ maxLength ++ " characters (provided: ".toList ++ actualLength ++
        ").".toList
  | _, _ => "exceeds maximum allowed length.".toList

def classified (fieldName : Option (List Char)) (msg : List Char) : List Char :=
  if textContains msg "ECMA 262 regex" then fieldMessage fieldName (regexMessage msg).toList
  else if textContains msg "missing required properties" then requiredMessage msg
  else if textContains msg "not found in enum" then fieldMessage fieldName (enumMessage msg)
  else if matchesAll typeMismatch msg then fieldMessage fieldName (typeMessage msg)
  else if matchesAll tooLong msg then fieldMessage fieldName (lengthMessage msg)
  else
    match fieldName with
    | some name => fieldMessage (some name) msg
    | none => "Field unknown: ".toList ++ msg

def parsedMessage (part : List Char) : List Char :=
  let msg := cleaned part
  match group namedField 0 msg with
  | some fieldName => classified (some fieldName) (trimmed (removeFirst (fieldPrefix fieldName) msg))
  | none => classified none msg

/-- No part but the first can be empty, so that split drops none. -/
def parseValidationMessages (rawMessage : List Char) : List (List Char) :=
  (splitWhere ',' startsField (withoutBrackets rawMessage)).map parsedMessage

def fieldOf (pointer errorMessage : List Char) : List Char :=
  if pointer ≠ [] then pointer.drop 1
  else if textContains errorMessage "missing required properties" then
    (group bracketed 0 errorMessage).getD "Unknown field".toList
  else "Unknown field".toList

def ProcessingMessage.field (msg : ProcessingMessage) : List Char :=
  fieldOf (msg.pointer.getD []) (msg.message.getD "Validation failed".toList)

def ProcessingMessage.userMessage (msg : ProcessingMessage) : List Char :=
  fieldMessage (some msg.field) (msg.message.getD "Validation failed".toList)

def errorsOf (report : List ProcessingMessage) : List ProcessingMessage :=
  report.filter fun msg => msg.level = .error

/-- No message has a level from error on. -/
def isSuccess (report : List ProcessingMessage) : Bool :=
  report.all fun msg => msg.level = .debug || msg.level = .info || msg.level = .warning

/-- `schemaErrorList.toString()`. -/
def listText (texts : List (List Char)) : List Char := '[' :: ", ".toList.intercalate texts ++ [']']

def errorMessages (report : List ProcessingMessage) : List (List Char) :=
  parseValidationMessages (listText ((errorsOf report).map ProcessingMessage.userMessage))

def validate (report : List ProcessingMessage) : Except JsonObject Unit :=
  if isSuccess report then .ok ()
  else
    let errorFields := ((errorsOf report).map ProcessingMessage.field).eraseDups
    .error ⟨[("detail", .str (String.ofList
        ("Schema validation failed for fields: ".toList ++ ", ".toList.intercalate errorFields))),
      ("results", .arr ((errorMessages report).map fun entry => .str (String.ofList entry)))]⟩

end Tgdex.Validator
