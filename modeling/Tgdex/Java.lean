import Mathlib.Data.List.DropRight
import Mathlib.Data.List.Forall2
import Tgdex.Data.Json

namespace Tgdex.Java

open Tgdex.Data

/-! # The Java and Vert.x library the server is written against -/

inductive Throwable where
  | nullPointer
  | classCast
  | indexOutOfBounds
  | noSuchElement
  | illegalState
  | illegalArgument (message : String)
  | runtime (message : String)
  | dxEs (message : String)
  | dxBadRequest (message : String)
  | dxUnauthorized (message : String)
  | dxForbidden (message : String)
  | dxInternalServerError (message : String)
  | serviceException (message : String)
  | replyTimeout
deriving Repr, BEq, DecidableEq

/-- The class name stands for a text that the JVM words itself. -/
def Throwable.getMessage : Throwable → String
  | .nullPointer => "NullPointerException"
  | .classCast => "ClassCastException"
  | .indexOutOfBounds => "IndexOutOfBoundsException"
  | .noSuchElement => "NoSuchElementException"
  | .illegalState => "IllegalStateException"
  | .replyTimeout => "ReplyException"
  | .illegalArgument message | .runtime message | .dxEs message | .dxBadRequest message
  | .dxUnauthorized message | .dxForbidden message | .dxInternalServerError message
  | .serviceException message => message

section

variable {α β : Type}

def nonNull : Option α → Except Throwable α
  | some value => .ok value
  | none => .error .nullPointer

@[simp] theorem nonNull_eq_ok {reference : Option α} {value : α} :
    nonNull reference = .ok value ↔ reference = some value := by
  cases reference <;> simp [nonNull]

@[simp] theorem bind_eq_ok {first : Except Throwable α} {next : α → Except Throwable β} {value : β} :
    (first >>= next) = .ok value ↔ ∃ between, first = .ok between ∧ next between = .ok value := by
  cases first <;> simp [bind, Except.bind]

theorem mapM_eq_ok_iff {step : α → Except Throwable β} {items : List α} {values : List β} :
    items.mapM step = .ok values ↔ List.Forall₂ (fun item value => step item = .ok value) items values := by
  induction items generalizing values with
  | nil => simp [pure, Except.pure, eq_comm]
  | cons item rest ih =>
      rw [List.mapM_cons, bind_eq_ok, List.forall₂_cons_left_iff]
      simp only [bind_eq_ok, ih, pure, Except.pure, Except.ok.injEq]
      refine ⟨?_, ?_⟩
      · intro shown
        obtain ⟨value, first, others, tail, rfl⟩ := shown
        exact ⟨value, others, first, tail, rfl⟩
      · intro shown
        obtain ⟨value, others, first, tail, rfl⟩ := shown
        exact ⟨value, first, others, tail, rfl⟩

theorem exists_mapM_eq_ok {step : α → Except Throwable β} {items : List α}
    (each : ∀ item ∈ items, ∃ value, step item = .ok value) : ∃ values, items.mapM step = .ok values := by
  induction items with
  | nil => exact ⟨[], rfl⟩
  | cons item rest ih =>
      obtain ⟨value, first⟩ := each item List.mem_cons_self
      obtain ⟨values, others⟩ := ih fun other member => each other (List.mem_cons_of_mem _ member)
      refine ⟨value :: values, ?_⟩
      simp [first, others, bind, Except.bind, pure, Except.pure]

theorem forall_iff_of_forall₂ {related : α → β → Prop} {P : α → Prop} {Q : β → Prop} {lefts : List α}
    {rights : List β} (agree : ∀ left ∈ lefts, ∀ right, related left right → (P left ↔ Q right))
    (all : List.Forall₂ related lefts rights) : (∀ left ∈ lefts, P left) ↔ ∀ right ∈ rights, Q right := by
  induction all with
  | nil => simp
  | cons first _ ih =>
      have rest := ih fun left member => agree left (List.mem_cons_of_mem _ member)
      simp only [List.forall_mem_cons, rest, agree _ List.mem_cons_self _ first]

theorem forall_of_forall₂ {related : α → β → Prop} {Q : β → Prop} {lefts : List α} {rights : List β}
    (each : ∀ left ∈ lefts, ∀ right, related left right → Q right) (all : List.Forall₂ related lefts rights) :
    ∀ right ∈ rights, Q right := by
  have agree : (∀ left ∈ lefts, True) ↔ ∀ right ∈ rights, Q right :=
    forall_iff_of_forall₂ (fun left member right made => iff_of_true trivial (each left member right made)) all
  exact agree.mp fun _ _ => trivial

theorem exists_mapM_eq_ok_iff {step : α → Except Throwable β} {items : List α} :
    (∃ values, items.mapM step = .ok values) ↔ ∀ item ∈ items, ∃ value, step item = .ok value := by
  refine ⟨fun shown => ?_, exists_mapM_eq_ok⟩
  obtain ⟨values, mapped⟩ := shown
  have agree : (∀ item ∈ items, ∃ value, step item = .ok value) ↔ ∀ value ∈ values, True :=
    forall_iff_of_forall₂ (fun _ _ value made => ⟨fun _ => trivial, fun _ => ⟨value, made⟩⟩)
      (mapM_eq_ok_iff.mp mapped)
  exact agree.mpr fun _ _ => trivial

/-- The first item that fails decides how the whole fails. -/
theorem mapM_eq_error_iff {step : α → Except Throwable β} {items : List α} {cause : Throwable} :
    items.mapM step = .error cause ↔
      ∃ before item after, items = before ++ item :: after ∧ (∀ earlier ∈ before, ∃ value, step earlier = .ok value) ∧
        step item = .error cause := by
  induction items with
  | nil => simp [pure, Except.pure]
  | cons item rest ih =>
      rw [List.mapM_cons]
      cases first : step item with
      | error other =>
          have stopped : ((do
              let value ← Except.error other
              let values ← rest.mapM step
              return value :: values) = Except.error cause) ↔ (Except.error other : Except Throwable β) = .error cause := by
            simp [bind, Except.bind]
          rw [stopped]
          refine ⟨fun failed => ⟨[], item, rest, rfl, by simp, first.trans failed⟩, fun shown => ?_⟩
          obtain ⟨before, found, after, same, passed, failed⟩ := shown
          cases before with
          | nil =>
              obtain ⟨rfl, rfl⟩ := List.cons.inj same
              exact first.symm.trans failed
          | cons earlier others =>
              obtain ⟨rfl, rfl⟩ := List.cons.inj same
              obtain ⟨value, passes⟩ := passed item List.mem_cons_self
              cases first.symm.trans passes
      | ok value =>
          have onward : ((do
              let value ← Except.ok value
              let values ← rest.mapM step
              return value :: values) = Except.error cause) ↔ rest.mapM step = .error cause := by
            cases rest.mapM step <;> simp [bind, Except.bind, pure, Except.pure]
          rw [onward, ih]
          refine ⟨fun shown => ?_, fun shown => ?_⟩
          · obtain ⟨before, found, after, rfl, passed, failed⟩ := shown
            exact ⟨item :: before, found, after, rfl, List.forall_mem_cons.mpr ⟨⟨value, first⟩, passed⟩, failed⟩
          · obtain ⟨before, found, after, same, passed, failed⟩ := shown
            cases before with
            | nil =>
                obtain ⟨rfl, rfl⟩ := List.cons.inj same
                cases first.symm.trans failed
            | cons earlier others =>
                obtain ⟨rfl, rfl⟩ := List.cons.inj same
                exact ⟨others, found, after, rfl, fun other member => passed other (List.mem_cons_of_mem _ member), failed⟩

theorem exists_iff_of_forall₂ {related : α → β → Prop} {P : α → Prop} {Q : β → Prop}
    (agree : ∀ left right, related left right → (P left ↔ Q right)) {lefts : List α} {rights : List β}
    (all : List.Forall₂ related lefts rights) : (∃ left ∈ lefts, P left) ↔ ∃ right ∈ rights, Q right := by
  induction all with
  | nil => simp
  | cons first _ ih => simp only [List.exists_mem_cons_iff, ih, agree _ _ first]

end

/-- The JDK's case mappings, of characters and of whole strings. -/
structure Unicode where
  toUpperCase : Char → Char
  toLowerCase : Char → Char
  lowerCase : String → String
  toUpperCase_ascii : ∀ char : Char, char.toNat < 128 → toUpperCase char = char.toUpper

def asciiUnicode : Unicode := ⟨Char.toUpper, Char.toLower, String.toLower, fun _ _ => rfl⟩

section

variable (unicode : Unicode)

def sameIgnoringCase (left right : Char) : Bool :=
  left == right || unicode.toUpperCase left == unicode.toUpperCase right ||
    unicode.toLowerCase (unicode.toUpperCase left) == unicode.toLowerCase (unicode.toUpperCase right)

def charsEqualIgnoreCase : List Char → List Char → Bool
  | [], [] => true
  | left :: lefts, right :: rights => sameIgnoringCase unicode left right && charsEqualIgnoreCase lefts rights
  | _, _ => false

def equalsIgnoreCase (left right : String) : Bool :=
  charsEqualIgnoreCase unicode left.toList right.toList

theorem equalsIgnoreCase_ascii {left right : String} (leftAscii : left.toList.all (·.toNat < 128) = true)
    (rightAscii : right.toList.all (·.toNat < 128) = true)
    (same : left.toList.map Char.toUpper = right.toList.map Char.toUpper) : equalsIgnoreCase unicode left right = true := by
  simp only [equalsIgnoreCase]
  generalize left.toList = lefts at leftAscii same
  generalize right.toList = rights at rightAscii same
  induction lefts generalizing rights with
  | nil =>
      cases rights with
      | nil => rfl
      | cons char rest => cases same
  | cons char rest ih =>
      cases rights with
      | nil => cases same
      | cons other others =>
          obtain ⟨upper, tails⟩ := List.cons.inj same
          simp only [List.all_cons, Bool.and_eq_true, decide_eq_true_eq] at leftAscii rightAscii
          have chars : unicode.toUpperCase char = unicode.toUpperCase other := by
            rw [unicode.toUpperCase_ascii char leftAscii.1, unicode.toUpperCase_ascii other rightAscii.1, upper]
          have rest_ := ih leftAscii.2 others rightAscii.2 tails
          simp [charsEqualIgnoreCase, sameIgnoringCase, chars, rest_]

theorem equalsIgnoreCase_refl (text : String) : equalsIgnoreCase unicode text text = true := by
  simp only [equalsIgnoreCase]
  induction text.toList with
  | nil => rfl
  | cons char rest ih => simp [charsEqualIgnoreCase, sameIgnoringCase, ih]

variable {unicode}

theorem length_of_equalsIgnoreCase {left right : String} (same : equalsIgnoreCase unicode left right = true) :
    left.toList.length = right.toList.length := by
  simp only [equalsIgnoreCase] at same
  generalize left.toList = lefts at same
  generalize right.toList = rights at same
  induction lefts generalizing rights with
  | nil =>
      cases rights with
      | nil => rfl
      | cons char rest => cases same
  | cons char rest ih =>
      cases rights with
      | nil => cases same
      | cons other others =>
          simp only [charsEqualIgnoreCase, Bool.and_eq_true] at same
          simp only [List.length_cons, ih others same.2]

end

/-- Character.isWhitespace: the Unicode separators but the no-break ones, and
the control characters U+0009 to U+000D and U+001C to U+001F. -/
def isWhitespace (char : Char) : Bool :=
  let code := char.toNat
  (0x09 ≤ code && code ≤ 0x0D) || (0x1C ≤ code && code ≤ 0x20) || code == 0x1680 ||
    (0x2000 ≤ code && code ≤ 0x200A && code != 0x2007) || code == 0x2028 || code == 0x2029 ||
    code == 0x205F || code == 0x3000

def isBlank (text : String) : Bool := text.toList.all isWhitespace

def trimsToEmpty (text : String) : Bool := text.toList.all fun char => char.toNat ≤ 0x20

/-- `text.trim()`. -/
def trim (text : String) : String :=
  let strips := fun char : Char => char.toNat ≤ 0x20
  String.ofList ((text.toList.dropWhile strips).rdropWhile strips)

/-- `text.split(separator)`: empty parts at the end are dropped, and a text
without the separator is its only part. -/
def split (separator : Char) (text : String) : List String :=
  if text.toList.contains separator then
    ((text.toList.splitOn separator).rdropWhile List.isEmpty).map String.ofList
  else [text]

def isLineTerminator (char : Char) : Bool :=
  char == '\n' || char == '\r' || char.toNat == 0x85 || char.toNat == 0x2028 || char.toNat == 0x2029

/-- `text.matches("(.*)key(.*)")`, where the dot stops at line terminators. -/
def matchesAround (key text : String) : Bool :=
  text.toList.tails.any (key.toList.isPrefixOf ·) && !text.toList.any isLineTerminator

def isAsciiAlphanumeric (char : Char) : Bool :=
  ('a' ≤ char && char ≤ 'z') || ('A' ≤ char && char ≤ 'Z') || ('0' ≤ char && char ≤ '9')

/-- Groups of letters and digits of the given sizes, joined by single dashes. -/
def matchesGroups : List Nat → List Char → Bool
  | [], chars => chars.isEmpty
  | size :: sizes, chars =>
      (chars.take size).length == size && (chars.take size).all isAsciiAlphanumeric &&
        match sizes, chars.drop size with
        | [], rest => rest.isEmpty
        | _, '-' :: rest => matchesGroups sizes rest
        | _, _ => false

/-- UUID_PATTERN. -/
def isValidUuid (text : String) : Bool := matchesGroups [8, 4, 4, 4, 12] text.toList

def groupsLength : List Nat → Nat
  | [] => 0
  | [size] => size
  | size :: next :: sizes => size + 1 + groupsLength (next :: sizes)

theorem matchesGroups_length {sizes : List Nat} {chars : List Char}
    (matched : matchesGroups sizes chars = true) : chars.length = groupsLength sizes := by
  induction sizes generalizing chars with
  | nil => simpa [matchesGroups, groupsLength] using matched
  | cons size sizes ih =>
      simp only [matchesGroups, Bool.and_eq_true, beq_iff_eq] at matched
      obtain ⟨⟨taken, _⟩, rest⟩ := matched
      have split : chars.length = size + (chars.drop size).length := by
        rw [List.length_take] at taken
        rw [List.length_drop]
        omega
      cases sizes with
      | nil =>
          have nothing : chars.drop size = [] := by simpa using rest
          simp [split, nothing, groupsLength]
      | cons next sizes =>
          cases dropped : chars.drop size with
          | nil => simp [dropped] at rest
          | cons char remaining =>
              by_cases dash : char = '-'
              · subst dash
                simp only [dropped] at rest
                have tail := ih rest
                simp only [split, dropped, List.length_cons, tail, groupsLength]
                omega
              · simp [dropped, dash] at rest

theorem isValidUuid_length {text : String} (valid : isValidUuid text = true) : text.length = 36 := by
  have length := matchesGroups_length valid
  rw [← String.length_toList]
  exact length

theorem first_of_isValidUuid {text : String} (valid : isValidUuid text = true) :
    ∃ first rest, text.toList = first :: rest ∧ isAsciiAlphanumeric first = true := by
  cases chars : text.toList with
  | nil => simp [isValidUuid, matchesGroups, chars] at valid
  | cons first rest =>
      refine ⟨first, rest, rfl, ?_⟩
      simp only [isValidUuid, matchesGroups, chars, List.take_succ_cons, List.all_cons, Bool.and_eq_true] at valid
      exact valid.1.2.1

theorem ne_empty_of_isValidUuid {text : String} (valid : isValidUuid text = true) : text ≠ "" := by
  rintro rfl
  cases valid

/-- What UUID_PATTERN accepts is not blank under either of Java's notions. -/
theorem not_blank_of_isValidUuid {text : String} (valid : isValidUuid text = true) :
    isBlank text = false ∧ trimsToEmpty text = false := by
  obtain ⟨first, rest, chars, alphanumeric⟩ := first_of_isValidUuid valid
  have above : 0x30 ≤ first.toNat ∧ first.toNat ≤ 0x7A := by
    simp only [isAsciiAlphanumeric, Bool.or_eq_true, Bool.and_eq_true, decide_eq_true_eq, Char.le_def,
      UInt32.le_iff_toNat_le] at alphanumeric
    simp only [Char.toNat]
    rcases alphanumeric with (letter | letter) | digit
    · exact ⟨Nat.le_trans (by decide) letter.1, Nat.le_trans letter.2 (by decide)⟩
    · exact ⟨Nat.le_trans (by decide) letter.1, Nat.le_trans letter.2 (by decide)⟩
    · exact ⟨Nat.le_trans (by decide) digit.1, Nat.le_trans digit.2 (by decide)⟩
  have visible : isWhitespace first = false := by
    simp only [isWhitespace, Bool.or_eq_false_iff, Bool.and_eq_false_iff, decide_eq_false_iff_not,
      beq_eq_false_iff_ne, bne_eq_false_iff_eq]
    omega
  have kept : ¬first.toNat ≤ 0x20 := by omega
  refine ⟨?_, ?_⟩
  · simp [isBlank, chars, visible]
  · simp [trimsToEmpty, chars, kept]

/-- The zeros of the decimal digits that fit into one UTF-16 unit. -/
def decimalZeros : List Nat :=
  [0x30, 0x660, 0x6F0, 0x7C0, 0x966, 0x9E6, 0xA66, 0xAE6, 0xB66, 0xBE6, 0xC66, 0xCE6, 0xD66, 0xDE6, 0xE50, 0xED0,
   0xF20, 0x1040, 0x1090, 0x17E0, 0x1810, 0x1946, 0x19D0, 0x1A80, 0x1A90, 0x1B50, 0x1BB0, 0x1C40, 0x1C50, 0xA620,
   0xA8D0, 0xA900, 0xA9D0, 0xA9F0, 0xAA50, 0xABF0, 0xFF10]

def digit (char : Char) : Option Nat :=
  (decimalZeros.find? fun first => first ≤ char.toNat && char.toNat < first + 10).map (char.toNat - ·)

def digitsValue (digits : List Char) : Option Nat :=
  if digits.isEmpty then none
  else digits.foldlM (fun value char => (digit char).map (10 * value + ·)) 0

def signedValue : List Char → Option Int
  | '-' :: digits => (digitsValue digits).map fun value => -value
  | '+' :: digits => (digitsValue digits).map Int.ofNat
  | digits => (digitsValue digits).map Int.ofNat

/-- `Integer.parseInt`. -/
def parseInt (text : String) : Except Throwable Int :=
  match signedValue text.toList with
  | some value =>
      if -0x80000000 ≤ value ∧ value < 0x80000000 then .ok value
      else .error (.illegalArgument ("For input string: \"" ++ text ++ "\""))
  | none => .error (.illegalArgument ("For input string: \"" ++ text ++ "\""))

mutual
/-- `toString` of a value inside a parsed object: text stands for itself, lists
and maps are printed by the Java collections. -/
def javaText : Json → String
  | .null => "null"
  | .bool true => "true"
  | .bool false => "false"
  | .num literal => literal
  | .str text => text
  | .arr items => "[" ++ itemsText items ++ "]"
  | .obj fields => "\x7b" ++ fieldsText fields ++ "\x7d"

def itemsText : List Json → String
  | [] => ""
  | [item] => javaText item
  | item :: rest => javaText item ++ ", " ++ itemsText rest

def fieldsText : List (String × Json) → String
  | [] => ""
  | [(key, value)] => key ++ "=" ++ javaText value
  | (key, value) :: rest => key ++ "=" ++ javaText value ++ ", " ++ fieldsText rest
end

def nullable : Option String → Json
  | some text => .str text
  | none => .null

def notEmpty (text : Option String) : Option String := text.filter (· ≠ "")

@[simp] theorem notEmpty_empty : notEmpty (some "") = none := rfl

theorem notEmpty_visible {text : String} (visible : text ≠ "") : notEmpty (some text) = some text := by
  simp [notEmpty, visible]

def toText : Json → Except Throwable String
  | .null => .error .nullPointer
  | value => .ok (javaText value)

end Tgdex.Java

namespace Tgdex.Data.JsonObject

open Tgdex.Java

variable (object : JsonObject) (key : String)

def getString : Option String :=
  match object.get? key with
  | none | some .null => none
  | some value => some (javaText value)

/-- The default is for an absent key only: a null stays null. -/
def getStringOr (fallback : String) : Option String :=
  if object.containsKey key then object.getString key else some fallback

def getBoolean : Except Throwable (Option Bool) :=
  match object.get? key with
  | none | some .null => .ok none
  | some (.bool value) => .ok (some value)
  | some _ => .error .classCast

/-- The default is for an absent key only. -/
def getBooleanOr (fallback : Bool) : Except Throwable (Option Bool) :=
  if object.containsKey key then object.getBoolean key else .ok (some fallback)

def getJsonArray : Except Throwable (Option (List Json)) :=
  match object.get? key with
  | none | some .null => .ok none
  | some (.arr items) => .ok (some items)
  | some _ => .error .classCast

def getJsonArrayOr (fallback : List Json) : Except Throwable (Option (List Json)) :=
  if object.containsKey key then object.getJsonArray key else .ok (some fallback)

def getJsonObject : Except Throwable (Option JsonObject) :=
  match object.get? key with
  | none | some .null => .ok none
  | some (.obj fields) => .ok (some ⟨fields⟩)
  | some _ => .error .classCast

theorem getString_of_get? {object : JsonObject} {key text : String} (stored : object.get? key = some (.str text)) :
    object.getString key = some text := by
  simp [getString, stored, javaText]

theorem getJsonArray_eq_ok {object : JsonObject} {key : String} {items : List Json} :
    object.getJsonArray key = .ok (some items) ↔ object.get? key = some (.arr items) := by
  simp only [getJsonArray]
  cases object.get? key with
  | none => simp
  | some value => cases value <;> simp

theorem getString_congr {object other : JsonObject} {key : String} (same : object.get? key = other.get? key) :
    object.getString key = other.getString key := by
  simp only [getString, same]

end Tgdex.Data.JsonObject
