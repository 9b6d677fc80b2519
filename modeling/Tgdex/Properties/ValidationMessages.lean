import Tgdex.Validator.Messages

namespace Tgdex.Properties

open Tgdex.Data Tgdex.Java Tgdex.Validator

/-! # Messages of the schema validation -/

variable {text front back part message field : List Char} {char : Char}

theorem isTrimmed_of_isSpace (space : isSpace char = true) : isTrimmed char = true := by
  simp only [isSpace, Bool.or_eq_true, beq_iff_eq, Bool.and_eq_true, decide_eq_true_eq] at space
  rcases space with rfl | bounds
  · decide
  · exact decide_eq_true (by omega)

theorem rdropWhile_append_cons {p : Char → Bool} (kept : p char = false) :
    (front ++ char :: back).rdropWhile p = front ++ char :: back.rdropWhile p := by
  simp only [List.rdropWhile, List.reverse_append, List.reverse_cons, List.append_assoc, List.singleton_append]
  rw [List.dropWhile_append]
  cases rest : back.reverse.dropWhile p with
  | nil => simp [kept]
  | cons first others => simp

theorem trimmed_append_left (all : ∀ char ∈ front, isTrimmed char = true) : trimmed (front ++ text) = trimmed text := by
  rw [trimmed, trimmed, List.dropWhile_append_of_pos all]

theorem trimmed_append_right (all : ∀ char ∈ back, isTrimmed char = true) : trimmed (text ++ back) = trimmed text := by
  have ends (front : List Char) : (front ++ back).rdropWhile isTrimmed = front.rdropWhile isTrimmed := by
    simp only [List.rdropWhile, List.reverse_append]
    rw [List.dropWhile_append_of_pos fun char member => all char (List.mem_reverse.mp member)]
  rw [trimmed, trimmed, List.dropWhile_append]
  split
  case isTrue empty =>
    rw [List.isEmpty_iff.mp empty, List.dropWhile_eq_nil_iff.mpr all]
  case isFalse => exact ends _

theorem trimmed_dropWhile : trimmed (text.dropWhile isSpace) = trimmed text := by
  have spaces : ∀ char ∈ text.takeWhile isSpace, isTrimmed char = true := fun char member =>
    isTrimmed_of_isSpace (List.mem_takeWhile_imp member)
  rw [← @trimmed_append_left (text.dropWhile isSpace) _ spaces, List.takeWhile_append_dropWhile]

theorem filter_unescapeQuotes : (unescapeQuotes text).filter notBackslash = text.filter notBackslash := by
  fun_induction unescapeQuotes text with
  | case1 rest ih =>
      rw [List.filter_cons_of_pos (by decide), List.filter_cons_of_neg (by decide),
        List.filter_cons_of_pos (by decide), ih]
  | case2 char rest other ih => rw [List.filter_cons, List.filter_cons, ih]
  | case3 => rfl

theorem cleaned_eq : cleaned part = (trimmed part).filter notBackslash := filter_unescapeQuotes

theorem cleaned_space : cleaned (' ' :: part) = cleaned part := by
  have same : trimmed ([' '] ++ part) = trimmed part := trimmed_append_left (List.forall_mem_singleton.mpr rfl)
  rw [cleaned_eq, cleaned_eq, ← same]
  rfl

/-- What is left of a message once it is cleaned. -/
def plainText (message : List Char) : List Char := trimmed (message.filter notBackslash)

theorem trimmed_filter_rdropWhile : trimmed ((text.rdropWhile isTrimmed).filter notBackslash) = plainText text := by
  have whole := @List.rdropWhile_append_rtakeWhile _ isTrimmed text
  have trailing : ∀ char ∈ (text.rtakeWhile isTrimmed).filter notBackslash, isTrimmed char = true := fun char member =>
    List.mem_rtakeWhile_imp (List.mem_filter.mp member).1
  rw [plainText, ← @trimmed_append_right _ _ trailing, ← List.filter_append, whole]

theorem startsField_append_cons (outside : char ∉ "Field".toList) (visible : isSpace char = false) :
    startsField (front ++ char :: back) = startsField front := by
  have dropped : (front ++ char :: back).dropWhile isSpace = front.dropWhile isSpace ++ char :: back := by
    rw [List.dropWhile_append]
    cases rest : front.dropWhile isSpace with
    | nil => simp [visible]
    | cons first others => simp
  rw [Bool.eq_iff_iff, startsField, startsField, List.isPrefixOf_iff_prefix, List.isPrefixOf_iff_prefix, dropped,
    prefix_append_cons_iff outside]

theorem startsField_space : startsField (' ' :: text) = startsField text := by
  have space : isSpace ' ' = true := by decide
  simp only [startsField, List.dropWhile_cons_of_pos space]

def fieldText : List Char := ['F', 'i', 'e', 'l', 'd']

theorem fieldOpening_eq : "Field \"".toList = ['F', 'i', 'e', 'l', 'd', ' ', '"'] := rfl

theorem fieldClosing_eq : "\": ".toList = ['"', ':', ' '] := rfl

theorem fieldMessage_eq :
    fieldMessage (some field) message = fieldText ++ ' ' :: '"' :: (field ++ '"' :: ':' :: ' ' :: message) := by
  unfold fieldMessage
  rw [fieldOpening_eq, fieldClosing_eq, Option.getD_some]
  simp only [fieldText, List.append_assoc, List.cons_append, List.nil_append]

theorem startsField_of_prefix : startsField (fieldText ++ text) = true := by
  have word : "Field".toList = fieldText := rfl
  have kept : (fieldText ++ text).dropWhile isSpace = fieldText ++ text := List.dropWhile_cons_of_neg (by decide)
  rw [startsField, List.isPrefixOf_iff_prefix, kept, word]
  exact List.prefix_append ..

theorem startsField_fieldMessage : startsField (fieldMessage (some field) message ++ back) = true := by
  rw [fieldMessage_eq, List.append_assoc, startsField_of_prefix]

theorem withoutBrackets_listText {texts : List (List Char)} :
    withoutBrackets (listText texts) = ", ".toList.intercalate texts := by
  simp [withoutBrackets, listText]

theorem intercalate_cons {texts : List (List Char)} :
    ", ".toList.intercalate (text :: texts) = text ++ texts.flatMap fun next => ',' :: ' ' :: next := by
  have separator : ", ".toList = [',', ' '] := rfl
  rw [separator]
  induction texts generalizing text with
  | nil => simp
  | cons next rest ih =>
      rw [List.intercalate_cons_cons, ih, List.flatMap_cons]
      simp

/-- What one message comes to, were it alone. -/
def parsedAlone (message : List Char) : List (List Char) := (splitWhere ',' startsField message).map parsedMessage

theorem parsedAlone_ne_nil : parsedAlone message ≠ [] := by
  simpa [parsedAlone] using splitWhere_ne_nil message

theorem parsedMessage_space : parsedMessage (' ' :: part) = parsedMessage part := by
  simp only [parsedMessage, cleaned_space]

theorem parsedAlone_space : parsedAlone (' ' :: message) = parsedAlone message := by
  obtain ⟨part, parts, parted⟩ := @exists_splitWhere ',' startsField message
  have split : splitWhere ',' startsField (' ' :: message) = (' ' :: part) :: parts := by
    simp [splitWhere, parted]
  rw [parsedAlone, parsedAlone, split, parted, List.map_cons, List.map_cons, parsedMessage_space]

/-- The next message after a comma is split off, and nothing else than it would be alone. -/
theorem parsedAlone_joined {texts : List (List Char)}
    (fields : ∀ next ∈ texts, ∀ back, startsField (next ++ back) = true) :
    parsedAlone (text ++ texts.flatMap fun next => ',' :: ' ' :: next) =
      parsedAlone text ++ texts.flatMap parsedAlone := by
  induction texts generalizing text with
  | nil => simp
  | cons next rest ih =>
      have more := fields next List.mem_cons_self (rest.flatMap fun next => ',' :: ' ' :: next)
      have others := @ih (' ' :: next) fun other member => fields other (List.mem_cons_of_mem _ member)
      have joined : (text ++ (next :: rest).flatMap fun next => ',' :: ' ' :: next) =
          text ++ ',' :: (' ' :: next ++ rest.flatMap fun next => ',' :: ' ' :: next) := by simp
      have apart : splitWhere ',' startsField
          (text ++ ',' :: (' ' :: next ++ rest.flatMap fun next => ',' :: ' ' :: next)) =
          splitWhere ',' startsField text ++
            splitWhere ',' startsField (' ' :: next ++ rest.flatMap fun next => ',' :: ' ' :: next) := by
        apply splitWhere_append_cons
        · intro tail _
          exact startsField_append_cons (by decide) (by decide)
        · rw [List.cons_append, startsField_space, more]
      rw [joined, parsedAlone, apart, List.map_append, ← parsedAlone, ← parsedAlone, others, parsedAlone_space,
        List.flatMap_cons]

theorem errorMessages_eq {report : List ProcessingMessage} (some : errorsOf report ≠ []) :
    errorMessages report = (errorsOf report).flatMap fun msg => parsedAlone msg.userMessage := by
  rw [errorMessages, parseValidationMessages, withoutBrackets_listText]
  cases errors : errorsOf report with
  | nil => exact absurd errors some
  | cons first rest =>
      rw [List.map_cons, intercalate_cons, ← parsedAlone, parsedAlone_joined, List.flatMap_cons, List.flatMap_map]
      intro next member back
      obtain ⟨msg, -, rfl⟩ := List.mem_map.mp member
      exact startsField_fieldMessage

section

variable {α β : Type} {R : α → β → Prop} {items : List α} {answers : α → List β}

theorem length_le_flatMap (nonempty : ∀ item ∈ items, answers item ≠ []) :
    items.length ≤ (items.flatMap answers).length := by
  induction items with
  | nil => simp
  | cons item rest ih =>
      have others := ih fun other member => nonempty other (List.mem_cons_of_mem _ member)
      have own := List.length_pos_iff.mpr (nonempty item List.mem_cons_self)
      rw [List.flatMap_cons, List.length_append, List.length_cons]
      omega

/-- Each item has one answer of its own exactly when each answers once, and right. -/
theorem forall₂_flatMap_iff (nonempty : ∀ item ∈ items, answers item ≠ []) :
    List.Forall₂ R items (items.flatMap answers) ↔
      ∀ item ∈ items, ∃ answer, answers item = [answer] ∧ R item answer := by
  induction items with
  | nil => simp
  | cons item rest ih =>
      have nonemptyRest : ∀ other ∈ rest, answers other ≠ [] := fun other member =>
        nonempty other (List.mem_cons_of_mem _ member)
      have atLeast := length_le_flatMap nonemptyRest
      obtain ⟨answer, more, own⟩ := List.exists_cons_of_ne_nil (nonempty item List.mem_cons_self)
      rw [List.forall_mem_cons, List.flatMap_cons, own, List.cons_append, List.forall₂_cons]
      constructor
      · rintro ⟨right, others⟩
        have same := others.length_eq
        rw [List.length_append] at same
        have none : more = [] := List.eq_nil_of_length_eq_zero (by omega)
        rw [none] at others ⊢
        exact ⟨⟨answer, rfl, right⟩, (ih nonemptyRest).mp others⟩
      · rintro ⟨⟨only, one, right⟩, others⟩
        cases one
        exact ⟨right, (ih nonemptyRest).mpr others⟩

end

theorem filter_of_unescaped (unescaped : '\\' ∉ text) : text.filter notBackslash = text := by
  rw [List.filter_eq_self]
  intro char member
  have differs : char ≠ '\\' := fun same => unescaped (same ▸ member)
  simpa [notBackslash] using differs

theorem cleaned_fieldMessage (unescaped : '\\' ∉ field) :
    cleaned (fieldMessage (some field) message) =
      fieldText ++ ' ' :: '"' :: (field ++ '"' :: ':' ::
        ((' ' :: message).rdropWhile isTrimmed).filter notBackslash) := by
  have whole : fieldMessage (some field) message =
      (fieldText ++ ' ' :: '"' :: (field ++ ['"'])) ++ ':' :: (' ' :: message) := by
    rw [fieldMessage_eq]
    simp
  have kept : (fieldMessage (some field) message).dropWhile isTrimmed = fieldMessage (some field) message := by
    rw [fieldMessage_eq]
    exact List.dropWhile_cons_of_neg (by decide)
  have word : fieldText.filter notBackslash = fieldText := by decide
  have opening : [' ', '"'].filter notBackslash = [' ', '"'] := by decide
  have closing : ['"', ':'].filter notBackslash = ['"', ':'] := by decide
  have shape (tail : List Char) : (fieldText ++ ' ' :: '"' :: (field ++ ['"'])) ++ ':' :: tail =
      (fieldText ++ [' ', '"']) ++ (field ++ (['"', ':'] ++ tail)) := by simp
  rw [cleaned_eq, trimmed, kept, whole, rdropWhile_append_cons (by decide), shape]
  simp only [List.filter_append, word, opening, filter_of_unescaped unescaped, closing]
  simp

theorem namedField_eq : namedField =
    [.literal fieldText, .run isSpace 1 false false, .literal ['"'], .run (fun char => char != '"') 1 false true,
      .literal ['"']] := rfl

theorem fieldPrefix_eq : fieldPrefix field =
    [.literal fieldText, .run isSpace 1 false false, .literal ['"'], .literal field, .literal ['"'],
      .run isSpace 0 false false, .literal [':'], .run isSpace 0 false false] := rfl

theorem group_namedField {rest : List Char} (nonempty : field ≠ []) (unquoted : '"' ∉ field) :
    group namedField 0 (fieldText ++ ' ' :: '"' :: (field ++ '"' :: rest)) = some field := by
  have closed : matchHere [.literal ['"']] (['"'] ++ rest) = some ([], rest) := by
    rw [matchHere_literal]
    rfl
  have name : matchHere [.run (fun char => char != '"') 1 false true, .literal ['"']] (field ++ (['"'] ++ rest)) =
      some ([field], rest) := by
    refine matchHere_run_longest ?_ (List.length_pos_iff.mpr nonempty) (by simp) closed
    intro char member
    have differs : char ≠ '"' := fun same => unquoted (same ▸ member)
    simpa using differs
  have whole : matchHere namedField (fieldText ++ ([' '] ++ (['"'] ++ (field ++ (['"'] ++ rest))))) =
      some ([field], rest) := by
    rw [namedField_eq, matchHere_literal]
    apply matchHere_skip (List.forall_mem_singleton.mpr rfl) Nat.le.refl (by simp [isSpace])
    rw [matchHere_literal, name]
  simp only [List.singleton_append] at whole
  simp [group, find_of_matchHere_here whole]

theorem ends_of_dropWhile {p : Char → Bool} : ∀ char ∈ (text.dropWhile p).head?, p char = false := by
  intro char first
  obtain ⟨rest, shape⟩ := List.head?_eq_some_iff.mp first
  have nonempty : text.dropWhile p ≠ [] := by rw [shape]; exact List.cons_ne_nil _ _
  have head := List.head_dropWhile_not p nonempty
  simpa [shape] using head

/-- The pattern for the field takes the beginning of its message up to the text. -/
theorem removeFirst_fieldPrefix :
    removeFirst (fieldPrefix field) (fieldText ++ ' ' :: '"' :: (field ++ '"' :: ':' :: text)) =
      text.dropWhile isSpace := by
  have spaces : matchHere [.run isSpace 0 false false] (text.takeWhile isSpace ++ text.dropWhile isSpace) =
      some ([], text.dropWhile isSpace) :=
    matchHere_skip (fun _ => List.mem_takeWhile_imp) (Nat.zero_le _) ends_of_dropWhile rfl
  rw [List.takeWhile_append_dropWhile] at spaces
  have whole : matchHere (fieldPrefix field)
      (fieldText ++ ([' '] ++ (['"'] ++ (field ++ (['"'] ++ ([] ++ ([':'] ++ text))))))) =
        some ([], text.dropWhile isSpace) := by
    rw [fieldPrefix_eq, matchHere_literal]
    apply matchHere_skip (List.forall_mem_singleton.mpr rfl) Nat.le.refl (by simp [isSpace])
    rw [matchHere_literal, matchHere_literal, matchHere_literal]
    apply matchHere_skip (by simp) Nat.le.refl (by simp [isSpace])
    rw [matchHere_literal, spaces]
  simp only [List.singleton_append, List.nil_append] at whole
  simp [removeFirst, find_of_matchHere_here whole]

theorem plainText_space : plainText (' ' :: message) = plainText message := by
  have kept : (' ' :: message).filter notBackslash = [' '] ++ message.filter notBackslash :=
    List.filter_cons_of_pos (by decide)
  rw [plainText, kept, trimmed_append_left (List.forall_mem_singleton.mpr rfl), plainText]

theorem parsedMessage_fieldMessage (nonempty : field ≠ []) (unquoted : '"' ∉ field) (unescaped : '\\' ∉ field) :
    parsedMessage (fieldMessage (some field) message) = classified (some field) (plainText message) := by
  simp only [parsedMessage, cleaned_fieldMessage unescaped, group_namedField nonempty unquoted,
    removeFirst_fieldPrefix, trimmed_dropWhile, trimmed_filter_rdropWhile, plainText_space]

/-- The entry starts with its field. -/
def NamesField (field entry : List Char) : Prop := fieldMessage (some field) [] <+: entry

theorem namesField_fieldMessage : NamesField field (fieldMessage (some field) message) := by
  refine ⟨message, ?_⟩
  unfold fieldMessage
  rw [List.append_nil]

theorem namesField_classified_iff :
    NamesField field (classified (some field) message) ↔
      ¬(textContains message "missing required properties" = true ∧ textContains message "ECMA 262 regex" = false ∧
        ¬NamesField field (requiredMessage message)) := by
  rw [classified]
  by_cases regex : textContains message "ECMA 262 regex" = true
  · rw [if_pos regex]
    simp [namesField_fieldMessage, regex]
  · rw [if_neg regex]
    by_cases missing : textContains message "missing required properties" = true
    · rw [if_pos missing]
      simp [missing, Bool.eq_false_iff.mpr regex]
    · rw [if_neg missing]
      refine iff_of_true ?_ fun misread => missing misread.1
      split_ifs <;> exact namesField_fieldMessage

/-- A field without quotes is a prefix up to its closing quote where it is one of the closed names. -/
theorem closed_prefix_iff {names closing rest : List Char} (unquoted : '"' ∉ field) :
    field ++ '"' :: closing <+: names ++ ('"' :: closing ++ rest) ↔
      field ++ '"' :: closing <+: names ++ '"' :: closing := by
  have names_prefix : names ++ '"' :: closing <+: names ++ ('"' :: closing ++ rest) := by
    rw [← List.append_assoc]
    exact List.prefix_append ..
  refine ⟨fun starts => ?_, fun starts => starts.trans names_prefix⟩
  by_cases short : field.length ≤ names.length
  · exact List.prefix_of_prefix_length_le starts names_prefix (by simpa using short)
  · have fieldFirst : field <+: names ++ ('"' :: closing ++ rest) := (List.prefix_append ..).trans starts
    have quoteFirst : names ++ ['"'] <+: names ++ ('"' :: closing ++ rest) := by
      rw [List.prefix_append_right_inj]
      simp
    have quoted : names ++ ['"'] <+: field := List.prefix_of_prefix_length_le quoteFirst fieldFirst (by
      rw [List.length_append, List.length_singleton]
      omega)
    exact absurd (quoted.subset (by simp)) unquoted

theorem namesField_requiredMessage_iff (unquoted : '"' ∉ field) :
    NamesField field (requiredMessage message) ↔
      ∃ names, group bracketed 0 message = some names ∧ field ++ ['"', ':', ' '] <+: names ++ ['"', ':', ' '] := by
  cases found : group bracketed 0 message with
  | none =>
      have text : "A required field is missing.".toList = 'A' :: " required field is missing.".toList := rfl
      simp [NamesField, requiredMessage, found, fieldMessage_eq, fieldText, text]
  | some names =>
      have ending : "\": is required.".toList = ['"', ':', ' '] ++ "is required.".toList := rfl
      simp only [NamesField, requiredMessage, found, Option.some.injEq, exists_eq_left']
      unfold fieldMessage
      rw [Option.getD_some, List.append_nil, List.append_assoc, List.append_assoc, List.prefix_append_right_inj,
        fieldClosing_eq, ending, closed_prefix_iff unquoted]

/-- What the names of properties and their pointers in the schemas are made of. -/
def isPlain (char : Char) : Bool :=
  0x20 < char.toNat && !isLineTerminator char && !(['"', '\\', ',', '[', ']'].contains char)

/-- The name of a property, or a pointer without its first slash. -/
structure Name where
  text : List Char
  nonempty : text ≠ []
  plain : text.all isPlain = true

/-- The pointer is absent where the error is one of the whole instance. -/
inductive SchemaError where
  | missing (pointer : Option Name) (first : Name) (others : List Name)
  | violation (pointer : Option Name) (message : List Char)

/-- The names with quotes and commas between them. -/
def joinedNames (first : Name) : List Name → List Char
  | [] => first.text
  | second :: others => first.text ++ '"' :: ',' :: '"' :: joinedNames second others

def missingOpening : List Char := "object has missing required properties ([".toList

def missingText (first : Name) (others : List Name) : List Char :=
  missingOpening ++ '"' :: (joinedNames first others ++ ['"', ']', ')'])

def pointerText : Option Name → List Char
  | none => []
  | some name => '/' :: name.text

def SchemaError.pointer : SchemaError → Option Name
  | .missing pointer _ _ | .violation pointer _ => pointer

def SchemaError.errorMessage : SchemaError → List Char
  | .missing _ first others => missingText first others
  | .violation _ message => message

def SchemaError.report (error : SchemaError) : ProcessingMessage :=
  ⟨.error, some (pointerText error.pointer), some error.errorMessage⟩

/-- The entry names every missing property, or the field that was violated. -/
def SchemaError.NamedBy (entry : List Char) : SchemaError → Prop
  | .missing _ first others => ∀ name ∈ first :: others, '"' :: name.text ++ ['"'] <:+: entry
  | .violation (some field) _ => NamesField field.text entry
  | .violation none _ => True

/-- The text reads as one about missing properties, none of which would be the field. -/
def Misread (field message : List Char) : Prop :=
  textContains (plainText message) "missing required properties" = true ∧
    textContains (plainText message) "ECMA 262 regex" = false ∧
    ¬∃ names, group bracketed 0 (plainText message) = some names ∧ field ++ ['"', ':', ' '] <+: names ++ ['"', ':', ' ']

/-- Nothing in the message can be taken for the start of another, and the message not for one of another kind. -/
def SchemaError.Clear : SchemaError → Prop
  | .missing _ _ _ => True
  | .violation pointer message =>
      Unsplit ',' startsField message ∧ ∀ field, pointer = some field → ¬Misread field.text message

variable {name first : Name} {others : List Name}

theorem isPlain_of_mem (member : char ∈ name.text) : isPlain char = true := List.all_eq_true.mp name.plain char member

theorem not_mem_of_not_plain (special : isPlain char = false) : char ∉ name.text := fun member => by
  rw [isPlain_of_mem member] at special
  cases special

theorem unquoted_name : '"' ∉ name.text := not_mem_of_not_plain (by decide)

theorem unescaped_name : '\\' ∉ name.text := not_mem_of_not_plain (by decide)

theorem isPlain_of_mem_joinedNames (member : char ∈ joinedNames first others) :
    isPlain char = true ∨ char = '"' ∨ char = ',' := by
  induction others generalizing first with
  | nil => exact .inl (isPlain_of_mem member)
  | cons second rest ih =>
      simp only [joinedNames, List.mem_append, List.mem_cons] at member
      rcases member with own | rfl | rfl | rfl | later
      · exact .inl (isPlain_of_mem own)
      · exact .inr (.inl rfl)
      · exact .inr (.inr rfl)
      · exact .inr (.inl rfl)
      · exact ih later

theorem not_mem_joinedNames (special : isPlain char = false) (quote : char ≠ '"') (comma : char ≠ ',') :
    char ∉ joinedNames first others := fun member => by
  rcases isPlain_of_mem_joinedNames member with plain | same | same
  · rw [plain] at special
    cases special
  · exact quote same
  · exact comma same

theorem unescaped_joinedNames : '\\' ∉ joinedNames first others :=
  not_mem_joinedNames (by decide) (by decide) (by decide)

theorem unopened_joinedNames : '[' ∉ joinedNames first others :=
  not_mem_joinedNames (by decide) (by decide) (by decide)

theorem unclosed_joinedNames : ']' ∉ joinedNames first others :=
  not_mem_joinedNames (by decide) (by decide) (by decide)

/-- A text without quotes that no name can hold does not occur. -/
theorem not_infix_joinedNames (inside : char ∈ part) (special : isPlain char = false) (comma : char ≠ ',')
    (unquoted : '"' ∉ part) : ¬part <:+: joinedNames first others := by
  induction others generalizing first with
  | nil => exact fun occurs => not_mem_of_not_plain special (occurs.subset inside)
  | cons second rest ih =>
      have shape : joinedNames first (second :: rest) =
          first.text ++ '"' :: ([','] ++ '"' :: joinedNames second rest) := rfl
      rw [shape, infix_append_cons_iff unquoted, infix_append_cons_iff unquoted]
      rintro (own | between | later)
      · exact not_mem_of_not_plain special (own.subset inside)
      · exact comma (List.mem_singleton.mp (between.subset inside))
      · exact ih later

theorem quoted_infix_joinedNames (member : name ∈ first :: others) :
    '"' :: name.text ++ ['"'] <:+: '"' :: joinedNames first others ++ ['"'] := by
  induction others generalizing first with
  | nil =>
      rw [List.mem_singleton.mp member]
      exact List.infix_refl _
  | cons second rest ih =>
      have shape : '"' :: joinedNames first (second :: rest) ++ ['"'] =
          ('"' :: first.text ++ ['"']) ++ (',' :: ('"' :: joinedNames second rest ++ ['"'])) := by simp [joinedNames]
      rw [shape]
      rcases List.mem_cons.mp member with rfl | later
      · exact (List.prefix_append ..).isInfix
      · exact (ih later).trans ((List.suffix_cons ..).trans (List.suffix_append ..)).isInfix

theorem startsField_append_quote : startsField (front ++ '"' :: back) = startsField front :=
  startsField_append_cons (by decide) (by decide)

theorem unsplit_quote_iff :
    Unsplit ',' startsField (front ++ '"' :: back) ↔ Unsplit ',' startsField front ∧ Unsplit ',' startsField back :=
  unsplit_append_cons_iff (by decide) fun _ _ => startsField_append_quote

theorem unsplit_fieldMessage_iff :
    Unsplit ',' startsField (fieldMessage (some field) message) ↔
      Unsplit ',' startsField field ∧ Unsplit ',' startsField message := by
  have shape : fieldMessage (some field) message =
      (fieldText ++ [' ']) ++ '"' :: (field ++ '"' :: (':' :: ' ' :: message)) := by
    rw [fieldMessage_eq, List.append_assoc]
    rfl
  have opening : Unsplit ',' startsField (fieldText ++ [' ']) := unsplit_of_not_mem (by decide)
  rw [shape, unsplit_quote_iff, unsplit_quote_iff, unsplit_cons_iff, unsplit_cons_iff]
  simp [opening]

theorem unsplit_name : Unsplit ',' startsField name.text := unsplit_of_not_mem (not_mem_of_not_plain (by decide))

theorem unsplit_joinedNames : Unsplit ',' startsField (joinedNames first others) := by
  induction others generalizing first with
  | nil => exact unsplit_name
  | cons second rest ih =>
      have shape : joinedNames first (second :: rest) =
          first.text ++ '"' :: ([','] ++ '"' :: joinedNames second rest) := rfl
      have comma : Unsplit ',' startsField [','] := by
        rw [unsplit_cons_iff]
        exact ⟨fun goesOn => absurd goesOn.2 (by decide), unsplit_of_not_mem (by decide)⟩
      rw [shape, unsplit_quote_iff, unsplit_quote_iff]
      exact ⟨unsplit_name, comma, ih⟩

theorem unsplit_missingText : Unsplit ',' startsField (missingText first others) := by
  rw [missingText, unsplit_quote_iff, unsplit_quote_iff]
  exact ⟨unsplit_of_not_mem (by decide), unsplit_joinedNames, unsplit_of_not_mem (by decide)⟩

theorem bracketed_eq :
    bracketed = [.literal ['[', '"'], .run (fun char => !isLineTerminator char) 0 true true, .literal ['"', ']']] := rfl

/-- The names in brackets are found as one group. -/
theorem group_bracketed {rest : List Char} (unopened : '[' ∉ front) :
    group bracketed 0 (front ++ '[' :: '"' :: (joinedNames first others ++ '"' :: ']' :: rest)) =
      some (joinedNames first others) := by
  have closed : matchHere [.literal ['"', ']']] (['"', ']'] ++ rest) = some ([], rest) := by
    rw [matchHere_literal]
    rfl
  have names : matchHere [.run (fun char => !isLineTerminator char) 0 true true, .literal ['"', ']']]
      (joinedNames first others ++ (['"', ']'] ++ rest)) = some ([joinedNames first others], rest) := by
    refine matchHere_run_shortest ?line ?first closed
    case line =>
      intro char member
      rcases isPlain_of_mem_joinedNames member with plain | rfl | rfl
      · simp only [isPlain, Bool.and_eq_true] at plain
        exact plain.1.2
      · decide
      · decide
    case first =>
      intro before after whole nonempty
      have unclosed : ']' ∉ after := fun member =>
        unclosed_joinedNames (whole ▸ List.mem_append_right before member)
      have differs : ¬['"', ']'] <+: after ++ (['"', ']'] ++ rest) := by
        rintro ⟨tail, same⟩
        cases after with
        | nil => exact nonempty rfl
        | cons char others =>
            cases others with
            | nil => simp at same
            | cons next more =>
                simp only [List.cons_append, List.nil_append, List.cons.injEq] at same
                exact unclosed (by rw [← same.2.1]; simp)
      rw [matchHere, if_neg fun starts => differs (List.isPrefixOf_iff_prefix.mp starts)]
  have whole : matchHere bracketed (['[', '"'] ++ (joinedNames first others ++ (['"', ']'] ++ rest))) =
      some ([joinedNames first others], rest) := by
    rw [bracketed_eq, matchHere_literal, names]
  have before : ∀ tail, tail <:+ front → tail ≠ [] →
      matchHere bracketed (tail ++ (['[', '"'] ++ (joinedNames first others ++ (['"', ']'] ++ rest)))) = none := by
    intro tail suffix nonempty
    cases tail with
    | nil => exact absurd rfl nonempty
    | cons char others =>
        have differs : char ≠ '[' := fun same => unopened (same ▸ suffix.subset List.mem_cons_self)
        simp [bracketed_eq, matchHere, differs.symm]
  have shape : front ++ '[' :: '"' :: (joinedNames first others ++ '"' :: ']' :: rest) =
      front ++ (['[', '"'] ++ (joinedNames first others ++ (['"', ']'] ++ rest))) := by simp
  rw [group, shape, find_of_matchHere before whole]
  rfl

theorem trimmed_of_ends (starts : ∀ char ∈ text.head?, isTrimmed char = false)
    (ends : ∀ char ∈ text.getLast?, isTrimmed char = false) : trimmed text = text := by
  have kept : text.dropWhile isTrimmed = text := by
    cases text with
    | nil => rfl
    | cons first rest => exact List.dropWhile_cons_of_neg (by simp [starts first rfl])
  rw [trimmed, kept, List.rdropWhile_eq_self_iff]
  intro nonempty
  rw [ends _ (List.getLast?_eq_some_getLast nonempty)]
  exact Bool.false_ne_true

theorem unescaped_missingText : '\\' ∉ missingText first others := by
  have opening : '\\' ∉ missingOpening := by decide
  simp [missingText, opening, unescaped_joinedNames]

theorem plainText_missingText : plainText (missingText first others) = missingText first others := by
  have opening : missingOpening.head? = some 'o' := by decide
  rw [plainText, filter_of_unescaped unescaped_missingText]
  apply trimmed_of_ends
  · intro char member
    rw [missingText, List.head?_append, opening] at member
    cases member
    decide
  · intro char member
    have shape : missingText first others =
        (missingOpening ++ '"' :: (joinedNames first others ++ ['"', ']'])) ++ [')'] := by simp [missingText]
    rw [shape, List.getLast?_concat] at member
    cases member
    decide

theorem contains_missingText :
    textContains (front ++ missingText first others) "missing required properties" = true := by
  have opening : occursIn "missing required properties".toList missingOpening = true := by decide
  rw [textContains, occursIn_iff]
  have prefixed : missingOpening <:+: front ++ missingText first others :=
    (List.prefix_append ..).isInfix.trans (List.suffix_append ..).isInfix
  exact (occursIn_iff.mp opening).trans prefixed

theorem not_infix_missingText (inside : char ∈ part) (special : isPlain char = false) (comma : char ≠ ',')
    (unquoted : '"' ∉ part) (opening : ¬part <:+: missingOpening) (closing : ¬part <:+: [']', ')']) :
    ¬part <:+: missingText first others := by
  rw [missingText, infix_append_cons_iff unquoted]
  have tail : joinedNames first others ++ ['"', ']', ')'] = joinedNames first others ++ '"' :: [']', ')'] := rfl
  rw [tail, infix_append_cons_iff unquoted]
  rintro (opens | names | closes)
  · exact opening opens
  · exact not_infix_joinedNames inside special comma unquoted names
  · exact closing closes

def ecma : List Char := "ECMA 262 regex".toList

theorem no_ecma_of_occursIn (none : occursIn ecma text = false) : ¬ecma <:+: text := fun occurs => by
  rw [occursIn_iff.mpr occurs] at none
  cases none

theorem no_ecma_missingText : ¬ecma <:+: missingText first others :=
  @not_infix_missingText ecma ' ' _ _ (by decide) (by decide) (by decide) (by decide)
    (no_ecma_of_occursIn (by decide)) (no_ecma_of_occursIn (by decide))

/-- The first bracket of the text opens the names. -/
theorem group_missingText (unopened : '[' ∉ front) :
    group bracketed 0 (front ++ missingText first others) = some (joinedNames first others) := by
  have opening : missingOpening = missingOpening.dropLast ++ ['['] := by decide
  have plain : '[' ∉ missingOpening.dropLast := by decide
  have shape : front ++ missingText first others =
      (front ++ missingOpening.dropLast) ++ '[' :: '"' :: (joinedNames first others ++ '"' :: ']' :: [')']) := by
    rw [missingText, opening]
    simp
  rw [shape, group_bracketed (by simp [unopened, plain])]

theorem requiredMessage_missingText (unopened : '[' ∉ front) :
    requiredMessage (front ++ missingText first others) =
      "Field \"".toList ++ joinedNames first others ++ "\": is required.".toList := by
  rw [requiredMessage, group_missingText unopened]

theorem namedBy_required {pointer : Option Name} :
    (SchemaError.missing pointer first others).NamedBy
      ("Field \"".toList ++ joinedNames first others ++ "\": is required.".toList) := by
  intro name member
  have closing : "\": is required.".toList = '"' :: ": is required.".toList := rfl
  refine (quoted_infix_joinedNames member).trans ⟨fieldText ++ [' '], ": is required.".toList, ?_⟩
  rw [fieldOpening_eq, closing]
  simp [fieldText]

/-- What is classified is the text of the error, with its field perhaps left before it. -/
theorem namedBy_classified {pointer : Option Name} {fieldName : Option (List Char)} (unopened : '[' ∉ front)
    (other : ¬ecma <:+: front ++ missingText first others) :
    (SchemaError.missing pointer first others).NamedBy (classified fieldName (front ++ missingText first others)) := by
  have noRegex : textContains (front ++ missingText first others) "ECMA 262 regex" = false := by
    rw [textContains, Bool.eq_false_iff]
    exact fun occurs => other (occursIn_iff.mp occurs)
  have required : classified fieldName (front ++ missingText first others) =
      "Field \"".toList ++ joinedNames first others ++ "\": is required.".toList := by
    unfold classified
    rw [if_neg (by rw [noRegex]; exact Bool.false_ne_true), if_pos contains_missingText,
      requiredMessage_missingText unopened]
  rw [required]
  exact namedBy_required

variable {opening : List Char} {second : Name}

/-- Its field is all the names, with the quotes between them. -/
def rootText (opening : List Char) (first : Name) (others : List Name) : List Char :=
  opening ++ '"' :: (joinedNames first others ++ '"' :: (':' :: ' ' :: missingText first others))

theorem not_infix_rootText (inside : char ∈ part) (special : isPlain char = false) (comma : char ≠ ',')
    (unquoted : '"' ∉ part) (opened : ¬part <:+: opening) (middle : ¬part <:+: ':' :: ' ' :: missingOpening)
    (closing : ¬part <:+: [']', ')']) : ¬part <:+: rootText opening first others := by
  have shape : rootText opening first others = opening ++ '"' :: (joinedNames first others ++
      '"' :: ((':' :: ' ' :: missingOpening) ++ '"' :: (joinedNames first others ++ '"' :: [']', ')']))) := by
    simp [rootText, missingText]
  rw [shape, infix_append_cons_iff unquoted, infix_append_cons_iff unquoted, infix_append_cons_iff unquoted,
    infix_append_cons_iff unquoted]
  have names := @not_infix_joinedNames part char first others inside special comma unquoted
  rintro (occurs | occurs | occurs | occurs | occurs)
  · exact opened occurs
  · exact names occurs
  · exact middle occurs
  · exact names occurs
  · exact closing occurs

theorem no_ecma_rootText : ¬ecma <:+: rootText (fieldText ++ [' ']) first others :=
  @not_infix_rootText ecma ' ' _ _ _ (by decide) (by decide) (by decide) (by decide) (no_ecma_of_occursIn (by decide))
    (no_ecma_of_occursIn (by decide)) (no_ecma_of_occursIn (by decide))

theorem isPlain_of_isSpace (space : isSpace char = true) : isPlain char = false := by
  have low : ¬0x20 < char.toNat := by simpa [isTrimmed] using isTrimmed_of_isSpace space
  simp [isPlain, low]

/-- The word before a name is followed by white space at the beginning only. -/
theorem not_infix_tail (space : isSpace char = true) :
    ¬fieldText ++ [char] <:+: rootText ((fieldText ++ [' ']).tail) first others := by
  have notComma : char ≠ ',' := by rintro rfl; cases space
  have notQuote : '"' ∉ fieldText ++ [char] := by
    have differs : char ≠ '"' := by rintro rfl; cases space
    have word : '"' ∉ fieldText := by decide
    simp [word, differs.symm]
  have letter : 'F' ∈ fieldText ++ [char] := by simp [fieldText]
  apply not_infix_rootText (List.mem_append_right _ List.mem_cons_self) (isPlain_of_isSpace space) notComma notQuote
  · intro occurs
    have short := occurs.length_le
    simp [fieldText] at short
  · exact fun occurs => absurd (occurs.subset letter) (by decide)
  · exact fun occurs => absurd (occurs.subset letter) (by decide)

/-- After a name and a comma there is no colon. -/
theorem matchHere_fieldPrefix_comma :
    matchHere (fieldPrefix field) (fieldText ++ ([' '] ++ (['"'] ++ (field ++ (['"'] ++ ',' :: text))))) = none := by
  rw [fieldPrefix_eq, matchHere_literal]
  apply matchHere_run_eq_none
  intro length enough within
  have one : length = 1 := by
    simp [isSpace] at within
    omega
  rw [one]
  change matchHere _ (['"'] ++ (field ++ (['"'] ++ ',' :: text))) = none
  rw [matchHere_literal, matchHere_literal, matchHere_literal]
  apply matchHere_run_eq_none
  intro length _ within
  have zero : length = 0 := by
    simpa [isSpace] using within
  rw [zero, List.drop_zero]
  simp [matchHere]

/-- The prefix of a field that is several names is not there to be removed. -/
theorem removeFirst_rootText :
    removeFirst (fieldPrefix first.text) (rootText (fieldText ++ [' ']) first (second :: others)) =
      rootText (fieldText ++ [' ']) first (second :: others) := by
  have never : find (fieldPrefix first.text) (rootText (fieldText ++ [' ']) first (second :: others)) = none := by
    apply find_eq_none
    intro tail suffix
    rcases List.suffix_cons_iff.mp suffix with whole | later
    · have shape : rootText (fieldText ++ [' ']) first (second :: others) =
          fieldText ++ ([' '] ++ (['"'] ++ (first.text ++ (['"'] ++ ',' :: ('"' :: joinedNames second others ++
            '"' :: ':' :: ' ' :: missingText first (second :: others)))))) := by
        simp [rootText, joinedNames]
      rw [whole]
      exact (congrArg _ shape).trans matchHere_fieldPrefix_comma
    · cases found : matchHere (fieldPrefix first.text) tail with
      | none => rfl
      | some match_ =>
          obtain ⟨taken, rfl, takes⟩ := takes_of_matchHere found
          rw [fieldPrefix_eq] at takes
          cases takes with
          | literal after =>
              cases after with
              | @run _ _ _ _ spaces text rest _ _ all enough after =>
                  obtain ⟨space, more, rfl⟩ := List.exists_cons_of_length_pos enough
                  have starts : fieldText ++ [space] <+: fieldText ++ (space :: more ++ text) ++ match_.2 := by
                    refine ⟨more ++ text ++ match_.2, ?_⟩
                    simp
                  exact absurd (starts.isInfix.trans later.isInfix) (not_infix_tail (all space List.mem_cons_self))
  rw [removeFirst, never]

theorem cleaned_rootText :
    cleaned (fieldMessage (some (joinedNames first others)) (missingText first others)) =
      rootText (fieldText ++ [' ']) first others := by
  have shape : ' ' :: missingText first others =
      (' ' :: missingOpening ++ '"' :: (joinedNames first others ++ ['"', ']'])) ++ ')' :: [] := by simp [missingText]
  have kept : (' ' :: missingText first others).rdropWhile isTrimmed = ' ' :: missingText first others := by
    rw [shape, rdropWhile_append_cons (by decide)]
    rfl
  have blank : (' ' :: missingText first others).filter notBackslash = ' ' :: missingText first others := by
    rw [List.filter_cons_of_pos (by decide), filter_of_unescaped unescaped_missingText]
  rw [cleaned_fieldMessage unescaped_joinedNames, kept, blank, rootText, List.append_assoc]
  rfl

theorem trimmed_rootText : trimmed (rootText (fieldText ++ [' ']) first others) =
    rootText (fieldText ++ [' ']) first others := by
  apply trimmed_of_ends
  · intro char member
    cases member
    decide
  · intro char member
    have shape : rootText (fieldText ++ [' ']) first others =
        (fieldText ++ [' '] ++ '"' :: (joinedNames first others ++ '"' :: (':' :: ' ' :: (missingOpening ++
          '"' :: (joinedNames first others ++ ['"', ']']))))) ++ [')'] := by simp [rootText, missingText]
    rw [shape, List.getLast?_concat] at member
    cases member
    decide

theorem namedBy_rootText {pointer : Option Name} {fieldName : Option (List Char)} :
    (SchemaError.missing pointer first others).NamedBy
      (classified fieldName (rootText (fieldText ++ [' ']) first others)) := by
  have shape : rootText (fieldText ++ [' ']) first others =
      (fieldText ++ [' '] ++ '"' :: (joinedNames first others ++ ['"', ':', ' '])) ++ missingText first others := by
    simp [rootText]
  have other := @no_ecma_rootText first others
  rw [shape] at other ⊢
  exact namedBy_classified (by simp [fieldText, unopened_joinedNames]) other

variable {error : SchemaError} {pointer : Option Name}

theorem userMessage_report :
    error.report.userMessage =
      fieldMessage (some (fieldOf (pointerText error.pointer) error.errorMessage)) error.errorMessage := by
  rw [ProcessingMessage.userMessage, ProcessingMessage.field, SchemaError.report, Option.getD_some, Option.getD_some]

theorem field_of_pointer : fieldOf (pointerText (some name)) message = name.text := by
  rw [fieldOf, pointerText, if_pos (List.cons_ne_nil _ _), List.drop_one, List.tail_cons]

theorem fieldOf_missingText : fieldOf [] (missingText first others) = joinedNames first others := by
  have named : group bracketed 0 (missingText first others) = some (joinedNames first others) :=
    @group_missingText [] first others List.not_mem_nil
  have phrase : textContains (missingText first others) "missing required properties" = true :=
    @contains_missingText [] first others
  rw [fieldOf, if_neg (by simp), if_pos phrase, named, Option.getD_some]

/-- The brackets of a message that is not split hold nothing that would be. -/
theorem unsplit_group {names : List Char} (found : group bracketed 0 message = some names)
    (unsplit : Unsplit ',' startsField message) : Unsplit ',' startsField names := by
  obtain ⟨⟨front, captures, rest⟩, matched, captured⟩ := Option.bind_eq_some_iff.mp found
  obtain ⟨taken, whole, takes⟩ := takes_of_find matched
  rw [bracketed_eq] at takes
  cases takes with
  | literal after =>
      cases after with
      | run all enough after =>
          cases after with
          | literal after =>
              cases after
              cases captured
              have shape : message = (front ++ ['[']) ++ '"' :: (names ++ '"' :: (']' :: rest)) := by
                rw [whole]
                simp
              rw [shape, unsplit_quote_iff, unsplit_quote_iff] at unsplit
              exact unsplit.2.1

theorem unsplit_fieldOf (unsplit : Unsplit ',' startsField message) :
    Unsplit ',' startsField (fieldOf (pointerText pointer) message) := by
  have unknown : Unsplit ',' startsField "Unknown field".toList := unsplit_of_not_mem (by decide)
  cases pointer with
  | some name =>
      rw [field_of_pointer]
      exact unsplit_name
  | none =>
      rw [pointerText, fieldOf, if_neg (by simp)]
      split
      · cases found : group bracketed 0 message with
        | none => exact unknown
        | some names => exact unsplit_group found unsplit
      · exact unknown

theorem unsplit_userMessage_iff :
    Unsplit ',' startsField error.report.userMessage ↔ Unsplit ',' startsField error.errorMessage := by
  rw [userMessage_report, unsplit_fieldMessage_iff]
  exact ⟨And.right, fun unsplit => ⟨unsplit_fieldOf unsplit, unsplit⟩⟩

theorem parsedAlone_eq_singleton_iff {entry : List Char} :
    parsedAlone message = [entry] ↔ Unsplit ',' startsField message ∧ parsedMessage message = entry := by
  constructor
  · intro one
    have length : (splitWhere ',' startsField message).length = 1 := by
      simpa [parsedAlone] using congrArg List.length one
    have unsplit := length_splitWhere_eq_one_iff.mp length
    rw [parsedAlone, splitWhere_eq_singleton_iff.mpr unsplit] at one
    exact ⟨unsplit, List.cons.inj one |>.1⟩
  · rintro ⟨unsplit, rfl⟩
    rw [parsedAlone, splitWhere_eq_singleton_iff.mpr unsplit]
    rfl

theorem namedBy_missing :
    (SchemaError.missing pointer first others).NamedBy
      (parsedMessage (SchemaError.missing pointer first others).report.userMessage) := by
  have atPointer (name : Name) : (SchemaError.missing pointer first others).NamedBy
      (parsedMessage (fieldMessage (some name.text) (missingText first others))) := by
    rw [parsedMessage_fieldMessage name.nonempty unquoted_name unescaped_name, plainText_missingText]
    exact @namedBy_classified [] _ _ _ _ List.not_mem_nil no_ecma_missingText
  rw [userMessage_report, SchemaError.pointer, SchemaError.errorMessage]
  cases pointer with
  | some name =>
      rw [field_of_pointer]
      exact atPointer name
  | none =>
      rw [pointerText, fieldOf_missingText]
      cases others with
      | nil => exact atPointer first
      | cons second rest =>
          have named : group namedField 0 (rootText (fieldText ++ [' ']) first (second :: rest)) = some first.text := by
            have shape : rootText (fieldText ++ [' ']) first (second :: rest) =
                fieldText ++ ' ' :: '"' :: (first.text ++ '"' :: (',' :: '"' :: (joinedNames second rest ++
                  '"' :: ':' :: ' ' :: missingText first (second :: rest)))) := by
              simp [rootText, joinedNames]
            rw [shape, group_namedField first.nonempty unquoted_name]
          simp only [parsedMessage, cleaned_rootText, named, removeFirst_rootText, trimmed_rootText]
          exact namedBy_rootText

theorem namedBy_violation_iff {field : Name} :
    (SchemaError.violation (some field) message).NamedBy
        (parsedMessage (SchemaError.violation (some field) message).report.userMessage) ↔
      ¬Misread field.text message := by
  have parsed : parsedMessage (SchemaError.violation (some field) message).report.userMessage =
      classified (some field.text) (plainText message) := by
    rw [userMessage_report, SchemaError.pointer, SchemaError.errorMessage, field_of_pointer,
      parsedMessage_fieldMessage field.nonempty unquoted_name unescaped_name]
  rw [parsed, SchemaError.NamedBy, namesField_classified_iff, namesField_requiredMessage_iff unquoted_name, Misread]

/-- An error has one entry that names it exactly when it is clear. -/
theorem parsedAlone_named_iff :
    (∃ entry, parsedAlone error.report.userMessage = [entry] ∧ error.NamedBy entry) ↔ error.Clear := by
  simp only [parsedAlone_eq_singleton_iff, unsplit_userMessage_iff]
  cases error with
  | missing pointer first others =>
      exact iff_of_true ⟨_, ⟨unsplit_missingText, rfl⟩, namedBy_missing⟩ trivial
  | violation pointer message =>
      cases pointer with
      | none => simp [SchemaError.NamedBy, SchemaError.Clear, SchemaError.errorMessage]
      | some field =>
          simp only [SchemaError.Clear, SchemaError.errorMessage, Option.some.injEq, forall_eq']
          rw [← namedBy_violation_iff]
          constructor
          · rintro ⟨_, ⟨unsplit, rfl⟩, named⟩
            exact ⟨unsplit, named⟩
          · rintro ⟨unsplit, named⟩
            exact ⟨_, ⟨unsplit, rfl⟩, named⟩

theorem not_isSuccess {report : List ProcessingMessage} (some : errorsOf report ≠ []) : isSuccess report = false := by
  obtain ⟨msg, member⟩ := List.exists_mem_of_ne_nil _ some
  obtain ⟨inReport, isError⟩ := List.mem_filter.mp member
  rw [isSuccess, List.all_eq_false]
  exact ⟨msg, inReport, by simp [of_decide_eq_true isError]⟩

/-- The results of a failed validation have one entry for each error, which
names its field, exactly when all errors are clear. -/
theorem validation_messages_exact (report : List ProcessingMessage) (errors : List SchemaError)
    (reported : errorsOf report = errors.map SchemaError.report) (some : errors ≠ []) :
    ∃ detail entries,
      validate report = .error ⟨[("detail", .str detail),
        ("results", .arr (entries.map fun entry => .str (String.ofList entry)))]⟩ ∧
      (List.Forall₂ (fun error entry => error.NamedBy entry) errors entries ↔ ∀ error ∈ errors, error.Clear) := by
  have nonempty : errorsOf report ≠ [] := by simpa [reported] using some
  obtain ⟨detail, failed⟩ : ∃ detail, validate report = .error ⟨[("detail", .str detail),
      ("results", .arr ((errorMessages report).map fun entry => .str (String.ofList entry)))]⟩ := by
    rw [validate, if_neg (by rw [not_isSuccess nonempty]; exact Bool.false_ne_true)]
    exact ⟨_, rfl⟩
  refine ⟨detail, errorMessages report, failed, ?_⟩
  rw [errorMessages_eq nonempty, reported, List.flatMap_map, forall₂_flatMap_iff fun _ _ => parsedAlone_ne_nil]
  exact forall₂_congr fun _ _ => parsedAlone_named_iff

def tags : Name := ⟨['t', 'a', 'g', 's'], List.cons_ne_nil _ _, rfl⟩

def label : Name := ⟨['l', 'a', 'b', 'e', 'l'], List.cons_ne_nil _ _, rfl⟩

def typeError : List Char :=
  "instance type (string) does not match any allowed primitive type (allowed: [\"array\"])".toList

def twoErrors : List SchemaError := [.missing none label [tags], .violation (some tags) typeError]

theorem validation_messages_exact_two :
    ∃ detail entries,
      validate (twoErrors.map SchemaError.report) = .error ⟨[("detail", .str detail),
        ("results", .arr (entries.map fun entry => .str (String.ofList entry)))]⟩ ∧
      List.Forall₂ (fun error entry => error.NamedBy entry) twoErrors entries := by
  obtain ⟨detail, entries, failed, named⟩ :=
    validation_messages_exact (twoErrors.map SchemaError.report) twoErrors rfl (List.cons_ne_nil _ _)
  have clear : ∀ error ∈ twoErrors, error.Clear := by
    have otherKind : textContains (plainText typeError) "missing required properties" = false := by decide
    have whole : Unsplit ',' startsField typeError := unsplit_of_not_mem (by decide)
    have clearType : (SchemaError.violation (some tags) typeError).Clear := by
      refine ⟨whole, fun _ _ misread => ?_⟩
      rw [Misread, otherKind] at misread
      exact Bool.false_ne_true misread.1
    simpa [twoErrors, SchemaError.Clear] using clearType
  exact ⟨detail, entries, failed, named.mpr clear⟩

def accessPolicy : Name := ⟨['a', 'c', 'c', 'e', 's', 's', 'P', 'o', 'l', 'i', 'c', 'y'], List.cons_ne_nil _ _, rfl⟩

def itemStatus : Name := ⟨['i', 't', 'e', 'm', 'S', 't', 'a', 't', 'u', 's'], List.cons_ne_nil _ _, rfl⟩

/-- An access policy `x,Field y` and an item status `missing required properties`. -/
def misleadingValues : List SchemaError :=
  [.violation (some accessPolicy)
      "ECMA 262 regex \"^(RESTRICTED|OPEN|PRIVATE)$\" does not match input string \"x,Field y\"".toList,
    .violation (some itemStatus) ("instance value (\"missing required properties\") not found in enum " ++
      "(possible values: [\"ACTIVE\",\"INACTIVE\"])").toList]

/-- Two errors have three entries, one of no field and one of the allowed values. -/
theorem misleading_values_mangled :
    errorMessages (misleadingValues.map SchemaError.report) =
        ["Field \"accessPolicy\": must be one of: \"RESTRICTED\", \"OPEN\", or \"PRIVATE\".".toList,
          "Field unknown: Field y\"".toList, "Field \"ACTIVE\",\"INACTIVE\": is required.".toList] ∧
      ¬List.Forall₂ (fun error entry => error.NamedBy entry) misleadingValues
        (errorMessages (misleadingValues.map SchemaError.report)) := by
  have three : errorMessages (misleadingValues.map SchemaError.report) =
      ["Field \"accessPolicy\": must be one of: \"RESTRICTED\", \"OPEN\", or \"PRIVATE\".".toList,
        "Field unknown: Field y\"".toList, "Field \"ACTIVE\",\"INACTIVE\": is required.".toList] := by
    decide +kernel
  refine ⟨three, fun each => ?_⟩
  have same := each.length_eq
  rw [three] at same
  simp [misleadingValues] at same

end Tgdex.Properties
