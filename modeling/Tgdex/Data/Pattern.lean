import Mathlib.Data.List.Infix
import Mathlib.Data.List.TakeWhile

namespace Tgdex.Data

/-! # Searching in texts -/

/-- The part occurs in the text. -/
def occursIn (part text : List Char) : Bool := text.tails.any part.isPrefixOf

variable {part text front back : List Char} {separator : Char}

theorem occursIn_iff : occursIn part text = true ↔ part <:+: text := by
  simp only [occursIn, List.any_eq_true, List.mem_tails, List.isPrefixOf_iff_prefix]
  rw [List.infix_iff_prefix_suffix]
  exact exists_congr fun tail => and_comm

theorem prefix_append_cons_iff (absent : separator ∉ part) :
    part <+: front ++ separator :: back ↔ part <+: front := by
  induction part generalizing front with
  | nil => simp
  | cons char rest ih =>
      have differs : char ≠ separator := fun same => absent (same ▸ List.mem_cons_self)
      have absentRest : separator ∉ rest := fun member => absent (List.mem_cons_of_mem _ member)
      cases front with
      | nil => simp [List.cons_prefix_cons, differs]
      | cons first others => simp only [List.cons_append, List.cons_prefix_cons, ih absentRest]

/-- A part without the separator occurs on one side of it. -/
theorem infix_append_cons_iff (absent : separator ∉ part) :
    part <:+: front ++ separator :: back ↔ part <:+: front ∨ part <:+: back := by
  induction front with
  | nil =>
      rw [List.nil_append, List.infix_cons_iff]
      have none : part <+: separator :: back ↔ part <+: ([] : List Char) :=
        @prefix_append_cons_iff part [] back separator absent
      rw [none, List.prefix_nil, List.infix_nil]
  | cons char rest ih =>
      rw [List.cons_append, List.infix_cons_iff, List.infix_cons_iff, ih, ← List.cons_append,
        prefix_append_cons_iff absent, or_assoc]

/-- The parts of a text around the separators after which it goes on in a given way. -/
def splitWhere (separator : Char) (goesOn : List Char → Bool) : List Char → List (List Char)
  | [] => [[]]
  | char :: rest =>
      if char = separator ∧ goesOn rest = true then [] :: splitWhere separator goesOn rest
      else
        match splitWhere separator goesOn rest with
        | part :: parts => (char :: part) :: parts
        | [] => [[char]]

section

variable {goesOn : List Char → Bool}

theorem splitWhere_ne_nil (text : List Char) : splitWhere separator goesOn text ≠ [] := by
  cases text with
  | nil => simp [splitWhere]
  | cons char rest =>
      simp only [splitWhere]
      split
      · simp
      · split <;> simp

theorem exists_splitWhere (text : List Char) :
    ∃ part parts, splitWhere separator goesOn text = part :: parts :=
  List.exists_cons_of_ne_nil (splitWhere_ne_nil text)

/-- The text has no separator after which it goes on. -/
def Unsplit (separator : Char) (goesOn : List Char → Bool) (text : List Char) : Prop :=
  ∀ front back, text = front ++ separator :: back → goesOn back = false

theorem unsplit_cons_iff {char : Char} :
    Unsplit separator goesOn (char :: text) ↔
      ¬(char = separator ∧ goesOn text = true) ∧ Unsplit separator goesOn text := by
  refine ⟨fun unsplit => ⟨?_, fun front back given => ?_⟩, ?_⟩
  · rintro ⟨rfl, on⟩
    simp [unsplit [] text rfl] at on
  · exact unsplit (char :: front) back (by rw [given, List.cons_append])
  · rintro ⟨first, rest⟩ front back given
    cases front with
    | nil =>
        cases given
        simpa using fun on => first ⟨rfl, on⟩
    | cons head others =>
        rw [List.cons_append, List.cons.injEq] at given
        exact rest others back given.2

/-- Another character at which what comes before ends divides the question. -/
theorem unsplit_append_cons_iff {char : Char} (differs : char ≠ separator)
    (alone : ∀ tail, tail <:+ front → goesOn (tail ++ char :: back) = goesOn tail) :
    Unsplit separator goesOn (front ++ char :: back) ↔
      Unsplit separator goesOn front ∧ Unsplit separator goesOn back := by
  induction front with
  | nil =>
      have empty : Unsplit separator goesOn [] := fun front back given => by simp at given
      rw [List.nil_append, unsplit_cons_iff]
      simp [differs, empty]
  | cons first rest ih =>
      have here := alone rest (List.suffix_cons first rest)
      rw [List.cons_append, unsplit_cons_iff, unsplit_cons_iff, here,
        ih fun tail suffix => alone tail (suffix.trans (List.suffix_cons first rest)), and_assoc]

theorem unsplit_of_not_mem (absent : separator ∉ text) : Unsplit separator goesOn text := fun front back given =>
  absurd (given ▸ by simp) absent

theorem splitWhere_eq_singleton_iff : splitWhere separator goesOn text = [text] ↔ Unsplit separator goesOn text := by
  induction text with
  | nil => simp [splitWhere, Unsplit]
  | cons char rest ih =>
      rw [unsplit_cons_iff, ← ih, splitWhere]
      obtain ⟨part, parts, parted⟩ := @exists_splitWhere separator goesOn rest
      by_cases here : char = separator ∧ goesOn rest = true
      · simp [here]
      · simp [here, parted]

theorem length_splitWhere_eq_one_iff :
    (splitWhere separator goesOn text).length = 1 ↔ Unsplit separator goesOn text := by
  rw [← splitWhere_eq_singleton_iff]
  refine ⟨fun one => ?_, fun whole => by rw [whole, List.length_singleton]⟩
  induction text with
  | nil => rfl
  | cons char rest ih =>
      rw [splitWhere] at one ⊢
      obtain ⟨part, parts, parted⟩ := @exists_splitWhere separator goesOn rest
      by_cases here : char = separator ∧ goesOn rest = true
      · simp [here, parted] at one
      · simp only [here, if_false, parted, List.length_cons] at one ⊢
        have whole := ih (by rw [parted, List.length_cons, one])
        rw [parted] at whole
        simp only [List.cons.injEq] at whole
        rw [whole.1, whole.2]

/-- A separator splits the text in two when what comes before goes on alike without it. -/
theorem splitWhere_append_cons (alone : ∀ tail, tail <:+ front → goesOn (tail ++ separator :: back) = goesOn tail)
    (on : goesOn back = true) :
    splitWhere separator goesOn (front ++ separator :: back) =
      splitWhere separator goesOn front ++ splitWhere separator goesOn back := by
  induction front with
  | nil => simp [splitWhere, on]
  | cons char rest ih =>
      have parts := ih fun tail suffix => alone tail (suffix.trans (List.suffix_cons char rest))
      obtain ⟨part, others, parted⟩ := @exists_splitWhere separator goesOn rest
      rw [List.cons_append, splitWhere, splitWhere, alone rest (List.suffix_cons char rest), parts, parted]
      split <;> simp

end

/-- A run takes as few or as many characters as what follows it allows. -/
inductive Piece where
  | literal (text : List Char)
  | run (allowed : Char → Bool) (least : Nat) (shortest captured : Bool)
  | finish

def lengths (least most : Nat) (shortest : Bool) : List Nat :=
  if shortest then List.range' least (most + 1 - least) else (List.range' least (most + 1 - least)).reverse

/-- The captures of a match at the beginning, and what follows it. -/
def matchHere : List Piece → List Char → Option (List (List Char) × List Char)
  | [], text => some ([], text)
  | .literal literal :: pieces, text =>
      if literal.isPrefixOf text then matchHere pieces (text.drop literal.length) else none
  | .run allowed least shortest captured :: pieces, text =>
      (lengths least (text.takeWhile allowed).length shortest).findSome? fun length =>
        (matchHere pieces (text.drop length)).map fun found =>
          (if captured then text.take length :: found.1 else found.1, found.2)
  | .finish :: pieces, text => if text.isEmpty then matchHere pieces text else none

/-- The leftmost match, with what stands before it. -/
def find (pieces : List Piece) : List Char → Option (List Char × List (List Char) × List Char)
  | [] => (matchHere pieces []).map fun found => ([], found)
  | char :: rest =>
      match matchHere pieces (char :: rest) with
      | some found => some ([], found)
      | none => (find pieces rest).map fun found => (char :: found.1, found.2)

def group (pieces : List Piece) (index : Nat) (text : List Char) : Option (List Char) :=
  (find pieces text).bind fun found => found.2.1[index]?

def removeFirst (pieces : List Piece) (text : List Char) : List Char :=
  match find pieces text with
  | some (front, _, rest) => front ++ rest
  | none => text

def matchesAll (pieces : List Piece) (text : List Char) : Bool := (matchHere (pieces ++ [.finish]) text).isSome

/-- The pieces take this text, with these captures, before the rest. -/
inductive Takes : List Piece → List Char → List (List Char) → List Char → Prop where
  | nil {rest : List Char} : Takes [] [] [] rest
  | literal {literal text rest : List Char} {pieces : List Piece} {captures : List (List Char)}
      (after : Takes pieces text captures rest) :
      Takes (.literal literal :: pieces) (literal ++ text) captures rest
  | run {allowed : Char → Bool} {least : Nat} {shortest captured : Bool} {part text rest : List Char}
      {pieces : List Piece} {captures : List (List Char)} (all : ∀ char ∈ part, allowed char = true)
      (enough : least ≤ part.length) (after : Takes pieces text captures rest) :
      Takes (.run allowed least shortest captured :: pieces) (part ++ text)
        (if captured then part :: captures else captures) rest
  | finish {pieces : List Piece} {captures : List (List Char)} (after : Takes pieces [] captures []) :
      Takes (.finish :: pieces) [] captures []

section

variable {pieces : List Piece} {literal rest : List Char} {captures : List (List Char)}
  {allowed : Char → Bool} {least most : Nat} {shortest captured : Bool}

theorem mem_lengths_iff {length : Nat} :
    length ∈ lengths least most shortest ↔ least ≤ length ∧ length ≤ most := by
  cases shortest <;> simp only [lengths, if_true, if_false, List.mem_reverse, List.mem_range'_1, Bool.false_eq_true] <;>
    omega

theorem takes_of_matchHere (found : matchHere pieces text = some (captures, rest)) :
    ∃ taken, text = taken ++ rest ∧ Takes pieces taken captures rest := by
  induction pieces generalizing text captures with
  | nil =>
      cases found
      exact ⟨[], rfl, .nil⟩
  | cons piece pieces ih =>
      cases piece with
      | literal literal =>
          simp only [matchHere] at found
          split at found
          case isFalse => cases found
          case isTrue starts =>
            obtain ⟨back, rfl⟩ := List.isPrefixOf_iff_prefix.mp starts
            rw [List.drop_left] at found
            obtain ⟨taken, rfl, takes⟩ := ih found
            exact ⟨literal ++ taken, (List.append_assoc ..).symm, .literal takes⟩
      | run allowed least shortest captured =>
          obtain ⟨length, member, matched⟩ := List.exists_of_findSome?_eq_some found
          obtain ⟨⟨inner, last⟩, after, same⟩ := Option.map_eq_some_iff.mp matched
          cases same
          obtain ⟨enough, within⟩ := mem_lengths_iff.mp member
          obtain ⟨taken, whole, takes⟩ := ih after
          have inRun : text.take length <+: text.takeWhile allowed :=
            List.prefix_of_prefix_length_le (List.take_prefix _ _) (List.takeWhile_prefix _)
              ((List.length_take_le _ _).trans within)
          have all : ∀ char ∈ text.take length, allowed char = true := fun char member =>
            List.mem_takeWhile_imp (inRun.subset member)
          have long : least ≤ (text.take length).length := by
            have short := (List.takeWhile_prefix (p := allowed) (l := text)).length_le
            rw [List.length_take]
            omega
          refine ⟨text.take length ++ taken, ?_, .run all long takes⟩
          rw [List.append_assoc, ← whole, List.take_append_drop]
      | finish =>
          simp only [matchHere] at found
          split at found
          case isFalse => cases found
          case isTrue empty =>
            obtain rfl := List.isEmpty_iff.mp empty
            obtain ⟨taken, whole, takes⟩ := ih found
            obtain ⟨rfl, rfl⟩ := List.nil_eq_append_iff.mp whole
            exact ⟨[], rfl, .finish takes⟩

@[simp] theorem matchHere_literal :
    matchHere (.literal literal :: pieces) (literal ++ text) = matchHere pieces text := by
  simp [matchHere]

/-- A run that takes as much as it can goes up to the first character outside of its class. -/
theorem matchHere_run_longest {part : List Char} {found : List (List Char) × List Char}
    (all : ∀ char ∈ part, allowed char = true) (enough : least ≤ part.length)
    (ends : ∀ char ∈ rest.head?, allowed char = false) (after : matchHere pieces rest = some found) :
    matchHere (.run allowed least false captured :: pieces) (part ++ rest) =
      some (if captured then part :: found.1 else found.1, found.2) := by
  have run : (part ++ rest).takeWhile allowed = part := by
    rw [List.takeWhile_append_of_pos all]
    cases rest with
    | nil => simp
    | cons char others => simp [ends char rfl]
  have most : lengths least part.length false =
      part.length :: (List.range' least (part.length - least)).reverse := by
    have succ : part.length + 1 - least = part.length - least + 1 := by omega
    have last : least + 1 * (part.length - least) = part.length := by omega
    rw [lengths, if_neg Bool.false_ne_true, succ, List.range'_concat, last, List.reverse_append]
    rfl
  simp only [matchHere, run, most, List.findSome?_cons, List.drop_left, List.take_left, after, Option.map_some]

theorem matchHere_skip {part : List Char} {found : List (List Char) × List Char}
    (all : ∀ char ∈ part, allowed char = true) (enough : least ≤ part.length)
    (ends : ∀ char ∈ rest.head?, allowed char = false) (after : matchHere pieces rest = some found) :
    matchHere (.run allowed least false false :: pieces) (part ++ rest) = some found := by
  rw [matchHere_run_longest all enough ends after, if_neg Bool.false_ne_true]

/-- A run that takes as little as it can goes up to the first place where the rest matches. -/
theorem matchHere_run_shortest {part : List Char} {found : List (List Char) × List Char}
    (all : ∀ char ∈ part, allowed char = true)
    (first : ∀ front back, part = front ++ back → back ≠ [] → matchHere pieces (back ++ rest) = none)
    (after : matchHere pieces rest = some found) :
    matchHere (.run allowed 0 true captured :: pieces) (part ++ rest) =
      some (if captured then part :: found.1 else found.1, found.2) := by
  obtain ⟨others, whole⟩ : ∃ others, lengths 0 ((part ++ rest).takeWhile allowed).length true =
      List.range' 0 part.length ++ part.length :: others := by
    rw [List.takeWhile_append_of_pos all, lengths, if_pos rfl, List.length_append]
    refine ⟨List.range' (part.length + 1) (rest.takeWhile allowed).length, ?_⟩
    rw [← List.range'_succ, Nat.sub_zero, Nat.add_assoc]
    simpa using (@List.range'_append 0 part.length ((rest.takeWhile allowed).length + 1) 1).symm
  rw [matchHere, whole, List.findSome?_append]
  have none : (List.range' 0 part.length).findSome? (fun length =>
      (matchHere pieces ((part ++ rest).drop length)).map fun found =>
        (if captured then (part ++ rest).take length :: found.1 else found.1, found.2)) = none := by
    rw [List.findSome?_eq_none_iff]
    intro length member
    have short : length < part.length := by
      have bounds := List.mem_range'_1.mp member
      omega
    have failing := first (part.take length) (part.drop length) (List.take_append_drop ..).symm
      (by simpa using short)
    rw [List.drop_append_of_le_length short.le, failing, Option.map_none]
  rw [none, Option.none_or, List.findSome?_cons]
  simp only [List.drop_left, List.take_left, after, Option.map_some]

theorem matchHere_run_eq_none
    (never : ∀ length, least ≤ length → length ≤ (text.takeWhile allowed).length →
      matchHere pieces (text.drop length) = none) :
    matchHere (.run allowed least shortest captured :: pieces) text = none := by
  rw [matchHere, List.findSome?_eq_none_iff]
  intro length member
  obtain ⟨enough, within⟩ := mem_lengths_iff.mp member
  rw [never length enough within, Option.map_none]

theorem find_of_matchHere {front : List Char} {found : List (List Char) × List Char}
    (before : ∀ tail, tail <:+ front → tail ≠ [] → matchHere pieces (tail ++ text) = none)
    (here : matchHere pieces text = some found) : find pieces (front ++ text) = some (front, found) := by
  induction front with
  | nil =>
      cases text with
      | nil => simp [find, here]
      | cons char others => simp [find, here]
  | cons char others ih =>
      have first := before (char :: others) (List.suffix_refl _) (by simp)
      have later := ih fun tail suffix => before tail (suffix.trans (List.suffix_cons char others))
      rw [List.cons_append] at first ⊢
      simp only [find, first, later, Option.map_some]

theorem find_of_matchHere_here {found : List (List Char) × List Char} (here : matchHere pieces text = some found) :
    find pieces text = some ([], found) :=
  @find_of_matchHere _ _ [] _ (fun _ suffix nonempty => absurd (List.suffix_nil.mp suffix) nonempty) here

theorem find_eq_none (never : ∀ tail, tail <:+ text → matchHere pieces tail = none) : find pieces text = none := by
  induction text with
  | nil => simp [find, never [] (List.suffix_refl _)]
  | cons char others ih =>
      have first := never (char :: others) (List.suffix_refl _)
      have later := ih fun tail suffix => never tail (suffix.trans (List.suffix_cons char others))
      simp only [find, first, later, Option.map_none]

theorem takes_of_find {front : List Char} (found : find pieces text = some (front, captures, rest)) :
    ∃ taken, text = front ++ taken ++ rest ∧ Takes pieces taken captures rest := by
  induction text generalizing front with
  | nil =>
      obtain ⟨_, here, same⟩ := Option.map_eq_some_iff.mp found
      cases same
      exact takes_of_matchHere here
  | cons char others ih =>
      rw [find] at found
      cases here : matchHere pieces (char :: others) with
      | some now =>
          rw [here] at found
          cases found
          exact takes_of_matchHere here
      | none =>
          rw [here] at found
          obtain ⟨⟨before, _⟩, later, same⟩ := Option.map_eq_some_iff.mp found
          cases same
          obtain ⟨taken, whole, takes⟩ := ih later
          exact ⟨taken, by rw [whole, List.cons_append, List.cons_append], takes⟩

end

end Tgdex.Data
