import Mathlib.Computability.Language
import Mathlib.Data.List.Basic

/-!
Regular expressions as languages: one character of a class, a literal, repetitions, and
segments that a separator joins.
-/

set_option autoImplicit false

namespace Patterns

open scoped Computability

variable {α : Type}

/-- One character of a class. -/
def one (among : α → Bool) : Language α := {word | ∃ c, among c = true ∧ word = [c]}

def literal (text : List α) : Language α := {text}

/-- Once or more often. -/
def plus (language : Language α) : Language α := language * language∗

section Words

variable {among : α → Bool} {word : List α}

theorem mem_literal_mul {text : List α} {language : Language α} :
    word ∈ literal text * language ↔ ∃ rest ∈ language, text ++ rest = word := by
  rw [Language.mem_mul]
  constructor
  · rintro ⟨_, rfl, rest, member, joined⟩
    exact ⟨rest, member, joined⟩
  · rintro ⟨rest, member, joined⟩
    exact ⟨text, rfl, rest, member, joined⟩

theorem mem_one_mul {language : Language α} :
    word ∈ one among * language ↔ ∃ c rest, among c = true ∧ rest ∈ language ∧ word = c :: rest := by
  rw [Language.mem_mul]
  constructor
  · rintro ⟨_, ⟨c, class_, rfl⟩, rest, member, joined⟩
    exact ⟨c, rest, class_, member, joined.symm⟩
  · rintro ⟨c, rest, class_, member, rfl⟩
    exact ⟨[c], ⟨c, class_, rfl⟩, rest, member, rfl⟩

theorem mem_one_pow (n : Nat) :
    word ∈ one among ^ n ↔ word.length = n ∧ ∀ c ∈ word, among c = true := by
  induction n generalizing word with
  | zero =>
      rw [pow_zero, Language.mem_one, List.length_eq_zero_iff]
      constructor
      · rintro rfl
        exact ⟨rfl, fun c member => absurd member List.not_mem_nil⟩
      · exact And.left
  | succ n ih =>
      rw [pow_succ', mem_one_mul]
      constructor
      · rintro ⟨c, rest, class_, member, rfl⟩
        obtain ⟨length, all⟩ := ih.mp member
        exact ⟨by rw [List.length_cons, length], List.forall_mem_cons.mpr ⟨class_, all⟩⟩
      · rintro ⟨length, all⟩
        cases word with
        | nil => exact absurd length (Nat.succ_ne_zero n).symm
        | cons c rest =>
            obtain ⟨class_, all⟩ := List.forall_mem_cons.mp all
            exact ⟨c, rest, class_, ih.mpr ⟨Nat.succ.inj length, all⟩, rfl⟩

theorem mem_one_star : word ∈ (one among)∗ ↔ ∀ c ∈ word, among c = true := by
  rw [Language.kstar_eq_iSup_pow, Language.mem_iSup]
  simp only [mem_one_pow]
  constructor
  · rintro ⟨n, -, all⟩
    exact all
  · intro all
    exact ⟨word.length, rfl, all⟩

theorem mem_one_plus : word ∈ plus (one among) ↔ word ≠ [] ∧ ∀ c ∈ word, among c = true := by
  simp only [plus, mem_one_mul, mem_one_star]
  constructor
  · rintro ⟨c, rest, class_, all, rfl⟩
    exact ⟨List.cons_ne_nil c rest, List.forall_mem_cons.mpr ⟨class_, all⟩⟩
  · rintro ⟨some, all⟩
    obtain ⟨c, rest, rfl⟩ := List.exists_cons_of_ne_nil some
    obtain ⟨class_, all⟩ := List.forall_mem_cons.mp all
    exact ⟨c, rest, class_, all, rfl⟩

theorem mem_plus {language : Language α} :
    word ∈ plus language ↔
      ∃ words, words ≠ [] ∧ word = words.flatten ∧ ∀ w ∈ words, w ∈ language := by
  rw [plus, Language.mem_mul]
  constructor
  · rintro ⟨first, member, _, starred, rfl⟩
    obtain ⟨words, rfl, all⟩ := Language.mem_kstar.mp starred
    exact ⟨first :: words, List.cons_ne_nil _ _, rfl, List.forall_mem_cons.mpr ⟨member, all⟩⟩
  · rintro ⟨words, some, rfl, all⟩
    obtain ⟨first, words, rfl⟩ := List.exists_cons_of_ne_nil some
    obtain ⟨member, all⟩ := List.forall_mem_cons.mp all
    exact ⟨first, member, words.flatten, Language.join_mem_kstar all, rfl⟩

end Words

section Segments

variable {among : α → Bool} {word : List α} {sep : α}

/-- Segments of a class, each but the first behind a separator. -/
def segments (among : α → Bool) (sep : α) : Language α :=
  plus (one among) * plus (literal [sep] * plus (one among))

/-- Pieces behind separators. -/
theorem flatten_separated (first : List α) (others : List (List α)) :
    first ++ (others.map (sep :: ·)).flatten = [sep].intercalate (first :: others) := by
  induction others generalizing first with
  | nil => simp
  | cons next others ih =>
      rw [List.map_cons, List.flatten_cons, List.cons_append, ih,
        List.intercalate_cons_of_ne_nil (List.cons_ne_nil _ _)]
      simp

theorem mem_plus_separated {language : Language α} :
    word ∈ plus (literal [sep] * language) ↔
      ∃ pieces : List (List α), pieces ≠ [] ∧ word = (pieces.map (sep :: ·)).flatten ∧
        ∀ piece ∈ pieces, piece ∈ language := by
  have separated : ∀ words : List (List α), (∀ w ∈ words, w ∈ literal [sep] * language) ↔
      ∃ pieces : List (List α), words = pieces.map (sep :: ·) ∧
        ∀ piece ∈ pieces, piece ∈ language := by
    intro words
    induction words with
    | nil =>
        constructor
        · intro _
          exact ⟨[], rfl, fun piece member => absurd member List.not_mem_nil⟩
        · exact fun _ w member => absurd member List.not_mem_nil
    | cons w words ih =>
        rw [List.forall_mem_cons, ih, mem_literal_mul]
        constructor
        · rintro ⟨⟨piece, member, rfl⟩, pieces, rfl, all⟩
          exact ⟨piece :: pieces, rfl, List.forall_mem_cons.mpr ⟨member, all⟩⟩
        · rintro ⟨pieces, joined, all⟩
          cases pieces with
          | nil => cases joined
          | cons piece pieces =>
              rw [List.map_cons, List.cons.injEq] at joined
              obtain ⟨member, all⟩ := List.forall_mem_cons.mp all
              exact ⟨⟨piece, member, joined.1.symm⟩, pieces, joined.2, all⟩
  rw [mem_plus]
  constructor
  · rintro ⟨words, some, rfl, all⟩
    obtain ⟨pieces, rfl, members⟩ := (separated words).mp all
    exact ⟨pieces, fun none => some (by rw [none]; rfl), rfl, members⟩
  · rintro ⟨pieces, some, rfl, all⟩
    refine ⟨pieces.map (sep :: ·), ?_, rfl, (separated _).mpr ⟨pieces, rfl, all⟩⟩
    rwa [ne_eq, List.map_eq_nil_iff]

/-- The segments are the pieces between the separators. -/
theorem mem_segments [DecidableEq α] (outside : among sep = false) :
    word ∈ segments among sep ↔
      sep ∈ word ∧ ∀ segment ∈ word.splitOn sep, segment ≠ [] ∧ ∀ c ∈ segment, among c = true := by
  have plain : ∀ segment ∈ plus (one among), sep ∉ segment := by
    intro segment member inside
    have class_ := (mem_one_plus.mp member).2 sep inside
    rw [outside] at class_
    cases class_
  simp only [← mem_one_plus]
  rw [segments, Language.mem_mul]
  constructor
  · rintro ⟨first, head, _, tail, rfl⟩
    obtain ⟨others, some, rfl, all⟩ := mem_plus_separated.mp tail
    have members := List.forall_mem_cons.mpr ⟨head, all⟩
    rw [flatten_separated, List.splitOn_intercalate sep (fun segment member =>
      plain segment (members segment member)) (List.cons_ne_nil _ _)]
    refine ⟨?_, members⟩
    obtain ⟨next, rest, rfl⟩ := List.exists_cons_of_ne_nil some
    rw [List.intercalate_cons_of_ne_nil (List.cons_ne_nil _ _)]
    simp
  · rintro ⟨inside, members⟩
    obtain ⟨first, others, split⟩ := List.exists_cons_of_ne_nil (List.splitOn_ne_nil sep word)
    have joined : [sep].intercalate (word.splitOn sep) = word := List.intercalate_splitOn sep
    rw [split] at members joined
    obtain ⟨head, all⟩ := List.forall_mem_cons.mp members
    refine ⟨first, head, (others.map (sep :: ·)).flatten, ?_, by rw [flatten_separated, joined]⟩
    refine mem_plus_separated.mpr ⟨others, ?_, rfl, all⟩
    rintro rfl
    rw [List.intercalate_singleton] at joined
    exact plain first head (joined ▸ inside)

/-- The first segment may begin in a class of its own. -/
theorem mem_headed {head : α → Bool} (within : ∀ c, head c = true → among c = true) :
    word ∈ one head * (one among)∗ * plus (literal [sep] * plus (one among)) ↔
      word ∈ segments among sep ∧ ∃ c, word.head? = some c ∧ head c = true := by
  have first_segment : plus (one among) = one among * (one among)∗ := rfl
  rw [segments, Language.mem_mul, Language.mem_mul, first_segment]
  simp only [mem_one_mul, mem_one_star]
  constructor
  · rintro ⟨_, ⟨c, rest, class_, all, rfl⟩, tail, member, rfl⟩
    exact ⟨⟨c :: rest, ⟨c, rest, within c class_, all, rfl⟩, tail, member, rfl⟩, c, rfl, class_⟩
  · rintro ⟨⟨_, ⟨c, rest, -, all, rfl⟩, tail, member, rfl⟩, first, found, class_⟩
    cases found
    exact ⟨c :: rest, ⟨c, rest, class_, all, rfl⟩, tail, member, rfl⟩

end Segments

end Patterns
