import Mathlib.Data.List.Infix

/-!
Texts cut at a separator. A list of names is a prefix of another exactly when the
names written out, each closed by the separator, are a textual prefix; the pieces of
a text are the last pieces of another exactly when the text ends it behind a
separator; and a walk by names never leaves where it started exactly when no part of
it has more steps up than steps down.
-/

set_option autoImplicit false

namespace Containment

section Lines

variable {α : Type} {sep : α}

/-- The names one after another, each closed by the separator. -/
def line (sep : α) (names : List (List α)) : List α := names.flatMap (· ++ [sep])

@[simp] theorem line_nil : line sep [] = [] := rfl

@[simp] theorem line_cons (name : List α) (names : List (List α)) :
    line sep (name :: names) = name ++ sep :: line sep names := by
  simp [line]

theorem line_append (first second : List (List α)) :
    line sep (first ++ second) = line sep first ++ line sep second :=
  List.flatMap_append

theorem intercalate_append {first second : List (List α)} (some : first ≠ []) (more : second ≠ []) :
    [sep].intercalate (first ++ second) =
      [sep].intercalate first ++ sep :: [sep].intercalate second := by
  induction first with
  | nil => exact absurd rfl some
  | cons piece pieces ih =>
      cases pieces with
      | nil => simp [List.intercalate_cons_of_ne_nil more]
      | cons next pieces =>
          have rest := ih (List.cons_ne_nil next pieces)
          rw [List.cons_append, List.intercalate_cons_of_ne_nil (by simp), rest,
            List.intercalate_cons_of_ne_nil (List.cons_ne_nil next pieces)]
          simp

variable [DecidableEq α]

/-- Two names closed by the separator that start one text are the same name. -/
theorem closed_cancel {first second rest others : List α} (plain : sep ∉ first)
    (plain' : sep ∉ second) (same : first ++ sep :: rest = second ++ sep :: others) :
    first = second ∧ rest = others := by
  have pieces := congrArg (fun text => List.splitOn sep text) same
  simp only [List.splitOn_append_cons_self_of_not_mem plain,
    List.splitOn_append_cons_self_of_not_mem plain'] at pieces
  have equal : first = second := (List.cons.inj pieces).1
  subst equal
  exact ⟨rfl, (List.cons.inj (List.append_cancel_left same)).2⟩

theorem splitOn_line {names : List (List α)} (plain : ∀ name ∈ names, sep ∉ name) :
    (line sep names).splitOn sep = names ++ [[]] := by
  induction names with
  | nil => simp
  | cons name names ih =>
      rw [line_cons, List.splitOn_append_cons_self_of_not_mem (plain name (.head _)),
        ih fun other member => plain other (.tail _ member), List.cons_append]

theorem line_prefix_iff {names others : List (List α)} (plain : ∀ name ∈ names, sep ∉ name)
    (plain' : ∀ name ∈ others, sep ∉ name) :
    line sep names <+: line sep others ↔ names <+: others := by
  constructor
  · intro before
    induction names generalizing others with
    | nil => exact List.nil_prefix
    | cons name names ih =>
        obtain ⟨rest, text⟩ := before
        cases others with
        | nil => simp at text
        | cons other others =>
            rw [line_cons, line_cons, List.append_assoc, List.cons_append] at text
            have both := closed_cancel (plain name (.head _)) (plain' other (.head _)) text
            rw [both.1, List.cons_prefix_cons]
            exact ⟨rfl, ih (fun name member => plain name (.tail _ member))
              (fun name member => plain' name (.tail _ member)) ⟨rest, both.2⟩⟩
  · rintro ⟨rest, rfl⟩
    rw [line_append]
    exact List.prefix_append _ _

/-- No piece of a text holds the separator. -/
theorem not_mem_of_mem_splitOn {text piece : List α} (member : piece ∈ text.splitOn sep) :
    sep ∉ piece := by
  induction text generalizing piece with
  | nil =>
      rw [List.splitOn_nil, List.mem_singleton] at member
      simp [member]
  | cons c rest ih =>
      rw [List.splitOn_cons_eq_if_modifyHead] at member
      obtain ⟨first, pieces, cut⟩ := List.exists_cons_of_ne_nil (List.splitOn_ne_nil sep rest)
      rw [cut] at ih member
      by_cases same : c = sep
      · rw [if_pos (by simpa using same), List.mem_cons] at member
        rcases member with rfl | later
        · exact List.not_mem_nil
        · exact ih later
      · rw [if_neg (by simpa using same), List.modifyHead_cons, List.mem_cons] at member
        rcases member with rfl | later
        · have free := ih (.head _)
          rw [List.mem_cons, not_or]
          exact ⟨fun equal => same equal.symm, free⟩
        · exact ih (.tail _ later)

/-- A text stands behind a separator at the end of another exactly when its pieces are
the last ones there and not all of them. -/
theorem pieces_suffix_iff {text whole : List α} :
    (∃ front, front ≠ [] ∧ whole.splitOn sep = front ++ text.splitOn sep) ↔
      sep :: text <:+ whole := by
  constructor
  · rintro ⟨front, some, pieces⟩
    have joined := congrArg (fun pieces => [sep].intercalate pieces) pieces
    simp only [List.intercalate_splitOn,
      intercalate_append some (List.splitOn_ne_nil sep text)] at joined
    exact ⟨[sep].intercalate front, joined.symm⟩
  · rintro ⟨front, rfl⟩
    exact ⟨front.splitOn sep, List.splitOn_ne_nil sep front,
      List.splitOn_append_cons_self front text⟩

end Lines

section Walks

variable {N : Type} [DecidableEq N]

/-- Walking down by names, `up` leaving the place entered last; nothing when it would
leave the place where the walk started. -/
def walk (up : N) : List N → List N → Option (List N)
  | inside, [] => some inside
  | inside, name :: names =>
      if name = up then
        match inside with
        | [] => none
        | _ :: outer => walk up outer names
      else walk up (name :: inside) names

@[simp] theorem walk_nil (up : N) (inside : List N) : walk up inside [] = some inside := by
  cases inside <;> rfl

@[simp] theorem walk_leave (up : N) (names : List N) : walk up [] (up :: names) = none := by
  simp [walk]

@[simp] theorem walk_up (up last : N) (outer names : List N) :
    walk up (last :: outer) (up :: names) = walk up outer names := by
  simp [walk]

theorem walk_enter {up name : N} (other : name ≠ up) (inside names : List N) :
    walk up inside (name :: names) = walk up (name :: inside) names := by
  cases inside <;> simp [walk, other]

def Stays (up : N) (names : List N) : Prop := (walk up [] names).isSome = true

/-- No part of the walk from its start has more steps up than steps down. -/
def balanced (up : N) (names : List N) : Bool :=
  names.inits.all fun front => 2 * front.count up ≤ front.length

theorem walk_isSome_iff (up : N) (inside names : List N) :
    (walk up inside names).isSome = true ↔
      ∀ front, front <+: names → 2 * front.count up ≤ front.length + inside.length := by
  induction names generalizing inside with
  | nil => simp
  | cons name names ih =>
      by_cases same : name = up
      · subst same
        cases inside with
        | nil =>
            simp only [walk_leave, Option.isSome_none, Bool.false_eq_true, false_iff]
            intro bound
            have first := bound [name] (List.cons_prefix_cons.mpr ⟨rfl, List.nil_prefix⟩)
            simp at first
        | cons last outer =>
            rw [walk_up, ih outer]
            constructor
            · intro bound front before
              cases front with
              | nil => simp
              | cons head front =>
                  rw [List.cons_prefix_cons] at before
                  have rest := bound front before.2
                  rw [before.1, List.count_cons_self, List.length_cons, List.length_cons]
                  omega
            · intro bound front before
              have rest := bound (name :: front) (List.cons_prefix_cons.mpr ⟨rfl, before⟩)
              rw [List.count_cons_self, List.length_cons, List.length_cons] at rest
              omega
      · rw [walk_enter same, ih]
        constructor
        · intro bound front before
          cases front with
          | nil => simp
          | cons head front =>
              rw [List.cons_prefix_cons] at before
              have rest := bound front before.2
              rw [before.1, List.count_cons_of_ne same, List.length_cons]
              rw [List.length_cons] at rest
              omega
        · intro bound front before
          have rest := bound (name :: front) (List.cons_prefix_cons.mpr ⟨rfl, before⟩)
          rw [List.count_cons_of_ne same, List.length_cons] at rest
          rw [List.length_cons]
          omega

theorem stays_iff (up : N) (names : List N) : Stays up names ↔ balanced up names = true := by
  rw [Stays, walk_isSome_iff, balanced, List.all_eq_true]
  constructor
  · intro bound front member
    have part := bound front ((List.mem_inits front names).mp member)
    rw [decide_eq_true_eq]
    simpa using part
  · intro bound front before
    have part := bound front ((List.mem_inits front names).mpr before)
    rw [decide_eq_true_eq] at part
    rw [List.length_nil]
    omega

/-- A walk that stays has no more steps up than steps down. -/
theorem Stays.count_le {up : N} {names : List N} (stays : Stays up names) :
    2 * names.count up ≤ names.length := by
  rw [Stays, walk_isSome_iff] at stays
  exact stays names (List.prefix_refl names)

/-- What follows the first names of a path that ends in steps up stays only when those
steps are few. -/
theorem Stays.ups_le {up : N} {names front rest : List N} {ups : Nat} (stays : Stays up rest)
    (split : names ++ List.replicate ups up = front ++ rest) :
    ups ≤ names.length + front.length := by
  have lengths := congrArg List.length split
  have counts := congrArg (List.count up) split
  rw [List.length_append, List.length_append, List.length_replicate] at lengths
  rw [List.count_append, List.count_append, List.count_replicate_self] at counts
  have few := stays.count_le
  have some := List.count_le_length (a := up) (l := front)
  omega

end Walks

end Containment
