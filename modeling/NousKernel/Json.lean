import Mathlib.Data.List.Basic

/-!
Compact JSON text: no blanks, members in the order they are given, strings with the
escapes that JSON requires. The text of a value determines the value.
-/

set_option autoImplicit false

inductive Json where
  | bool (value : Bool)
  | num (value : Nat)
  | str (text : String)
  | arr (items : List Json)
  | obj (members : List (String × Json))

namespace Json

def quotationMark : Char := '\x22'

def reverseSolidus : Char := '\x5c'

def hexDigit (value : Nat) : Char := "0123456789abcdef".toList.getD value '0'

/-- A character inside a string. -/
def escape (c : Char) : List Char :=
  if c = quotationMark then [reverseSolidus, quotationMark]
  else if c = reverseSolidus then [reverseSolidus, reverseSolidus]
  else if c = '\x08' then [reverseSolidus, 'b']
  else if c = '\t' then [reverseSolidus, 't']
  else if c = '\n' then [reverseSolidus, 'n']
  else if c = '\x0c' then [reverseSolidus, 'f']
  else if c = '\r' then [reverseSolidus, 'r']
  else if c.toNat < 32 then
    [reverseSolidus, 'u', '0', '0', hexDigit (c.toNat / 16), hexDigit (c.toNat % 16)]
  else [c]

def quote (text : String) : List Char :=
  quotationMark :: (text.toList.flatMap escape ++ [quotationMark])

mutual

def render : Json → List Char
  | bool true => ['t', 'r', 'u', 'e']
  | bool false => ['f', 'a', 'l', 's', 'e']
  | num value => Nat.toDigits 10 value
  | str text => quote text
  | arr [] => ['[', ']']
  | arr (first :: others) => '[' :: (first.render ++ renderItems others)
  | obj [] => ['\x7b', '\x7d']
  | obj ((key, value) :: others) =>
      '\x7b' :: (quote key ++ ':' :: (value.render ++ renderMembers others))

/-- The items of an array after the first, and its end. -/
def renderItems : List Json → List Char
  | [] => [']']
  | item :: others => ',' :: (item.render ++ renderItems others)

/-- The members of an object after the first, and its end. -/
def renderMembers : List (String × Json) → List Char
  | [] => ['\x7d']
  | (key, value) :: others =>
      ',' :: (quote key ++ ':' :: (value.render ++ renderMembers others))

end

def text (value : Json) : String := String.ofList value.render

example : (obj [("a", arr [num 10, str "x\"\n"]), ("b", bool true)]).text =
    "\x7b\"a\":[10,\"x\\\"\\n\"],\"b\":true\x7d" := by decide +kernel

/-! ### Strings -/

def hexValue (digit : Char) : Nat := "0123456789abcdef".toList.idxOf digit

/-- The first character of a string, read back from its escape. -/
def unescape : List Char → Option (Char × List Char)
  | [] => none
  | first :: rest =>
      if first = reverseSolidus then
        match rest with
        | 'b' :: rest => some ('\x08', rest)
        | 't' :: rest => some ('\t', rest)
        | 'n' :: rest => some ('\n', rest)
        | 'f' :: rest => some ('\x0c', rest)
        | 'r' :: rest => some ('\r', rest)
        | 'u' :: _ :: _ :: high :: low :: rest =>
            some (Char.ofNat (16 * hexValue high + hexValue low), rest)
        | c :: rest => some (c, rest)
        | [] => none
      else some (first, rest)

theorem hexValue_hexDigit {value : Nat} (bound : value < 32) :
    16 * hexValue (hexDigit (value / 16)) + hexValue (hexDigit (value % 16)) = value := by
  revert value
  decide

theorem unescape_escape (c : Char) (rest : List Char) :
    unescape (escape c ++ rest) = some (c, rest) := by
  unfold escape
  split
  · rename_i same
    rw [same]
    rfl
  split
  · rename_i same
    rw [same]
    rfl
  split
  · rename_i same
    rw [same]
    rfl
  split
  · rename_i same
    rw [same]
    rfl
  split
  · rename_i same
    rw [same]
    rfl
  split
  · rename_i same
    rw [same]
    rfl
  split
  · rename_i same
    rw [same]
    rfl
  split
  · rename_i control
    show some (Char.ofNat (16 * hexValue (hexDigit (c.toNat / 16)) +
      hexValue (hexDigit (c.toNat % 16))), rest) = some (c, rest)
    rw [hexValue_hexDigit control, Char.ofNat_toNat]
  · rename_i plain _ _ _ _ _ _
    simp [unescape, plain]

theorem escape_cancel {c d : Char} {rest others : List Char}
    (same : escape c ++ rest = escape d ++ others) : c = d ∧ rest = others := by
  have read := congrArg unescape same
  rw [unescape_escape, unescape_escape, Option.some.injEq, Prod.mk.injEq] at read
  exact read

/-- No escape begins with the end of the string. -/
theorem escape_ne {c : Char} {rest others : List Char} :
    escape c ++ rest ≠ quotationMark :: others := by
  intro same
  have read := congrArg unescape same
  rw [unescape_escape] at read
  have mark : unescape (quotationMark :: others) = some (quotationMark, others) := rfl
  rw [mark, Option.some.injEq, Prod.mk.injEq] at read
  rw [read.1, read.2] at same
  have lengths := congrArg List.length same
  simp [escape] at lengths

theorem flatMap_escape_cancel {first second rest others : List Char}
    (same : first.flatMap escape ++ quotationMark :: rest =
      second.flatMap escape ++ quotationMark :: others) : first = second ∧ rest = others := by
  induction first generalizing second with
  | nil =>
      cases second with
      | nil => exact ⟨rfl, (List.cons.inj same).2⟩
      | cons d second =>
          rw [List.flatMap_cons, List.append_assoc] at same
          exact absurd same.symm escape_ne
  | cons c first ih =>
      cases second with
      | nil =>
          rw [List.flatMap_cons, List.append_assoc] at same
          exact absurd same escape_ne
      | cons d second =>
          rw [List.flatMap_cons, List.flatMap_cons, List.append_assoc, List.append_assoc] at same
          obtain ⟨head, tail⟩ := escape_cancel same
          obtain ⟨inner, outer⟩ := ih tail
          exact ⟨by rw [head, inner], outer⟩

/-- A string determines its text and where it ends. -/
theorem quote_cancel {first second : String} {rest others : List Char}
    (same : quote first ++ rest = quote second ++ others) : first = second ∧ rest = others := by
  simp only [quote, List.cons_append, List.append_assoc, List.cons.injEq, List.nil_append,
    true_and] at same
  obtain ⟨texts, outer⟩ := flatMap_escape_cancel same
  exact ⟨String.toList_injective texts, outer⟩

/-! ### Values -/

/-- The text does not go on with a digit. -/
def Stops (rest : List Char) : Prop := ∀ c, rest.head? = some c → c.isDigit = false

theorem stops_cons {c : Char} (stop : c.isDigit = false) (rest : List Char) :
    Stops (c :: rest) := by
  intro first same
  cases same
  exact stop

theorem takeWhile_digits {digits rest : List Char} (decimal : ∀ c ∈ digits, c.isDigit = true)
    (stops : Stops rest) : (digits ++ rest).takeWhile (·.isDigit) = digits := by
  rw [List.takeWhile_append_of_pos decimal]
  cases rest with
  | nil => simp
  | cons c rest => rw [List.takeWhile_cons, stops c rfl]; simp

theorem digits_cancel {first second : Nat} {rest others : List Char} (stops : Stops rest)
    (stops' : Stops others)
    (same : Nat.toDigits 10 first ++ rest = Nat.toDigits 10 second ++ others) :
    first = second ∧ rest = others := by
  have decimal : ∀ value, ∀ c ∈ Nat.toDigits 10 value, c.isDigit = true := fun _ c member =>
    Nat.isDigit_of_mem_toDigits (by decide) (by decide) member
  have digits := congrArg (List.takeWhile (·.isDigit)) same
  rw [takeWhile_digits (decimal first) stops, takeWhile_digits (decimal second) stops'] at digits
  have values := congrArg (Nat.ofDigitChars 10 · 0) digits
  simp only [Nat.ofDigitChars_ten_toDigits] at values
  rw [digits] at same
  exact ⟨values, List.append_cancel_left same⟩

/-- The first character of a text tells the sort of the value. -/
inductive Kind where
  | yes | no | number | string | array | object | other
  deriving DecidableEq

def Kind.of (c : Char) : Kind :=
  if c = 't' then yes
  else if c = 'f' then no
  else if c.isDigit then number
  else if c = quotationMark then string
  else if c = '[' then array
  else if c = '\x7b' then object
  else other

def kind : Json → Kind
  | bool true => .yes
  | bool false => .no
  | num _ => .number
  | str _ => .string
  | arr _ => .array
  | obj _ => .object

theorem render_kind (value : Json) :
    ∃ c rest, value.render = c :: rest ∧ Kind.of c = value.kind := by
  match value with
  | bool true | bool false | str _ | arr [] | arr (_ :: _) | obj [] | obj ((_, _) :: _) =>
      exact ⟨_, _, rfl, rfl⟩
  | num value =>
      cases digits : Nat.toDigits 10 value with
      | nil => exact absurd digits Nat.toDigits_ne_nil
      | cons c rest =>
          have member : c ∈ Nat.toDigits 10 value := by
            rw [digits]
            exact .head _
          have digit : c.isDigit = true :=
            Nat.isDigit_of_mem_toDigits (by decide) (by decide) member
          have letters : c ≠ 't' ∧ c ≠ 'f' := by
            constructor
            · rintro rfl
              cases digit
            · rintro rfl
              cases digit
          exact ⟨c, rest, by rw [render, digits], by simp [Kind.of, kind, letters, digit]⟩

theorem kind_eq {first second : Json} {rest others : List Char}
    (same : first.render ++ rest = second.render ++ others) : first.kind = second.kind := by
  obtain ⟨c, tail, text, kind⟩ := render_kind first
  obtain ⟨d, tail', text', kind'⟩ := render_kind second
  rw [text, text'] at same
  rw [← kind, ← kind', (List.cons.inj same).1]

theorem renderItems_stops (items : List Json) (rest : List Char) :
    Stops (renderItems items ++ rest) := by
  cases items with
  | nil => exact stops_cons (by decide) _
  | cons item others => exact stops_cons (by decide) _

theorem renderMembers_stops (members : List (String × Json)) (rest : List Char) :
    Stops (renderMembers members ++ rest) := by
  match members with
  | [] => exact stops_cons (by decide) _
  | (key, value) :: others => exact stops_cons (by decide) _

/-- No value begins with the end of an array. -/
theorem render_ne_end (value : Json) (rest others : List Char) :
    value.render ++ rest ≠ ']' :: others := by
  intro same
  obtain ⟨c, tail, text, kind⟩ := render_kind value
  rw [text] at same
  have head : c = ']' := (List.cons.inj same).1
  rw [head] at kind
  have other : value.kind = .other := kind.symm
  match value with
  | bool true | bool false | num _ | str _ | arr _ | obj _ => cases other

mutual

/-- A text determines its value and where it ends. -/
theorem render_cancel (first second : Json) (rest others : List Char) (stops : Stops rest)
    (stops' : Stops others) (same : first.render ++ rest = second.render ++ others) :
    first = second ∧ rest = others := by
  have kinds := kind_eq same
  match first, second with
  | bool true, bool true => exact ⟨rfl, List.append_cancel_left same⟩
  | bool false, bool false => exact ⟨rfl, List.append_cancel_left same⟩
  | num one, num two =>
      obtain ⟨values, outer⟩ := digits_cancel stops stops' same
      exact ⟨by rw [values], outer⟩
  | str one, str two =>
      obtain ⟨texts, outer⟩ := quote_cancel same
      exact ⟨by rw [texts], outer⟩
  | arr [], arr [] => exact ⟨rfl, (List.cons.inj (List.cons.inj same).2).2⟩
  | arr [], arr (two :: second) =>
      simp only [render, List.cons_append, List.append_assoc, List.cons.injEq, true_and] at same
      exact absurd same.symm (render_ne_end two _ _)
  | arr (one :: first), arr [] =>
      simp only [render, List.cons_append, List.append_assoc, List.cons.injEq, true_and] at same
      exact absurd same (render_ne_end one _ _)
  | arr (one :: first), arr (two :: second) =>
      simp only [render, List.cons_append, List.append_assoc, List.cons.injEq, true_and] at same
      obtain ⟨heads, tails⟩ := render_cancel one two _ _ (renderItems_stops first rest)
        (renderItems_stops second others) same
      obtain ⟨items, outer⟩ := renderItems_cancel first second rest others tails
      exact ⟨by rw [heads, items], outer⟩
  | obj [], obj [] => exact ⟨rfl, (List.cons.inj (List.cons.inj same).2).2⟩
  | obj [], obj ((_, _) :: _) =>
      simp only [render, quote, List.cons_append, List.cons.injEq, true_and] at same
      exact absurd same.1 (by decide)
  | obj ((_, _) :: _), obj [] =>
      simp only [render, quote, List.cons_append, List.cons.injEq, true_and] at same
      exact absurd same.1 (by decide)
  | obj ((key, one) :: first), obj ((key', two) :: second) =>
      simp only [render, List.cons_append, List.append_assoc, List.cons.injEq, true_and] at same
      obtain ⟨keys, values⟩ := quote_cancel same
      obtain ⟨heads, tails⟩ := render_cancel one two _ _ (renderMembers_stops first rest)
        (renderMembers_stops second others) (List.cons.inj values).2
      obtain ⟨members, outer⟩ := renderMembers_cancel first second rest others tails
      exact ⟨by rw [keys, heads, members], outer⟩

theorem renderItems_cancel (first second : List Json) (rest others : List Char)
    (same : renderItems first ++ rest = renderItems second ++ others) :
    first = second ∧ rest = others := by
  match first, second with
  | [], [] => exact ⟨rfl, (List.cons.inj same).2⟩
  | [], _ :: _ => exact absurd (List.cons.inj same).1 (by decide)
  | _ :: _, [] => exact absurd (List.cons.inj same).1 (by decide)
  | one :: first, two :: second =>
      simp only [renderItems, List.cons_append, List.append_assoc, List.cons.injEq,
        true_and] at same
      obtain ⟨heads, tails⟩ := render_cancel one two _ _ (renderItems_stops first rest)
        (renderItems_stops second others) same
      obtain ⟨items, outer⟩ := renderItems_cancel first second rest others tails
      exact ⟨by rw [heads, items], outer⟩

theorem renderMembers_cancel (first second : List (String × Json)) (rest others : List Char)
    (same : renderMembers first ++ rest = renderMembers second ++ others) :
    first = second ∧ rest = others := by
  match first, second with
  | [], [] => exact ⟨rfl, (List.cons.inj same).2⟩
  | [], (_, _) :: _ => exact absurd (List.cons.inj same).1 (by decide)
  | (_, _) :: _, [] => exact absurd (List.cons.inj same).1 (by decide)
  | (key, one) :: first, (key', two) :: second =>
      simp only [renderMembers, List.cons_append, List.append_assoc, List.cons.injEq,
        true_and] at same
      obtain ⟨keys, values⟩ := quote_cancel same
      obtain ⟨heads, tails⟩ := render_cancel one two _ _ (renderMembers_stops first rest)
        (renderMembers_stops second others) (List.cons.inj values).2
      obtain ⟨members, outer⟩ := renderMembers_cancel first second rest others tails
      exact ⟨by rw [keys, heads, members], outer⟩

end

theorem text_injective : Function.Injective text := by
  intro first second same
  have texts := String.ofList_injective same
  have none : Stops [] := fun _ absent => by cases absent
  exact (render_cancel first second [] [] none none (by simpa using texts)).1

end Json
