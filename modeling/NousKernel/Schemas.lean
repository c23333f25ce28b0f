import Mathlib.Data.Rat.Defs
import Mathlib.Algebra.Field.Rat
import NousKernel.Contracts
import NousKernel.Patterns

/-!
JSON Schema: a schema is a condition on JSON values, and each keyword speaks about the
values of one type only. Numbers count by their value, however they are written.
-/

set_option autoImplicit false

namespace NousKernel

/-- The number that a finite float stands for. -/
def Binary64.value (x : Binary64) : ℚ :=
  let exponent : Nat := x.magnitude / 2 ^ 52
  let fraction : Nat := x.magnitude % 2 ^ 52
  let mantissa : Nat := if exponent = 0 then fraction else 2 ^ 52 + fraction
  (if x.msb then -1 else 1) * mantissa * (2 : ℚ) ^ ((max exponent 1 : ℤ) - 1075)

def Number.value : Number → ℚ
  | .PosInt value => value
  | .NegInt value => value
  | .Float value => value.value

abbrev Schema : Type := Value → Prop

namespace Schema

def allOf (schemas : List Schema) : Schema := fun value => ∀ schema ∈ schemas, schema value

/-- `false`. -/
def never : Schema := fun _ => False

/-! ### Types -/

def object : Schema
  | .object _ => True
  | _ => False

def array : Schema
  | .array _ => True
  | _ => False

def string : Schema
  | .string _ => True
  | _ => False

def boolean : Schema
  | .bool _ => True
  | _ => False

def integer : Schema
  | .number number => ∃ whole : Int, number.value = whole
  | _ => False

/-! ### Keywords -/

def constNumber (expected : ℚ) : Schema
  | .number number => number.value = expected
  | _ => False

/-- `enum`, and `const` when there is one text. -/
def enum (texts : List String) : Schema
  | .string text => text ∈ texts
  | _ => False

def minLength (least : Nat) : Schema
  | .string text => least ≤ text.length
  | _ => True

def pattern (language : Language Char) : Schema
  | .string text => text.toList ∈ language
  | _ => True

def minimum (least : ℚ) : Schema
  | .number number => least ≤ number.value
  | _ => True

def maximum (most : ℚ) : Schema
  | .number number => number.value ≤ most
  | _ => True

def items (schema : Schema) : Schema
  | .array values => ∀ value ∈ values, schema value
  | _ => True

def minItems (least : Nat) : Schema
  | .array values => least ≤ values.length
  | _ => True

/-- No item twice, where the items are no numbers. -/
def uniqueItems : Schema
  | .array values => values.Nodup
  | _ => True

def required (names : List String) : Schema
  | .object members => ∀ name ∈ names, ∃ value, (name, value) ∈ members
  | _ => True

/-- `properties`, with `additionalProperties` for the members that are not declared. -/
def properties (declared : List (String × Schema)) (additional : Schema) : Schema
  | .object members =>
      (∀ property ∈ declared, ∀ value, (property.1, value) ∈ members → property.2 value) ∧
        ∀ member ∈ members, member.1 ∉ declared.map (·.1) → additional member.2
  | _ => True

/-! ### Objects -/

section Objects

variable {declared : List (String × Schema)} {additional : Schema}
  {members : List (String × Value)}

theorem allOf_cons {schema : Schema} {schemas : List Schema} {value : Value} :
    allOf (schema :: schemas) value ↔ schema value ∧ allOf schemas value := List.forall_mem_cons

theorem allOf_nil {value : Value} : allOf [] value ↔ True := by simp [allOf]

/-- Where every declared member is required, each can be looked up and meets its schema. -/
theorem required_meets (declared : List (String × Schema))
    (needs : required (declared.map (·.1)) (.object members))
    (meets : properties declared additional (.object members)) :
    ∀ property ∈ declared, ∃ value, (Value.object members).get property.1 = some value ∧
      property.2 value := by
  intro property known
  obtain ⟨value, listed⟩ := needs property.1 (List.mem_map.mpr ⟨property, known, rfl⟩)
  cases found : members.find? (·.1 = property.1) with
  | none =>
      have missed := List.find?_eq_none.mp found _ listed
      rw [decide_eq_true_eq] at missed
      exact absurd rfl missed
  | some member =>
      obtain ⟨key, other⟩ := member
      have same : key = property.1 := by simpa using List.find?_some found
      have get : (Value.object members).get property.1 = some other := by
        rw [Value.get, found, Option.map_some]
      exact ⟨other, get, meets.1 property known other (same ▸ List.mem_of_find?_eq_some found)⟩

/-- Without additional members every name is declared. -/
theorem declared_of_never (meets : properties declared never (.object members)) :
    ∀ member ∈ members, member.1 ∈ declared.map (·.1) := by
  intro member listed
  by_contra other
  exact meets.2 member listed other

end Objects

end Schema

end NousKernel
