import NousKernel.Sha256

/-!
Streams of bytes that arrive in chunks of any size, reads of an exact number of bytes,
and numbers as their big-endian bytes.
-/

set_option autoImplicit false

namespace ByteStream

/-- What arrives at once is never empty: a read of no bytes means the end. -/
structure Chunk where
  bytes : List UInt8
  nonempty : bytes ≠ []
  deriving DecidableEq, Repr

/-- All the bytes that arrive. -/
def content (chunks : List Chunk) : List UInt8 := chunks.flatMap (·.bytes)

/-- What is left of a chunk after some of its bytes. -/
def Chunk.after (chunk : Chunk) (count : Nat) (inside : count < chunk.bytes.length) : Chunk where
  bytes := chunk.bytes.drop count
  nonempty := by
    intro empty
    have short := List.drop_eq_nil_iff.mp empty
    omega

/-- Reads go on until the count is reached; what a chunk has left over stays. -/
def readExact : Nat → List Chunk → Option (List UInt8 × List Chunk)
  | 0, chunks => some ([], chunks)
  | _ + 1, [] => none
  | count + 1, chunk :: rest =>
      if within : chunk.bytes.length ≤ count + 1 then
        (readExact (count + 1 - chunk.bytes.length) rest).map fun (bytes, after) =>
          (chunk.bytes ++ bytes, after)
      else
        some (chunk.bytes.take (count + 1), chunk.after (count + 1) (by omega) :: rest)

@[simp] theorem content_nil : content [] = [] := rfl

@[simp] theorem content_cons (chunk : Chunk) (rest : List Chunk) :
    content (chunk :: rest) = chunk.bytes ++ content rest := List.flatMap_cons

/-- Only the bytes matter, not how they arrive. -/
theorem readExact_some {count : Nat} {chunks : List Chunk}
    (enough : count ≤ (content chunks).length) :
    ∃ rest, readExact count chunks = some ((content chunks).take count, rest) ∧
      content rest = (content chunks).drop count := by
  induction chunks generalizing count with
  | nil =>
      have zero : count = 0 := by simpa using enough
      subst zero
      exact ⟨[], rfl, rfl⟩
  | cons chunk later ih =>
      cases count with
      | zero => exact ⟨chunk :: later, rfl, rfl⟩
      | succ count =>
          rw [content_cons, List.length_append] at enough
          rw [content_cons]
          by_cases within : chunk.bytes.length ≤ count + 1
          · have remains : count + 1 - chunk.bytes.length ≤ (content later).length := by omega
            obtain ⟨rest, read, left⟩ := ih remains
            refine ⟨rest, ?_, ?_⟩
            · rw [readExact, dif_pos within, read, Option.map_some, List.take_append,
                List.take_of_length_le within]
            · rw [left, List.drop_append, List.drop_eq_nil_of_le within, List.nil_append]
          · have inside : count + 1 ≤ chunk.bytes.length := by omega
            refine ⟨chunk.after (count + 1) (by omega) :: later, ?_, ?_⟩
            · rw [readExact, dif_neg within, List.take_append_of_le_length inside]
            · rw [content_cons, List.drop_append_of_le_length inside]
              rfl

theorem readExact_none {count : Nat} {chunks : List Chunk}
    (short : (content chunks).length < count) : readExact count chunks = none := by
  induction chunks generalizing count with
  | nil =>
      cases count with
      | zero => exact absurd short (Nat.not_lt_zero _)
      | succ count => rfl
  | cons chunk later ih =>
      cases count with
      | zero => exact absurd short (Nat.not_lt_zero _)
      | succ count =>
          rw [content_cons, List.length_append] at short
          have within : chunk.bytes.length ≤ count + 1 := by omega
          have still : (content later).length < count + 1 - chunk.bytes.length := by omega
          rw [readExact, dif_pos within, ih still, Option.map_none]

theorem readExact_content {count : Nat} {chunks rest : List Chunk} {bytes : List UInt8}
    (read : readExact count chunks = some (bytes, rest)) :
    bytes.length = count ∧ content chunks = bytes ++ content rest := by
  by_cases enough : count ≤ (content chunks).length
  · obtain ⟨after, found, left⟩ := readExact_some enough
    rw [found] at read
    cases read
    rw [left]
    exact ⟨List.length_take_of_le enough, (List.take_append_drop _ _).symm⟩
  · rw [readExact_none (by omega)] at read
    cases read

/-- A read that takes the first part of what arrives. -/
theorem readExact_append {chunks : List Chunk} {front back : List UInt8}
    (arrives : content chunks = front ++ back) :
    ∃ rest, readExact front.length chunks = some (front, rest) ∧ content rest = back := by
  have enough : front.length ≤ (content chunks).length := by
    rw [arrives, List.length_append]
    omega
  obtain ⟨rest, read, left⟩ := readExact_some enough
  rw [arrives, List.take_left] at read
  rw [arrives, List.drop_left] at left
  exact ⟨rest, read, left⟩

/-! ### Big-endian numbers -/

def ofBigEndian (bytes : List UInt8) : Nat :=
  bytes.foldl (fun value byte => 256 * value + byte.toNat) 0

theorem bigEndian_succ (width value : Nat) :
    Sha256.bigEndian (width + 1) value =
      Sha256.bigEndian width (value / 256) ++ [UInt8.ofNat value] := by
  unfold Sha256.bigEndian
  rw [List.range_succ_eq_map, List.reverse_cons, List.map_append, ← List.map_reverse,
    List.map_map]
  have shifted : ∀ index, value / 256 ^ (index + 1) = value / 256 / 256 ^ index := by
    intro index
    rw [Nat.pow_succ', Nat.div_div_eq_div_mul]
  simp [Function.comp_def, shifted]

theorem ofBigEndian_bigEndian (width value : Nat) :
    ofBigEndian (Sha256.bigEndian width value) = value % 256 ^ width := by
  induction width generalizing value with
  | zero => simp [Sha256.bigEndian, ofBigEndian, Nat.mod_one]
  | succ width ih =>
      have front : ofBigEndian (Sha256.bigEndian (width + 1) value) =
          256 * ofBigEndian (Sha256.bigEndian width (value / 256)) + value % 256 := by
        rw [bigEndian_succ]
        simp [ofBigEndian]
      rw [front, ih, Nat.pow_succ']
      have split := Nat.mod_mul (x := value) (a := 256) (b := 256 ^ width)
      omega

end ByteStream
