import Mathlib.Data.List.Infix
import NousKernel.ByteStream

/-!
Streams of frames, each the length of a body in four bytes and the body, and readers that
take one frame in pieces: how many bytes a reader still waits for, where in the frames it
began, and what it finds if it did not begin at a frame or if a frame was cut short.
-/

set_option autoImplicit false

namespace ByteStream

/-- The length is cast to 32 bits. -/
def frame (body : List UInt8) : List UInt8 :=
  Sha256.bigEndian 4 (body.length % 2 ^ 32) ++ body

/-- How many bytes a reader of one frame waits for. A length over the limit ends its read. -/
def wanted (limit : Nat) (got : List UInt8) : Nat :=
  if got.length < 4 then 4 - got.length
  else if limit < ofBigEndian (got.take 4) then 0
  else 4 + ofBigEndian (got.take 4) - got.length

/-- A reader that never took more than it waited for. -/
def Within (limit : Nat) (got : List UInt8) : Prop :=
  got.length ≤ 4 ∨
    (ofBigEndian (got.take 4) ≤ limit ∧ got.length ≤ 4 + ofBigEndian (got.take 4))

section Reader

variable {limit : Nat} {got piece : List UInt8}

theorem within_nil : Within limit [] := .inl (Nat.zero_le 4)

theorem within_append (within : Within limit got) (taken : piece.length ≤ wanted limit got) :
    Within limit (got ++ piece) := by
  unfold wanted at taken
  by_cases short : got.length < 4
  · rw [if_pos short] at taken
    left
    rw [List.length_append]
    omega
  · rw [if_neg short] at taken
    have front : (got ++ piece).take 4 = got.take 4 :=
      List.take_append_of_le_length (by omega)
    by_cases excess : limit < ofBigEndian (got.take 4)
    · rw [if_pos excess] at taken
      have empty : piece = [] := List.eq_nil_of_length_eq_zero (by omega)
      rw [empty, List.append_nil]
      exact within
    · rw [if_neg excess] at taken
      have bound : got.length ≤ 4 + ofBigEndian (got.take 4) := by
        rcases within with header | body
        · omega
        · exact body.2
      right
      rw [front, List.length_append]
      omega

/-- A read that is over has seen a length over the limit, or all of a body. -/
theorem wanted_zero (within : Within limit got) (spent : wanted limit got = 0) :
    (got.length = 4 ∧ limit < ofBigEndian (got.take 4)) ∨
      (ofBigEndian (got.take 4) ≤ limit ∧ got.length = 4 + ofBigEndian (got.take 4)) := by
  unfold wanted at spent
  by_cases short : got.length < 4
  · rw [if_pos short] at spent
    omega
  · rw [if_neg short] at spent
    by_cases excess : limit < ofBigEndian (got.take 4)
    · left
      rcases within with header | body
      · omega
      · omega
    · rw [if_neg excess] at spent
      right
      rcases within with header | body
      · omega
      · omega

end Reader

/-! ### A reader that begins at a frame -/

theorem length_frame (body : List UInt8) : (frame body).length = 4 + body.length := by
  rw [frame, List.length_append, Sha256.length_bigEndian]

theorem ofBigEndian_frame {body : List UInt8} (later : List UInt8) :
    ofBigEndian ((frame body ++ later).take 4) = body.length % 2 ^ 32 := by
  have header : (Sha256.bigEndian 4 (body.length % 2 ^ 32)).length = 4 :=
    Sha256.length_bigEndian 4 _
  rw [frame, List.append_assoc, List.take_left' header, ofBigEndian_bigEndian]
  omega

section Aligned

variable {limit : Nat} {got later rest body : List UInt8}

theorem take_four (long : 4 ≤ got.length) (reads : got ++ rest = frame body ++ later) :
    ofBigEndian (got.take 4) = body.length % 2 ^ 32 := by
  have front : (got ++ rest).take 4 = got.take 4 := List.take_append_of_le_length long
  rw [← front, reads]
  exact ofBigEndian_frame later

/-- It takes nothing behind the frame. -/
theorem aligned_prefix (small : body.length < 2 ^ 32) (within : Within limit got)
    (reads : got ++ rest = frame body ++ later) : got <+: frame body := by
  have size := length_frame body
  have cast : body.length % 2 ^ 32 = body.length := Nat.mod_eq_of_lt small
  have bound : got.length ≤ (frame body).length := by
    by_cases long : 4 ≤ got.length
    · have length := take_four long reads
      rcases within with header | ⟨_, whole⟩
      · omega
      · omega
    · omega
  exact List.prefix_of_prefix_length_le ⟨rest, reads⟩ ⟨later, rfl⟩ bound

/-- It waits for what is left of the frame, first of its length. -/
theorem aligned_wanted (small : body.length < 2 ^ 32) (fits : body.length ≤ limit)
    (reads : got <+: frame body) :
    wanted limit got + got.length = if got.length < 4 then 4 else (frame body).length := by
  obtain ⟨rest, reads⟩ := reads
  have size := length_frame body
  have cast : body.length % 2 ^ 32 = body.length := Nat.mod_eq_of_lt small
  have total := congrArg List.length reads
  rw [List.length_append] at total
  unfold wanted
  by_cases short : got.length < 4
  · rw [if_pos short, if_pos short]
    omega
  · have length := take_four (by omega) (reads.trans (List.append_nil _).symm)
    rw [if_neg short, if_neg (by omega), if_neg short]
    omega

end Aligned

/-! ### A reader that begins anywhere -/

/-- A position in a stream of frames that is not its end lies in one of the frames. -/
theorem located {frames : List (List UInt8)} {before after : List UInt8}
    (split : before ++ after = frames.flatten) (inside : after ≠ []) :
    ∃ earlier found later inner, frames = earlier ++ found :: later ∧ inner < found.length ∧
      before = earlier.flatten ++ found.take inner ∧
      after = found.drop inner ++ later.flatten := by
  induction frames generalizing before with
  | nil =>
      rw [List.flatten_nil, List.append_eq_nil_iff] at split
      exact absurd split.2 inside
  | cons first others ih =>
      rw [List.flatten_cons] at split
      by_cases here : before.length < first.length
      · have front : before <+: first :=
          List.prefix_of_prefix_length_le ⟨after, split⟩ ⟨others.flatten, rfl⟩ (by omega)
        obtain ⟨tail, rfl⟩ := front
        rw [List.append_assoc] at split
        have same := List.append_cancel_left split
        refine ⟨[], before ++ tail, others, before.length, rfl, here, ?_, ?_⟩
        · rw [List.take_left, List.flatten_nil, List.nil_append]
        · rw [List.drop_left]
          exact same
      · have front : first <+: before :=
          List.prefix_of_prefix_length_le ⟨others.flatten, rfl⟩ ⟨after, split⟩ (by omega)
        obtain ⟨tail, rfl⟩ := front
        rw [List.append_assoc] at split
        obtain ⟨earlier, found, later, inner, rfl, within, place, left⟩ :=
          ih (List.append_cancel_left split)
        refine ⟨first :: earlier, found, later, inner, rfl, within, ?_, left⟩
        rw [place, List.flatten_cons, List.append_assoc]

/-- A number of four bytes is at least its first byte's worth. -/
theorem ofBigEndian_first {bytes : List UInt8} {first : UInt8} (four : bytes.length = 4)
    (head : bytes[0]? = some first) : first.toNat * 2 ^ 24 ≤ ofBigEndian bytes := by
  match bytes, four with
  | [a, b, c, d], _ =>
      cases head
      simp only [ofBigEndian, List.foldl_cons, List.foldl_nil]
      omega

section Misaligned

variable {limit inner : Nat} {got later body : List UInt8}

/-- Behind the first byte of a frame whose body has no control characters, a length is
within the limit only if it began in the length of the frame, and then the text that
follows is a piece of the body from its second, third or fourth byte on. -/
theorem misaligned (small : limit < 32 * 2 ^ 24) (long : 4 ≤ body.length)
    (printable : ∀ byte ∈ body, 32 ≤ byte.toNat) (began : 0 < inner)
    (inside : inner < (frame body).length) (reads : got <+: (frame body).drop inner ++ later)
    (whole : 4 ≤ got.length) (within : ofBigEndian (got.take 4) ≤ limit) :
    inner < 4 ∧ (4 < got.length → got[4]? = body[inner]?) := by
  have size := length_frame body
  obtain ⟨rest, reads⟩ := reads
  have behind : ∀ index, index < got.length → inner + index < (frame body).length →
      got[index]? = (frame body)[inner + index]? := by
    intro index taken within
    have left : index < ((frame body).drop inner).length := by
      rw [List.length_drop]
      omega
    have whole : got[index]? = (got ++ rest)[index]? := (List.getElem?_append_left taken).symm
    rw [whole, reads, List.getElem?_append_left left, List.getElem?_drop]
  have bodyAt : ∀ index, (frame body)[4 + index]? = body[index]? := by
    intro index
    rw [frame, List.getElem?_append_right (by rw [Sha256.length_bigEndian]; omega),
      Sha256.length_bigEndian, Nat.add_sub_cancel_left]
  have early : inner < 4 := by
    by_contra late
    have place : inner - 4 < body.length := by omega
    have first : (got.take 4)[0]? = some body[inner - 4] := by
      rw [List.getElem?_take_of_lt (by omega), behind 0 (by omega) (by omega),
        show inner + 0 = 4 + (inner - 4) by omega, bodyAt, List.getElem?_eq_getElem place]
    have four : (got.take 4).length = 4 := List.length_take_of_le whole
    have large := ofBigEndian_first four first
    have shown := printable body[inner - 4] (List.getElem_mem place)
    omega
  refine ⟨early, ?_⟩
  intro more
  rw [behind 4 more (by omega), Nat.add_comm inner 4, bodyAt]

end Misaligned

/-! ### A reader behind a frame that was cut short -/

/-- Bodies, and the texts that are accepted as bodies. No text is empty or has a control
character other than the blanks, and up to three bytes before the front of a body are a
text only if they are blanks before the whole body. -/
structure Seamless (Body Accepts : List UInt8 → Prop) : Prop where
  some : ¬Accepts []
  printed : ∀ text, Accepts text → ∀ byte ∈ text, 9 ≤ byte.toNat
  whole : ∀ body before front, Body body → before.length < 4 → front <+: body →
    Accepts (before ++ front) → front = body ∧ ∀ byte ∈ before, byte.toNat ≤ 32

/-- The front of a frame, or all of it. -/
structure Piece (limit : Nat) (Body : List UInt8 → Prop) (piece : List UInt8) : Prop where
  some : piece ≠ []
  front : ∃ body, Body body ∧ body.length ≤ limit ∧ piece <+: frame body

/-- A frame that was cut short, and what was written behind it. -/
inductive Torn (limit : Nat) (Body : List UInt8 → Prop) : List (List UInt8) → Prop
  | cut {body piece : List UInt8} {later : List (List UInt8)} (sent : Body body)
      (fits : body.length ≤ limit) (some : piece ≠ []) (front : piece <+: frame body)
      (short : piece.length < (frame body).length)
      (others : ∀ piece ∈ later, Piece limit Body piece) : Torn limit Body (piece :: later)

section Short

variable {limit : Nat} {Body Accepts : List UInt8 → Prop} {pieces : List (List UInt8)}
  {start got rest : List UInt8}

theorem Torn.begun (torn : Torn limit Body pieces) : ∀ piece ∈ pieces, Piece limit Body piece := by
  cases torn with
  | cut sent fits some front short others =>
      intro piece member
      rcases List.mem_cons.mp member with rfl | member
      · exact ⟨some, _, sent, fits, front⟩
      · exact others piece member

theorem ofBigEndian_header {body : List UInt8} (small : body.length < 2 ^ 32) :
    ofBigEndian (Sha256.bigEndian 4 (body.length % 2 ^ 32)) = body.length := by
  rw [ofBigEndian_bigEndian]
  omega

/-- Frames begin with the highest byte of their length. -/
theorem Piece.first (small : limit ≤ 2 ^ 24) (begun : Piece limit Body start) :
    ∃ first : UInt8, start[0]? = .some first ∧ first.toNat ≤ 1 := by
  obtain ⟨some, body, -, fits, front⟩ := begun
  obtain ⟨first, others, rfl⟩ := List.exists_cons_of_ne_nil some
  refine ⟨first, rfl, ?_⟩
  obtain ⟨behind, split⟩ := front
  have header : (Sha256.bigEndian 4 (body.length % 2 ^ 32)).length = 4 :=
    Sha256.length_bigEndian 4 _
  have head : (Sha256.bigEndian 4 (body.length % 2 ^ 32))[0]? = .some first := by
    have joined : (frame body)[0]? = (Sha256.bigEndian 4 (body.length % 2 ^ 32))[0]? :=
      List.getElem?_append_left (by omega)
    rw [← joined, ← split]
    rfl
  have worth := ofBigEndian_first header head
  rw [ofBigEndian_header (by omega)] at worth
  omega

/-- A text does not reach into the next frame, whose length begins with a control character. -/
theorem Seamless.before (seamless : Seamless Body Accepts) (small : limit ≤ 2 ^ 24)
    (begun : ∀ piece ∈ pieces, Piece limit Body piece) {text front : List UInt8}
    (accepted : Accepts text) (reads : text ++ rest = front ++ pieces.flatten) :
    text <+: front := by
  by_cases inside : text.length ≤ front.length
  · exact List.prefix_of_prefix_length_le ⟨rest, reads⟩ ⟨pieces.flatten, rfl⟩ inside
  · have ahead : front <+: text :=
      List.prefix_of_prefix_length_le ⟨pieces.flatten, rfl⟩ ⟨rest, reads⟩ (by omega)
    obtain ⟨more, rfl⟩ := ahead
    rw [List.append_assoc, List.append_cancel_left_eq] at reads
    cases pieces with
    | nil =>
        rw [List.flatten_nil, List.append_eq_nil_iff] at reads
        simp [reads.1] at inside
    | cons piece later =>
        obtain ⟨first, head, low⟩ := (begun piece List.mem_cons_self).first small
        obtain ⟨next, others, rfl⟩ := List.exists_cons_of_ne_nil (l := more) (by
          rintro rfl
          simp at inside)
        obtain ⟨start, tail, rfl⟩ := List.exists_cons_of_ne_nil (begun piece List.mem_cons_self).some
        cases head
        rw [List.flatten_cons, List.cons_append, List.cons_append, List.cons.injEq] at reads
        have high := seamless.printed _ accepted next
          (List.mem_append_right _ List.mem_cons_self)
        rw [reads.1] at high
        omega

/-- A length that ends within the length of a frame is not the one of the blanks that
follow and the body. -/
theorem length_apart {length header : List UInt8} {inner size : Nat} (four : length.length = 4)
    (four' : header.length = 4) (value : ofBigEndian header = size) (small : size ≤ 2 ^ 24)
    (began : 0 < inner) (within : inner < 4) (shared : length.drop (4 - inner) = header.take inner)
    (blank : ∀ byte ∈ header.drop inner, 9 ≤ byte.toNat ∧ byte.toNat ≤ 32) :
    ofBigEndian length ≠ 4 - inner + size := by
  obtain ⟨a, b, c, d, rfl⟩ := List.length_eq_four.mp four
  obtain ⟨e, f, g, h, rfl⟩ := List.length_eq_four.mp four'
  simp only [ofBigEndian, List.foldl_cons, List.foldl_nil] at value ⊢
  have cases : inner = 1 ∨ inner = 2 ∨ inner = 3 := by omega
  have last : 9 ≤ h.toNat ∧ h.toNat ≤ 32 := blank h (by
    rcases cases with rfl | rfl | rfl <;> simp)
  have highest : e.toNat = 0 := by omega
  rcases cases with rfl | rfl | rfl
  · simp only [Nat.add_one_sub_one, List.drop_succ_cons, List.drop_zero,
      List.take_succ_cons, List.take_zero, List.cons.injEq, and_true] at shared
    subst shared
    omega
  · intro same
    have third := blank g (by simp)
    simp only [List.drop_succ_cons, List.drop_zero, List.take_succ_cons, List.take_zero,
      List.cons.injEq, and_true] at shared
    obtain ⟨rfl, rfl⟩ := shared
    have bound := d.toNat_lt
    rcases Nat.lt_trichotomy (256 * a.toNat + b.toNat) d.toNat with less | even | more
    · omega
    · omega
    · omega
  · simp only [List.drop_succ_cons, List.drop_zero, List.take_succ_cons, List.take_zero,
      List.cons.injEq, and_true] at shared
    obtain ⟨rfl, rfl, rfl⟩ := shared
    intro same
    have first := c.toNat_lt
    have second := d.toNat_lt
    have none : a.toNat = 0 := by omega
    omega

/-- The header and the body of a frame, from a byte of the header on. -/
theorem drop_frame {body : List UInt8} {inner : Nat} (within : inner ≤ 4) :
    (frame body).drop inner =
      (Sha256.bigEndian 4 (body.length % 2 ^ 32)).drop inner ++ body := by
  rw [frame, List.drop_append_of_le_length (by rw [Sha256.length_bigEndian]; exact within)]

theorem Seamless.exists_printed (seamless : Seamless Body Accepts) {text : List UInt8}
    (accepted : Accepts text) : ∃ byte ∈ text, byte ≠ 0 := by
  cases text with
  | nil => exact absurd accepted seamless.some
  | cons first others =>
      have high := seamless.printed _ accepted first List.mem_cons_self
      refine ⟨first, List.mem_cons_self, ?_⟩
      rintro rfl
      exact absurd high (by decide)

/-- A text that begins in the length of a frame is not as long as the bytes before it say. -/
theorem Piece.refused_header (seamless : Seamless Body Accepts) (small : limit ≤ 2 ^ 24)
    (begun : Piece limit Body start) {length text : List UInt8} {inner : Nat}
    (four : length.length = 4) (began : 0 < inner) (within : inner < 4)
    (inside : inner < start.length) (shared : length.drop (4 - inner) = start.take inner)
    (ahead : text <+: start.drop inner) (accepted : Accepts text) :
    text.length ≠ ofBigEndian length := by
  obtain ⟨-, body, sent, fits, front⟩ := begun
  have header : (Sha256.bigEndian 4 (body.length % 2 ^ 32)).length = 4 :=
    Sha256.length_bigEndian 4 _
  have back : ((Sha256.bigEndian 4 (body.length % 2 ^ 32)).drop inner).length = 4 - inner := by
    rw [List.length_drop, header]
  have reached : text <+: (Sha256.bigEndian 4 (body.length % 2 ^ 32)).drop inner ++ body := by
    rw [← drop_frame (by omega)]
    exact ahead.trans (front.drop inner)
  have behind : text.drop (4 - inner) <+: body := by
    have moved := reached.drop (4 - inner)
    rwa [List.drop_left' back] at moved
  obtain ⟨all, blank⟩ := seamless.whole body (text.take (4 - inner)) _ sent
    (by rw [List.length_take]; omega) behind (by rwa [List.take_append_drop])
  by_cases empty : body = []
  · -- The length of no body is made of control characters.
    subst empty
    obtain ⟨byte, member, printed⟩ := seamless.exists_printed accepted
    have zero : Sha256.bigEndian 4 (([] : List UInt8).length % 2 ^ 32) = [0, 0, 0, 0] := rfl
    rw [List.append_nil, zero] at reached
    have inside := List.mem_of_mem_drop (reached.subset member)
    have low : byte = 0 := by simpa using inside
    exact absurd low printed
  · have long : text.length = 4 - inner + body.length := by
      have size := congrArg List.length all
      have some := List.length_pos_of_ne_nil empty
      rw [List.length_drop] at size
      omega
    have blanks : text.take (4 - inner) =
        (Sha256.bigEndian 4 (body.length % 2 ^ 32)).drop inner := by
      have same := reached.take (4 - inner)
      rw [List.take_left' back] at same
      apply same.eq_of_length
      rw [List.length_take, back]
      omega
    have own : length.drop (4 - inner) =
        (Sha256.bigEndian 4 (body.length % 2 ^ 32)).take inner := by
      have same := front.take inner
      rw [frame, List.take_append_of_le_length (by omega)] at same
      rw [shared]
      apply same.eq_of_length
      rw [List.length_take, List.length_take]
      omega
    rw [long]
    refine (length_apart four header (ofBigEndian_header (by omega)) (by omega) began within own
      ?_).symm
    intro byte member
    rw [← blanks] at member
    exact ⟨seamless.printed _ accepted byte (List.mem_of_mem_take member), blank byte member⟩

/-- A text that begins at the body that was cut short is not as long as that body. -/
theorem Torn.refused_body {found : List UInt8} {later : List (List UInt8)}
    (torn : Torn limit Body (found :: later)) (small : limit < 2 ^ 32) {text : List UInt8}
    (long : 4 ≤ found.length) (ahead : text <+: found.drop 4) :
    text.length ≠ ofBigEndian (found.take 4) := by
  cases torn with
  | @cut body _ _ sent fits some front short others =>
      have header : found.take 4 = Sha256.bigEndian 4 (body.length % 2 ^ 32) := by
        have same := front.take 4
        rw [frame, List.take_left' (Sha256.length_bigEndian 4 _)] at same
        apply same.eq_of_length
        rw [List.length_take_of_le long, Sha256.length_bigEndian]
      have reach := ahead.length_le
      have size := length_frame body
      rw [header, ofBigEndian_header (by omega)]
      rw [List.length_drop] at reach
      omega

/-- No text that is read from where a frame was cut short is accepted. -/
theorem Torn.refused (seamless : Seamless Body Accepts) (small : limit ≤ 2 ^ 24)
    (torn : Torn limit Body pieces) (reads : got ++ rest = pieces.flatten)
    (whole : got.length = 4 + ofBigEndian (got.take 4)) : ¬Accepts (got.drop 4) := by
  intro accepted
  have four : (got.take 4).length = 4 := List.length_take_of_le (by omega)
  have size : (got.drop 4).length = ofBigEndian (got.take 4) := by
    rw [List.length_drop]
    omega
  have some : got.drop 4 ≠ [] := fun empty => seamless.some (empty ▸ accepted)
  have split : got.take 4 ++ (got.drop 4 ++ rest) = pieces.flatten := by
    rw [← List.append_assoc, List.take_append_drop, reads]
  have begun := torn.begun
  obtain ⟨earlier, found, later, inner, rfl, inside, length, place⟩ :=
    located split (List.append_ne_nil_of_left_ne_nil some rest)
  have total := congrArg List.length length
  rw [four, List.length_append, List.length_take, Nat.min_eq_left (by omega)] at total
  -- The text ends where the piece does in which it begins.
  have ahead : got.drop 4 <+: found.drop inner := by
    refine seamless.before small ?_ accepted place
    intro piece member
    exact begun piece (List.mem_append_right _ (List.mem_cons_of_mem _ member))
  by_cases atFrame : inner = 0
  · subst atFrame
    have again : got.drop 4 ++ rest = [] ++ (found :: later).flatten := place
    have none := seamless.before small (by
      intro piece member
      exact begun piece (List.mem_append_right _ member)) accepted again
    exact some (List.prefix_nil.mp none)
  · by_cases atBody : inner = 4
    · subst atBody
      cases earlier with
      | nil =>
          rw [List.flatten_nil, List.nil_append] at length
          rw [length] at size
          exact torn.refused_body (by omega) (by omega) ahead size
      | cons piece others =>
          have some := List.length_pos_of_ne_nil (begun piece List.mem_cons_self).some
          rw [List.flatten_cons, List.length_append] at total
          omega
    · have start := begun found (List.mem_append_right _ List.mem_cons_self)
      refine start.refused_header seamless small four (by omega) (by omega) inside ?_ ahead
        accepted size
      rw [length, List.drop_left' (by omega)]

end Short

/-! ### A writer of pieces -/

/-- The pieces are written but for what is left of the last one. -/
structure Written (written left : List UInt8) (pieces : List (List UInt8)) : Prop where
  all : written ++ left = pieces.flatten
  last : left ≠ [] → ∃ front begun, pieces = front ++ [begun ++ left]

namespace Written

variable {written left piece : List UInt8} {pieces : List (List UInt8)}

theorem begin (whole : Written written [] pieces) (piece : List UInt8) :
    Written written piece (pieces ++ [piece]) where
  all := by
    have before := whole.all
    rw [List.append_nil] at before
    rw [before, List.flatten_append, List.flatten_cons, List.flatten_nil, List.append_nil]
  last := fun _ => ⟨pieces, [], rfl⟩

theorem go (under : Written written left pieces) (count : Nat) :
    Written (written ++ left.take count) (left.drop count) pieces where
  all := by rw [List.append_assoc, List.take_append_drop, under.all]
  last := by
    intro more
    obtain ⟨front, begun, rfl⟩ := under.last (by
      rintro rfl
      simp at more)
    exact ⟨front, begun ++ left.take count, by rw [List.append_assoc, List.take_append_drop]⟩

/-- What is left of the last piece is never written. -/
theorem giveUp (under : Written written left pieces) (more : left ≠ []) :
    ∃ front begun, pieces = front ++ [begun ++ left] ∧ Written written [] (front ++ [begun]) := by
  obtain ⟨front, begun, rfl⟩ := under.last more
  refine ⟨front, begun, rfl, ?_, fun some => absurd rfl some⟩
  have all := under.all
  simp only [List.flatten_append, List.flatten_cons, List.flatten_nil, List.append_nil,
    ← List.append_assoc] at all ⊢
  exact List.append_cancel_right all

/-- An empty piece is none. -/
theorem skip (under : Written written [] (pieces ++ [[]])) : Written written [] pieces where
  all := by simpa using under.all
  last := fun some => absurd rfl some

/-- The first piece is taken away. -/
theorem taken (under : Written (piece ++ written) left (piece :: pieces)) :
    Written written left pieces where
  all := by
    have all := under.all
    rw [List.append_assoc, List.flatten_cons] at all
    exact List.append_cancel_left all
  last := by
    intro more
    obtain ⟨front, begun, parts⟩ := under.last more
    cases front with
    | nil =>
        -- The piece that is taken away is whole.
        obtain ⟨rfl, rfl⟩ := List.cons.inj parts
        have all := congrArg List.length under.all
        simp only [List.flatten_cons, List.flatten_nil, List.length_append, List.append_nil] at all
        exact absurd (List.eq_nil_of_length_eq_zero (by omega)) more
    | cons first front => exact ⟨front, begun, (List.cons.inj parts).2⟩

end Written

end ByteStream
