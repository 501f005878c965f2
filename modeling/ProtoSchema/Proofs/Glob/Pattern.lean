import Mathlib.Data.List.Infix
import ProtoSchema.Glob.Pattern

/-!
# What patterns stand for

A text without signs is a pattern that stands for itself. Behind such a text and a slash
there may be a part of two stars and one for the names with an ending.
-/

namespace ProtoSchema.Glob.Pattern

/-! ## Parsing -/

/-- Whether no character of a text is a sign. -/
def IsPlain (text : List Char) : Prop :=
  ∀ c ∈ text, c ≠ '?' ∧ c ≠ '*' ∧ c ≠ '['

/-- Whether what comes behind a text comes behind a slash. -/
def endsInSlash (afterSlash : Bool) : List Char → Bool
  | [] => afterSlash
  | c :: rest => endsInSlash (c == '/') rest

theorem endsInSlash_concat_slash (afterSlash : Bool) (text : List Char) :
    endsInSlash afterSlash (text ++ ['/']) = true := by
  induction text generalizing afterSlash with
  | nil => rfl
  | cons c rest ih => exact ih _

/-- A text whose start is a piece is parsed to that piece and what the text after it gives. -/
theorem parseFrom_cons {afterSlash : Bool} {c : Char} {rest after : List Char} {piece : Piece}
    (starts : ∀ position, parsePiece position afterSlash c rest = .ok (piece, after))
    (length steps : Nat) :
    parseFrom length (steps + 1) afterSlash (c :: rest) =
      (parseFrom length steps (piece == .char '/' || (piece == .anyDepth && !after.isEmpty))
        after).map (piece :: ·) := by
  rw [parseFrom, starts]
  change (parseFrom _ _ _ after >>= _) = _
  cases parseFrom length steps (piece == .char '/' || (piece == .anyDepth && !after.isEmpty)) after
    <;> rfl

/-- Characters that are no signs stand for themselves. -/
theorem parseFrom_plain {plain : List Char} (isPlain : IsPlain plain) (length steps : Nat)
    (afterSlash : Bool) (rest : List Char) :
    parseFrom length (plain.length + steps) afterSlash (plain ++ rest) =
      (parseFrom length steps (endsInSlash afterSlash plain) rest).map (plain.map .char ++ ·) := by
  induction plain generalizing afterSlash with
  | nil =>
      rw [List.length_nil, Nat.zero_add]
      cases parsed : parseFrom length steps afterSlash rest <;>
        simp [endsInSlash, parsed, Except.map]
  | cons c plain ih =>
      obtain ⟨⟨noQuestion, noStar, noBracket⟩, isPlain⟩ := List.forall_mem_cons.mp isPlain
      have starts (position : Nat) :
          parsePiece position afterSlash c (plain ++ rest) = .ok (.char c, plain ++ rest) := by
        rw [parsePiece, if_neg noQuestion, if_neg noStar, if_neg noBracket]
      have ends : (Piece.char c == .char '/' ||
          (Piece.char c == .anyDepth && !(plain ++ rest).isEmpty)) = (c == '/') := by
        rw [Bool.eq_iff_iff]
        simp
      rw [List.length_cons, Nat.add_right_comm, List.cons_append, parseFrom_cons starts, ends,
        ih isPlain]
      cases parsed : parseFrom length steps (endsInSlash (c == '/') plain) rest <;>
        simp [endsInSlash, parsed, Except.map]

theorem parseFrom_plain_end {plain : List Char} (isPlain : IsPlain plain) (length steps : Nat)
    (afterSlash : Bool) :
    parseFrom length (plain.length + steps) afterSlash plain = .ok (plain.map .char) := by
  have parsed := parseFrom_plain isPlain length steps afterSlash []
  have atEnd : parseFrom length steps (endsInSlash afterSlash plain) [] = .ok [] := by
    rw [parseFrom]
  rwa [atEnd, List.append_nil, Except.map, List.append_nil] at parsed

/-- A text without signs is the pattern of its characters. -/
theorem parse_plain {text : String} (isPlain : IsPlain text.toList) :
    parse text = .ok (text.toList.map .char) := by
  rw [parse, ← String.length_toList]
  exact parseFrom_plain_end isPlain _ 0 true

/-- A star in front of a dot is any run of characters. -/
theorem parseFrom_star (length steps : Nat) (afterSlash : Bool) (rest : List Char) :
    parseFrom length (steps + 1) afterSlash ('*' :: '.' :: rest) =
      (parseFrom length steps false ('.' :: rest)).map (.anyRun :: ·) :=
  parseFrom_cons (fun _ => rfl) length steps

/-- Two stars between slashes are directories at any depth. -/
theorem parseFrom_depth (length steps : Nat) (rest : List Char) :
    parseFrom length (steps + 1) true ('*' :: '*' :: '/' :: rest) =
      (parseFrom length steps (!rest.isEmpty) rest).map (.anyDepth :: ·) :=
  parseFrom_cons (fun _ => rfl) length steps

/-- The pattern of the names with an ending. -/
def withEnding (ending : List Char) : Pattern :=
  .anyRun :: ending.map .char

theorem isPlain_dot_cons {extension : List Char} (isPlain : IsPlain extension) :
    IsPlain ('.' :: extension) :=
  List.forall_mem_cons.mpr ⟨by decide, isPlain⟩

theorem parse_withEnding {extension : String} (isPlain : IsPlain extension.toList) :
    parse ("*." ++ extension) = .ok (withEnding ('.' :: extension.toList)) := by
  have text : ("*." ++ extension).toList = '*' :: '.' :: extension.toList := by
    rw [String.toList_append]
    rfl
  have rest (length : Nat) : parseFrom length ('.' :: extension.toList).length false
      ('.' :: extension.toList) = .ok _ :=
    parseFrom_plain_end (isPlain_dot_cons isPlain) length 0 false
  rw [parse, ← String.length_toList, text, List.length_cons, parseFrom_star, rest]
  rfl

/-- The search for an extension at any depth below a plain path is a pattern. -/
theorem exists_parse_eq {directory extension : List Char}
    (plainDirectory : IsPlain (directory ++ ['/'])) (plainExtension : IsPlain extension) :
    ∃ pattern, parse (String.ofList (directory ++ '/' :: '*' :: '*' :: '/' :: '*' :: '.' ::
      extension)) = .ok pattern := by
  have cut : directory ++ '/' :: '*' :: '*' :: '/' :: '*' :: '.' :: extension =
      directory ++ ['/'] ++ ('*' :: '*' :: '/' :: '*' :: '.' :: extension) := by
    rw [List.append_assoc, List.singleton_append]
  have size : (directory ++ '/' :: '*' :: '*' :: '/' :: '*' :: '.' :: extension).length =
      (directory ++ ['/']).length + (('.' :: extension).length + 2 + 1 + 1) := by
    simp only [List.length_append, List.length_cons, List.length_nil]
    omega
  have rest := parseFrom_plain_end (isPlain_dot_cons plainExtension)
  rw [parse, String.length_ofList, String.toList_ofList, size, cut,
    parseFrom_plain plainDirectory, endsInSlash_concat_slash, parseFrom_depth, List.isEmpty_cons,
    Bool.not_false, parseFrom_star, rest]
  exact ⟨_, rfl⟩

/-! ## Fitting -/

theorem isAnyDepth_chars (name : List Char) : isAnyDepth (name.map .char) = false := by
  simp [isAnyDepth]

theorem literal?_chars (name : List Char) : literal? (name.map .char) = some name := by
  induction name with
  | nil => rfl
  | cons c rest ih => rw [List.map_cons, literal?, ih, Option.map_some]

theorem someTail_iff {test : List Char → Bool} {text : List Char} :
    someTail test text = true ↔ ∃ tail, tail <:+ text ∧ test tail = true := by
  induction text with
  | nil => simp [someTail]
  | cons c rest ih =>
      rw [someTail, Bool.or_eq_true, ih]
      simp only [List.suffix_cons_iff, or_and_right, exists_or, exists_eq_left]

theorem fits_chars {name text : List Char} : fits (name.map .char) text = true ↔ text = name := by
  induction name generalizing text with
  | nil => cases text <;> simp [fits]
  | cons c rest ih => cases text <;> simp [fits, ih]

theorem isAnyDepth_withEnding (ending : List Char) : isAnyDepth (withEnding ending) = false := by
  simp [isAnyDepth, withEnding]

theorem fits_withEnding {ending name : List Char} :
    fits (withEnding ending) name = true ↔ ending <:+ name := by
  rw [withEnding, fits, someTail_iff]
  constructor
  · rintro ⟨tail, suffix, fitting⟩
    exact fits_chars.mp fitting ▸ suffix
  · exact fun suffix => ⟨ending, suffix, fits_chars.mpr rfl⟩

end ProtoSchema.Glob.Pattern
