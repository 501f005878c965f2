import ProtoSchema.Json.Printer
import ProtoSchema.Proofs.Json.Spelling

/-!
# The tokens of written JSON

Written data has the tokens that its structure asks for, wherever it stands in a text and
however deep it is laid out. A string is read back piece by piece: a control without a
letter of its own is written by its code and comes back as a code unit, and any other
character comes back as itself.
-/

namespace ProtoSchema

/-- Data without numbers in which every key is a name, as manifests are written. -/
inductive Data.IsPlain : Data → Prop
  | null : IsPlain .null
  | bool (value : Bool) : IsPlain (.bool value)
  | text (value : String) : IsPlain (.text value)
  | list {items : List Data} (plain : ∀ item ∈ items, IsPlain item) : IsPlain (.list items)
  | record {members : List (Key × Data)}
      (named : ∀ member ∈ members, ∃ name, member.1 = .name name)
      (plain : ∀ member ∈ members, IsPlain member.2) : IsPlain (.record members)

namespace Json

open LexState

/-! ## Strings -/

/-- The controls that are written with a letter. -/
def letteredControls : List Char :=
  ['\n', '\r', '\t', '\x08', '\x0c']

/-- The piece that a written character is read back as. -/
def pieceOf (c : Char) : Piece :=
  if c.toNat < 0x20 ∧ c ∉ letteredControls then .unit c.toNat else .char c

/-- The pieces that a written text is read back as. -/
def piecesOf (text : String) : List Piece :=
  text.toList.map pieceOf

theorem escapeChar_control : ∀ code < 0x20, Char.ofNat code ∉ letteredControls →
    escapeChar (Char.ofNat code) =
      ['\\', 'u', '0', '0', Nat.digitChar (code / 16), Nat.digitChar (code % 16)] := by
  decide

theorem escapeChar_of_plain {c : Char} (noControl : ¬c.toNat < 0x20) (noQuote : c ≠ '"')
    (noBackslash : c ≠ '\\') : escapeChar c = [c] := by
  have differs : ∀ control : Char, control.toNat < 0x20 → c ≠ control := by
    rintro control below rfl
    exact noControl below
  have noLowControl : ¬c.toNat < 0x10 :=
    fun below => noControl (Nat.lt_trans below (by decide))
  simp [escapeChar, noQuote, noBackslash, noControl, noLowControl, differs]

/-- A written character spells its piece. -/
theorem spells_escapeChar (c : Char) : (pieceOf c).Spells (escapeChar c) := by
  rw [pieceOf]
  split_ifs with coded
  · obtain ⟨control, noLetter⟩ := coded
    have written := escapeChar_control c.toNat control (by rwa [Char.ofNat_toNat])
    rw [Char.ofNat_toNat] at written
    have zero : Text.IsDigit 16 '0' 0 := ⟨by decide, .inl rfl⟩
    have high : Text.IsDigit 16 (c.toNat / 16).digitChar (c.toNat / 16) :=
      ⟨by omega, .inl rfl⟩
    have low : Text.IsDigit 16 (c.toNat % 16).digitChar (c.toNat % 16) :=
      ⟨by omega, .inl rfl⟩
    have code := Piece.Spells.code zero zero high low
    rw [Nat.zero_mul, Nat.zero_add, Nat.div_add_mod'] at code
    rwa [written]
  · by_cases control : c.toNat < 0x20
    · have lettered : c ∈ letteredControls := by
        by_contra noLetter
        exact coded ⟨control, noLetter⟩
      simp only [letteredControls, List.mem_cons, List.not_mem_nil, or_false] at lettered
      rcases lettered with rfl | rfl | rfl | rfl | rfl <;> exact .escape (by decide)
    · by_cases quote : c = '"'
      · subst quote
        exact .escape (by decide)
      · by_cases backslash : c = '\\'
        · subst backslash
          exact .escape (by decide)
        · rw [escapeChar_of_plain control quote backslash]
          exact .plain (Nat.le_of_not_lt control) quote backslash

/-- A written string is one token. -/
theorem tokensFrom_string (text : String) (rest : List Char) :
    tokensFrom .between ((string text).toList ++ rest) =
      .text (piecesOf text) :: tokensFrom .between rest := by
  have spelled : List.Forall₂ Piece.Spells (piecesOf text) (text.toList.map escapeChar) := by
    rw [piecesOf, List.forall₂_map_left_iff, List.forall₂_map_right_iff, List.forall₂_same]
    exact fun c _ => spells_escapeChar c
  have written : (string text).toList = '"' :: ((text.toList.map escapeChar).flatten ++ ['"']) := by
    simp [string, List.flatMap_def]
  rw [written]
  exact tokensFrom_spelled (.text spelled) trivial

theorem decode?_unit {code : Nat} (notLow : Piece.isLow code = false)
    (notHigh : Piece.isHigh code = false) (rest : List Piece) :
    Piece.decode? (.unit code :: rest) = (Piece.decode? rest).map (Char.ofNat code :: ·) := by
  rw [Piece.decode?.eq_def]
  simp [notLow, notHigh]

/-- The pieces of a written text stand for the text. -/
theorem decode?_map_pieceOf (chars : List Char) :
    Piece.decode? (chars.map pieceOf) = some chars := by
  induction chars with
  | nil => rfl
  | cons c chars ih =>
      rw [List.map_cons, pieceOf]
      split
      · rename_i coded
        have notLow : Piece.isLow c.toNat = false := by
          simp only [Piece.isLow, Bool.and_eq_false_iff, decide_eq_false_iff_not]
          omega
        have notHigh : Piece.isHigh c.toNat = false := by
          simp only [Piece.isHigh, Bool.and_eq_false_iff, decide_eq_false_iff_not]
          omega
        rw [decode?_unit notLow notHigh, ih, Char.ofNat_toNat]
        rfl
      · simp [Piece.decode?, ih]

/-! ## Data -/

/-- The text that a key is written with. -/
def keyText : Key → String
  | .name text => text
  | .position index => toString index
  | .unusable => ""

/-- The tokens of a key and the colon after it. -/
def keyTokens (key : Key) : List Token :=
  [.text (piecesOf (keyText key)), .colon]

mutual

/-- The tokens of data. A number has those of its text. -/
def tokensOf : Data → List Token
  | .null => [.null]
  | .bool value => [.bool value]
  | .number value => tokens (number value)
  | .text value => [.text (piecesOf value)]
  | .list [] => [.openList, .closeList]
  | .list (item :: items) =>
    .openList :: (tokensOf item ++ laterItemTokens items ++ [.closeList])
  | .record [] => [.openRecord, .closeRecord]
  | .record ((key, value) :: members) =>
    .openRecord :: (keyTokens key ++ tokensOf value ++ laterMemberTokens members ++ [.closeRecord])

/-- The tokens of the items after the first. -/
def laterItemTokens : List Data → List Token
  | [] => []
  | item :: items => .comma :: (tokensOf item ++ laterItemTokens items)

/-- The tokens of the members after the first. -/
def laterMemberTokens : List (Key × Data) → List Token
  | [] => []
  | (key, value) :: members =>
    .comma :: (keyTokens key ++ tokensOf value ++ laterMemberTokens members)

end

theorem tokensFrom_blanks {blanks : List Char} (blank : ∀ c ∈ blanks, isBlank c = true)
    (rest : List Char) : tokensFrom .between (blanks ++ rest) = tokensFrom .between rest := by
  induction blanks with
  | nil => rfl
  | cons c blanks ih =>
      obtain ⟨first, others⟩ := List.forall_mem_cons.mp blank
      simp [tokensFrom, step, start, first, ih others]

theorem tokensFrom_newLine (level : Nat) (rest : List Char) :
    tokensFrom .between ((newLine level).toList ++ rest) = tokensFrom .between rest := by
  apply tokensFrom_blanks
  intro c member
  simp only [newLine, String.toList_append, String.toList_ofList, List.mem_append,
    List.mem_replicate] at member
  rcases member with isBreak | ⟨_, rfl⟩
  · rw [List.mem_singleton.mp isBreak]
    rfl
  · rfl

theorem tokensFrom_key (key : Key) (rest : List Char) :
    tokensFrom .between ((Json.key key).toList ++ ':' :: ' ' :: rest) =
      keyTokens key ++ tokensFrom .between rest := by
  have written : Json.key key = string (keyText key) := by cases key <;> rfl
  rw [written, tokensFrom_string]
  rfl

/-- At a level of nesting, data is written with its tokens. -/
def WritesTokens (level : Nat) (data : Data) : Prop :=
  ∀ rest, tokensFrom .between ((prettyAt level data).toList ++ rest) =
    tokensOf data ++ tokensFrom .between rest

theorem tokensFrom_prettyItems {level : Nat} {items : List Data}
    (writes : ∀ item ∈ items, WritesTokens level item) (rest : List Char) :
    tokensFrom .between ((prettyItems level items).toList ++ rest) =
      laterItemTokens items ++ tokensFrom .between rest := by
  induction items with
  | nil =>
      rw [prettyItems, laterItemTokens]
      rfl
  | cons item items ih =>
      obtain ⟨first, others⟩ := List.forall_mem_cons.mp writes
      rw [prettyItems, laterItemTokens]
      simp [tokensFrom, step, start, isBlank, tokensFrom_newLine, first _, ih others]

theorem tokensFrom_prettyMembers {level : Nat} {members : List (Key × Data)}
    (writes : ∀ member ∈ members, WritesTokens level member.2) (rest : List Char) :
    tokensFrom .between ((prettyMembers level members).toList ++ rest) =
      laterMemberTokens members ++ tokensFrom .between rest := by
  induction members with
  | nil =>
      rw [prettyMembers, laterMemberTokens]
      rfl
  | cons member members ih =>
      obtain ⟨key, value⟩ := member
      obtain ⟨first, others⟩ := List.forall_mem_cons.mp writes
      rw [prettyMembers, laterMemberTokens]
      simp [tokensFrom, step, start, isBlank, tokensFrom_newLine, tokensFrom_key, first _,
        ih others]

theorem writesTokens_of_isPlain {data : Data} (plain : data.IsPlain) (level : Nat) :
    WritesTokens level data := by
  induction plain generalizing level with
  | null =>
      intro rest
      rw [prettyAt, tokensOf]
      rfl
  | bool value =>
      intro rest
      rw [prettyAt, tokensOf]
      cases value <;> rfl
  | text value =>
      intro rest
      rw [prettyAt, tokensOf]
      exact tokensFrom_string value rest
  | @list items plain ih =>
      intro rest
      cases items with
      | nil =>
          rw [prettyAt, tokensOf]
          rfl
      | cons item items =>
          obtain ⟨first, others⟩ := List.forall_mem_cons.mp ih
          have later := tokensFrom_prettyItems fun item member => others item member (level + 1)
          rw [prettyAt, tokensOf]
          simp [tokensFrom, step, start, isBlank, tokensFrom_newLine, first _ _, later]
  | @record members named plain ih =>
      intro rest
      cases members with
      | nil =>
          rw [prettyAt, tokensOf]
          rfl
      | cons member members =>
          obtain ⟨key, value⟩ := member
          obtain ⟨first, others⟩ := List.forall_mem_cons.mp ih
          have later :=
            tokensFrom_prettyMembers fun member inRest => others member inRest (level + 1)
          rw [prettyAt, tokensOf]
          simp [tokensFrom, step, start, isBlank, tokensFrom_newLine, tokensFrom_key, first _ _,
            later]

/-- The tokens of laid out data are its own. -/
theorem tokens_pretty {data : Data} (plain : data.IsPlain) :
    tokens (pretty data) = tokensOf data := by
  have written := writesTokens_of_isPlain plain 0 []
  rwa [List.append_nil, tokensFrom, finish, List.append_nil] at written

end Json

end ProtoSchema
