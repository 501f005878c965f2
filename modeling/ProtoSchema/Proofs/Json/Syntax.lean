import ProtoSchema.Json.Outline

/-!
# The tokens of an outline

A complete outline, one in which nothing is cut off or out of place, determines its tokens,
and the reader of tokens makes the outline of exactly these: it reads them wherever a value
is expected, and tokens of which it makes a complete outline are those of the outline. What
it has taken of a list or record that is still open shows in its state, so that the tokens
read so far can be told from it.
-/

namespace ProtoSchema.Json

namespace Outline

/-! ## Tokens -/

/-- Parts with a comma between every two. -/
def joined (parts : List (List Token)) : List Token :=
  [.comma].intercalate parts

/-- Parts with a comma after each. -/
def led (parts : List (List Token)) : List Token :=
  parts.flatMap (· ++ [.comma])

theorem joined_cons (part : List Token) (parts : List (List Token)) :
    joined (part :: parts) = part ++ parts.flatMap (.comma :: ·) := by
  induction parts generalizing part with
  | nil => simp [joined]
  | cons next parts ih =>
      have goesOn := ih next
      rw [joined] at goesOn ⊢
      rw [List.intercalate_cons_cons, goesOn, List.append_assoc, List.flatMap_cons]
      rfl

theorem joined_append_singleton (parts : List (List Token)) (part : List Token) :
    joined (parts ++ [part]) = led parts ++ part := by
  induction parts with
  | nil => simp [joined, led]
  | cons first rest ih =>
      rw [joined, led] at ih ⊢
      cases rest <;> simp_all

theorem led_append_singleton (parts : List (List Token)) (part : List Token) :
    led (parts ++ [part]) = joined (parts ++ [part]) ++ [.comma] := by
  simp [joined_append_singleton, led]

/-- The token of a key. One that is no text has none. -/
def keyTokens : OutlineKey → List Token
  | .text pieces => [.text pieces]
  | .cut _ | .stray _ => []

mutual

/-- The tokens that an outline is written with, if it is complete. -/
def tokens : Outline → List Token
  | .null => [.null]
  | .bool value => [.bool value]
  | .numeral written => [.numeral written]
  | .text pieces => [.text pieces]
  | .list items _ => .openList :: (joined (itemTokens items) ++ [.closeList])
  | .record members _ => .openRecord :: (joined (memberTokens members) ++ [.closeRecord])
  | .broken _ => []

/-- The tokens of each item. -/
def itemTokens : List Outline → List (List Token)
  | [] => []
  | item :: items => tokens item :: itemTokens items

/-- The tokens of each member. -/
def memberTokens : List OutlineMember → List (List Token)
  | [] => []
  | .mk key value :: members => (keyTokens key ++ .colon :: tokens value) :: memberTokens members

end

theorem itemTokens_eq_map (items : List Outline) : itemTokens items = items.map tokens := by
  induction items with
  | nil => rfl
  | cons item items ih => rw [itemTokens, ih, List.map_cons]

theorem itemTokens_append (first second : List Outline) :
    itemTokens (first ++ second) = itemTokens first ++ itemTokens second := by
  rw [itemTokens_eq_map, itemTokens_eq_map, itemTokens_eq_map, List.map_append]

theorem memberTokens_append (first second : List OutlineMember) :
    memberTokens (first ++ second) = memberTokens first ++ memberTokens second := by
  induction first with
  | nil => rfl
  | cons member members ih =>
      cases member
      simp [memberTokens, ih]

/-! ## Complete outlines -/

/-- Members whose keys are texts. -/
def members (entries : List (List Piece × Outline)) : List OutlineMember :=
  entries.map fun (key, value) => .mk (.text key) value

@[simp]
theorem members_nil : members [] = [] :=
  rfl

@[simp]
theorem members_cons (key : List Piece) (value : Outline)
    (entries : List (List Piece × Outline)) :
    members ((key, value) :: entries) = .mk (.text key) value :: members entries :=
  rfl

theorem memberTokens_members (entries : List (List Piece × Outline)) :
    memberTokens (members entries) =
      entries.map fun (key, value) => .text key :: .colon :: value.tokens := by
  induction entries with
  | nil => rfl
  | cons pair entries ih =>
      obtain ⟨key, value⟩ := pair
      rw [members_cons, memberTokens, ih]
      rfl

/-- Nothing in the outline is cut off or out of place. -/
inductive IsComplete : Outline → Prop
  | null : IsComplete .null
  | bool (value : Bool) : IsComplete (.bool value)
  | numeral (written : Numeral) : IsComplete (.numeral written)
  | text (pieces : List Piece) : IsComplete (.text pieces)
  | list {items : List Outline} (complete : ∀ item ∈ items, IsComplete item) :
      IsComplete (.list items .closed)
  | record {entries : List (List Piece × Outline)}
      (complete : ∀ pair ∈ entries, IsComplete pair.2) :
      IsComplete (.record (members entries) .closed)

/-! ## The tokens are read -/

/-- Where a value is expected, the tokens of the outline are read as the outline. -/
def IsRead (outline : Outline) : Prop :=
  ∀ around rest, readFrom (.reading .value around) (outline.tokens ++ rest) =
    readFrom (deliver outline around) rest

/-- A value is not taken for the end of the list in which it stands. -/
theorem readFrom_item {outline : Outline} (complete : outline.IsComplete) (isFirst : Bool)
    (before : List Outline) (around : List Frame) (rest : List Token) :
    readFrom (.reading (.item isFirst before) around) (outline.tokens ++ rest) =
      readFrom (.reading .value (.item before :: around)) (outline.tokens ++ rest) := by
  have begins : ∃ token later, outline.tokens = token :: later ∧ token ≠ .closeList := by
    cases complete <;> exact ⟨_, _, by rw [tokens], by simp⟩
  obtain ⟨token, later, tokensEq, notEnd⟩ := begins
  rw [tokensEq, List.cons_append, readFrom, readFrom, readingStep, readingStep]
  simp [notEnd]

/-- In a list, items are read up to its end. -/
theorem readFrom_items {items : List Outline}
    (read : ∀ item ∈ items, item.IsComplete ∧ item.IsRead) (notNil : items ≠ [])
    (isFirst : Bool) (before : List Outline) (around : List Frame) (rest : List Token) :
    readFrom (.reading (.item isFirst before) around)
        (joined (itemTokens items) ++ .closeList :: rest) =
      readFrom (deliver (.list (before.reverse ++ items) .closed) around) rest := by
  induction items generalizing isFirst before with
  | nil => contradiction
  | cons item items ih =>
      obtain ⟨⟨complete, first⟩, others⟩ := List.forall_mem_cons.mp read
      cases items with
      | nil =>
          rw [itemTokens, itemTokens, joined, List.intercalate_singleton, readFrom_item complete,
            first, deliver, readFrom, readingStep, closeList, List.reverse_cons]
      | cons next items =>
          have later := ih others (List.cons_ne_nil next items) false (item :: before)
          rw [List.reverse_cons, List.append_assoc, List.singleton_append] at later
          rw [← later, itemTokens, itemTokens, joined, joined, List.intercalate_cons_cons,
            List.append_assoc, List.append_assoc, readFrom_item complete, first, deliver,
            List.singleton_append, readFrom, readingStep]

/-- In a record, members are read up to its end. -/
theorem readFrom_members {entries : List (List Piece × Outline)}
    (read : ∀ pair ∈ entries, IsRead pair.2) (notNil : entries ≠ []) (isFirst : Bool)
    (before : List OutlineMember) (around : List Frame) (rest : List Token) :
    readFrom (.reading (.key isFirst before) around)
        (joined (memberTokens (members entries)) ++ .closeRecord :: rest) =
      readFrom (deliver (.record (before.reverse ++ members entries) .closed) around) rest := by
  induction entries generalizing isFirst before with
  | nil => contradiction
  | cons pair entries ih =>
      obtain ⟨key, value⟩ := pair
      obtain ⟨first, others⟩ := List.forall_mem_cons.mp read
      have opened : ∀ later, readFrom (.reading (.key isFirst before) around)
          (keyTokens (.text key) ++ .colon :: value.tokens ++ later) =
            readFrom (.reading (.afterMember (.mk (.text key) value :: before)) around) later := by
        intro later
        exact first (.member before (.text key) :: around) later
      cases entries with
      | nil =>
          rw [members_cons, members_nil, memberTokens, memberTokens, joined,
            List.intercalate_singleton, opened, readFrom, readingStep, closeRecord,
            List.reverse_cons]
      | cons next entries =>
          have later := ih others (List.cons_ne_nil next entries) false
            (.mk (.text key) value :: before)
          rw [List.reverse_cons, List.append_assoc, List.singleton_append, members_cons] at later
          rw [members_cons, members_cons, ← later, memberTokens, memberTokens, joined, joined,
            List.intercalate_cons_cons, List.append_assoc, List.append_assoc, opened,
            List.singleton_append, readFrom, readingStep]

/-- A complete outline is read from its tokens. -/
theorem isRead_of_isComplete {outline : Outline} (complete : outline.IsComplete) :
    outline.IsRead := by
  induction complete with
  | null | bool | numeral | text =>
      intro around rest
      rfl
  | @list items complete ih =>
      intro around rest
      rw [tokens, List.cons_append, List.append_assoc, readFrom, readingStep, beginValue]
      cases items with
      | nil => rfl
      | cons item items =>
          exact readFrom_items (fun item listed => ⟨complete item listed, ih item listed⟩)
            (List.cons_ne_nil item items) true [] around rest
  | @record entries complete ih =>
      intro around rest
      rw [tokens, List.cons_append, List.append_assoc, readFrom, readingStep, beginValue]
      cases entries with
      | nil => rfl
      | cons pair entries =>
          exact readFrom_members ih (List.cons_ne_nil pair entries) true [] around rest

/-! ## What has been read -/

/-- The tokens of a list or record up to the value that is being read. -/
def frameTokens : Frame → List Token
  | .item before => .openList :: led (itemTokens before.reverse)
  | .member before key =>
    .openRecord :: (led (memberTokens before.reverse) ++ keyTokens key ++ [.colon])

/-- The tokens of everything around the value that is being read. -/
def aroundTokens : List Frame → List Token
  | [] => []
  | frame :: around => aroundTokens around ++ frameTokens frame

/-- The tokens of the innermost list or record that is open, as far as it has been read. -/
def expectedTokens : Expected → List Token
  | .value => []
  | .item _ before => .openList :: led (itemTokens before.reverse)
  | .afterItem before => .openList :: joined (itemTokens before.reverse)
  | .key _ before => .openRecord :: led (memberTokens before.reverse)
  | .colon before key => .openRecord :: (led (memberTokens before.reverse) ++ [.text key])
  | .afterMember before => .openRecord :: joined (memberTokens before.reverse)

/-- The place after an opening bracket has nothing before it, and the place after an item or
a member has that before it. -/
def Expected.IsProper : Expected → Prop
  | .value | .colon _ _ => True
  | .item isFirst before => isFirst = true → before = []
  | .key isFirst before => isFirst = true → before = []
  | .afterItem before => before ≠ []
  | .afterMember before => before ≠ []

/-- The tokens that have been read where the reader has come to a state. Where it has stopped
at a fault they do not show. -/
inductive HasRead : State → List Token → Prop
  | reading {expected : Expected} {around : List Frame} {read : List Token}
      (proper : expected.IsProper) (shown : read = aroundTokens around ++ expectedTokens expected) :
      HasRead (.reading expected around) read
  | finished {outline : Outline} {read : List Token} (shown : read = outline.tokens) :
      HasRead (.finished outline false) read
  | stopped {outline : Outline} {read : List Token} (broken : ¬outline.IsComplete) :
      HasRead (.finished outline false) read

theorem joined_itemTokens_reverse (item : Outline) (before : List Outline) :
    joined (itemTokens (item :: before).reverse) =
      led (itemTokens before.reverse) ++ item.tokens := by
  rw [List.reverse_cons, itemTokens_append, itemTokens, itemTokens, joined_append_singleton]

theorem joined_memberTokens_reverse (key : OutlineKey) (value : Outline)
    (before : List OutlineMember) :
    joined (memberTokens (.mk key value :: before).reverse) =
      led (memberTokens before.reverse) ++ (keyTokens key ++ .colon :: value.tokens) := by
  rw [List.reverse_cons, memberTokens_append, memberTokens, memberTokens,
    joined_append_singleton]

theorem led_itemTokens_reverse {before : List Outline} (notNil : before ≠ []) :
    led (itemTokens before.reverse) = joined (itemTokens before.reverse) ++ [.comma] := by
  obtain ⟨item, others, rfl⟩ := List.exists_cons_of_ne_nil notNil
  rw [List.reverse_cons, itemTokens_append, itemTokens, itemTokens, led_append_singleton]

theorem led_memberTokens_reverse {before : List OutlineMember} (notNil : before ≠ []) :
    led (memberTokens before.reverse) = joined (memberTokens before.reverse) ++ [.comma] := by
  obtain ⟨⟨key, value⟩, others, rfl⟩ := List.exists_cons_of_ne_nil notNil
  rw [List.reverse_cons, memberTokens_append, memberTokens, memberTokens, led_append_singleton]

theorem hasRead_deliver {outline : Outline} {around : List Frame} {read : List Token}
    (shown : read = aroundTokens around ++ outline.tokens) :
    HasRead (deliver outline around) read := by
  subst shown
  cases around with
  | nil => exact .finished rfl
  | cons frame around =>
      cases frame with
      | item before =>
          refine .reading (List.cons_ne_nil _ _) ?_
          rw [aroundTokens, frameTokens, expectedTokens, joined_itemTokens_reverse]
          simp
      | member before key =>
          refine .reading (List.cons_ne_nil _ _) ?_
          rw [aroundTokens, frameTokens, expectedTokens, joined_memberTokens_reverse]
          simp

theorem not_isComplete_list {items : List Outline} {ending : Ending}
    (notClosed : ending ≠ .closed) : ¬IsComplete (.list items ending) := by
  rintro ⟨⟩
  exact notClosed rfl

theorem not_isComplete_record {members : List OutlineMember} {ending : Ending}
    (notClosed : ending ≠ .closed) : ¬IsComplete (.record members ending) := by
  rintro ⟨⟩
  exact notClosed rfl

theorem not_isComplete_enclose {fault : Fault} {outline : Outline}
    (broken : ¬outline.IsComplete) (around : List Frame) :
    ¬(enclose fault outline around).IsComplete := by
  induction around generalizing outline with
  | nil => exact broken
  | cons frame around ih =>
      cases frame with
      | item before => exact ih (not_isComplete_list (by simp))
      | member before key => exact ih (not_isComplete_record (by simp))

/-- What the text breaks off in is not complete. -/
theorem not_isComplete_unfinished (expected : Expected) : ¬(unfinished expected).IsComplete := by
  have noEnding : ∀ isFirst, endingAt isFirst ≠ .closed := by decide
  cases expected with
  | value => nofun
  | item isFirst before => exact not_isComplete_list (noEnding isFirst)
  | afterItem before => exact not_isComplete_list (by simp)
  | key isFirst before => exact not_isComplete_record (noEnding isFirst)
  | colon before key => exact not_isComplete_record (by simp)
  | afterMember before => exact not_isComplete_record (by simp)

theorem hasRead_stop {fault : Fault} {outline : Outline} {around : List Frame}
    {read : List Token} (broken : ¬outline.IsComplete) :
    HasRead (stop fault outline around) read :=
  .stopped (not_isComplete_enclose broken around)

theorem hasRead_beginValue (around : List Frame) (token : Token) :
    HasRead (beginValue around token) (aroundTokens around ++ [token]) := by
  cases token with
  | null | bool | numeral | text => exact hasRead_deliver rfl
  | openList | openRecord => exact .reading (fun _ => rfl) rfl
  | cutText | cut | closeList | closeRecord | comma | colon => exact hasRead_stop nofun

/-- A step adds its token to what has been read. -/
theorem hasRead_readingStep {expected : Expected} (proper : expected.IsProper)
    (around : List Frame) (token : Token) :
    HasRead (readingStep around expected token)
      (aroundTokens around ++ expectedTokens expected ++ [token]) := by
  cases expected with
  | value =>
      rw [expectedTokens, List.append_nil]
      exact hasRead_beginValue around token
  | item isFirst before =>
      rw [readingStep]
      split
      · rename_i ends
        rw [Bool.and_eq_true, beq_iff_eq] at ends
        obtain ⟨first, rfl⟩ := ends
        rw [proper first, List.append_assoc]
        exact hasRead_deliver rfl
      · exact hasRead_beginValue (.item before :: around) token
  | afterItem before =>
      cases token with
      | comma =>
          refine .reading (by simp [Expected.IsProper]) ?_
          simp [expectedTokens, led_itemTokens_reverse proper]
      | closeList =>
          rw [List.append_assoc]
          exact hasRead_deliver rfl
      | _ => exact hasRead_stop (not_isComplete_list (by simp))
  | key isFirst before =>
      cases token with
      | text pieces =>
          rw [List.append_assoc]
          exact .reading trivial rfl
      | closeRecord =>
          rw [readingStep]
          split
          · rename_i first
            rw [proper first, List.append_assoc]
            exact hasRead_deliver rfl
          · exact hasRead_stop (not_isComplete_record (by simp))
      | _ => exact hasRead_stop (not_isComplete_record (by simp))
  | colon before key =>
      cases token with
      | colon =>
          refine .reading trivial ?_
          simp [expectedTokens, aroundTokens, frameTokens, keyTokens]
      | _ => exact hasRead_stop (not_isComplete_record (by simp))
  | afterMember before =>
      cases token with
      | comma =>
          refine .reading (by simp [Expected.IsProper]) ?_
          simp [expectedTokens, led_memberTokens_reverse proper]
      | closeRecord =>
          rw [List.append_assoc]
          exact hasRead_deliver rfl
      | _ => exact hasRead_stop (not_isComplete_record (by simp))

/-- A complete outline that is made of tokens has these tokens. -/
theorem tokens_eq_of_readFrom {state : State} {read rest : List Token} {outline : Outline}
    (hasRead : HasRead state read) (made : readFrom state rest = (outline, false))
    (complete : outline.IsComplete) : outline.tokens = read ++ rest := by
  -- Each token moves from what is left to what has been read; a fault can never be undone.
  induction rest generalizing state read with
  | nil =>
      rw [List.append_nil]
      cases hasRead with
      | @reading expected around =>
          obtain ⟨rfl, _⟩ := Prod.mk.inj made
          exact absurd complete (not_isComplete_enclose (not_isComplete_unfinished expected) around)
      | finished shown =>
          obtain ⟨rfl, _⟩ := Prod.mk.inj made
          exact shown.symm
      | stopped broken =>
          obtain ⟨rfl, _⟩ := Prod.mk.inj made
          exact absurd complete broken
  | cons token rest ih =>
      cases hasRead with
      | @reading expected around _ proper shown =>
          rw [shown, ih (hasRead_readingStep proper around token) made]
          simp
      | finished | stopped => simp [readFrom] at made

/-- The reader of tokens makes a complete outline of the outline's own tokens, and of no
others. -/
theorem readFrom_eq_iff {outline : Outline} (complete : outline.IsComplete)
    (written : List Token) :
    readFrom (.reading .value []) written = (outline, false) ↔ written = outline.tokens := by
  constructor
  · intro made
    have start : HasRead (.reading .value []) [] := .reading trivial rfl
    exact (tokens_eq_of_readFrom start made complete).symm
  · rintro rfl
    have made := isRead_of_isComplete complete [] []
    rwa [List.append_nil] at made

end Outline

end ProtoSchema.Json
