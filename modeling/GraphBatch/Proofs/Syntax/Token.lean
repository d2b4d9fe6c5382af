import Mathlib.Data.List.TakeWhile

/-!
# Tokens of documents

The words and marks that a document's text is made of. Blanks, line ends and
commas stand between tokens and mean nothing; a name goes on as long as letters,
digits and underscores do. A text is scanned as some tokens if it is read as
these whatever comes after it; a text that ends in a name needs something after
it that does not go on with the name.
-/

namespace GraphBatch.Syntax

/-- Whether a name may begin with a character. -/
def startsName (char : Char) : Bool := char = '_' || char.isAlpha

/-- Whether a name may go on with a character. -/
def continuesName (char : Char) : Bool := char = '_' || char.isAlphanum

/-- Whether a text is a name: `[_A-Za-z][_0-9A-Za-z]*`. -/
def isName (text : String) : Bool :=
  match text.toList with
  | [] => false
  | first :: rest => startsName first && rest.all continuesName

/-- The tokens of documents. -/
inductive Token where
  | name (text : String)
  | openBrace
  | closeBrace
  | openParen
  | closeParen
  | openBracket
  | closeBracket
  | colon
  | dollar
  | bang
  | ellipsis
deriving DecidableEq, Repr

/-- The characters that stand between tokens. -/
def ignored : List Char := [' ', '\t', '\n', '\r', ',']

def marks : List (Char × Token) := [
  ('\x7b', .openBrace), ('\x7d', .closeBrace), ('(', .openParen), (')', .closeParen),
  ('[', .openBracket), (']', .closeBracket), (':', .colon), ('$', .dollar), ('!', .bang)]

def mark? (char : Char) : Option Token :=
  (marks.find? fun mark => mark.1 = char).map Prod.snd

/-- The tokens of a text; `none` if some character belongs to no token. -/
def tokens? : List Char → Option (List Token)
  | [] => some []
  | char :: rest =>
      if char ∈ ignored then tokens? rest
      else
        match mark? char with
        | some token => (tokens? rest).map (token :: ·)
        | none =>
            if startsName char then
              (tokens? (rest.dropWhile continuesName)).map
                (.name (String.ofList (char :: rest.takeWhile continuesName)) :: ·)
            else if (char :: rest).take 3 = ['.', '.', '.'] then
              (tokens? (rest.drop 2)).map (.ellipsis :: ·)
            else none
termination_by chars => chars.length
decreasing_by
  · exact Nat.lt_succ_self _
  · exact Nat.lt_succ_self _
  · exact Nat.lt_succ_of_le (List.length_dropWhile_le _ _)
  · rw [List.length_drop, List.length_cons]
    omega

@[simp] theorem tokens?_nil : tokens? [] = some [] := by rw [tokens?]

theorem tokens?_ignored {char : Char} (rest : List Char) (skipped : char ∈ ignored) :
    tokens? (char :: rest) = tokens? rest := by
  rw [tokens?, if_pos skipped]

theorem mark?_of_ignored {char : Char} (skipped : char ∈ ignored) : mark? char = none := by
  have every : (ignored.all fun other => (mark? other).isNone) = true := rfl
  exact Option.isNone_iff_eq_none.mp (List.all_eq_true.mp every char skipped)

theorem tokens?_mark {char : Char} {token : Token} (rest : List Char)
    (marked : mark? char = some token) :
    tokens? (char :: rest) = (tokens? rest).map (token :: ·) := by
  have kept : char ∉ ignored := by
    intro skipped
    rw [mark?_of_ignored skipped] at marked
    cases marked
  rw [tokens?, if_neg kept, marked]

theorem tokens?_ellipsis (rest : List Char) :
    tokens? ('.' :: '.' :: '.' :: rest) = (tokens? rest).map (.ellipsis :: ·) := by
  have no_mark : mark? '.' = none := by decide
  have dots : ('.' :: '.' :: '.' :: rest).take 3 = ['.', '.', '.'] := rfl
  rw [tokens?, if_neg (by decide), no_mark]
  dsimp only
  rw [if_neg (by decide), if_pos dots]
  rfl

/-! ## Names -/

theorem continuesName_of_startsName {char : Char} (starts : startsName char = true) :
    continuesName char = true := by
  simp only [startsName, continuesName, Char.isAlphanum, Bool.or_eq_true,
    decide_eq_true_eq] at starts ⊢
  exact starts.imp_right Or.inl

/-- A name begins with a character that is neither ignored nor a mark. -/
theorem plain_of_startsName {char : Char} (starts : startsName char = true) :
    char ∉ ignored ∧ mark? char = none := by
  have ignored_apart : (ignored.all fun other => !startsName other) = true := rfl
  have marks_apart : (marks.all fun mark => !startsName mark.1) = true := rfl
  constructor
  · intro skipped
    have apart := List.all_eq_true.mp ignored_apart char skipped
    rw [starts] at apart
    cases apart
  · refine Option.map_eq_none_iff.mpr (List.find?_eq_none.mpr ?_)
    intro mark inside same
    have apart := List.all_eq_true.mp marks_apart mark inside
    rw [of_decide_eq_true same, starts] at apart
    cases apart

/-- No name goes on at the beginning of a text. -/
def Ends (chars : List Char) : Prop :=
  ∀ char ∈ chars.head?, continuesName char = false

theorem Ends.cons {char : Char} (rest : List Char) (stops : continuesName char = false) :
    Ends (char :: rest) := by
  simpa [Ends] using stops

theorem takeWhile_of_ends {chars rest : List Char}
    (inside : ∀ char ∈ chars, continuesName char = true) (ends : Ends rest) :
    (chars ++ rest).takeWhile continuesName = chars := by
  rw [List.takeWhile_append_of_pos inside]
  cases rest with
  | nil => simp
  | cons char rest =>
      have stops : continuesName char = false := by simpa [Ends] using ends
      rw [List.takeWhile_cons_of_neg (by simp [stops]), List.append_nil]

theorem dropWhile_of_ends {chars rest : List Char}
    (inside : ∀ char ∈ chars, continuesName char = true) (ends : Ends rest) :
    (chars ++ rest).dropWhile continuesName = rest := by
  rw [List.dropWhile_append_of_pos inside]
  cases rest with
  | nil => rfl
  | cons char rest =>
      have stops : continuesName char = false := by simpa [Ends] using ends
      rw [List.dropWhile_cons_of_neg (by simp [stops])]

theorem tokens?_name {name : String} {rest : List Char} (valid : isName name = true)
    (ends : Ends rest) :
    tokens? (name.toList ++ rest) = (tokens? rest).map (.name name :: ·) := by
  unfold isName at valid
  cases chars : name.toList with
  | nil =>
      rw [chars] at valid
      cases valid
  | cons first others =>
      rw [chars] at valid
      simp only [Bool.and_eq_true, List.all_eq_true] at valid
      obtain ⟨starts, inside⟩ := valid
      obtain ⟨kept, no_mark⟩ := plain_of_startsName starts
      rw [List.cons_append, tokens?, if_neg kept, no_mark]
      dsimp only
      rw [if_pos starts, takeWhile_of_ends inside ends, dropWhile_of_ends inside ends, ← chars,
        String.ofList_toList]

end GraphBatch.Syntax
