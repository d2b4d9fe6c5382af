import Mathlib.Data.List.TakeWhile
import GraphBatch.Catalog.Introspection

/-!
# Parts of a query

The text of a query is made of plain words and string literals. A literal says what
stands between its quotes, of two quotes in a row one; a backslash is a character like
any other. After its closing quote a literal goes on if blanks with a line break among
them lead to a further quote. Plain words hold no character that could open anything
but a literal, and a literal opens after a blank, so that no letter in front of its
quote changes how it is read. Parts that are spelled one after the other are read back,
whatever the literals say; and an introspection query is spelled from parts of which
only the last literal depends on the schema.
-/

namespace GraphBatch.Sql

open Catalog (doubledQuotes)

/-! ## Reading literals -/

def quote : Char := '\x27'

def isBlank (char : Char) : Bool :=
  [' ', '\t', '\n', '\r', '\x0b', '\x0c'].contains char

/-- Whether a character ends a line. -/
def breaksLine (char : Char) : Bool := ['\n', '\r'].contains char

/-- What stands after an opening quote up to the quote that closes it, and what comes
after that; `none` if nothing closes it. -/
def stretch? : List Char → Option (List Char × List Char)
  | [] => none
  | [char] => if char = quote then some ([], []) else none
  | char :: next :: rest =>
      if char = quote then
        if next = quote then (stretch? rest).map fun read => (quote :: read.1, read.2)
        else some ([], next :: rest)
      else (stretch? (next :: rest)).map fun read => (char :: read.1, read.2)

/-- What comes after the opening quote of a further section of the same literal. -/
def further? (chars : List Char) : Option (List Char) :=
  match chars.dropWhile isBlank with
  | [] => none
  | char :: rest =>
      if char = quote ∧ (chars.takeWhile isBlank).any breaksLine then some rest else none

theorem stretch?_closing {after : List Char} (alone : after.head? ≠ some quote) :
    stretch? (quote :: after) = some ([], after) := by
  cases after with
  | nil => rfl
  | cons next rest =>
      rw [stretch?, if_pos rfl]
      exact if_neg fun same => alone (congrArg some same)

theorem stretch?_doubled (rest : List Char) :
    stretch? (quote :: quote :: rest) =
      (stretch? rest).map fun read => (quote :: read.1, read.2) := rfl

theorem stretch?_of_ne {char : Char} (rest : List Char) (differ : char ≠ quote) :
    stretch? (char :: rest) = (stretch? rest).map fun read => (char :: read.1, read.2) := by
  cases rest with
  | nil => exact if_neg differ
  | cons next rest => exact if_neg differ

theorem length_stretch? {chars said after : List Char}
    (read : stretch? chars = some (said, after)) : after.length < chars.length := by
  fun_induction stretch? chars generalizing said after with
  | case1 => cases read
  | case2 =>
      cases read
      exact Nat.zero_lt_succ _
  | case3 => cases read
  | case4 rest ih =>
      obtain ⟨⟨inner, last⟩, inside, same⟩ := Option.map_eq_some_iff.mp read
      cases same
      exact Nat.lt_succ_of_lt (Nat.lt_succ_of_lt (ih inside))
  | case5 next rest _ =>
      cases read
      exact Nat.lt_succ_self _
  | case6 char next rest _ ih =>
      obtain ⟨⟨inner, last⟩, inside, same⟩ := Option.map_eq_some_iff.mp read
      cases same
      exact Nat.lt_succ_of_lt (ih inside)

theorem length_further? {chars rest : List Char} (found : further? chars = some rest) :
    rest.length < chars.length := by
  unfold further? at found
  split at found
  · cases found
  · rename_i char others dropped
    split at found
    · cases found
      have bound := List.length_dropWhile_le isBlank chars
      rw [dropped, List.length_cons] at bound
      exact bound
    · cases found

/-- What a literal says after its opening quote, over all its sections, and what comes
after it. -/
def literal? (chars : List Char) : Option (List Char × List Char) :=
  match _read : stretch? chars with
  | none => none
  | some (said, after) =>
      match _found : further? after with
      | none => some (said, after)
      | some more => (literal? more).map fun rest => (said ++ rest.1, rest.2)
termination_by chars.length
decreasing_by
  exact Nat.lt_trans (length_further? _found) (length_stretch? _read)

def readLiteral? : List Char → Option (List Char × List Char)
  | [] => none
  | char :: rest => if char = quote then literal? rest else none

theorem length_literal? {chars said after : List Char}
    (read : literal? chars = some (said, after)) : after.length < chars.length := by
  fun_induction literal? chars generalizing said after with
  | case1 => cases read
  | case2 chars first rest opened =>
      cases read
      exact length_stretch? opened
  | case3 chars first rest opened more found ih =>
      obtain ⟨⟨later, last⟩, inside, same⟩ := Option.map_eq_some_iff.mp read
      cases same
      exact Nat.lt_trans (ih inside)
        (Nat.lt_trans (length_further? found) (length_stretch? opened))

theorem doubledQuotes_quote (said : List Char) :
    doubledQuotes (quote :: said) = quote :: quote :: doubledQuotes said := rfl

theorem doubledQuotes_of_ne {char : Char} (said : List Char) (differ : char ≠ quote) :
    doubledQuotes (char :: said) = char :: doubledQuotes said := by
  rw [doubledQuotes]
  exact if_neg differ

theorem stretch?_doubledQuotes (said : List Char) {after : List Char}
    (alone : after.head? ≠ some quote) :
    stretch? (doubledQuotes said ++ quote :: after) = some (said, after) := by
  induction said with
  | nil => exact stretch?_closing alone
  | cons char said ih =>
      by_cases same : char = quote
      · rw [same, doubledQuotes_quote, List.cons_append, List.cons_append, stretch?_doubled, ih]
        rfl
      · rw [doubledQuotes_of_ne said same, List.cons_append, stretch?_of_ne _ same, ih]
        rfl

/-- After these characters a literal before them is over. -/
def Stops (chars : List Char) : Prop :=
  chars.head? ≠ some quote ∧ further? chars = none

theorem literal?_doubledQuotes (said : List Char) {after : List Char} (stops : Stops after) :
    literal? (doubledQuotes said ++ quote :: after) = some (said, after) := by
  rw [literal?]
  split
  · rename_i unread
    rw [stretch?_doubledQuotes said stops.1] at unread
    cases unread
  · rename_i first rest read
    rw [stretch?_doubledQuotes said stops.1] at read
    cases read
    split
    · rfl
    · rename_i more found
      rw [stops.2] at found
      cases found

theorem stops_nil : Stops [] :=
  ⟨fun opened => (by cases opened), rfl⟩

/-- Blanks that lead to anything but a quote end a literal. -/
theorem stops_of_dropWhile {chars : List Char} {char : Char} {rest : List Char}
    (dropped : chars.dropWhile isBlank = char :: rest) (differ : char ≠ quote) :
    Stops chars := by
  constructor
  · intro opened
    cases chars with
    | nil => cases opened
    | cons first others =>
        cases opened
        rw [List.dropWhile_cons_of_neg (by decide)] at dropped
        exact differ (List.cons.inj dropped).1.symm
  · unfold further?
    rw [dropped]
    dsimp only
    rw [if_neg fun both => differ both.1]

/-! ## Reading queries -/

/-- A part of a query: plain words, or what a literal says. -/
inductive Part where
  | plain (chars : List Char)
  | literal (chars : List Char)
deriving DecidableEq, Repr

/-- Whether a character may stand in plain words: no quote of any kind, and no
character that opens a comment, a parameter or an escape. -/
def isPlain (char : Char) : Bool :=
  char.isAlphanum || isBlank char || ['_', ',', '.', ':', '='].contains char

/-- Puts a character in front of the plain words that parts begin with. -/
def joinPlain (char : Char) : List Part → List Part
  | .plain chars :: parts => .plain (char :: chars) :: parts
  | parts => .plain [char] :: parts

/-- The parts of a query; `none` if a literal is not closed or opens after anything but
a blank, or if a character is not plain. -/
def parts? : List Char → Option (List Part)
  | [] => some []
  | char :: rest =>
      if char = quote then
        match _read : literal? rest with
        | none => none
        | some (said, after) => (parts? after).map (.literal said :: ·)
      else if isPlain char ∧ (rest.head? = some quote → isBlank char) then
        (parts? rest).map (joinPlain char)
      else none
termination_by chars => chars.length
decreasing_by
  · exact Nat.lt_succ_of_lt (length_literal? _read)
  · exact Nat.lt_succ_self _

namespace Part

def spell : Part → List Char
  | .plain chars => chars
  | .literal chars => quote :: (doubledQuotes chars ++ [quote])

/-- Whether a part can be read by itself: plain words are plain, and there are some. -/
def isValid : Part → Bool
  | .plain chars => !chars.isEmpty && chars.all isPlain
  | .literal _ => true

/-- Whether a part may stand before another: a literal opens after a blank, and after a
literal the plain words are not blank. -/
def fits : Part → Part → Bool
  | .plain chars, .literal _ => chars.getLast?.any isBlank
  | .literal _, .plain chars => chars.any (!isBlank ·)
  | _, _ => false

def alternate : List Part → Bool
  | [] => true
  | [part] => part.isValid
  | part :: next :: rest => part.isValid && part.fits next && alternate (next :: rest)

def silenced : Part → Part
  | .plain chars => .plain chars
  | .literal _ => .literal []

theorem isValid_silenced (part : Part) : part.silenced.isValid = part.isValid := by
  cases part <;> rfl

theorem fits_silenced (part next : Part) :
    part.silenced.fits next.silenced = part.fits next := by
  cases part <;> cases next <;> rfl

/-- Whether parts can be read does not depend on what their literals say. -/
theorem alternate_silenced (parts : List Part) :
    alternate (parts.map silenced) = alternate parts := by
  induction parts with
  | nil => rfl
  | cons part rest ih =>
      cases rest with
      | nil => exact isValid_silenced part
      | cons next rest =>
          rw [List.map_cons] at ih ⊢
          rw [List.map_cons, alternate, alternate, ih, isValid_silenced, fits_silenced]

end Part

open Sql.Part

theorem quote_not_plain : isPlain quote = false := by decide

theorem plain_ne_quote {char : Char} (plain : isPlain char = true) : char ≠ quote := by
  rintro rfl
  rw [quote_not_plain] at plain
  cases plain

theorem parts?_cons_plain {char : Char} {rest : List Char} {parts : List Part}
    (plain : isPlain char = true) (opens : rest.head? = some quote → isBlank char)
    (read : parts? rest = some parts) :
    parts? (char :: rest) = some (joinPlain char parts) := by
  rw [parts?, if_neg (plain_ne_quote plain), if_pos ⟨plain, opens⟩, read]
  rfl

theorem parts?_plain {chars rest : List Char} {parts : List Part} (filled : chars ≠ [])
    (plain : ∀ char ∈ chars, isPlain char = true)
    (opens : rest.head? = some quote → chars.getLast?.any isBlank)
    (apart : ∀ words others, parts ≠ .plain words :: others)
    (read : parts? rest = some parts) :
    parts? (chars ++ rest) = some (.plain chars :: parts) := by
  induction chars with
  | nil => exact absurd rfl filled
  | cons char others ih =>
      have here := plain char List.mem_cons_self
      cases others with
      | nil =>
          rw [List.singleton_append, parts?_cons_plain here opens read]
          unfold joinPlain
          split
          · rename_i words more
            exact absurd rfl (apart words more)
          · rfl
      | cons next more =>
          have later : ∀ other ∈ next :: more, isPlain other = true :=
            fun other inside => plain other (List.mem_cons_of_mem _ inside)
          have read_later := ih (by simp) later (by rwa [List.getLast?_cons_cons] at opens)
          have no_literal : ((next :: more) ++ rest).head? ≠ some quote := fun opened =>
            plain_ne_quote (later next List.mem_cons_self) (Option.some.inj opened)
          rw [List.cons_append,
            parts?_cons_plain here (fun opened => absurd opened no_literal) read_later]
          rfl

theorem parts?_literal (said : List Char) {after : List Char} {parts : List Part}
    (stops : Stops after) (read : parts? after = some parts) :
    parts? ((Part.literal said).spell ++ after) = some (.literal said :: parts) := by
  have body : literal? (doubledQuotes said ++ [quote] ++ after) = some (said, after) := by
    rw [List.append_assoc, List.singleton_append]
    exact literal?_doubledQuotes said stops
  rw [spell, List.cons_append, parts?, if_pos rfl]
  split
  · rename_i unread
    rw [body] at unread
    cases unread
  · rename_i first rest again
    rw [body] at again
    cases again
    rw [read]
    rfl

theorem stops_of_plain {chars : List Char} (plain : ∀ char ∈ chars, isPlain char = true)
    (words : chars.any (!isBlank ·) = true) (rest : List Char) : Stops (chars ++ rest) := by
  cases dropped : chars.dropWhile isBlank with
  | nil =>
      obtain ⟨char, inside, word⟩ := List.any_eq_true.mp words
      rw [List.dropWhile_eq_nil_iff.mp dropped char inside] at word
      cases word
  | cons char others =>
      have more : (chars ++ rest).dropWhile isBlank = char :: (others ++ rest) := by
        rw [List.dropWhile_append, dropped]
        rfl
      have inside : char ∈ chars :=
        (List.dropWhile_suffix isBlank).subset (dropped ▸ List.mem_cons_self)
      exact stops_of_dropWhile more (plain_ne_quote (plain char inside))

theorem plain_of_isValid {chars : List Char} (valid : (Part.plain chars).isValid = true) :
    chars ≠ [] ∧ ∀ char ∈ chars, isPlain char = true := by
  rw [isValid, Bool.and_eq_true, Bool.not_eq_true', List.isEmpty_eq_false_iff] at valid
  exact ⟨valid.1, List.all_eq_true.mp valid.2⟩

theorem isValid_of_alternate {part : Part} {rest : List Part}
    (alternating : alternate (part :: rest) = true) : part.isValid = true := by
  cases rest with
  | nil => exact alternating
  | cons next rest =>
      rw [alternate, Bool.and_eq_true, Bool.and_eq_true] at alternating
      exact alternating.1.1

theorem parts?_spell {parts : List Part} (alternating : alternate parts = true) :
    parts? (parts.flatMap spell) = some parts := by
  induction parts with
  | nil => rw [List.flatMap_nil, parts?]
  | cons part rest ih =>
      have valid := isValid_of_alternate alternating
      rw [List.flatMap_cons]
      cases rest with
      | nil =>
          have read : parts? (([] : List Part).flatMap spell) = some [] := ih rfl
          cases part with
          | plain chars =>
              obtain ⟨filled, plain⟩ := plain_of_isValid valid
              exact parts?_plain filled plain (fun opened => by cases opened)
                (fun words others same => by cases same) read
          | literal said => exact parts?_literal said stops_nil read
      | cons next others =>
          rw [alternate, Bool.and_eq_true, Bool.and_eq_true] at alternating
          obtain ⟨⟨_, fitting⟩, later⟩ := alternating
          have read := ih later
          cases part with
          | plain chars =>
              obtain ⟨filled, plain⟩ := plain_of_isValid valid
              cases next with
              | plain words => cases fitting
              | literal said =>
                  exact parts?_plain filled plain (fun _ => fitting)
                    (fun words others same => by cases same) read
          | literal said =>
              cases next with
              | plain words =>
                  have plain := (plain_of_isValid (isValid_of_alternate later)).2
                  exact parts?_literal said (stops_of_plain plain fitting _) read
              | literal other => cases fitting

end GraphBatch.Sql

/-! ## The queries of introspection -/

namespace GraphBatch.Catalog.Question

open Sql

/-- The parts of a query up to the schema's name. -/
def openingParts (question : Question) : List Part :=
  match question with
  | .tables | .columns => [.plain question.opening.toList]
  | .keys => [
      .plain (question.opening.toList.takeWhile (· ≠ quote)),
      .literal "PRIMARY KEY".toList,
      .plain " AND tc.table_schema = ".toList]

def parts (question : Question) (schema : String) : List Part :=
  question.openingParts ++ [.literal schema.toList, .plain question.closing.toList]

theorem spell_openingParts (question : Question) :
    question.openingParts.flatMap Part.spell = question.opening.toList := by
  cases question with
  | tables | columns =>
      unfold openingParts
      rw [List.flatMap_singleton, Part.spell]
  | keys =>
      unfold openingParts opening
      simp only [String.toList_append]
      repeat rw [String.toList_ofList]
      decide +kernel

theorem alternate_parts (question : Question) (schema : String) :
    Part.alternate (question.parts schema) = true := by
  have silent : (question.parts schema).map Part.silenced =
      (question.parts "").map Part.silenced := by
    cases question <;> rfl
  rw [← Part.alternate_silenced, silent]
  unfold parts openingParts opening closing
  cases question with
  | tables | columns =>
      simp only [String.toList_append]
      repeat rw [String.toList_ofList]
      decide
  | keys =>
      simp only [String.toList_append]
      repeat rw [String.toList_ofList]
      decide +kernel

theorem toList_sqlLiteral (text : String) :
    (sqlLiteral text).toList = (Part.literal text.toList).spell := by
  unfold sqlLiteral
  rw [String.toList_append, String.toList_append,
    String.toList_ofList (l := doubledQuotes text.toList)]
  rfl

theorem toList_query (question : Question) (schema : String) :
    (question.query schema).toList =
      question.opening.toList ++ (Part.literal schema.toList).spell ++
        question.closing.toList := by
  rw [query, String.toList_append, String.toList_append, toList_sqlLiteral]

theorem stops_closing (question : Question) : Stops question.closing.toList := by
  cases question with
  | tables => exact ⟨by decide, by decide⟩
  | columns => exact ⟨by decide, by decide⟩
  | keys => exact ⟨by decide, by decide⟩

/-- A query is its opening, one literal and its closing. The literal is read as the
schema's name up to the closing, and the parts of the whole query are the same for every
schema but for what this literal says. -/
theorem schema_of_query (question : Question) (schema : String) :
    (question.query schema).toList =
        question.opening.toList ++ (Part.literal schema.toList).spell ++
          question.closing.toList ∧
      readLiteral? ((Part.literal schema.toList).spell ++ question.closing.toList) =
        some (schema.toList, question.closing.toList) ∧
      parts? (question.query schema).toList =
        some (question.openingParts ++
          [.literal schema.toList, .plain question.closing.toList]) := by
  refine ⟨toList_query question schema, ?_, ?_⟩
  · rw [Part.spell, List.cons_append, readLiteral?, if_pos rfl, List.append_assoc,
      List.singleton_append]
    exact literal?_doubledQuotes schema.toList (stops_closing question)
  · have read := parts?_spell (alternate_parts question schema)
    rw [parts, List.flatMap_append, spell_openingParts, List.flatMap_cons,
      List.flatMap_singleton, ← List.append_assoc] at read
    rw [toList_query]
    exact read

end GraphBatch.Catalog.Question
