import GraphBatch.Proofs.Syntax.Reader

/-!
# Spelling documents

The tokens of a tree, and that the reader reads the tree back from them. A type
is only read to its end if no mark of a non-null type comes after it, and a
column only if no brace opens after it; every other part says itself where it
ends.
-/

namespace GraphBatch.Syntax

/-! ## Tokens of trees -/

/-- The mark of a non-null type. -/
def bang (required : Bool) : List Token :=
  if required then [.bang] else []

def TypeReference.spell : TypeReference → List Token
  | .named name required => .name name :: bang required
  | .list item required => .openBracket :: (item.spell ++ .closeBracket :: bang required)

def Declaration.spell (declaration : Declaration) : List Token :=
  .dollar :: .name declaration.name :: .colon :: declaration.type.spell

def spellArgument (argument : Argument) : List Token :=
  [.name argument.name, .colon, .dollar, .name argument.variableName]

mutual

def spellField : Field → List Token
  | .column name => [.name name]
  | .relation name fields =>
      .name name :: .openBrace :: (spellFields fields ++ [.closeBrace])

def spellFields : List Field → List Token
  | [] => []
  | field :: rest => spellField field ++ spellFields rest

end

def SelectionSet.spell : SelectionSet → List Token
  | .fields selection => .openBrace :: (spellFields selection ++ [.closeBrace])
  | .spread fragment => [.openBrace, .ellipsis, .name fragment, .closeBrace]

def parenthesize {α : Type} (spell : α → List Token) : List α → List Token
  | [] => []
  | items => .openParen :: (items.flatMap spell ++ [.closeParen])

def spellAlias : Option String → List Token
  | some name => [.name name, .colon]
  | none => []

def Root.spell (root : Root) : List Token :=
  spellAlias root.alias? ++ .name root.name ::
    (parenthesize spellArgument root.arguments ++ root.selection.spell)

def spellFragment (fragment : FragmentDefinition) : List Token :=
  .name "fragment" :: .name fragment.name :: .name "on" :: .name fragment.table ::
    (SelectionSet.fields fragment.selection).spell

def Operation.spell (operation : Operation) : List Token :=
  .name operation.kind.keyword :: .name operation.name ::
    (parenthesize Declaration.spell operation.declared ++
      .openBrace :: (operation.roots.flatMap Root.spell ++ [.closeBrace]))

def Tree.spell (tree : Tree) : List Token :=
  tree.fragments.flatMap spellFragment ++ tree.operation.spell

/-! ## Repetition -/

/-- What comes next is not the mark of a non-null type. -/
def Unmarked (tokens : List Token) : Prop := tokens.head? ≠ some .bang

def ReadsBack {α : Type} (read : Reader α) (spell : α → List Token) (item : α) : Prop :=
  ∀ rest, Unmarked rest → read (spell item ++ rest) = some (item, rest)

/-- Items that a reader reads back and that all begin with a token of their own. -/
structure Repeatable {α : Type} (begins : Token → Bool) (read : Reader α)
    (spell : α → List Token) : Prop where
  unmarked : begins .bang = false
  opened : ∀ item, ∃ first others, spell item = first :: others ∧ begins first = true
  readsBack : ∀ item, ReadsBack read spell item

namespace Repeatable

variable {α : Type} {begins : Token → Bool} {read : Reader α} {spell : α → List Token}

theorem readWhile_spelled (repeatable : Repeatable begins read spell) (items : List α)
    {rest : List Token} (unmarked : Unmarked rest)
    (stop : ∀ token ∈ rest.head?, begins token = false) :
    readWhile begins read (items.flatMap spell ++ rest) = some (items, rest) := by
  induction items with
  | nil =>
      cases rest with
      | nil => rw [List.flatMap_nil, List.nil_append, readWhile]
      | cons token rest =>
          have stopped : begins token = false := stop token rfl
          rw [List.flatMap_nil, List.nil_append, readWhile, stopped]
          rfl
  | cons item items ih =>
      obtain ⟨first, others, spelled, begun⟩ := repeatable.opened item
      have unmarked_later : Unmarked (items.flatMap spell ++ rest) := by
        cases items with
        | nil => exact unmarked
        | cons next items =>
            obtain ⟨first, others, spelled, begun⟩ := repeatable.opened next
            intro marked
            simp only [List.flatMap_cons, spelled, List.cons_append, List.head?_cons,
              Option.some.injEq] at marked
            rw [marked, repeatable.unmarked] at begun
            cases begun
      have one := repeatable.readsBack item _ unmarked_later
      rw [spelled, List.cons_append] at one
      rw [List.flatMap_cons, List.append_assoc, spelled, List.cons_append, readWhile, if_pos begun,
        one]
      dsimp only
      rw [if_pos, ih]
      · rfl
      · simp only [List.length_cons, List.length_append]
        omega

theorem readParenthesized_spelled (repeatable : Repeatable begins read spell)
    (close : begins .closeParen = false) (items : List α) {rest : List Token}
    (outside : rest.head? ≠ some .openParen) :
    readParenthesized begins read (parenthesize spell items ++ rest) = some (items, rest) := by
  cases items with
  | nil =>
      unfold parenthesize readParenthesized
      split
      · rename_i tokens opening
        rw [List.nil_append] at opening
        rw [opening] at outside
        exact absurd rfl outside
      · rfl
  | cons item items =>
      have unmarked : Unmarked (.closeParen :: rest) := by simp [Unmarked]
      have inner := repeatable.readWhile_spelled (item :: items) unmarked (by simpa using close)
      rw [parenthesize, List.cons_append, List.append_assoc, List.singleton_append,
        readParenthesized, inner]
      simp

end Repeatable

/-! ## Parts -/

theorem readBang_spelled {required : Bool} {rest : List Token} (unmarked : Unmarked rest) :
    readBang (bang required ++ rest) = (required, rest) := by
  cases required with
  | true => rfl
  | false =>
      unfold readBang bang
      split
      · rename_i tokens marked
        rw [if_neg (by decide), List.nil_append] at marked
        rw [marked] at unmarked
        exact absurd rfl unmarked
      · rfl

theorem readType_spell (type : TypeReference) :
    ReadsBack readType TypeReference.spell type := by
  intro rest unmarked
  induction type generalizing rest with
  | named name required =>
      rw [TypeReference.spell, List.cons_append, readType, readBang_spelled unmarked]
  | list item required ih =>
      have inner := ih (.closeBracket :: (bang required ++ rest)) (by simp [Unmarked])
      rw [TypeReference.spell, List.cons_append, List.append_assoc, List.cons_append, readType,
        inner]
      dsimp only
      rw [readBang_spelled unmarked]

theorem readDeclaration_spell (declaration : Declaration) :
    ReadsBack readDeclaration Declaration.spell declaration := by
  intro rest unmarked
  have type := readType_spell declaration.type rest unmarked
  rw [Declaration.spell, List.cons_append, List.cons_append, List.cons_append, readDeclaration,
    type]
  rfl

theorem repeatable_declarations :
    Repeatable (· = .dollar) readDeclaration Declaration.spell where
  unmarked := rfl
  opened := fun _ => ⟨_, _, rfl, rfl⟩
  readsBack := readDeclaration_spell

theorem repeatable_arguments : Repeatable Token.isName readArgument spellArgument where
  unmarked := rfl
  opened := fun _ => ⟨_, _, rfl, rfl⟩
  readsBack := fun _ _ _ => rfl

mutual

theorem readFields_field (field : Field) (rest : List Token) (outer : List (String × Selection))
    (found : Selection) (closed : rest.head? ≠ some .openBrace) :
    readFields (spellField field ++ rest) outer found =
      readFields rest outer (found ++ [field]) := by
  cases field with
  | column name =>
      rw [spellField, List.singleton_append, readFields]
      intro tokens opened
      rw [opened] at closed
      exact closed rfl
  | relation name fields =>
      have inner := readFields_fields fields (.closeBrace :: rest) ((name, found) :: outer) []
        (by simp)
      rw [spellField, List.cons_append, List.cons_append, List.append_assoc, List.singleton_append,
        readFields, inner, List.nil_append, readFields]

theorem readFields_fields (fields : List Field) (rest : List Token)
    (outer : List (String × Selection)) (found : Selection)
    (closed : rest.head? ≠ some .openBrace) :
    readFields (spellFields fields ++ rest) outer found =
      readFields rest outer (found ++ fields) := by
  cases fields with
  | nil => rw [spellFields, List.nil_append, List.append_nil]
  | cons field fields =>
      have named : (spellFields fields ++ rest).head? ≠ some .openBrace := by
        cases fields with
        | nil => exact closed
        | cons next fields => cases next <;> simp [spellFields, spellField]
      rw [spellFields, List.append_assoc, readFields_field field _ outer found named,
        readFields_fields fields rest outer (found ++ [field]) closed, List.append_assoc,
        List.singleton_append]

end

theorem readFields_spelled (selection : Selection) (rest : List Token) :
    readFields (spellFields selection ++ .closeBrace :: rest) [] [] = some (selection, rest) := by
  rw [readFields_fields selection _ [] [] (by simp), List.nil_append, readFields]

theorem readSelectionSet_spell (selection : SelectionSet) (rest : List Token) :
    readSelectionSet (selection.spell ++ rest) = some (selection, rest) := by
  cases selection with
  | spread fragment => rfl
  | fields selection =>
      rw [SelectionSet.spell, List.cons_append, List.append_assoc, List.singleton_append,
        readSelectionSet, readFields_spelled]
      · rfl
      · intro fragment tokens spread
        cases selection with
        | nil => cases spread
        | cons field fields => cases field <;> cases spread

theorem readAlias_spelled (alias? : Option String) (name : String) (rest : List Token)
    (unaliased : rest.head? ≠ some .colon) :
    readAlias (spellAlias alias? ++ .name name :: rest) = (alias?, .name name :: rest) := by
  cases alias? with
  | some other => rfl
  | none =>
      rw [spellAlias, List.nil_append]
      unfold readAlias
      split
      · rename_i other tokens colon
        cases colon
        exact absurd rfl unaliased
      · rfl

/-- What comes after the name of a root field is no colon. -/
theorem head?_arguments (arguments : List Argument) (selection : SelectionSet)
    (rest : List Token) :
    (parenthesize spellArgument arguments ++ (selection.spell ++ rest)).head? ≠
      some .colon := by
  cases arguments with
  | nil => cases selection <;> simp [parenthesize, SelectionSet.spell]
  | cons argument arguments => simp [parenthesize]

theorem readRoot_spell (root : Root) : ReadsBack readRoot Root.spell root := by
  intro rest _
  have unaliased := head?_arguments root.arguments root.selection rest
  have outside : (root.selection.spell ++ rest).head? ≠ some .openParen := by
    cases root.selection <;> simp [SelectionSet.spell]
  have arguments := repeatable_arguments.readParenthesized_spelled rfl root.arguments outside
  rw [Root.spell, List.append_assoc, List.cons_append, List.append_assoc]
  unfold readRoot
  rw [readAlias_spelled _ _ _ unaliased]
  dsimp only
  rw [arguments]
  change (readSelectionSet _ >>= _) = _
  rw [readSelectionSet_spell]
  rfl

theorem repeatable_roots : Repeatable Token.isName readRoot Root.spell where
  unmarked := rfl
  opened := by
    intro root
    unfold Root.spell
    cases root.alias? with
    | none => exact ⟨_, _, rfl, rfl⟩
    | some other => exact ⟨_, _, rfl, rfl⟩
  readsBack := readRoot_spell

theorem readFragment_spell (fragment : FragmentDefinition) :
    ReadsBack readFragment spellFragment fragment := by
  intro rest _
  rw [spellFragment, SelectionSet.spell]
  simp only [List.cons_append, List.append_assoc, List.nil_append]
  rw [readFragment, readFields_spelled]
  rfl

theorem repeatable_fragments :
    Repeatable (· = .name "fragment") readFragment spellFragment where
  unmarked := rfl
  opened := fun _ => ⟨_, _, rfl, by simp⟩
  readsBack := readFragment_spell

/-! ## Whole trees -/

theorem kindOf?_keyword (kind : OperationKind) : kindOf? kind.keyword = some kind := by
  cases kind <;> decide

theorem readOperation_spell (operation : Operation) (filled : operation.roots ≠ [])
    (rest : List Token) :
    readOperation (operation.spell ++ rest) = some (operation, rest) := by
  obtain ⟨kind, name, declarations, roots⟩ := operation
  have declared := repeatable_declarations.readParenthesized_spelled rfl declarations
    (show (.openBrace :: (roots.flatMap Root.spell ++ .closeBrace :: rest)).head? ≠ _ by simp)
  have unmarked : Unmarked (.closeBrace :: rest) := by simp [Unmarked]
  have fields := repeatable_roots.readWhile_spelled roots unmarked (by simp [Token.isName])
  cases roots with
  | nil => exact absurd rfl filled
  | cons root roots =>
      rw [Operation.spell]
      simp only [List.cons_append, List.append_assoc, List.nil_append]
      rw [readOperation, kindOf?_keyword]
      change (readParenthesized _ _ _ >>= _) = _
      rw [declared]
      dsimp only [Bind.bind, Option.bind]
      rw [fields]

/-- The reader reads a tree back from its tokens. -/
theorem readTree_spell (tree : Tree) (filled : tree.operation.roots ≠ []) :
    readTree tree.spell = some (tree, []) := by
  have keyword : tree.operation.kind.keyword ≠ "fragment" := by
    cases tree.operation.kind <;> decide
  have unmarked : Unmarked tree.operation.spell := by simp [Unmarked, Operation.spell]
  have fragments := repeatable_fragments.readWhile_spelled tree.fragments unmarked
    (by simpa [Operation.spell] using keyword)
  have operation := readOperation_spell tree.operation filled []
  rw [List.append_nil] at operation
  unfold readTree Tree.spell
  rw [fragments]
  change (readOperation _ >>= _) = _
  rw [operation]
  rfl

end GraphBatch.Syntax
