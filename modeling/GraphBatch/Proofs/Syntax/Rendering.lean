import GraphBatch.Proofs.Syntax.Scanning
import GraphBatch.Proofs.Syntax.Spelling

/-!
# Rendered texts as tokens

The rendered parts of a document are scanned as the tokens of the trees that they
stand for, provided that every name in them is a name. Hence the reader reads the
tree back from the text.
-/

namespace GraphBatch.Syntax

/-! ## Fields -/

mutual

def namedField : Field → Bool
  | .column name => isName name
  | .relation name fields => isName name && namedFields fields

/-- Whether all columns and relations of fields have names. -/
def namedFields : List Field → Bool
  | [] => true
  | field :: rest => namedField field && namedFields rest

end

theorem namedFields_ofColumns (names : List String) :
    namedFields (Selection.ofColumns names) = names.all isName := by
  induction names with
  | nil => rfl
  | cons name names ih =>
      rw [List.all_cons, ← ih]
      rfl

mutual

theorem scans_field (field : Field) (named : namedField field = true) :
    Scans (Selection.renderField field) (spellField field) := by
  cases field with
  | column name => exact Scans.name named
  | relation name fields =>
      obtain ⟨named, inner⟩ := Bool.and_eq_true_iff.mp named
      have opened : Closes (name ++ " \x7b ") [.name name, .openBrace] :=
        (Scans.name named).close (Closes.marks rfl) rfl
      have closed : Closes " \x7d" [.closeBrace] := Closes.marks rfl
      exact ((opened.scan (scans_fields fields inner)).close closed rfl).scans

theorem scans_fields (fields : List Field) (named : namedFields fields = true) :
    Scans (Selection.renderFields fields) (spellFields fields) := by
  cases fields with
  | nil => exact Closes.empty.scans
  | cons field fields =>
      obtain ⟨first, others⟩ := Bool.and_eq_true_iff.mp named
      have one := scans_field field first
      cases fields with
      | nil =>
          rw [spellFields, spellFields, List.append_nil]
          exact one
      | cons next fields =>
          have blank : Closes " " [] := Closes.marks rfl
          have joined := (one.close blank rfl).scan (scans_fields (next :: fields) others)
          rw [List.append_nil] at joined
          exact joined

end

theorem closes_selection {selection : Selection} (named : namedFields selection = true) :
    Closes selection.render (SelectionSet.fields selection).spell := by
  have opened : Closes "\x7b " [.openBrace] := Closes.marks rfl
  have closed : Closes " \x7d" [.closeBrace] := Closes.marks rfl
  exact (opened.scan (scans_fields selection named)).close closed rfl

/-! ## Bodies -/

def selectionOf : Body → SelectionSet
  | .fields selection => .fields selection
  | .spread fragment => .spread fragment
  | .returning selection => .fields [.relation "returning" selection]

def namedBody : Body → Bool
  | .fields selection => namedFields selection
  | .spread fragment => isName fragment
  | .returning selection => namedFields selection

theorem closes_body {body : Body} (named : namedBody body = true) :
    Closes body.render (selectionOf body).spell := by
  cases body with
  | fields selection => exact closes_selection named
  | spread fragment =>
      have opened : Closes "\x7b ..." [.openBrace, .ellipsis] :=
        (Closes.marks rfl : Closes "\x7b " [.openBrace]).append Closes.ellipsis
      have closed : Closes " \x7d" [.closeBrace] := Closes.marks rfl
      exact (opened.scan (Scans.name named)).close closed rfl
  | returning selection =>
      have opened : Closes "\x7b " [.openBrace] := Closes.marks rfl
      have word : Closes "returning " [.name "returning"] := Closes.word "returning" rfl
      have closed : Closes " \x7d" [.closeBrace] := Closes.marks rfl
      have rendered := ((opened.append word).append (closes_selection named)).append closed
      simp only [selectionOf, SelectionSet.spell, spellFields, spellField, List.cons_append,
        List.append_assoc, List.append_nil, List.nil_append] at rendered ⊢
      exact rendered

/-! ## Variables and arguments -/

/-- The text of the mark of a non-null type. -/
def bangText (required : Bool) : String :=
  if required then "!" else ""

def TypeReference.text : TypeReference → String
  | .named name required => name ++ bangText required
  | .list item required => "[" ++ item.text ++ "]" ++ bangText required

def TypeReference.name : TypeReference → String
  | .named name _ => name
  | .list item _ => item.name

theorem closes_bang (required : Bool) : Closes (bangText required) (bang required) := by
  cases required with
  | true => exact Closes.marks rfl
  | false => exact Closes.empty

theorem scans_type {type : TypeReference} (named : isName type.name = true) :
    Scans type.text type.spell := by
  induction type with
  | named name required =>
      cases required with
      | true => exact ((Scans.name named).close (closes_bang true) rfl).scans
      | false =>
          have plain : (TypeReference.named name false).text = name := String.append_empty
          rw [plain]
          exact Scans.name named
  | list item required ih =>
      have opened : Closes "[" [.openBracket] := Closes.marks rfl
      have closed : Closes "]" [.closeBracket] := Closes.marks rfl
      have rendered := ((opened.scan (ih named)).close closed rfl).append (closes_bang required)
      rw [List.append_assoc] at rendered
      exact rendered.scans

def Declaration.variable (declaration : Declaration) : Variable :=
  ⟨declaration.name, declaration.type.text⟩

structure DeclarationNamed (declaration : Declaration) : Prop where
  name : isName declaration.name = true
  type : isName declaration.type.name = true

theorem scans_declaration {declaration : Declaration} (named : DeclarationNamed declaration) :
    Scans declaration.variable.render declaration.spell := by
  have dollar : Closes "$" [.dollar] := Closes.marks rfl
  have colon : Closes ": " [.colon] := Closes.marks rfl
  exact ((dollar.scan (Scans.name named.name)).close colon rfl).scan (scans_type named.type)

structure ArgumentNamed (argument : Argument) : Prop where
  name : isName argument.name = true
  variableName : isName argument.variableName = true

theorem scans_argument {argument : Argument} (named : ArgumentNamed argument) :
    Scans argument.render (spellArgument argument) := by
  have colon : Closes ": $" [.colon, .dollar] := Closes.marks rfl
  exact ((Scans.name named.name).close colon rfl).scan (Scans.name named.variableName)

def parenthesizedText {α : Type} (render : α → String) : List α → String
  | [] => ""
  | items => "(" ++ String.intercalate ", " (items.map render) ++ ")"

theorem argumentsText_eq (arguments : List Argument) :
    RootField.argumentsText arguments = parenthesizedText Argument.render arguments := by
  cases arguments <;> rfl

theorem declarationsText_eq (declared : List Variable) :
    Document.declarationsText declared = parenthesizedText Variable.render declared := by
  cases declared <;> rfl

theorem parenthesizedText_map {α β : Type} (render : β → String) (convert : α → β)
    (items : List α) :
    parenthesizedText render (items.map convert) =
      parenthesizedText (fun item => render (convert item)) items := by
  cases items with
  | nil => rfl
  | cons item items => simp [parenthesizedText, Function.comp_def]

/-- Texts in parentheses between a name and what ends the name. -/
theorem closes_parenthesized {α : Type} {render : α → String} {spell : α → List Token}
    {items : List α} {before after : String} {start stop : List Token}
    (each : ∀ item ∈ items, Scans (render item) (spell item))
    (left : Scans before start) (right : Closes after stop) (ended : stops after = true) :
    Closes (before ++ parenthesizedText render items ++ after)
      (start ++ (parenthesize spell items ++ stop)) := by
  cases items with
  | nil =>
      rw [parenthesizedText, String.append_empty]
      exact left.close right ended
  | cons item items =>
      have opened : Closes "(" [.openParen] := Closes.marks rfl
      have comma : Closes ", " [] := Closes.marks rfl
      have closed : Closes ")" [.closeParen] := Closes.marks rfl
      have inner := (opened.scan (Scans.intercalate comma rfl each)).close closed rfl
      have paren : stops (parenthesizedText render (item :: items)) = true :=
        stops_append _ (stops_append _ rfl)
      have rendered := (left.close inner paren).append right
      rw [List.append_assoc] at rendered
      exact rendered

/-! ## Root fields and fragments -/

def rootOf (root : RootField) : Root :=
  ⟨root.alias?, root.name, root.arguments, selectionOf root.body⟩

structure RootNamed (root : RootField) : Prop where
  alias? : ∀ other ∈ root.alias?, isName other = true
  name : isName root.name = true
  arguments : ∀ argument ∈ root.arguments, ArgumentNamed argument
  body : namedBody root.body = true

theorem closes_alias {alias? : Option String} (named : ∀ other ∈ alias?, isName other = true) :
    Closes (RootField.aliasText alias?) (spellAlias alias?) := by
  cases alias? with
  | none => exact Closes.empty
  | some other =>
      have colon : Closes ": " [.colon] := Closes.marks rfl
      exact (Scans.name (named other rfl)).close colon rfl

theorem closes_root {root : RootField} (named : RootNamed root) :
    Closes root.render (rootOf root).spell := by
  have blank : Closes " " [] := Closes.marks rfl
  have start := (closes_alias named.alias?).scan (Scans.name named.name)
  have arguments := closes_parenthesized
    (fun argument inside => scans_argument (named.arguments argument inside)) start blank rfl
  have rendered := arguments.append (closes_body named.body)
  rw [← argumentsText_eq] at rendered
  simp only [List.append_assoc, List.append_nil, List.singleton_append] at rendered
  exact rendered

structure FragmentNamed (fragment : FragmentDefinition) : Prop where
  name : isName fragment.name = true
  table : isName fragment.table = true
  selection : namedFields fragment.selection = true

theorem closes_fragment {fragment : FragmentDefinition} (named : FragmentNamed fragment) :
    Closes fragment.render (spellFragment fragment) := by
  have keyword : Closes "fragment " [.name "fragment"] := Closes.word "fragment" rfl
  have on : Closes " on " [.name "on"] :=
    (Closes.marks rfl : Closes " " []).append (Closes.word "on" rfl)
  have blank : Closes " " [] := Closes.marks rfl
  have name := (keyword.scan (Scans.name named.name)).close on rfl
  have table := (name.scan (Scans.name named.table)).close blank rfl
  exact table.append (closes_selection named.selection)

/-! ## Whole documents -/

structure OperationNamed (name : String) (declared : List Declaration) (roots : List RootField) :
    Prop where
  name : isName name = true
  declared : ∀ declaration ∈ declared, DeclarationNamed declaration
  roots : ∀ root ∈ roots, RootNamed root

theorem closes_operation (kind : OperationKind) {name : String} {declared : List Declaration}
    {roots : List RootField} (named : OperationNamed name declared roots) :
    Closes (Document.operationText kind name (declared.map Declaration.variable)
        (roots.map RootField.render))
      (Operation.spell ⟨kind, name, declared, roots.map rootOf⟩) := by
  have keyword : isName kind.keyword = true := by cases kind <;> rfl
  have opened : Closes " \x7b " [.openBrace] := Closes.marks rfl
  have blank : Closes " " [] := Closes.marks rfl
  have closed : Closes " \x7d" [.closeBrace] := Closes.marks rfl
  have start := (Closes.word _ keyword).scan (Scans.name named.name)
  have declarations := closes_parenthesized
    (fun declaration inside => scans_declaration (named.declared declaration inside))
    start opened rfl
  have fields := Scans.intercalate blank rfl
    fun root inside => (closes_root (named.roots root inside)).scans
  have rendered := (declarations.scan fields).close closed rfl
  rw [Document.operationText, declarationsText_eq, parenthesizedText_map]
  simp only [List.append_assoc, List.singleton_append] at rendered
  rw [Operation.spell, List.flatMap_map]
  exact rendered

theorem tokens?_document {kind : OperationKind} {name : String} {declared : List Declaration}
    {fragments : List FragmentDefinition} {roots : List RootField}
    (defined : ∀ fragment ∈ fragments, FragmentNamed fragment)
    (named : OperationNamed name declared roots) :
    tokens? (String.join (fragments.map fun fragment => fragment.render ++ "\n")
        ++ Document.operationText kind name (declared.map Declaration.variable)
            (roots.map RootField.render)).toList =
      some (Tree.spell ⟨fragments, ⟨kind, name, declared, roots.map rootOf⟩⟩) := by
  have line : Closes "\n" [] := Closes.marks rfl
  have definitions : Closes (String.join (fragments.map fun fragment => fragment.render ++ "\n"))
      (fragments.flatMap spellFragment) := by
    refine Closes.join ?_
    intro fragment inside
    have rendered := (closes_fragment (defined fragment inside)).append line
    rw [List.append_nil] at rendered
    exact rendered
  have whole := (definitions.append (closes_operation kind named)) []
  rw [List.append_nil, tokens?_nil] at whole
  rw [whole]
  simp [Tree.spell]

/-- The reader reads the fragments and the operation back from their text. -/
theorem parse_document (kind : OperationKind) {name : String} {declared : List Declaration}
    {fragments : List FragmentDefinition} {roots : List RootField}
    (defined : ∀ fragment ∈ fragments, FragmentNamed fragment)
    (named : OperationNamed name declared roots) (filled : roots ≠ []) :
    parse (String.join (fragments.map fun fragment => fragment.render ++ "\n")
        ++ Document.operationText kind name (declared.map Declaration.variable)
            (roots.map RootField.render)) =
      some ⟨fragments, ⟨kind, name, declared, roots.map rootOf⟩⟩ := by
  have some_roots : roots.map rootOf ≠ [] := by simpa using filled
  unfold parse
  rw [tokens?_document defined named]
  change (readTree _ >>= _) = _
  rw [readTree_spell _ some_roots]
  rfl

theorem render_fragment_inj {first second : FragmentDefinition} (named : FragmentNamed first)
    (other : FragmentNamed second) (same : first.render = second.render) : first = second := by
  have one := closes_fragment named []
  have two := closes_fragment other []
  rw [same] at one
  rw [one, tokens?_nil, Option.map_some, Option.map_some] at two
  have spelled := Option.some.inj two
  have read := readFragment_spell first [] (by simp [Unmarked])
  rw [spelled, readFragment_spell second [] (by simp [Unmarked])] at read
  exact (Prod.mk.inj (Option.some.inj read)).1.symm

end GraphBatch.Syntax
