import GraphBatch.Proofs.Syntax.Token

/-!
# Texts as tokens

Which texts are scanned as which tokens, and how this carries over to texts that
are joined. A text that is made of marks and blanks is scanned the same whatever
comes after it; a text that ends in a name is so only where the name ends.
-/

namespace GraphBatch.Syntax

/-- A text is scanned as tokens if no name goes on after it. -/
def Scans (text : String) (tokens : List Token) : Prop :=
  ∀ rest, Ends rest → tokens? (text.toList ++ rest) = (tokens? rest).map (tokens ++ ·)

/-- A text is scanned as tokens whatever comes after it. -/
def Closes (text : String) (tokens : List Token) : Prop :=
  ∀ rest, tokens? (text.toList ++ rest) = (tokens? rest).map (tokens ++ ·)

/-- Whether a text ends the name before it. -/
def stops (text : String) : Bool :=
  match text.toList with
  | [] => false
  | char :: _ => !continuesName char

theorem stops_append {first : String} (second : String) (stop : stops first = true) :
    stops (first ++ second) = true := by
  unfold stops at stop ⊢
  rw [String.toList_append]
  cases chars : first.toList with
  | nil =>
      rw [chars] at stop
      cases stop
  | cons char rest =>
      rw [chars] at stop
      exact stop

theorem ends_of_stops {text : String} (rest : List Char) (stop : stops text = true) :
    Ends (text.toList ++ rest) := by
  unfold stops at stop
  cases chars : text.toList with
  | nil =>
      rw [chars] at stop
      cases stop
  | cons char others =>
      rw [chars] at stop
      exact Ends.cons _ (by simpa using stop)

theorem map_append_append (tokens : Option (List Token)) (first second : List Token) :
    (tokens.map (second ++ ·)).map (first ++ ·) = tokens.map ((first ++ second) ++ ·) := by
  cases tokens with
  | none => rfl
  | some tokens => simp

theorem Scans.name {name : String} (valid : isName name = true) : Scans name [.name name] := by
  intro rest ends
  rw [tokens?_name valid ends]
  rfl

namespace Closes

variable {first second : String} {before after : List Token}

theorem scans {text : String} {tokens : List Token} (closes : Closes text tokens) :
    Scans text tokens := by
  intro rest _
  exact closes rest

theorem append (start : Closes first before) (stop : Closes second after) :
    Closes (first ++ second) (before ++ after) := by
  intro rest
  rw [String.toList_append, List.append_assoc, start, stop, map_append_append]

theorem scan (start : Closes first before) (stop : Scans second after) :
    Scans (first ++ second) (before ++ after) := by
  intro rest ends
  rw [String.toList_append, List.append_assoc, start, stop rest ends, map_append_append]

theorem empty : Closes "" [] := by
  intro rest
  rw [String.toList_empty, List.nil_append]
  cases tokens? rest with
  | none => rfl
  | some tokens => rfl

theorem marks {text : String}
    (plain : text.toList.all (fun char => char ∈ ignored || (mark? char).isSome) = true) :
    Closes text (text.toList.filterMap mark?) := by
  intro rest
  generalize text.toList = chars at plain ⊢
  induction chars with
  | nil =>
      rw [List.nil_append, List.filterMap_nil]
      cases tokens? rest with
      | none => rfl
      | some tokens => rfl
  | cons char chars ih =>
      rw [List.all_cons, Bool.and_eq_true, Bool.or_eq_true, decide_eq_true_eq] at plain
      obtain ⟨first, others⟩ := plain
      have later := ih others
      rcases first with skipped | marked
      · rw [List.cons_append, tokens?_ignored _ skipped, later,
          List.filterMap_cons_none (mark?_of_ignored skipped)]
      · obtain ⟨token, found⟩ := Option.isSome_iff_exists.mp marked
        rw [List.cons_append, tokens?_mark _ found, later, List.filterMap_cons_some found]
        exact map_append_append _ [token] _

theorem ellipsis : Closes "..." [.ellipsis] := by
  intro rest
  exact tokens?_ellipsis rest

end Closes

/-- A text that ends the name before it makes up for the name. -/
theorem Scans.close {first second : String} {before after : List Token}
    (start : Scans first before) (stop : Closes second after) (ended : stops second = true) :
    Closes (first ++ second) (before ++ after) := by
  intro rest
  rw [String.toList_append, List.append_assoc, start _ (ends_of_stops rest ended), stop,
    map_append_append]

theorem Closes.word (word : String) (valid : isName word = true) :
    Closes (word ++ " ") [.name word] :=
  (Scans.name valid).close (Closes.marks rfl) rfl

/-! ## Joined texts -/

section Joined

variable {α : Type} {render : α → String} {spell : α → List Token}

/-- Texts are scanned one after the other if what stands between them is no token. -/
theorem Scans.intercalate {separator : String} {items : List α}
    (blank : Closes separator []) (ended : stops separator = true)
    (each : ∀ item ∈ items, Scans (render item) (spell item)) :
    Scans (String.intercalate separator (items.map render)) (items.flatMap spell) := by
  induction items with
  | nil => exact Closes.empty.scans
  | cons item items ih =>
      have one := each item List.mem_cons_self
      cases items with
      | nil => simpa using one
      | cons next items =>
          have later := ih fun item inside => each item (List.mem_cons_of_mem _ inside)
          have joined := (one.close blank ended).scan later
          rw [List.append_nil] at joined
          rw [List.map_cons, List.map_cons, String.intercalate_cons_cons, List.flatMap_cons]
          exact joined

theorem Closes.join {items : List α}
    (each : ∀ item ∈ items, Closes (render item) (spell item)) :
    Closes (String.join (items.map render)) (items.flatMap spell) := by
  induction items with
  | nil => exact Closes.empty
  | cons item items ih =>
      have later := ih fun item inside => each item (List.mem_cons_of_mem _ inside)
      rw [List.map_cons, String.join_cons, List.flatMap_cons]
      exact (each item List.mem_cons_self).append later

end Joined

/-! ## Names that are joined -/

/-- Whether a name may go on with a whole text. -/
def continues (text : String) : Bool := text.toList.all continuesName

theorem continues_append (first second : String) :
    continues (first ++ second) = (continues first && continues second) := by
  simp [continues]

theorem isName_append {first second : String} (name : isName first = true)
    (more : continues second = true) : isName (first ++ second) = true := by
  unfold isName at name ⊢
  rw [String.toList_append]
  cases chars : first.toList with
  | nil =>
      rw [chars] at name
      cases name
  | cons char rest =>
      rw [chars] at name
      obtain ⟨starts, inside⟩ := Bool.and_eq_true_iff.mp name
      rw [List.cons_append]
      dsimp only
      rw [List.all_append, starts, inside]
      exact more

theorem continues_of_isName {text : String} (name : isName text = true) :
    continues text = true := by
  unfold isName at name
  unfold continues
  cases chars : text.toList with
  | nil => rfl
  | cons char rest =>
      rw [chars] at name
      obtain ⟨starts, inside⟩ := Bool.and_eq_true_iff.mp name
      rw [List.all_cons, continuesName_of_startsName starts, inside]
      rfl

theorem continues_toString (number : Nat) : continues (toString number) = true := by
  refine List.all_eq_true.mpr ?_
  intro char inside
  rw [Nat.toString_eq_repr, Nat.toList_repr] at inside
  have digit := Nat.isDigit_of_mem_toDigits (by decide) (by decide) inside
  simp [continuesName, Char.isAlphanum, digit]

theorem isName_intercalate {names : List String} (filled : names ≠ [])
    (valid : ∀ name ∈ names, isName name = true) :
    isName (String.intercalate "_" names) = true := by
  induction names with
  | nil => exact absurd rfl filled
  | cons name names ih =>
      have first := valid name List.mem_cons_self
      cases names with
      | nil => simpa using first
      | cons next names =>
          have later := ih (List.cons_ne_nil _ _)
            fun name inside => valid name (List.mem_cons_of_mem _ inside)
          rw [String.intercalate_cons_cons, String.append_assoc]
          refine isName_append first ?_
          rw [continues_append, continues_of_isName later]
          rfl

end GraphBatch.Syntax
