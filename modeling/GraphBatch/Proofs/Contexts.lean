import GraphBatch.Error.Held
import Mathlib.Data.List.Nodup

/-!
# Contexts of errors

Contexts that are added one after the other stand before the error in its chain, the
last one first. So the text of the whole begins with theirs, its root stays the root
of the error, and its kind is the kind of the last context alone. They can be added
exactly if none of them has a cause of its own and none of their parts is held anywhere
else, as it is where nothing was copied. Every error is its root in contexts.
-/

namespace GraphBatch

namespace Error

/-! ## Chains -/

theorem eq_of_chain_eq {first second : Error} (same : first.chain = second.chain) :
    first = second := by
  obtain ⟨outer, inner⟩ := List.cons.inj same
  cases first
  cases second
  cases outer
  cases inner
  rfl

theorem root_eq (error : Error) :
    error.root = ofCause (error.chain.getLast (List.cons_ne_nil _ _)) := by
  unfold root chain
  rw [List.getLast_eq_getLastD, List.getLastD_eq_getLast?]

/-- An error without contexts is shown as its cause is. -/
theorem display_ofCause (cause : Cause) : (ofCause cause).display = cause.display :=
  String.intercalate_singleton

/-- A transport fault is shown with its sources, joined as a chain is. -/
theorem display_transport (report : Report) :
    (ofCause (.transport report)).display =
      String.intercalate ": " (report.text :: report.sources) :=
  display_ofCause (.transport report)

section Longer

variable {error whole : Error} {causes : List Cause}

/-- What stands before a chain is shown before it. -/
theorem display_of_chain (longer : whole.chain = causes ++ error.chain) :
    whole.display = String.intercalate ": " (causes.map Cause.display ++ [error.display]) := by
  have shown : error.chain.map Cause.display ≠ [] := by simp [chain]
  unfold display
  rw [longer, List.map_append]
  cases causes with
  | nil => simp
  | cons cause causes =>
      rw [String.intercalate_append_of_ne_nil (by simp) shown,
        String.intercalate_append_of_ne_nil (by simp) (List.cons_ne_nil _ _),
        String.intercalate_singleton]

/-- What stands before a chain leaves its root alone. -/
theorem root_of_chain (longer : whole.chain = causes ++ error.chain) :
    whole.root = error.root := by
  have filled : error.chain ≠ [] := List.cons_ne_nil _ _
  simp only [root_eq, longer]
  rw [List.getLast_append_of_ne_nil _ filled]

end Longer

/-! ## Errors in contexts -/

def inContext (error context : Error) : Error := ⟨context.outer, error.chain⟩

def inContexts (error : Error) (contexts : List Error) : Error :=
  contexts.foldl inContext error

/-- The contexts stand before the error, the last one first. -/
theorem chain_inContexts (error : Error) (contexts : List Error) :
    (error.inContexts contexts).chain = (contexts.map outer).reverse ++ error.chain := by
  induction contexts generalizing error with
  | nil => rfl
  | cons context contexts ih =>
      rw [inContexts, List.foldl_cons, ← inContexts, ih]
      simp [chain, inContext]

theorem outer_inContexts (error : Error) (contexts : List Error) :
    (error.inContexts contexts).outer = (contexts.getLast?.getD error).outer := by
  induction contexts generalizing error with
  | nil => rfl
  | cons context contexts ih =>
      rw [inContexts, List.foldl_cons, ← inContexts, ih]
      cases contexts with
      | nil => rfl
      | cons next rest => simp [List.getLast?_cons]

theorem isOfKind_inContexts (error : Error) (contexts : List Error) (kind : Cause.Kind) :
    (error.inContexts contexts).isOfKind kind = (contexts.getLast?.getD error).isOfKind kind := by
  rw [isOfKind, outer_inContexts, isOfKind]

theorem display_of_bare {context : Error} (bare : context.inner = []) :
    context.display = context.outer.display := by
  rw [display, chain, bare]
  exact String.intercalate_singleton

/-- The contexts are shown before the error, the last one first. -/
theorem display_inContexts {error : Error} {contexts : List Error}
    (bare : ∀ context ∈ contexts, context.inner = []) :
    (error.inContexts contexts).display =
      String.intercalate ": " ((contexts.map display).reverse ++ [error.display]) := by
  have shown : contexts.map display = contexts.map fun context => context.outer.display :=
    List.map_congr_left fun context inside => display_of_bare (bare context inside)
  rw [display_of_chain (chain_inContexts error contexts), shown, List.map_reverse, List.map_map]
  rfl

/-- The contexts that were added to the root of an error, the first one innermost. -/
def added (error : Error) : List Error :=
  (error.chain.dropLast.map ofCause).reverse

theorem inContexts_added (error : Error) : error.root.inContexts error.added = error := by
  have outers : (error.added.map outer).reverse = error.chain.dropLast := by
    rw [added, List.map_reverse, List.reverse_reverse, List.map_map]
    exact List.map_id _
  refine eq_of_chain_eq ?_
  rw [chain_inContexts, outers, root_eq]
  exact List.dropLast_concat_getLast _

end Error

/-! ## Adding contexts -/

namespace Held

variable {held context whole : Held} {contexts others : List Held}

/-- A context with a cause of its own is refused for that, wherever it comes. -/
theorem withContext_eq_caused :
    held.withContext context others = .error .caused ↔ context.inner ≠ [] := by
  unfold withContext
  split
  · rename_i caused
    exact iff_of_true rfl caused
  · rename_i bare
    refine iff_of_false ?_ bare
    split <;> simp

/-- A context is added exactly if it has no cause of its own and only it holds its part. -/
theorem withContext_eq_ok :
    held.withContext context others = .ok whole ↔
      (context.inner = [] ∧ ∀ other ∈ held :: others, context.outer.place ∉ other.places) ∧
        whole = ⟨context.outer, held.parts⟩ := by
  unfold withContext
  split
  · rename_i caused
    exact iff_of_false (by simp) fun fine => caused fine.1.1
  · rename_i bare
    split
    · rename_i shared
      obtain ⟨other, among, inside⟩ := shared
      exact iff_of_false (by simp) fun fine => fine.1.2 other among inside
    · rename_i free
      rw [Except.ok.injEq, eq_comm]
      refine (and_iff_right ⟨not_not.mp bare, ?_⟩).symm
      intro other among inside
      exact free ⟨other, among, inside⟩

/-- An error in contexts, part by part. -/
def within (held : Held) (contexts : List Held) : Held :=
  contexts.foldl (fun reached context => ⟨context.outer, reached.parts⟩) held

/-- What contexts need so that all of them can be added, while others are held too. -/
structure Addable (held : Held) (contexts others : List Held) : Prop where
  bare : ∀ context ∈ contexts, context.inner = []
  distinct : (contexts.map fun context => context.outer.place).Nodup
  unheld : ∀ context ∈ contexts, ∀ other ∈ held :: others, context.outer.place ∉ other.places

theorem places_of_bare (bare : context.inner = []) : context.places = [context.outer.place] := by
  rw [places, parts, bare]
  rfl

/-- The first context is added while the others are held, and then they are added to it. -/
theorem addable_cons :
    Addable held (context :: contexts) others ↔
      (context.inner = [] ∧
        ∀ other ∈ held :: (contexts ++ others), context.outer.place ∉ other.places) ∧
        Addable ⟨context.outer, held.parts⟩ contexts others := by
  constructor
  · rintro ⟨bare, distinct, unheld⟩
    obtain ⟨first_bare, rest_bare⟩ := List.forall_mem_cons.mp bare
    obtain ⟨first_free, rest_free⟩ := List.forall_mem_cons.mp unheld
    obtain ⟨fresh, rest_distinct⟩ := List.nodup_cons.mp distinct
    refine ⟨⟨first_bare, ?_⟩, rest_bare, rest_distinct, ?_⟩
    · intro other among
      rcases List.mem_cons.mp among with rfl | among
      · exact first_free other List.mem_cons_self
      · rcases List.mem_append.mp among with coming | beside
        · rw [places_of_bare (rest_bare other coming), List.mem_singleton]
          exact fun same => fresh (List.mem_map.mpr ⟨other, coming, same.symm⟩)
        · exact first_free other (List.mem_cons_of_mem _ beside)
    · intro later coming other among
      rcases List.mem_cons.mp among with rfl | beside
      · intro inside
        rcases List.mem_cons.mp inside with same | inside
        · exact fresh (List.mem_map.mpr ⟨later, coming, same⟩)
        · exact rest_free later coming held List.mem_cons_self inside
      · exact rest_free later coming other (List.mem_cons_of_mem _ beside)
  · rintro ⟨⟨bare, free⟩, rest_bare, distinct, unheld⟩
    refine ⟨List.forall_mem_cons.mpr ⟨bare, rest_bare⟩, List.nodup_cons.mpr ⟨?_, distinct⟩,
      List.forall_mem_cons.mpr ⟨?_, ?_⟩⟩
    · intro again
      obtain ⟨later, coming, same⟩ := List.mem_map.mp again
      refine free later (List.mem_cons_of_mem _ (List.mem_append_left _ coming)) ?_
      exact List.mem_cons.mpr (Or.inl same.symm)
    · intro other among
      rcases List.mem_cons.mp among with rfl | beside
      · exact free other List.mem_cons_self
      · exact free other (List.mem_cons_of_mem _ (List.mem_append_right _ beside))
    · intro later coming other among
      rcases List.mem_cons.mp among with rfl | beside
      · exact fun inside =>
          unheld later coming _ List.mem_cons_self (List.mem_cons_of_mem _ inside)
      · exact unheld later coming other (List.mem_cons_of_mem _ beside)

/-- Contexts are added exactly if all of them can be. -/
theorem withContexts_eq_ok :
    held.withContexts contexts others = .ok whole ↔
      Addable held contexts others ∧ whole = held.within contexts := by
  induction contexts generalizing held with
  | nil =>
      rw [withContexts, Except.ok.injEq, eq_comm]
      refine (and_iff_right ⟨List.forall_mem_nil _, List.nodup_nil, List.forall_mem_nil _⟩).symm
  | cons context contexts ih =>
      rw [withContexts, addable_cons, and_assoc]
      cases reached : held.withContext context (contexts ++ others) with
      | error refusal =>
          refine iff_of_false (fun impossible => by cases impossible) ?_
          rintro ⟨fine, _⟩
          cases reached.symm.trans (withContext_eq_ok.mpr ⟨fine, rfl⟩)
      | ok next =>
          obtain ⟨fine, rfl⟩ := withContext_eq_ok.mp reached
          rw [and_iff_right fine]
          exact ih

/-- The parts of the contexts stand before those of the error, and none is dropped. -/
theorem parts_within (held : Held) (contexts : List Held) :
    (held.within contexts).parts = (contexts.map outer).reverse ++ held.parts := by
  induction contexts generalizing held with
  | nil => rfl
  | cons context contexts ih =>
      rw [within, List.foldl_cons, ← within, ih]
      simp [parts]

theorem error_within (held : Held) (contexts : List Held) :
    (held.within contexts).error = held.error.inContexts (contexts.map error) := by
  induction contexts generalizing held with
  | nil => rfl
  | cons context contexts ih =>
      rw [within, List.foldl_cons, ← within, ih]
      rfl

/-! ## Errors that were not copied -/

/-- No part is held twice. -/
def Apart (all : List Held) : Prop := (all.flatMap places).Nodup

/-- Where nothing was copied, only contexts with a cause of their own are refused. -/
theorem Apart.addable (apart : Apart (held :: (contexts ++ others)))
    (bare : ∀ context ∈ contexts, context.inner = []) : Addable held contexts others := by
  obtain ⟨-, disjoint⟩ := List.nodup_flatMap.mp apart
  obtain ⟨from_held, among⟩ := List.pairwise_cons.mp disjoint
  obtain ⟨contexts_apart, -, from_others⟩ := List.pairwise_append.mp among
  have first (context : Held) : context.outer.place ∈ context.places := List.mem_cons_self
  refine ⟨bare, ?_, ?_⟩
  · refine List.pairwise_map.mpr (contexts_apart.imp ?_)
    intro one two separate same
    exact separate (first one) (same ▸ first two)
  · intro context inside other held_too holds
    rcases List.mem_cons.mp held_too with rfl | beside
    · exact from_held context (List.mem_append_left _ inside) holds (first context)
    · exact from_others context inside other beside (first context) holds

/-- Adding contexts copies nothing. -/
theorem Apart.within (apart : Apart (held :: (contexts ++ others)))
    (bare : ∀ context ∈ contexts, context.inner = []) :
    Apart (held.within contexts :: others) := by
  have single : contexts.flatMap places = contexts.map fun context => context.outer.place := by
    rw [← List.flatMap_pure_eq_map]
    exact List.flatMap_congr fun context inside => places_of_bare (bare context inside)
  have moved : (held.within contexts).places.Perm (held.places ++ contexts.flatMap places) := by
    rw [places, parts_within, List.map_append, List.map_reverse, List.map_map, single]
    exact ((List.reverse_perm _).append_right _).trans List.perm_append_comm
  unfold Apart at apart ⊢
  rw [List.flatMap_cons, List.flatMap_append, ← List.append_assoc] at apart
  rw [List.flatMap_cons]
  exact (moved.append_right _).nodup_iff.mpr apart

/-! ## Errors in contexts that were added -/

/-- Contexts can be added, one after the other, exactly if none of them has a cause of its
own and none of their parts is held anywhere else. The whole has all parts; it shows the
contexts, the last one first, and then the error, where a transport fault shows its text
and its sources in the same way. It has the root of the error and the kind of the last
context. A context with a cause of its own is refused for that wherever it comes. Where no
error was copied, no other context is refused, and none has been copied after that. -/
theorem whole_of_contexts (held : Held) (contexts others : List Held) :
    ((∃ whole, held.withContexts contexts others = .ok whole) ↔
      (∀ context ∈ contexts, context.inner = []) ∧
        (contexts.map fun context => context.outer.place).Nodup ∧
        ∀ context ∈ contexts, ∀ other ∈ held :: others,
          context.outer.place ∉ other.places) ∧
      (∀ whole, held.withContexts contexts others = .ok whole →
        whole.parts = (contexts.map outer).reverse ++ held.parts ∧
        whole.error.display = String.intercalate ": "
          ((contexts.map fun context => context.error.display).reverse ++
            [held.error.display]) ∧
        whole.error.root = held.error.root ∧
        ∀ kind, whole.error.isOfKind kind =
          (contexts.getLast?.getD held).error.isOfKind kind) ∧
      (∀ report, (Error.ofCause (.transport report)).display =
        String.intercalate ": " (report.text :: report.sources)) ∧
      (∀ context, held.withContext context others = .error .caused ↔ context.inner ≠ []) ∧
      (Apart (held :: (contexts ++ others)) → (∀ context ∈ contexts, context.inner = []) →
        ∃ whole, held.withContexts contexts others = .ok whole ∧ Apart (whole :: others)) := by
  refine ⟨?_, ?_, Error.display_transport, fun _ => withContext_eq_caused, ?_⟩
  · constructor
    · rintro ⟨whole, added⟩
      obtain ⟨addable, -⟩ := withContexts_eq_ok.mp added
      exact ⟨addable.bare, addable.distinct, addable.unheld⟩
    · rintro ⟨bare, distinct, unheld⟩
      exact ⟨_, withContexts_eq_ok.mpr ⟨⟨bare, distinct, unheld⟩, rfl⟩⟩
  · intro whole added
    obtain ⟨addable, rfl⟩ := withContexts_eq_ok.mp added
    have bare : ∀ context ∈ contexts.map error, context.inner = [] := by
      intro context inside
      obtain ⟨given, listed, rfl⟩ := List.mem_map.mp inside
      rw [error, addable.bare given listed]
      rfl
    have last : (contexts.map error).getLast?.getD held.error =
        (contexts.getLast?.getD held).error := by
      rw [List.getLast?_map, Option.getD_map]
    refine ⟨parts_within held contexts, ?_, ?_, ?_⟩
    · rw [error_within, Error.display_inContexts bare, List.map_map]
      rfl
    · rw [error_within]
      exact Error.root_of_chain (Error.chain_inContexts held.error _)
    · intro kind
      rw [error_within, Error.isOfKind_inContexts, last]
  · intro apart bare
    exact ⟨_, withContexts_eq_ok.mpr ⟨apart.addable bare, rfl⟩, apart.within bare⟩

/-- A refused connection in a context, and two more contexts. The whole cannot be the
context of another error. -/
theorem whole_of_contexts_refused :
    let held : Held :=
      ⟨⟨0, .adhoc "query failed"⟩, [⟨1, .transport ⟨"refused", ["socket", "port"]⟩⟩]⟩
    let contexts := [ofCause 2 (.configuration "no proxy"), ofCause 3 (.unknownTable "ghost")]
    ∃ whole, held.withContexts contexts [ofCause 4 (.adhoc "other")] = .ok whole ∧
      whole.places = [3, 2, 0, 1] ∧
      whole.error.display = "unknown table: ghost: invalid configuration: no proxy: "
        ++ "query failed: refused: socket: port" ∧
      whole.error.root = .ofCause (.transport ⟨"refused", ["socket", "port"]⟩) ∧
      whole.error.isOfKind .unknownTable = true ∧ whole.error.isOfKind .transport = false ∧
      (ofCause 4 (.adhoc "other")).withContext whole [] = .error .caused := by
  intro held contexts
  obtain ⟨accepted, results, -, -, -⟩ := whole_of_contexts held contexts [ofCause 4 (.adhoc "other")]
  obtain ⟨whole, added⟩ := accepted.mpr (by decide)
  obtain ⟨parts, shown, root, kinds⟩ := results whole added
  refine ⟨whole, added, ?_, shown, root, kinds .unknownTable, kinds .transport, ?_⟩
  · rw [places, parts]
    rfl
  · refine ((whole_of_contexts _ [] []).2.2.2.1 whole).mpr fun bare => ?_
    have length := congrArg List.length parts
    rw [Held.parts, bare] at length
    cases length

/-- A context without a cause is refused where a copy of it is added first, or is held
elsewhere. -/
theorem refused_of_copied :
    let held := ofCause 0 (.adhoc "refused")
    let context := ofCause 1 (.configuration "no proxy")
    context.inner = [] ∧
      held.withContexts [context, context] [] = .error .shared ∧
      held.withContext context [context] = .error .shared := by
  decide

end Held

end GraphBatch
