import GraphBatch.Client.Assembly
import GraphBatch.Proofs.Drafting
import GraphBatch.Scripted.Desk

/-!
# Connections that fail

A configuration supplies the parts that an assembly lacks, one after the other. Where
that fails, and where the build after it fails, the parts that were supplied stay. So
a failed attempt leaves a trace exactly if the first part that was lacking was made,
and a later attempt with another configuration goes as it would have gone exactly if
that one makes the same parts.
-/

namespace GraphBatch.Assembly

variable {α ι ε σ ω : Type}

/-! ## Slots -/

/-- A slot keeps what it held, or it was empty and holds what was made for it. -/
inductive Supplied (made : Outcome α) (held : Option α) : Option α → Prop
  | kept : Supplied made held held
  | filled {part : α} (empty : held = none) (success : made = .ok part) :
      Supplied made held (some part)

/-- What a slot held, it still holds. -/
def Stays (held after : Option α) : Prop :=
  ∀ part, held = some part → after = some part

theorem Stays.isNone {held after : Option α} (stays : Stays held after)
    (filled : held.isNone = false) : after.isNone = false := by
  cases held with
  | none => cases filled
  | some part =>
      rw [stays part rfl]
      rfl

namespace Supplied

variable {made : Outcome α} {held between after : Option α}

theorem stays (supplied : Supplied made held after) : Stays held after := by
  intro part here
  cases supplied with
  | kept => exact here
  | filled empty _ => cases empty.symm.trans here

theorem trans (first : Supplied made held between) (second : Supplied made between after) :
    Supplied made held after := by
  cases first with
  | kept => exact second
  | filled empty success =>
      rw [second.stays _ rfl]
      exact .filled empty success

theorem success {part : α} (supplied : Supplied made none (some part)) : made = .ok part := by
  cases supplied with
  | filled _ success => exact success

/-- A slot that is filled in two steps is filled in one of them. -/
theorem split (whole : Supplied made held after) (first : Stays held between)
    (second : Stays between after) :
    Supplied made held between ∧ Supplied made between after := by
  cases whole with
  | kept =>
      have same : between = held := by
        cases between with
        | none =>
            cases held with
            | none => rfl
            | some part => cases first part rfl
        | some part => exact (second part rfl).symm
      rw [same]
      exact ⟨.kept, .kept⟩
  | filled empty success =>
      cases between with
      | none => exact ⟨empty ▸ .kept, .filled rfl success⟩
      | some part =>
          cases second part rfl
          exact ⟨.filled empty success, .kept⟩

end Supplied

/-! ## Assemblies that grow -/

/-- Every part that was there is still there, and the catalog is the same. -/
structure Kept (assembly left : Assembly ι ε σ) : Prop where
  introspector : Stays assembly.introspector left.introspector
  executor : Stays assembly.executor left.executor
  subscriber : Stays assembly.subscriber left.subscriber
  schema : Stays assembly.schema left.schema
  catalog : left.catalog = assembly.catalog

/-- Nothing changed but that parts were added, each as a configuration makes it. -/
structure Grown (factories : Factories ι ε σ) (config : Config)
    (assembly left : Assembly ι ε σ) : Prop where
  introspector :
    Supplied (makeIntrospect factories config) assembly.introspector left.introspector
  executor : Supplied (factories.execute config) assembly.executor left.executor
  subscriber : Supplied (factories.subscribe config) assembly.subscriber left.subscriber
  schema : Supplied (.ok config.schema) assembly.schema left.schema
  catalog : left.catalog = assembly.catalog

variable {factories later : Factories ι ε σ} {config other : Config}
variable {assembly between left : Assembly ι ε σ}

namespace Grown

theorem refl : Grown factories config assembly assembly :=
  ⟨.kept, .kept, .kept, .kept, rfl⟩

theorem kept (grown : Grown factories config assembly left) : Kept assembly left :=
  ⟨grown.introspector.stays, grown.executor.stays, grown.subscriber.stays, grown.schema.stays,
    grown.catalog⟩

theorem trans (first : Grown factories config assembly between)
    (second : Grown factories config between left) : Grown factories config assembly left :=
  ⟨first.introspector.trans second.introspector, first.executor.trans second.executor,
    first.subscriber.trans second.subscriber, first.schema.trans second.schema,
    second.catalog.trans first.catalog⟩

theorem split (whole : Grown factories config assembly left) (first : Kept assembly between)
    (second : Kept between left) :
    Grown factories config assembly between ∧ Grown factories config between left := by
  obtain ⟨introspector, introspector'⟩ :=
    whole.introspector.split first.introspector second.introspector
  obtain ⟨executor, executor'⟩ := whole.executor.split first.executor second.executor
  obtain ⟨subscriber, subscriber'⟩ := whole.subscriber.split first.subscriber second.subscriber
  obtain ⟨schema, schema'⟩ := whole.schema.split first.schema second.schema
  exact ⟨⟨introspector, executor, subscriber, schema, first.catalog⟩,
    ⟨introspector', executor', subscriber', schema', second.catalog⟩⟩

end Grown

/-! ## Parts one by one -/

/-- The parts that a configuration supplies. -/
inductive Part where
  | introspection
  | execution
  | subscription
  | schema

namespace Part

def all : List Part := [.introspection, .execution, .subscription, .schema]

def supply (factories : Factories ι ε σ) (config : Config) :
    Part → Assembly ι ε σ → Outcome (Assembly ι ε σ)
  | .introspection => supplyIntrospect factories config
  | .execution => supplyExecute factories config
  | .subscription => supplySubscribe factories config
  | .schema => supplySchema config

/-- Whether an assembly lacks a part. With a catalog, no introspection is lacking. -/
def isLacking (assembly : Assembly ι ε σ) : Part → Bool
  | .introspection => assembly.catalog.isNone && assembly.introspector.isNone
  | .execution => assembly.executor.isNone
  | .subscription => assembly.subscriber.isNone
  | .schema => assembly.schema.isNone

def IsMade (factories : Factories ι ε σ) (config : Config) : Part → Prop
  | .introspection => ∃ transport, makeIntrospect factories config = .ok transport
  | .execution => ∃ transport, factories.execute config = .ok transport
  | .subscription => ∃ transport, factories.subscribe config = .ok transport
  | .schema => True

variable {part : Part}

theorem isLacking_of_kept (kept : Kept assembly left)
    (present : part.isLacking assembly = false) : part.isLacking left = false := by
  cases part with
  | introspection =>
      rw [isLacking, Bool.and_eq_false_iff] at present ⊢
      rw [kept.catalog]
      exact present.imp_right kept.introspector.isNone
  | execution => exact kept.executor.isNone present
  | subscription => exact kept.subscriber.isNone present
  | schema => exact kept.schema.isNone present

theorem supply_of_present (present : part.isLacking assembly = false) :
    part.supply factories config assembly = .ok assembly := by
  obtain ⟨introspector, executor, subscriber, catalog, schema⟩ := assembly
  cases part with
  | introspection =>
      cases catalog with
      | some catalog => rfl
      | none =>
          cases introspector with
          | some transport => rfl
          | none => cases present
  | execution =>
      cases executor with
      | some transport => rfl
      | none => cases present
  | subscription =>
      cases subscriber with
      | some transport => rfl
      | none => cases present
  | schema =>
      cases schema with
      | some schema => rfl
      | none => cases present

/-- A part that is lacking is made and added. What was added tells what was made. -/
theorem exists_attempt (lacking : part.isLacking assembly = true) :
    ∃ (β : Type) (make : Factories ι ε σ → Config → Outcome β) (add : β → Assembly ι ε σ),
      ∀ factories config,
        part.supply factories config assembly =
          (make factories config >>= fun made => .ok (add made)) ∧
        (part.IsMade factories config ↔ ∃ made, make factories config = .ok made) ∧
        ∀ made, part.isLacking (add made) = false ∧
          (Grown factories config assembly (add made) ↔ make factories config = .ok made) := by
  obtain ⟨introspector, executor, subscriber, catalog, schema⟩ := assembly
  cases part with
  | introspection =>
      obtain ⟨rfl, rfl⟩ : catalog = none ∧ introspector = none := by
        simpa [isLacking, Option.isNone_iff_eq_none] using lacking
      refine ⟨ι, makeIntrospect, _, fun factories config => ⟨rfl, Iff.rfl, fun made => ⟨rfl, ?_⟩⟩⟩
      constructor
      · exact fun grown => grown.introspector.success
      · exact fun success => ⟨.filled rfl success, .kept, .kept, .kept, rfl⟩
  | execution =>
      obtain rfl := Option.isNone_iff_eq_none.mp lacking
      refine ⟨ε, Factories.execute, _, fun factories config => ⟨rfl, Iff.rfl, fun made => ⟨rfl, ?_⟩⟩⟩
      constructor
      · exact fun grown => grown.executor.success
      · exact fun success => ⟨.kept, .filled rfl success, .kept, .kept, rfl⟩
  | subscription =>
      obtain rfl := Option.isNone_iff_eq_none.mp lacking
      refine ⟨σ, Factories.subscribe, _, fun factories config => ⟨rfl, Iff.rfl, fun made => ⟨rfl, ?_⟩⟩⟩
      constructor
      · exact fun grown => grown.subscriber.success
      · exact fun success => ⟨.kept, .kept, .filled rfl success, .kept, rfl⟩
  | schema =>
      obtain rfl := Option.isNone_iff_eq_none.mp lacking
      refine ⟨String, fun _ config => .ok config.schema,
        fun schema => ⟨introspector, executor, subscriber, catalog, some schema⟩,
        fun factories config => ⟨rfl, ?_, fun made => ⟨rfl, ?_⟩⟩⟩
      · exact ⟨fun _ => ⟨config.schema, rfl⟩, fun _ => trivial⟩
      · constructor
        · exact fun grown => grown.schema.success
        · exact fun success => ⟨.kept, .kept, .kept, .filled rfl success, rfl⟩

/-- A part that is lacking is made and added, or nothing comes of the attempt. -/
theorem supply_of_lacking (factories : Factories ι ε σ) (config : Config)
    (lacking : part.isLacking assembly = true) :
    (¬ part.IsMade factories config ∧
      ∃ error, part.supply factories config assembly = .error error) ∨
    (part.IsMade factories config ∧ ∃ next, part.supply factories config assembly = .ok next ∧
      Grown factories config assembly next ∧ part.isLacking next = false) := by
  obtain ⟨β, make, add, attempt⟩ := exists_attempt lacking
  obtain ⟨supplied, is_made, added⟩ := attempt factories config
  cases outcome : make factories config with
  | error error =>
      refine Or.inl ⟨?_, error, by rw [supplied, outcome]; rfl⟩
      rw [is_made]
      rintro ⟨made, success⟩
      cases outcome.symm.trans success
  | ok made =>
      obtain ⟨present, grown⟩ := added made
      exact Or.inr ⟨is_made.mpr ⟨made, outcome⟩, add made, by rw [supplied, outcome]; rfl,
        grown.mpr outcome, present⟩

/-- Another configuration that makes what was added adds the same. -/
theorem supply_of_grown {next : Assembly ι ε σ}
    (supplied : part.supply factories config assembly = .ok next)
    (grown : Grown later other assembly next) :
    part.supply later other assembly = .ok next := by
  cases lacking : part.isLacking assembly with
  | false => rwa [supply_of_present lacking] at supplied ⊢
  | true =>
      obtain ⟨β, make, add, attempt⟩ := exists_attempt lacking
      obtain ⟨first, _, _⟩ := attempt factories config
      obtain ⟨second, _, added⟩ := attempt later other
      obtain ⟨made, _, done⟩ := Outcome.bind_eq_ok.mp (first.symm.trans supplied)
      cases done
      rw [second, ((added made).2.mp grown)]
      rfl

theorem grown_of_supply {next : Assembly ι ε σ}
    (supplied : part.supply factories config assembly = .ok next) :
    Grown factories config assembly next ∧ part.isLacking next = false := by
  cases lacking : part.isLacking assembly with
  | false =>
      cases (supply_of_present lacking).symm.trans supplied
      exact ⟨.refl, lacking⟩
  | true =>
      rcases supply_of_lacking factories config lacking with ⟨_, error, failed⟩ | ⟨_, added, done, grown⟩
      · cases failed.symm.trans supplied
      · cases done.symm.trans supplied
        exact grown

end Part

/-! ## All parts -/

def supplyParts (factories : Factories ι ε σ) (config : Config) (parts : List Part) :
    Assembly ι ε σ → Assembly ι ε σ × Option Error :=
  supply (parts.map (Part.supply factories config))

theorem equip_eq : assembly.equip factories config = supplyParts factories config Part.all assembly :=
  rfl

variable {part : Part} {parts : List Part}

theorem supplyParts_cons_of_ok {next : Assembly ι ε σ}
    (supplied : part.supply factories config assembly = .ok next) :
    supplyParts factories config (part :: parts) assembly =
      supplyParts factories config parts next := by
  rw [supplyParts, List.map_cons, supply, supplied, supplyParts]

theorem supplyParts_cons_of_error {error : Error}
    (failed : part.supply factories config assembly = .error error) :
    supplyParts factories config (part :: parts) assembly = (assembly, some error) := by
  rw [supplyParts, List.map_cons, supply, failed]

theorem grown_supplyParts (factories : Factories ι ε σ) (config : Config) (parts : List Part)
    (assembly : Assembly ι ε σ) :
    Grown factories config assembly (supplyParts factories config parts assembly).1 := by
  induction parts generalizing assembly with
  | nil => exact .refl
  | cons part rest ih =>
      cases supplied : part.supply factories config assembly with
      | error error =>
          rw [supplyParts_cons_of_error supplied]
          exact .refl
      | ok next =>
          rw [supplyParts_cons_of_ok supplied]
          exact (Part.grown_of_supply supplied).1.trans (ih next)

theorem supplyParts_ne_iff :
    (supplyParts factories config parts assembly).1 ≠ assembly ↔
      ∃ part, parts.find? (·.isLacking assembly) = some part ∧ part.IsMade factories config := by
  induction parts with
  | nil => simp [supplyParts, supply]
  | cons part rest ih =>
      cases lacking : part.isLacking assembly with
      | false =>
          rw [supplyParts_cons_of_ok (Part.supply_of_present lacking),
            List.find?_cons_of_neg (by simp [lacking])]
          exact ih
      | true =>
          rw [List.find?_cons_of_pos lacking]
          rcases Part.supply_of_lacking factories config lacking with
            ⟨refused, error, failed⟩ | ⟨made, next, supplied, grown, present⟩
          · rw [supplyParts_cons_of_error failed]
            simp [refused]
          · rw [supplyParts_cons_of_ok supplied]
            refine iff_of_true (fun same => ?_) ⟨part, rfl, made⟩
            have kept := (grown_supplyParts factories config rest next).kept
            -- What was added stays, so the assembly is not the one that lacks it.
            have still := Part.isLacking_of_kept kept present
            rw [same, lacking] at still
            cases still

/-- Parts that another configuration makes as well make no difference to it. -/
theorem supplyParts_of_grown
    (grown : Grown later other assembly (supplyParts factories config parts assembly).1) :
    supplyParts later other parts (supplyParts factories config parts assembly).1 =
      supplyParts later other parts assembly := by
  induction parts generalizing assembly with
  | nil => rfl
  | cons part rest ih =>
      cases supplied : part.supply factories config assembly with
      | error error => rw [supplyParts_cons_of_error supplied]
      | ok next =>
          rw [supplyParts_cons_of_ok supplied] at grown ⊢
          obtain ⟨first, present⟩ := Part.grown_of_supply supplied
          have rest_kept := (grown_supplyParts factories config rest next).kept
          -- `next` lies between the two: the other run comes to it from the one, by making
          -- the same part, and passes from the other over a part that is there.
          obtain ⟨to_next, from_next⟩ := grown.split first.kept rest_kept
          rw [supplyParts_cons_of_ok (Part.supply_of_grown supplied to_next),
            supplyParts_cons_of_ok
              (Part.supply_of_present (Part.isLacking_of_kept rest_kept present))]
          exact ih from_next

/-! ## Connecting -/

variable {answering : ι → Catalog.Answering ω} {state after : ω}

theorem build_eq_error {error : Error}
    (failed : assembly.build answering state = (after, left, .error error)) : left = assembly := by
  unfold build at failed
  split at failed
  · cases failed
    rfl
  · split at failed
    · cases failed
      rfl
    · cases failed

theorem left_eq_supplied {error : Error}
    (failed : assembly.connect factories answering config state = (after, left, .error error)) :
    left = (supplyParts factories config Part.all assembly).1 := by
  rw [← equip_eq]
  unfold connect at failed
  split at failed
  · rename_i equipped
    cases failed
    rw [equipped]
  · rename_i equipped
    rw [equipped]
    exact build_eq_error failed

/-- The parts that are there after an attempt, in the client or in the assembly. The
catalog is left out. -/
def partsAfter (result : ω × Assembly ι ε σ × Outcome (Client ε σ)) : Assembly ι ε σ :=
  match result with
  | (_, left, .error _) => { left with catalog := none }
  | (_, left, .ok client) =>
      { left with
        catalog := none, executor := some client.executor, subscriber := client.subscriber }

theorem partsAfter_build (answering : ι → Catalog.Answering ω) (assembly : Assembly ι ε σ)
    (state : ω) : partsAfter (assembly.build answering state) = { assembly with catalog := none } := by
  unfold build
  split
  · rfl
  · rename_i executor set
    split
    · rfl
    · rw [partsAfter, set]

theorem partsAfter_connect (factories : Factories ι ε σ) (answering : ι → Catalog.Answering ω)
    (config : Config) (assembly : Assembly ι ε σ) (state : ω) :
    partsAfter (assembly.connect factories answering config state) =
      { (assembly.equip factories config).1 with catalog := none } := by
  unfold connect
  split
  · rename_i equipped
    rw [equipped, partsAfter]
  · rename_i equipped
    rw [equipped, partsAfter_build]

theorem eq_of_parts_eq (parts : { left with catalog := none } = { assembly with catalog := none })
    (catalog : left.catalog = assembly.catalog) : left = assembly := by
  obtain ⟨_, _, _, _, _⟩ := left
  obtain ⟨_, _, _, _, _⟩ := assembly
  cases catalog
  cases parts
  rfl

/-- Where two attempts come to the same, the configuration makes every part that the
one starts with and the other lacks. -/
theorem grown_of_connect_eq (kept : Kept assembly left)
    (same : left.connect factories answering config state =
      assembly.connect factories answering config state) :
    Grown factories config assembly left := by
  have whole : Grown factories config assembly (assembly.equip factories config).1 :=
    grown_supplyParts factories config Part.all assembly
  have rest : Grown factories config left (left.equip factories config).1 :=
    grown_supplyParts factories config Part.all left
  have equal : (left.equip factories config).1 = (assembly.equip factories config).1 := by
    have parts := congrArg partsAfter same
    rw [partsAfter_connect, partsAfter_connect] at parts
    exact eq_of_parts_eq parts (rest.catalog.trans (kept.catalog.trans whole.catalog.symm))
  rw [equal] at rest
  exact (whole.split kept rest.kept).1

/-- An attempt that fails: it leaves the assembly with parts that its configuration
made, and it leaves a trace exactly if the first part that was lacking was made. A later
attempt goes as it would have gone without the failed one, exactly if its configuration
makes every part that was left behind as well. -/
theorem left_of_failed_connect {factories : Factories ι ε σ} {answering : ι → Catalog.Answering ω}
    {config : Config} {assembly left : Assembly ι ε σ} {state after : ω} {error : Error}
    (failed : assembly.connect factories answering config state = (after, left, .error error)) :
    Grown factories config assembly left ∧
    (left ≠ assembly ↔ ∃ part, Part.all.find? (·.isLacking assembly) = some part ∧
      part.IsMade factories config) ∧
    ∀ (later : Factories ι ε σ) (answers : ι → Catalog.Answering ω) (other : Config) (begun : ω),
      left.connect later answers other begun = assembly.connect later answers other begun ↔
        Grown later other assembly left := by
  obtain rfl := left_eq_supplied failed
  have grown := grown_supplyParts factories config Part.all assembly
  refine ⟨grown, supplyParts_ne_iff, fun later answers other begun => ?_⟩
  constructor
  · exact grown_of_connect_eq grown.kept
  · intro makes
    unfold connect
    rw [equip_eq, supplyParts_of_grown makes, equip_eq]

open Scripted

/-- Introspection that answers nothing: the transports and the schema of the
configuration stay, and another attempt with it goes as the first one did. -/
theorem left_of_failed_connect_unanswered :
    ∃ config after left error, Config.ofEndpoint "http://[::1]" = .ok config ∧
      (Desk.empty.setRows []).assembly.connect Desk.factories (Wiring.answer Rows.answer) config
        (.ofQueue []) = (after, left, .error error) ∧
      left ≠ (Desk.empty.setRows []).assembly ∧
      left.connect Desk.factories (Wiring.answer Rows.answer) config (.ofQueue []) =
        (after, left, .error error) := by
  obtain ⟨config, made⟩ : ∃ config, Config.ofEndpoint "http://[::1]" = .ok config := ⟨_, rfl⟩
  obtain ⟨after, left, error, failed⟩ : ∃ after left error,
      (Desk.empty.setRows []).assembly.connect Desk.factories (Wiring.answer Rows.answer) config
        (.ofQueue []) = (after, left, .error error) := by
    cases made
    exact ⟨_, _, _, rfl⟩
  obtain ⟨grown, trace, again⟩ := left_of_failed_connect failed
  have supplied : ∃ transport, Desk.factories.execute config = .ok transport := by
    cases made
    exact ⟨_, rfl⟩
  refine ⟨config, after, left, error, made, failed, trace.mpr ⟨.execution, rfl, supplied⟩, ?_⟩
  rw [(again _ _ config _).mpr grown, failed]

/-- Another configuration after a failed attempt: the schema of the first one is
introspected again. -/
theorem schema_of_failed_connect :
    ∃ first second error,
      Setting.applyAll [.endpoint "http://[::1]", .schema "first"] none = some (.ok first) ∧
      Setting.applyAll [.endpoint "http://[::2]", .schema "second"] none = some (.ok second) ∧
      ((Desk.empty.setRows []).connect first).2 = .error error ∧
      (((Desk.empty.setRows []).connect first).1.connect second).1.rows.asked =
        [Catalog.Question.tables.query "first", Catalog.Question.tables.query "first"] ∧
      ((Desk.empty.setRows []).connect second).1.rows.asked =
        [Catalog.Question.tables.query "second"] ∧
      Catalog.Question.tables.query "first" ≠ Catalog.Question.tables.query "second" :=
  ⟨_, _, _, rfl, rfl, rfl, rfl, rfl, by decide⟩

end GraphBatch.Assembly
