import GraphBatch.Proofs.Passes

/-!
# What introspection answers

A catalog is read in three passes. Each pass is a query and the rows that answer it,
and the rows are taken one by one. The first answer that is missing, the first row
that cannot be decoded and the first row that names an unknown table end the
conversation, and nothing more is asked. A conversation that does not end like this
gives the catalog that the rows report.
-/

namespace GraphBatch.Catalog

/-! ## The conversation -/

/-- A question with the answer to it. -/
abbrev Answer := Question × Outcome (List Row)

variable {σ : Type} (answering : Answering σ) (schema : String)

def answers : List Question → σ → List Answer
  | [], _ => []
  | question :: rest, state =>
      (question, (answering state (question.query schema)).2) ::
        answers rest (answering state (question.query schema)).1

/-- A source that also keeps the queries that it is asked. -/
def recording : Answering (σ × List String) := fun state query =>
  (((answering state.1 query).1, state.2 ++ [query]), (answering state.1 query).2)

namespace Answer

def query (answer : Answer) : String := answer.1.query schema

def tables : Answer → List String
  | (.tables, .ok rows) =>
      rows.filterMap fun row => (row.decode TableRow.record).toOption.map TableRow.table
  | _ => []

/-- What an answer is refused for: there is none, or one of its rows is the first that is
refused. Rows of columns and keys may name the tables that are known. -/
inductive Refused (known : List String) : Answer → Error → Prop where
  | missing {question : Question} {fault : Error} :
      Refused known (question, .error fault) fault
  | tables {rows : List Row} {error : Error}
      (first : FirstRefusal
        (Row.Refused TableRow.record TableRow.table fun _ => True) rows error) :
      Refused known (.tables, .ok rows) error
  | columns {rows : List Row} {error : Error}
      (first : FirstRefusal
        (Row.Refused ColumnRow.record ColumnRow.table (· ∈ known)) rows error) :
      Refused known (.columns, .ok rows) error
  | keys {rows : List Row} {error : Error}
      (first : FirstRefusal
        (Row.Refused KeyRow.record KeyRow.table (· ∈ known)) rows error) :
      Refused known (.keys, .ok rows) error

end Answer

/-- A conversation stops at the first answer that is refused: it has sent the queries up to
that one, and the answers before it were not refused. -/
def StopsAt (known : List String) (given : List Answer) (sent : List String) (error : Error) :
    Prop :=
  ∃ before last after, given = before ++ last :: after ∧
    sent = (before ++ [last]).map (Answer.query schema) ∧
    (∀ earlier ∈ before, ∀ other, ¬ earlier.Refused known other) ∧ last.Refused known error

/-- Answers report table rows, column rows and key rows: all three are there, every row is
decoded, and the rows of columns and keys name tables of the first answer. -/
structure Reports (given : List Answer) (tables : List TableRow) (columns : List ColumnRow)
    (keys : List KeyRow) : Prop where
  decoded : ∃ tableRows columnRows keyRows,
    given = [(.tables, .ok tableRows), (.columns, .ok columnRows), (.keys, .ok keyRows)] ∧
    List.Forall₂ (Row.Decodes TableRow.record) tableRows tables ∧
    List.Forall₂ (Row.Decodes ColumnRow.record) columnRows columns ∧
    List.Forall₂ (Row.Decodes KeyRow.record) keyRows keys
  columns_known : ∀ row ∈ columns, row.table ∈ tables.map TableRow.table
  keys_known : ∀ row ∈ keys, row.table ∈ tables.map TableRow.table

def Question.fault? (question : Question) (registry : Registry) : Outcome (List Row) → Option Error
  | .error fault => some fault
  | .ok rows => (question.take registry rows).2

namespace Answer

variable {question : Question} {registry : Registry} {known : List String}

/-- Once the tables are known, what an answer is refused for is what the registry fails
with. Table rows need no tables. -/
theorem refused_iff (knows : question = .tables ∨ registry.Knows known)
    (outcome : Outcome (List Row)) (error : Error) :
    Refused known (question, outcome) error ↔ question.fault? registry outcome = some error := by
  cases outcome with
  | error fault =>
      constructor
      · rintro (_ | _)
        rfl
      · intro same
        cases same
        exact .missing
  | ok rows =>
      rw [Question.fault?]
      cases question with
      | tables =>
          rw [take_tables, tablePass.takeRows_eq_error_iff trivial]
          constructor
          · rintro (_ | first)
            exact first
          · exact .tables
      | columns =>
          have fit := knows.resolve_left (by simp)
          rw [take_columns known, (columnPass known).takeRows_eq_error_iff fit]
          constructor
          · rintro (_ | _ | first)
            exact first
          · exact .columns
      | keys =>
          have fit := knows.resolve_left (by simp)
          rw [take_keys known, (keyPass known).takeRows_eq_error_iff fit]
          constructor
          · rintro (_ | _ | _ | first)
            exact first
          · exact .keys

end Answer

namespace StopsAt

variable {schema} {known : List String} {first : Answer} {rest : List Answer}
  {sent : List String} {error : Error}

theorem not_nil : ¬ StopsAt schema known [] sent error := by
  rintro ⟨before, last, after, split, _⟩
  cases before <;> cases split

theorem cons_iff :
    StopsAt schema known (first :: rest) sent error ↔
      sent = [first.query schema] ∧ first.Refused known error ∨
        (∀ other, ¬ first.Refused known other) ∧
          ∃ later, sent = first.query schema :: later ∧
            StopsAt schema known rest later error := by
  constructor
  · rintro ⟨before, last, after, split, rfl, fine, refused⟩
    cases before with
    | nil =>
        cases split
        exact Or.inl ⟨rfl, refused⟩
    | cons answer before =>
        rw [List.cons_append] at split
        obtain ⟨rfl, remains⟩ := List.cons.inj split
        exact Or.inr ⟨fine first List.mem_cons_self, _, rfl, before, last, after, remains, rfl,
          fun earlier inside => fine earlier (List.mem_cons_of_mem _ inside), refused⟩
  · rintro (⟨rfl, refused⟩ | ⟨fine, _, rfl, before, last, after, rfl, rfl, others, refused⟩)
    · exact ⟨[], first, rest, rfl, rfl, by simp, refused⟩
    · refine ⟨first :: before, last, after, rfl, rfl, ?_, refused⟩
      intro earlier inside
      rcases List.mem_cons.mp inside with rfl | inside
      · exact fine
      · exact others earlier inside

theorem cons_of_refused {fault : Error} (refused : first.Refused known fault)
    (unique : ∀ other, first.Refused known other → other = fault) :
    StopsAt schema known (first :: rest) sent error ↔
      sent = [first.query schema] ∧ error = fault := by
  rw [cons_iff]
  constructor
  · rintro (⟨rfl, also⟩ | ⟨fine, _⟩)
    · exact ⟨rfl, unique error also⟩
    · exact absurd refused (fine fault)
  · rintro ⟨rfl, rfl⟩
    exact Or.inl ⟨rfl, refused⟩

end StopsAt

section Conversation

variable {answering schema} {question : Question} {rest questions : List Question}
  {registry final : Registry} {state : σ} {sent : List String} {known : List String}
  {error : Error}

theorem ask_of_fault (answering : Answering σ) (state : σ) (rest : List Question)
    (failed : question.fault? registry (answering state (question.query schema)).2 =
      some error) :
    ask answering schema (question :: rest) registry state =
      ((answering state (question.query schema)).1, .error error) := by
  rw [ask]
  cases answered : answering state (question.query schema) with
  | mk moved outcome =>
      rw [answered] at failed
      cases outcome with
      | error fault =>
          cases failed
          rfl
      | ok rows =>
          rw [Question.fault?] at failed
          cases taken : question.take registry rows with
          | mk next fault? =>
              rw [taken] at failed
              cases failed
              simp only [taken]

theorem ask_of_taken (answering : Answering σ) (state : σ) (rest : List Question)
    {rows : List Row} {next : Registry}
    (given : (answering state (question.query schema)).2 = .ok rows)
    (taken : question.take registry rows = (next, none)) :
    ask answering schema (question :: rest) registry state =
      ask answering schema rest next (answering state (question.query schema)).1 := by
  rw [ask]
  cases answered : answering state (question.query schema) with
  | mk moved outcome =>
      rw [answered] at given
      cases given
      simp only [taken]

theorem answer_cases (question : Question) (registry : Registry) (outcome : Outcome (List Row)) :
    (∃ fault, question.fault? registry outcome = some fault) ∨
      ∃ rows next, outcome = .ok rows ∧ question.take registry rows = (next, none) := by
  cases outcome with
  | error fault => exact Or.inl ⟨fault, rfl⟩
  | ok rows =>
      cases taken : question.take registry rows with
      | mk next fault? =>
          cases fault? with
          | some fault => exact Or.inl ⟨fault, congrArg Prod.snd taken⟩
          | none => exact Or.inr ⟨rows, next, rfl, taken⟩

variable (answering schema) in
/-- Keeping the queries changes nothing else. -/
theorem ask_recording (questions : List Question) (registry : Registry) (state : σ)
    (log : List String) :
    ask answering schema questions registry state =
      ((ask (recording answering) schema questions registry (state, log)).1.1,
        (ask (recording answering) schema questions registry (state, log)).2) := by
  induction questions generalizing registry state log with
  | nil => rfl
  | cons question rest ih =>
      rcases answer_cases question registry (answering state (question.query schema)).2 with
        ⟨fault, failed⟩ | ⟨rows, next, given, taken⟩
      · rw [ask_of_fault answering state rest failed,
          ask_of_fault (recording answering) (state, log) rest failed]
        rfl
      · rw [ask_of_taken answering state rest given taken,
          ask_of_taken (recording answering) (state, log) rest given taken]
        exact ih next _ _

variable (answering schema) in
/-- A conversation as it is heard: the queries that are sent, and the outcome. -/
def heard (questions : List Question) (registry : Registry) (state : σ) :
    List String × Outcome Registry :=
  ((ask (recording answering) schema questions registry (state, [])).1.2,
    (ask (recording answering) schema questions registry (state, [])).2)

/-- Queries are kept behind those that were kept before. -/
theorem ask_log (questions : List Question) (registry : Registry) (state : σ)
    (log : List String) :
    (ask (recording answering) schema questions registry (state, log)).1.2 =
      log ++ (heard answering schema questions registry state).1 := by
  unfold heard
  induction questions generalizing registry state log with
  | nil => exact (List.append_nil log).symm
  | cons question rest ih =>
      rcases answer_cases question registry (answering state (question.query schema)).2 with
        ⟨fault, failed⟩ | ⟨rows, next, given, taken⟩
      · rw [ask_of_fault (recording answering) (state, log) rest failed,
          ask_of_fault (recording answering) (state, []) rest failed]
        rfl
      · rw [ask_of_taken (recording answering) (state, log) rest given taken,
          ask_of_taken (recording answering) (state, []) rest given taken]
        have kept := ih next (answering state (question.query schema)).1
        calc (ask (recording answering) schema rest next
              ((answering state (question.query schema)).1, log ++ [question.query schema])).1.2
            = log ++ ([question.query schema] ++ _) := by
              rw [kept (log ++ [question.query schema]), List.append_assoc]
          _ = log ++ (ask (recording answering) schema rest next
              ((answering state (question.query schema)).1, [question.query schema])).1.2 :=
              congrArg (log ++ ·) (kept [question.query schema]).symm

theorem heard_of_fault (rest : List Question)
    (failed : question.fault? registry (answering state (question.query schema)).2 =
      some error) :
    heard answering schema (question :: rest) registry state =
      ([question.query schema], .error error) := by
  rw [heard, ask_of_fault (recording answering) (state, []) rest failed]
  rfl

theorem heard_of_taken (rest : List Question) {rows : List Row} {next : Registry}
    (given : (answering state (question.query schema)).2 = .ok rows)
    (taken : question.take registry rows = (next, none)) :
    heard answering schema (question :: rest) registry state =
      (question.query schema ::
          (heard answering schema rest next (answering state (question.query schema)).1).1,
        (heard answering schema rest next (answering state (question.query schema)).1).2) := by
  rw [heard, ask_of_taken (recording answering) (state, []) rest given taken]
  have whole := ask_recording answering schema rest next
    (answering state (question.query schema)).1
  have same := (whole [question.query schema]).symm.trans (whole [])
  exact Prod.ext (ask_log rest next _ [question.query schema]) (Prod.mk.inj same).2

/-- Where a conversation stops is decided by its first question, or by the rest of it. -/
theorem heard_cons_eq_error_iff (knows : question = .tables ∨ registry.Knows known)
    (tail : ∀ rows next later, (answering state (question.query schema)).2 = .ok rows →
      question.take registry rows = (next, none) →
      (heard answering schema rest next (answering state (question.query schema)).1 =
          (later, .error error) ↔
        StopsAt schema known (answers answering schema rest
          (answering state (question.query schema)).1) later error)) :
    heard answering schema (question :: rest) registry state = (sent, .error error) ↔
      StopsAt schema known (answers answering schema (question :: rest) state) sent error := by
  rw [answers]
  have refused := Answer.refused_iff knows (answering state (question.query schema)).2
  rcases answer_cases question registry (answering state (question.query schema)).2 with
    ⟨fault, failed⟩ | ⟨rows, next, given, taken⟩
  · rw [heard_of_fault rest failed, StopsAt.cons_of_refused ((refused fault).mpr failed)]
    · simp [Answer.query, eq_comm]
    · intro other also
      exact Option.some.inj (((refused other).mp also).symm.trans failed)
  · have fine : ∀ other, ¬ Answer.Refused known (question, .ok rows) other := by
      intro other fault
      have failed := (Answer.refused_iff knows (.ok rows) other).mp fault
      rw [Question.fault?, taken] at failed
      cases failed
    rw [heard_of_taken rest given taken, given, StopsAt.cons_iff, or_iff_right (fun stops => fine error stops.2),
      and_iff_right fine]
    constructor
    · intro same
      obtain ⟨same_sent, same_outcome⟩ := Prod.mk.inj same
      exact ⟨_, same_sent.symm, (tail rows next _ given taken).mp (Prod.ext rfl same_outcome)⟩
    · rintro ⟨later, rfl, stops⟩
      rw [(tail rows next later given taken).mpr stops]
      rfl

/-- Once the tables are known, a conversation stops at the first answer that is refused. -/
theorem heard_eq_error_iff (later : .tables ∉ questions) (knows : registry.Knows known) :
    heard answering schema questions registry state = (sent, .error error) ↔
      StopsAt schema known (answers answering schema questions state) sent error := by
  induction questions generalizing registry state sent with
  | nil => exact iff_of_false (fun impossible => by cases impossible) StopsAt.not_nil
  | cons question rest ih =>
      rw [List.mem_cons, not_or] at later
      refine heard_cons_eq_error_iff (Or.inr knows) ?_
      intro rows next sent given taken
      exact ih later.2 (knows.take (Ne.symm later.1) taken)

inductive Takes : Registry → List Answer → Registry → Prop where
  | done (registry : Registry) : Takes registry [] registry
  | next {registry next final : Registry} {question : Question} {rows : List Row}
      {rest : List Answer} (taken : question.take registry rows = (next, none))
      (later : Takes next rest final) : Takes registry ((question, .ok rows) :: rest) final

theorem takes_cons_iff {outcome : Outcome (List Row)} {given : List Answer} :
    Takes registry ((question, outcome) :: given) final ↔
      ∃ rows next, outcome = .ok rows ∧ question.take registry rows = (next, none) ∧
        Takes next given final := by
  constructor
  · intro takes
    cases takes with
    | next taken later => exact ⟨_, _, rfl, taken, later⟩
  · rintro ⟨rows, next, rfl, taken, later⟩
    exact .next taken later

/-- A conversation that does not fail has asked everything, and every answer is taken. -/
theorem heard_eq_ok_iff :
    heard answering schema questions registry state = (sent, .ok final) ↔
      sent = questions.map (fun question => question.query schema) ∧
        Takes registry (answers answering schema questions state) final := by
  induction questions generalizing registry state sent with
  | nil =>
      constructor
      · intro same
        cases same
        exact ⟨rfl, .done _⟩
      · rintro ⟨rfl, takes⟩
        cases takes
        rfl
  | cons question rest ih =>
      rw [answers, takes_cons_iff]
      rcases answer_cases question registry (answering state (question.query schema)).2 with
        ⟨fault, failed⟩ | ⟨rows, next, given, taken⟩
      · rw [heard_of_fault rest failed]
        constructor
        · intro impossible
          cases impossible
        · rintro ⟨_, rows, next, given, taken, _⟩
          rw [given, Question.fault?, taken] at failed
          cases failed
      · rw [heard_of_taken rest given taken, given]
        constructor
        · intro same
          obtain ⟨rfl, outcome⟩ := Prod.mk.inj same
          obtain ⟨all, takes⟩ := ih.mp (Prod.ext rfl outcome)
          exact ⟨congrArg (_ :: ·) all, rows, next, rfl, taken, takes⟩
        · rintro ⟨rfl, _, _, same, also, takes⟩
          cases same
          cases taken.symm.trans also
          rw [ih.mpr ⟨rfl, takes⟩]
          rfl

end Conversation

/-- The registry that takes the answers to all questions becomes the catalog that they
report. -/
theorem takes_iff_reports {tableAnswer columnAnswer keyAnswer : Outcome (List Row)}
    {catalog : Catalog} :
    (∃ final, Takes .empty
        [(.tables, tableAnswer), (.columns, columnAnswer), (.keys, keyAnswer)] final ∧
      final.toCatalog = catalog) ↔
    ∃ tables columns keys,
      Reports [(.tables, tableAnswer), (.columns, columnAnswer), (.keys, keyAnswer)]
        tables columns keys ∧
      catalog = reported tables columns keys := by
  constructor
  · rintro ⟨final, takes, rfl⟩
    obtain ⟨tableRows, _, rfl, taken, takes⟩ := takes_cons_iff.mp takes
    obtain ⟨columnRows, _, rfl, columns_taken, takes⟩ := takes_cons_iff.mp takes
    obtain ⟨keyRows, _, rfl, keys_taken, takes⟩ := takes_cons_iff.mp takes
    cases takes
    rw [take_tables] at taken
    obtain ⟨tables, tables_read, rfl⟩ :=
      (tablePass.takeRows_eq_ok_iff trivial tableRows _).mp taken
    have knows := Registry.knows_foldl_enterTable tables
    rw [take_columns (tables.map TableRow.table)] at columns_taken
    obtain ⟨columns, columns_read, rfl⟩ :=
      ((columnPass _).takeRows_eq_ok_iff knows columnRows _).mp columns_taken
    have still := (columnPass _).fits_foldl knows columns_read
    rw [take_keys (tables.map TableRow.table)] at keys_taken
    obtain ⟨keys, keys_read, rfl⟩ :=
      ((keyPass _).takeRows_eq_ok_iff still keyRows _).mp keys_taken
    obtain ⟨columns_decoded, columns_known⟩ := Pass.forall₂_reads_iff.mp columns_read
    obtain ⟨keys_decoded, keys_known⟩ := Pass.forall₂_reads_iff.mp keys_read
    refine ⟨tables, columns, keys, ⟨⟨tableRows, columnRows, keyRows, rfl, ?_, columns_decoded,
      keys_decoded⟩, columns_known, keys_known⟩, Registry.toCatalog_of_rows tables columns keys⟩
    exact (Pass.forall₂_reads_iff.mp tables_read).1
  · rintro ⟨tables, columns, keys, reports, rfl⟩
    obtain ⟨tableRows, columnRows, keyRows, same, tables_decoded, columns_decoded,
      keys_decoded⟩ := reports.decoded
    cases same
    have tables_read : List.Forall₂ tablePass.Reads tableRows tables :=
      Pass.forall₂_reads_iff.mpr ⟨tables_decoded, fun _ _ => trivial⟩
    have columns_read : List.Forall₂ (columnPass (tables.map TableRow.table)).Reads
        columnRows columns :=
      Pass.forall₂_reads_iff.mpr ⟨columns_decoded, reports.columns_known⟩
    have keys_read : List.Forall₂ (keyPass (tables.map TableRow.table)).Reads keyRows keys :=
      Pass.forall₂_reads_iff.mpr ⟨keys_decoded, reports.keys_known⟩
    have knows := Registry.knows_foldl_enterTable tables
    have still := (columnPass _).fits_foldl knows columns_read
    have start : tablePass.fits .empty := trivial
    have tables_taken :=
      (tablePass.takeRows_eq_ok_iff start tableRows _).mpr
        ⟨tables, tables_read, rfl⟩
    have columns_taken :=
      ((columnPass _).takeRows_eq_ok_iff knows columnRows _).mpr
        ⟨columns, columns_read, rfl⟩
    have keys_taken :=
      ((keyPass _).takeRows_eq_ok_iff still keyRows _).mpr ⟨keys, keys_read, rfl⟩
    exact ⟨_, .next tables_taken (.next columns_taken (.next keys_taken (.done _))),
      Registry.toCatalog_of_rows tables columns keys⟩

/-! ## Introspection -/

/-- Introspection as it is heard: the queries that are sent, and the outcome. -/
def transcript (state : σ) : List String × Outcome Catalog :=
  ((introspect (recording answering) schema (state, [])).1.2,
    (introspect (recording answering) schema (state, [])).2)

theorem transcript_eq (state : σ) :
    transcript answering schema state =
      ((heard answering schema Question.all .empty state).1,
        (heard answering schema Question.all .empty state).2.map Registry.toCatalog) := by
  unfold transcript introspect heard
  cases ask (recording answering) schema Question.all .empty (state, []) with
  | mk reached outcome => cases outcome <;> rfl

theorem introspect_recording (state : σ) :
    (introspect answering schema state).2 = (transcript answering schema state).2 := by
  unfold transcript introspect
  rw [ask_recording answering schema Question.all .empty state []]
  cases ask (recording answering) schema Question.all .empty (state, []) with
  | mk reached outcome => cases outcome <;> rfl

/-- The tables that a conversation gets to know are those that its first answer names. -/
def namedTables (given : List Answer) : List String := given.flatMap Answer.tables

theorem tables_of_decoded {rows : List Row} {tables : List TableRow}
    (decoded : List.Forall₂ (Row.Decodes TableRow.record) rows tables) :
    Answer.tables (.tables, .ok rows) = tables.map TableRow.table := by
  rw [Answer.tables]
  induction decoded with
  | nil => rfl
  | cons first _ ih =>
      rw [List.filterMap_cons, ih, Row.decode, first]
      rfl

/-- What is known while a conversation goes on decides where it stops. -/
theorem heard_all_eq_error_iff (state : σ) (sent : List String) (error : Error) :
    heard answering schema Question.all .empty state = (sent, .error error) ↔
      StopsAt schema (namedTables (answers answering schema Question.all state))
        (answers answering schema Question.all state) sent error := by
  refine heard_cons_eq_error_iff (Or.inl rfl) ?_
  intro rows next later given taken
  refine heard_eq_error_iff (by decide) ?_
  rw [take_tables] at taken
  obtain ⟨tables, reads, rfl⟩ :=
    (tablePass.takeRows_eq_ok_iff trivial rows next).mp taken
  have decoded := (Pass.forall₂_reads_iff.mp reads).1
  have names : namedTables (answers answering schema Question.all state) =
      tables.map TableRow.table := by
    have columns (answer : Outcome (List Row)) : Answer.tables (.columns, answer) = [] := by
      cases answer <;> rfl
    have keys (answer : Outcome (List Row)) : Answer.tables (.keys, answer) = [] := by
      cases answer <;> rfl
    rw [Question.all, answers, given, namedTables, List.flatMap_cons, tables_of_decoded decoded]
    simp only [answers, List.flatMap_cons, List.flatMap_nil, columns, keys, List.append_nil]
  rw [names]
  exact Registry.knows_foldl_enterTable tables

theorem transcript_eq_error_iff (state : σ) (sent : List String) (error : Error) :
    transcript answering schema state = (sent, .error error) ↔
      StopsAt schema (namedTables (answers answering schema Question.all state))
        (answers answering schema Question.all state) sent error := by
  rw [← heard_all_eq_error_iff, transcript_eq]
  obtain ⟨asked, outcome⟩ := heard answering schema Question.all .empty state
  cases outcome with
  | error fault => simp only [Except.map, Prod.mk.injEq, Except.error.injEq]
  | ok registry => simp only [Except.map, Prod.mk.injEq, reduceCtorEq]

theorem transcript_eq_ok_iff (state : σ) (sent : List String) (catalog : Catalog) :
    transcript answering schema state = (sent, .ok catalog) ↔
      sent = Question.all.map (fun question => question.query schema) ∧
        ∃ tables columns keys,
          Reports (answers answering schema Question.all state) tables columns keys ∧
          catalog = reported tables columns keys := by
  have becomes : transcript answering schema state = (sent, .ok catalog) ↔
      ∃ final, heard answering schema Question.all .empty state = (sent, .ok final) ∧
        final.toCatalog = catalog := by
    rw [transcript_eq]
    obtain ⟨asked, outcome⟩ := heard answering schema Question.all .empty state
    cases outcome with
    | error fault => simp only [Except.map, Prod.mk.injEq, reduceCtorEq, and_false, false_and,
        exists_false]
    | ok registry => simp [Except.map, and_assoc]
  simp only [becomes, heard_eq_ok_iff, and_assoc, exists_and_left]
  exact and_congr_right fun _ => takes_iff_reports

theorem map_query_answers (questions : List Question) (state : σ) :
    (answers answering schema questions state).map (Answer.query schema) =
      questions.map fun question => question.query schema := by
  induction questions generalizing state with
  | nil => rfl
  | cons question rest ih => rw [answers, List.map_cons, ih, List.map_cons, Answer.query]

/-- What a conversation has sent begins what it would send in all. -/
theorem transcript_isPrefix (state : σ) :
    (transcript answering schema state).1 <+:
      Question.all.map fun question => question.query schema := by
  cases said : transcript answering schema state with
  | mk sent outcome =>
      cases outcome with
      | error error =>
          obtain ⟨before, last, after, given, rfl, _⟩ :=
            (transcript_eq_error_iff answering schema state sent error).mp said
          have whole := map_query_answers answering schema Question.all state
          rw [given, List.append_cons, List.map_append] at whole
          exact ⟨after.map (Answer.query schema), whole⟩
      | ok catalog =>
          have all := ((transcript_eq_ok_iff answering schema state sent catalog).mp said).1
          exact ⟨[], (List.append_nil sent).trans all⟩

/-- Introspection sends the queries for tables, columns and keys, in this order, as long
as no answer is refused. The first answer that is missing, and the first row that cannot
be decoded or names no table of the first answer, decides the error, and then nothing more
is sent. If there is none, all three are sent, and the outcome is the catalog that the
rows report. -/
theorem outcome_of_introspection {σ : Type} (answering : Answering σ) (schema : String)
    (state : σ) :
    (introspect answering schema state).2 = (transcript answering schema state).2 ∧
    (transcript answering schema state).1 <+:
      Question.all.map (fun question => question.query schema) ∧
    (∀ sent error,
      transcript answering schema state = (sent, .error error) ↔
        StopsAt schema (namedTables (answers answering schema Question.all state))
          (answers answering schema Question.all state) sent error) ∧
    ∀ sent catalog,
      transcript answering schema state = (sent, .ok catalog) ↔
        sent = Question.all.map (fun question => question.query schema) ∧
          ∃ tables columns keys,
            Reports (answers answering schema Question.all state) tables columns keys ∧
            catalog = reported tables columns keys := by
  exact ⟨introspect_recording answering schema state,
    transcript_isPrefix answering schema state,
    transcript_eq_error_iff answering schema state,
    transcript_eq_ok_iff answering schema state⟩

def repeatingRows : Question → List Row
  | .tables => [
      [("table_name", .str "user"), ("table_type", .str "VIEW")],
      [("table_name", .str "user"), ("table_type", .str "BASE TABLE")]]
  | .columns => [
      [("table_name", .str "user"), ("column_name", .str "id"), ("data_type", .str "text"),
        ("udt_name", .str "text")],
      [("table_name", .str "user"), ("column_name", .str "name"), ("data_type", .str "text"),
        ("udt_name", .str "text")],
      [("table_name", .str "user"), ("column_name", .str "id"), ("data_type", .str "integer"),
        ("udt_name", .str "int4")]]
  | .keys => [
      [("table_name", .str "user"), ("constraint_name", .str "key"), ("position", .int 1),
        ("key_column", .str "id")],
      [("table_name", .str "user"), ("constraint_name", .str "key"), ("position", .int 2),
        ("key_column", .str "name")],
      [("table_name", .str "user"), ("constraint_name", .str "key"), ("position", .int 3),
        ("key_column", .str "id")]]

/-- The first kind counts, the last types, and the last positions. -/
example :
    ((introspect (fun asked _ => (asked.tail, .ok (repeatingRows (asked.headD .tables))))
        "public" Question.all).2.map Catalog.toList) =
      .ok [⟨"user", .view, [("id", ⟨"id", "integer", "int4"⟩), ("name", ⟨"name", "text", "text"⟩)],
        ["name", "id"]⟩] := by
  rfl

end GraphBatch.Catalog
