import GraphBatch.Proofs.Configs

/-!
# The secret that is sent

The admin secret is a header among others: it takes the place of a header of exactly
its name, and stands last if there is none. A map of headers takes names in any case
for one and keeps the last value. So the secret that was set last is sent, unless a
header of its name in another case stands behind the header whose place it takes.
-/

namespace GraphBatch

def Setting.secret? : Setting → Option String
  | .adminSecret secret => some secret
  | _ => none

namespace Config

variable {start config : Config} {settings : List Setting} {secret : String} {map : HeaderMap}

theorem Changes.adminSecret (run : Changes start settings config) :
    config.adminSecret =
      ((settings.filterMap Setting.secret?).getLast?).or start.adminSecret := by
  induction run with
  | done config => rfl
  | more first later ih =>
      rw [ih]
      cases first <;> simp [Setting.secret?, withAdminSecret, withHeader, List.getLast?_cons]

/-- Whether a header has the name of the secret's, in whatever case. -/
def namesSecret (header : String × String) : Bool :=
  header.1.toLower = secretHeader

/-- The value that is sent in the place of the secret: the last one under the secret's
name, in whatever case, behind the header whose place the secret takes. -/
def overriding? (headers : Entries String) : Option String :=
  ((headers.dropWhile fun header => header.1 ≠ secretHeader).tail.reverse.find?
    namesSecret).map Prod.snd

theorem toLower_secretHeader : secretHeader.toLower = secretHeader := by decide +kernel

theorem overriding?_cons_self (header : String × String) (rest : Entries String)
    (here : header.1 = secretHeader) :
    overriding? (header :: rest) = (rest.reverse.find? namesSecret).map Prod.snd := by
  simp [overriding?, here]

theorem overriding?_cons_ne (header : String × String) (rest : Entries String)
    (differ : header.1 ≠ secretHeader) : overriding? (header :: rest) = overriding? rest := by
  simp [overriding?, differ]

/-- Where no header has exactly the secret's name, the secret stands last. -/
theorem overriding?_of_not_mem {headers : Entries String} (absent : secretHeader ∉ headers.keys) :
    overriding? headers = none := by
  induction headers with
  | nil => rfl
  | cons header rest ih =>
      simp only [Entries.keys_cons, List.mem_cons, not_or] at absent
      rw [overriding?_cons_ne header rest (Ne.symm absent.1)]
      exact ih absent.2

/-- The last header of the secret's name, once the secret is among the headers. -/
theorem find?_reverse_put (headers : Entries String) (secret : String) :
    ((headers.put secretHeader secret).reverse.find? namesSecret).map Prod.snd =
      some ((overriding? headers).getD secret) := by
  have named : ∀ value, namesSecret (secretHeader, value) = true :=
    fun value => decide_eq_true toLower_secretHeader
  -- Up to the header of exactly the secret's name nothing is lost: the secret comes behind.
  induction headers with
  | nil => simp [Entries.put, overriding?, named]
  | cons header rest ih =>
      obtain ⟨name, held⟩ := header
      by_cases here : name = secretHeader
      · subst here
        rw [overriding?_cons_self _ _ rfl, Entries.put, if_pos rfl, List.reverse_cons,
          List.find?_append]
        cases found : rest.reverse.find? namesSecret with
        | none => simp [named]
        | some last => simp
      · rw [overriding?_cons_ne _ _ here, Entries.put, if_neg here, List.reverse_cons,
          List.find?_append, ← ih]
        obtain ⟨last, found, _⟩ := Option.map_eq_some_iff.mp ih
        rw [found, Option.some_or]

theorem find?_secretHeader (set : config.adminSecret = some secret)
    (sent : HeaderMap.ofPairs config.requestHeaders = .ok map) :
    map.find? secretHeader = some ((overriding? config.headers).getD secret) := by
  rw [HeaderMap.find?_ofPairs sent, requestHeaders, set, toLower_secretHeader]
  exact find?_reverse_put config.headers secret

/-- A configuration whose headers can all be sent: they make a map, and it holds the
secret that was set last, unless a header overrides it. None does if no header was
added under exactly the secret's name. -/
theorem secret_of_settings {start config : Config} {settings : List Setting} {secret : String}
    (started : Started start) (changes : ∀ setting ∈ settings, setting.starts = false)
    (made : Setting.applyAll settings (some start) = some (.ok config))
    (last : ((settings.filterMap Setting.secret?).getLast?).or start.adminSecret = some secret)
    (sendable : ∀ header ∈ config.requestHeaders, Header.isSendable header = true) :
    ∃ map, HeaderMap.ofPairs config.requestHeaders = .ok map ∧
      map.find? secretHeader = some
        ((overriding? (Entries.ofPairs (settings.filterMap Setting.header?))).getD secret) ∧
      (map.find? secretHeader = some secret ↔
        ∀ value, overriding? (Entries.ofPairs (settings.filterMap Setting.header?)) = some value →
          value = secret) ∧
      ((∀ value, .header secretHeader value ∉ settings) →
        map.find? secretHeader = some secret) := by
  obtain ⟨map, sent⟩ : ∃ map, HeaderMap.ofPairs config.requestHeaders = .ok map :=
    HeaderMap.exists_putAll_iff.mpr sendable
  have run := changes_of_applyAll changes made
  have headers : config.headers = Entries.ofPairs (settings.filterMap Setting.header?) := by
    rw [run.headers, started.headers]
    rfl
  have held := find?_secretHeader (run.adminSecret.trans last) sent
  rw [headers] at held
  refine ⟨map, sent, held, ?_, ?_⟩
  · rw [held]
    cases overriding? (Entries.ofPairs (settings.filterMap Setting.header?)) <;> simp
  · intro unnamed
    have absent : secretHeader ∉ (Entries.ofPairs (settings.filterMap Setting.header?)).keys := by
      have names : (Entries.ofPairs (settings.filterMap Setting.header?)).keys =
          ((settings.filterMap Setting.header?).map Prod.fst).eraseDups :=
        Entries.keys_foldl (fun held header => Entries.keys_put held header.1 header.2) _
      rw [names, List.mem_eraseDups]
      intro inside
      obtain ⟨⟨_, value⟩, added, rfl⟩ := List.mem_map.mp inside
      obtain ⟨setting, among, adds⟩ := List.mem_filterMap.mp added
      cases setting <;> cases adds
      exact unnamed value among
    rw [held, overriding?_of_not_mem absent, Option.getD_none]

/-- A secret among headers of its name: the last header of exactly that name is the
last one of all, and the secret takes its place. -/
theorem secret_of_settings_recased :
    ∃ start config map, ofEndpoint "http://[::1]" = .ok start ∧
      Setting.applyAll [.header "X-Hasura-Admin-Secret" "b", .adminSecret "old",
        .header "x-hasura-admin-secret" "a", .adminSecret "s"] (some start) =
          some (.ok config) ∧
      HeaderMap.ofPairs config.requestHeaders = .ok map ∧
      map.find? secretHeader = some "s" := by
  obtain ⟨start, started⟩ : ∃ start, ofEndpoint "http://[::1]" = .ok start := ⟨_, rfl⟩
  obtain ⟨config, made⟩ : ∃ config,
      Setting.applyAll [.header "X-Hasura-Admin-Secret" "b", .adminSecret "old",
        .header "x-hasura-admin-secret" "a", .adminSecret "s"] (some start) =
          some (.ok config) := ⟨_, rfl⟩
  have headers : config.requestHeaders =
      [("X-Hasura-Admin-Secret", "b"), ("x-hasura-admin-secret", "s")] := by
    cases started
    cases made
    rfl
  have sendable : ∀ header ∈ config.requestHeaders, Header.isSendable header = true := by
    rw [headers]
    decide
  obtain ⟨map, sent, held, _⟩ :=
    secret_of_settings (Or.inl ⟨_, started⟩) (by decide) made rfl sendable
  exact ⟨start, config, map, started, made, sent, held⟩

/-- A header in another case stands behind the one whose place the secret takes, and
is sent instead of it. -/
theorem secret_overridden :
    ∃ start config map, ofEndpoint "http://[::1]" = .ok start ∧
      Setting.applyAll [.header "x-hasura-admin-secret" "a",
        .header "X-Hasura-Admin-Secret" "b", .adminSecret "s"] (some start) =
          some (.ok config) ∧
      HeaderMap.ofPairs config.requestHeaders = .ok map ∧
      map.find? secretHeader = some "b" := by
  obtain ⟨map, sent⟩ : ∃ map, HeaderMap.ofPairs
      [("x-hasura-admin-secret", "s"), ("X-Hasura-Admin-Secret", "b")] = .ok map :=
    HeaderMap.exists_putAll_iff.mpr (by decide)
  have recased : namesSecret ("X-Hasura-Admin-Secret", "b") = true := by decide +kernel
  have held : map.find? secretHeader = some "b" := by
    rw [HeaderMap.find?_ofPairs sent, toLower_secretHeader]
    exact congrArg (Option.map Prod.snd) (List.find?_cons_of_pos recased)
  obtain ⟨start, started⟩ : ∃ start, ofEndpoint "http://[::1]" = .ok start := ⟨_, rfl⟩
  obtain ⟨config, made⟩ : ∃ config,
      Setting.applyAll [.header "x-hasura-admin-secret" "a",
        .header "X-Hasura-Admin-Secret" "b", .adminSecret "s"] (some start) =
          some (.ok config) := ⟨_, rfl⟩
  have headers : config.requestHeaders =
      [("x-hasura-admin-secret", "s"), ("X-Hasura-Admin-Secret", "b")] := by
    cases started
    cases made
    rfl
  exact ⟨start, config, map, started, made, headers ▸ sent, held⟩

end Config

end GraphBatch
