import GraphBatch.Client.Factories
import GraphBatch.Proofs.HeaderMaps

/-!
# Configurations that settings make

A configuration is started for an endpoint or from an environment, and changed by
settings. Every setting checks what it sets, headers and the secret apart: so the
URLs and the schema of a configuration always serve, and a transport is made from it
exactly if all its headers can be sent.
-/

namespace GraphBatch

/-! ## One setting -/

namespace Setting

/-- Whether a setting starts a configuration anew. -/
def starts : Setting → Bool
  | .endpoint _ | .environment _ => true
  | _ => false

def header? : Setting → Option (String × String)
  | .header name value => some (name, value)
  | _ => none

/-- Whether what a setting adds to the headers can be sent. -/
def isSendable : Setting → Bool
  | .header name value => Header.isSendable (name, value)
  | .adminSecret secret => Header.isValue secret
  | _ => true

end Setting

namespace Config

inductive Changed (config : Config) : Setting → Config → Prop
  | websocket {text : String} {url : Url} (socket : url.isSocket = true) :
      Changed config (.websocket text) { config with websocket := url }
  | database {text : String} {url : Url} :
      Changed config (.database text) { config with database := some url }
  | schema {name : String} (filled : name ≠ "") :
      Changed config (.schema name) { config with schema := name }
  | adminSecret {secret : String} :
      Changed config (.adminSecret secret) (config.withAdminSecret secret)
  | header {name value : String} :
      Changed config (.header name value) (config.withHeader name value)

end Config

theorem Url.requireSocket_eq_ok {url made : Url} (taken : url.requireSocket = .ok made) :
    url = made ∧ made.isSocket = true := by
  unfold Url.requireSocket at taken
  split at taken
  · rename_i socket
    cases taken
    exact ⟨rfl, socket⟩
  · cases taken

theorem Url.requireEndpoint_eq_ok {url made : Url} (taken : url.requireEndpoint = .ok made) :
    url = made ∧ made.isEndpoint = true := by
  unfold Url.requireEndpoint at taken
  split at taken
  · rename_i endpoint
    cases taken
    exact ⟨rfl, endpoint⟩
  · cases taken

namespace Config

variable {config next start : Config} {setting : Setting} {settings : List Setting}

theorem changed_of_withWebsocket {text : String} (made : config.withWebsocket text = .ok next) :
    Changed config (.websocket text) next := by
  obtain ⟨url, _, made⟩ := Outcome.bind_eq_ok.mp made
  obtain ⟨_, taken, made⟩ := Outcome.bind_eq_ok.mp made
  obtain ⟨rfl, socket⟩ := Url.requireSocket_eq_ok taken
  cases made
  exact .websocket socket

theorem changed_of_withDatabase {text : String} (made : config.withDatabase text = .ok next) :
    Changed config (.database text) next := by
  obtain ⟨url, _, made⟩ := Outcome.bind_eq_ok.mp made
  cases made
  exact .database

theorem changed_of_withSchema {name : String} (made : config.withSchema name = .ok next) :
    Changed config (.schema name) next := by
  unfold withSchema at made
  split at made
  · cases made
  · rename_i filled
    cases made
    exact .schema fun blank => filled (by rw [blank]; rfl)

theorem changed_of_apply (change : setting.starts = false)
    (made : setting.apply (some config) = some (.ok next)) : Changed config setting next := by
  cases setting with
  | endpoint text => cases change
  | environment settings => cases change
  | websocket text => exact changed_of_withWebsocket (Option.some.inj made)
  | database text => exact changed_of_withDatabase (Option.some.inj made)
  | schema name => exact changed_of_withSchema (Option.some.inj made)
  | adminSecret secret =>
      cases made
      exact .adminSecret
  | header name value =>
      cases made
      exact .header

/-- A run of settings, every one of which succeeds. -/
inductive Changes : Config → List Setting → Config → Prop
  | done (config : Config) : Changes config [] config
  | more {config next last : Config} {setting : Setting} {settings : List Setting}
      (first : Changed config setting next) (later : Changes next settings last) :
      Changes config (setting :: settings) last

theorem Changes.append {first second : List Setting} (front : Changes start first next)
    (back : Changes next second config) : Changes start (first ++ second) config := by
  induction front with
  | done config => exact back
  | more changed later ih => exact .more changed (ih back)

/-- Headers are written one after the other, and by no other setting. -/
theorem Changes.headers (run : Changes start settings config) :
    config.headers = (settings.filterMap Setting.header?).foldl
      (fun held header => held.put header.1 header.2) start.headers := by
  induction run with
  | done config => rfl
  | more first later ih =>
      rw [ih]
      cases first <;> rfl

theorem changes_of_applyAll (changes : ∀ setting ∈ settings, setting.starts = false)
    (made : Setting.applyAll settings (some start) = some (.ok config)) :
    Changes start settings config := by
  induction settings generalizing start with
  | nil =>
      cases made
      exact .done _
  | cons setting rest ih =>
      unfold Setting.applyAll at made
      split at made
      · rename_i next applied
        have first := changed_of_apply (changes setting List.mem_cons_self) applied
        exact .more first (ih (fun later inside => changes later (List.mem_cons_of_mem _ inside)) made)
      · rename_i stopped
        exact absurd made (stopped config)

/-! ## What every configuration keeps to -/

/-- What settings check. -/
structure Checked (config : Config) : Prop where
  endpoint : config.endpoint.isEndpoint = true
  websocket : config.websocket.isSocket = true
  schema : config.schema ≠ ""

structure Sendable (config : Config) : Prop where
  headers : ∀ header ∈ config.headers, Header.isSendable header = true
  secret : ∀ secret, config.adminSecret = some secret → Header.isValue secret = true

theorem Checked.changed (checked : Checked config) (changed : Changed config setting next) :
    Checked next := by
  cases changed with
  | websocket socket => exact ⟨checked.endpoint, socket, checked.schema⟩
  | database => exact ⟨checked.endpoint, checked.websocket, checked.schema⟩
  | schema filled => exact ⟨checked.endpoint, checked.websocket, filled⟩
  | adminSecret => exact ⟨checked.endpoint, checked.websocket, checked.schema⟩
  | header => exact ⟨checked.endpoint, checked.websocket, checked.schema⟩

theorem Sendable.changed (sendable : Sendable config) (fit : setting.isSendable = true)
    (changed : Changed config setting next) : Sendable next := by
  cases changed with
  | websocket socket => exact ⟨sendable.headers, sendable.secret⟩
  | database => exact ⟨sendable.headers, sendable.secret⟩
  | schema filled => exact ⟨sendable.headers, sendable.secret⟩
  | adminSecret =>
      refine ⟨sendable.headers, fun secret set => ?_⟩
      cases set
      exact fit
  | header =>
      refine ⟨fun header inside => ?_, sendable.secret⟩
      rcases Entries.mem_put inside with rfl | kept
      · exact fit
      · exact sendable.headers header kept

theorem Checked.changes (checked : Checked start) (run : Changes start settings config) :
    Checked config := by
  induction run with
  | done config => exact checked
  | more first later ih => exact ih (checked.changed first)

theorem Sendable.changes (sendable : Sendable start)
    (fit : ∀ setting ∈ settings, setting.isSendable = true)
    (run : Changes start settings config) : Sendable config := by
  induction run with
  | done config => exact sendable
  | more first later ih =>
      obtain ⟨fit_first, fit_later⟩ := List.forall_mem_cons.mp fit
      exact ih (sendable.changed fit_first first) fit_later

def Started (start : Config) : Prop :=
  (∃ text, ofEndpoint text = .ok start) ∨ ∃ lookup, ofEnvironment lookup = .ok start

theorem isSocket_socketScheme (url : Url) :
    (url.withScheme (Url.socketScheme url.scheme)).isSocket = true := by
  unfold Url.socketScheme
  split <;> rfl

theorem checked_ofEndpoint {text : String} (made : ofEndpoint text = .ok start) :
    Checked start := by
  obtain ⟨parsed, _, made⟩ := Outcome.bind_eq_ok.mp made
  obtain ⟨url, taken, made⟩ := Outcome.bind_eq_ok.mp made
  obtain ⟨rfl, endpoint⟩ := Url.requireEndpoint_eq_ok taken
  cases made
  exact ⟨endpoint, isSocket_socketScheme _, (by decide : defaultSchema ≠ "")⟩

theorem changes_of_withPresent {value : Option String} {setting : String → Setting}
    {set : Config → String → Outcome Config} (plain : ∀ text, (setting text).header? = none)
    (changed : ∀ {text}, set config text = .ok next → Changed config (setting text) next)
    (made : config.withPresent value set = .ok next) :
    ∃ settings, Changes config settings next ∧ settings.filterMap Setting.header? = [] := by
  cases value with
  | none =>
      cases made
      exact ⟨[], .done _, rfl⟩
  | some text => exact ⟨[setting text], .more (changed made) (.done _), by simp [plain]⟩

/-- An environment starts a configuration for its endpoint and changes it by its other
settings, none of which is a header. -/
theorem changes_of_ofEnvironment {lookup : String → Option String}
    (made : ofEnvironment lookup = .ok start) :
    ∃ text first settings, ofEndpoint text = .ok first ∧ Changes first settings start ∧
      settings.filterMap Setting.header? = [] := by
  unfold ofEnvironment at made
  split at made
  · rename_i text _
    change (ofEndpoint text >>= _) = _ at made
    obtain ⟨first, started, made⟩ := Outcome.bind_eq_ok.mp made
    obtain ⟨second, websocket, made⟩ := Outcome.bind_eq_ok.mp made
    obtain ⟨third, database, made⟩ := Outcome.bind_eq_ok.mp made
    obtain ⟨fourth, schema, made⟩ := Outcome.bind_eq_ok.mp made
    obtain ⟨_, to_second, none_second⟩ :=
      changes_of_withPresent (fun _ => rfl) changed_of_withWebsocket websocket
    obtain ⟨_, to_third, none_third⟩ :=
      changes_of_withPresent (fun _ => rfl) changed_of_withDatabase database
    obtain ⟨_, to_fourth, none_fourth⟩ :=
      changes_of_withPresent (fun _ => rfl) changed_of_withSchema schema
    have secret : ∀ {secret}, (.ok (fourth.withAdminSecret secret) : Outcome Config) = .ok start →
        Changed fourth (.adminSecret secret) start := by
      intro secret done
      cases done
      exact .adminSecret
    obtain ⟨_, to_start, none_start⟩ := changes_of_withPresent (fun _ => rfl) secret made
    refine ⟨text, first, _, started, ((to_second.append to_third).append to_fourth).append to_start,
      ?_⟩
    simp only [List.filterMap_append, none_second, none_third, none_fourth, none_start,
      List.append_nil]
  · cases made

theorem Started.checked (started : Started start) : Checked start := by
  rcases started with ⟨text, made⟩ | ⟨lookup, made⟩
  · exact checked_ofEndpoint made
  · obtain ⟨text, first, settings, made, run, _⟩ := changes_of_ofEnvironment made
    exact (checked_ofEndpoint made).changes run

theorem Started.headers (started : Started start) : start.headers = [] := by
  have bare : ∀ {text config}, ofEndpoint text = .ok config → config.headers = [] := by
    intro text config made
    obtain ⟨_, _, made⟩ := Outcome.bind_eq_ok.mp made
    obtain ⟨_, _, made⟩ := Outcome.bind_eq_ok.mp made
    cases made
    rfl
  rcases started with ⟨text, made⟩ | ⟨lookup, made⟩
  · exact bare made
  · obtain ⟨text, first, settings, made, run, plain⟩ := changes_of_ofEnvironment made
    rw [run.headers, plain, List.foldl_nil]
    exact bare made

/-! ## The transports of a configuration -/

theorem mem_requestHeaders {header : String × String}
    (inside : header ∈ config.requestHeaders) :
    header ∈ config.headers ∨
      ∃ secret, config.adminSecret = some secret ∧ header = (secretHeader, secret) := by
  unfold requestHeaders at inside
  split at inside
  · rename_i secret set
    rcases Entries.mem_put inside with written | kept
    · exact Or.inr ⟨secret, set, written⟩
    · exact Or.inl kept
  · exact Or.inl inside

theorem Sendable.requestHeaders (sendable : Sendable config) :
    ∀ header ∈ config.requestHeaders, Header.isSendable header = true := by
  intro header inside
  rcases mem_requestHeaders inside with kept | ⟨secret, set, rfl⟩
  · exact sendable.headers header kept
  · have named : Header.isName secretHeader = true := by decide
    exact Bool.and_eq_true_iff.mpr ⟨named, sendable.secret secret set⟩

theorem exists_ofHeaders_iff (checked : Checked config) :
    (∃ http, Http.ofHeaders config.endpoint config.requestHeaders = .ok http) ↔
      ∃ map, HeaderMap.ofPairs config.requestHeaders = .ok map := by
  have taken : config.endpoint.requireEndpoint = .ok config.endpoint := by
    rw [Url.requireEndpoint, if_pos checked.endpoint]
  constructor
  · rintro ⟨http, made⟩
    obtain ⟨_, _, made⟩ := Outcome.bind_eq_ok.mp made
    obtain ⟨map, made, _⟩ := Outcome.bind_eq_ok.mp made
    exact ⟨map, made⟩
  · rintro ⟨map, made⟩
    refine ⟨⟨config.endpoint, map⟩, Outcome.bind_eq_ok.mpr ⟨config.endpoint, taken, ?_⟩⟩
    exact Outcome.bind_eq_ok.mpr ⟨map, made, rfl⟩

theorem ofUrl_websocket (checked : Checked config) :
    WebSocket.ofUrl config.websocket = .ok ⟨config.websocket, [], none⟩ := by
  unfold WebSocket.ofUrl
  rw [Url.requireSocket, if_pos checked.websocket]
  rfl

/-- A configuration that settings made: its URLs have the schemes of their transports,
its schema has a name, and the socket transport is made from it. Its headers make a
map, and with it the transport of requests, exactly if each of them can be sent; they
do if every header and every secret that was set can be. -/
theorem transports_of_settings {start config : Config} {settings : List Setting}
    (started : Started start) (changes : ∀ setting ∈ settings, setting.starts = false)
    (made : Setting.applyAll settings (some start) = some (.ok config)) :
    (config.endpoint.scheme = "http" ∨ config.endpoint.scheme = "https") ∧
    (config.websocket.scheme = "ws" ∨ config.websocket.scheme = "wss") ∧
    config.schema ≠ "" ∧
    (∃ socket, WebSocket.ofUrl config.websocket = .ok socket) ∧
    (∃ socket, Factories.socketOf config = .ok socket) ∧
    ((∃ map, HeaderMap.ofPairs config.requestHeaders = .ok map) ↔
      ∀ header ∈ config.requestHeaders, Header.isSendable header = true) ∧
    ((∃ http, Http.ofHeaders config.endpoint config.requestHeaders = .ok http) ↔
      ∀ header ∈ config.requestHeaders, Header.isSendable header = true) ∧
    ((∀ secret, start.adminSecret = some secret → Header.isValue secret = true) →
      (∀ setting ∈ settings, setting.isSendable = true) →
      ∃ http, Http.ofHeaders config.endpoint config.requestHeaders = .ok http) := by
  have run := changes_of_applyAll changes made
  have checked := started.checked.changes run
  have mapped : (∃ map, HeaderMap.ofPairs config.requestHeaders = .ok map) ↔
      ∀ header ∈ config.requestHeaders, Header.isSendable header = true :=
    HeaderMap.exists_putAll_iff
  have served := (exists_ofHeaders_iff checked).trans mapped
  refine ⟨?_, ?_, checked.schema, ⟨_, ofUrl_websocket checked⟩, ?_, mapped, served, ?_⟩
  · simpa [Url.isEndpoint] using checked.endpoint
  · simpa [Url.isSocket] using checked.websocket
  · unfold Factories.socketOf
    rw [ofUrl_websocket checked]
    exact ⟨_, rfl⟩
  · intro secret fit
    have first : Sendable start := ⟨by simp [started.headers], secret⟩
    exact served.mpr (first.changes fit run).requestHeaders

/-- An environment with a secret, and a header beside it. -/
theorem transports_of_settings_dressed :
    ∃ start config, ofEnvironment (Entries.find? [
        ("BATCHQL_ENDPOINT", "HTTPS://[::1]:443"), ("BATCHQL_ADMIN_SECRET", "s")]) = .ok start ∧
      Setting.applyAll [.schema "tenant", .header "X-Trace" "1"] (some start) =
        some (.ok config) ∧
      config.websocket.scheme = "wss" ∧
      ∃ http, Http.ofHeaders config.endpoint config.requestHeaders = .ok http := by
  obtain ⟨start, started⟩ : ∃ start, ofEnvironment (Entries.find? [
      ("BATCHQL_ENDPOINT", "HTTPS://[::1]:443"), ("BATCHQL_ADMIN_SECRET", "s")]) = .ok start :=
    ⟨_, rfl⟩
  obtain ⟨config, made⟩ : ∃ config,
      Setting.applyAll [.schema "tenant", .header "X-Trace" "1"] (some start) =
        some (.ok config) :=
    ⟨_, rfl⟩
  obtain ⟨_, _, _, _, _, _, served, _⟩ :=
    transports_of_settings (Or.inr ⟨_, started⟩) (by decide) made
  cases started
  cases made
  exact ⟨_, _, rfl, rfl, rfl, served.mpr (by decide)⟩

/-- A header is added unchecked, and no transport of requests can be made. -/
theorem unsendable_of_header :
    ∃ start config, ofEndpoint "http://[::1]" = .ok start ∧
      Setting.applyAll [.header "bad header" "x"] (some start) = some (.ok config) ∧
      HeaderMap.ofPairs config.requestHeaders = .error (Header.invalidName "bad header") ∧
      Http.ofHeaders config.endpoint config.requestHeaders =
        .error (Header.invalidName "bad header") :=
  ⟨_, _, rfl, rfl, rfl, rfl⟩

end Config

end GraphBatch
