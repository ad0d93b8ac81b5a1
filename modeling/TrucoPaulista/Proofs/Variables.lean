import TrucoPaulista.Settings

namespace TrucoPaulista

section Weigh

variable {ε δ α β : Type}

/-- A value, unless something is said against it. The first objection counts. -/
def weigh (objections : List (Option ε)) (value : α) : Except ε α :=
  match objections.findSome? id with
  | some objection => .error objection
  | none => .ok value

/-- What is said against two settings, one read after the other, is what is said against the first and
then against the second. -/
theorem bind_eq_weigh {objections later : List (Option ε)} {first : Except ε α} {value : α}
    {next : α → Except ε β} {answer : β} (weighed : first = weigh objections value)
    (following : next value = weigh later answer) :
    first >>= next = weigh (objections ++ later) answer := by
  unfold weigh at weighed following ⊢
  rw [weighed, List.findSome?_append]
  cases objections.findSome? id with
  | some objection => rfl
  | none => exact following

theorem mapError_bind_eq_weigh {view : δ → ε} {objections later : List (Option ε)}
    {first : Except δ α} {value : α} {next : α → Except δ β} {answer : β}
    (weighed : first.mapError view = weigh objections value)
    (following : (next value).mapError view = weigh later answer) :
    (first >>= next).mapError view = weigh (objections ++ later) answer := by
  have apart : (first >>= next).mapError view =
      first.mapError view >>= fun value => (next value).mapError view := by
    cases first <;> rfl
  rw [apart]
  exact bind_eq_weigh weighed following

theorem mapError_map (view : ε → δ) (first : Except ε α) (change : α → β) :
    (first.map change).mapError view = (first.mapError view).map change := by
  cases first <;> rfl

theorem map_weigh (view : α → β) (objections : List (Option ε)) (value : α) :
    (weigh objections value).map view = weigh objections (view value) := by
  unfold weigh
  cases objections.findSome? id <;> rfl

end Weigh

/-- A variable from which settings are read. -/
inductive Variable where
  | serverBind
  | storage
  | databaseUrl
  | maxConnections
  | minConnections
  | connectionTimeout
  | idleTimeout
  | maxLifetime
  | pointsToWin
  | metricsBind
  deriving DecidableEq

namespace Variable

def name : Variable → String
  | serverBind => "SERVER_BIND"
  | storage => "STORAGE"
  | databaseUrl => "DATABASE_URL"
  | maxConnections => "DB_MAX_CONNECTIONS"
  | minConnections => "DB_MIN_CONNECTIONS"
  | connectionTimeout => "DB_CONNECTION_TIMEOUT"
  | idleTimeout => "DB_IDLE_TIMEOUT"
  | maxLifetime => "DB_MAX_LIFETIME"
  | pointsToWin => "POINTS_TO_WIN"
  | metricsBind => "METRICS_BIND"

/-- The variables, those first that are read first. -/
def inOrder : List Variable :=
  [serverBind, storage, databaseUrl, maxConnections, minConnections, connectionTimeout, idleTimeout,
    maxLifetime, pointsToWin, metricsBind]

/-- What a variable is read as, if it is set and can be read. -/
def value {ε α : Type} (v : Variable) (environment : Environment) (parse : String → Except ε α) :
    Option α :=
  (environment v.name).bind (fun text => (parse text).toOption)

/-- What is said against a text. White space around it does not count. -/
def misread {α : Type} (v : Variable) (parse : String → Except String α) (text : String) :
    Option SettingsError :=
  match parse (Text.trim text) with
  | .ok _ => none
  | .error reason => some (.invalid v.name (Text.quoted text ++ ": " ++ reason))

/-- What is said against the text of a number, which is read as it is. -/
def misreadNumber {α : Type} (v : Variable) (parse : String → Except NumberError α)
    (text : String) : Option SettingsError :=
  match parse text with
  | .ok _ => none
  | .error _ => some (.database (.invalid v.name text))

def refusal? (v : Variable) (text : String) : Option SettingsError :=
  match v with
  | serverBind | metricsBind => v.misread Settings.parseAddress text
  | storage => v.misread Storage.parse text
  | databaseUrl => none
  | maxConnections | minConnections => v.misreadNumber Number.parseUInt32 text
  | connectionTimeout | idleTimeout | maxLifetime => v.misreadNumber Number.parseUInt64 text
  | pointsToWin => v.misread Settings.parsePoints text

/-- What is said against a variable that is not set. -/
def absence? : Variable → Option SettingsError
  | databaseUrl =>
    some (.missing "DATABASE_URL"
      "Required with --storage postgres, e.g. postgres://postgres@localhost/truco")
  | _ => none

end Variable

namespace Settings

variable (overrides : Overrides) (environment : Environment)

/-- The storage on which it hangs whether there is a database. -/
def storageOf : Storage :=
  (overrides.storage.or (Variable.storage.value environment (Storage.parse ∘ Text.trim))).getD .memory

/-- Whether a variable matters. -/
def consults : Variable → Bool
  | .serverBind => overrides.bind.isNone
  | .storage => overrides.storage.isNone
  | .databaseUrl => storageOf overrides environment = .postgres && overrides.databaseUrl.isNone
  | .maxConnections | .minConnections | .connectionTimeout | .idleTimeout | .maxLifetime =>
    storageOf overrides environment = .postgres
  | .pointsToWin => overrides.pointsToWin.isNone
  | .metricsBind => true

def objection? (v : Variable) : Option SettingsError :=
  if consults overrides environment v then
    match environment v.name with
    | some text => v.refusal? text
    | none => v.absence?
  else none

def poolOf (url : String) : PoolSettings where
  url := url
  maxConnections := (Variable.maxConnections.value environment Number.parseUInt32).getD 10
  minConnections := (Variable.minConnections.value environment Number.parseUInt32).getD 1
  connectionTimeout := (Variable.connectionTimeout.value environment Number.parseUInt64).getD 10
  idleTimeout := (Variable.idleTimeout.value environment Number.parseUInt64).getD 600
  maxLifetime := (Variable.maxLifetime.value environment Number.parseUInt64).getD 1800

/-- The address of the database, whether or not there is one. -/
def urlOf : Option String := overrides.databaseUrl.or (environment Variable.databaseUrl.name)

/-- What the settings are if nothing is said against a variable that matters: what is settled, or else
what a variable is read as, or else something fixed. -/
def settled : Settings where
  bind :=
    (overrides.bind.or
      (Variable.serverBind.value environment (parseAddress ∘ Text.trim))).getD defaultBind
  storage := storageOf overrides environment
  database :=
    match storageOf overrides environment with
    | .memory => none
    | .postgres => (urlOf overrides environment).map (poolOf environment)
  pointsToWin :=
    (overrides.pointsToWin.or
      (Variable.pointsToWin.value environment (parsePoints ∘ Text.trim))).getD defaultPointsToWin
  metricsBind := Variable.metricsBind.value environment (parseAddress ∘ Text.trim)

section Steps

variable {overrides environment} {α : Type} {v : Variable}

theorem objection?_of_not_consults (idle : consults overrides environment v = false) :
    objection? overrides environment v = none := by
  simp [objection?, idle]

theorem objection?_of_consults (consulted : consults overrides environment v)
    (optional : v.absence? = none) :
    objection? overrides environment v = (environment v.name).bind v.refusal? := by
  rw [objection?, if_pos consulted]
  cases environment v.name with
  | none => exact optional
  | some text => rfl

/-- A variable that matters and may be left out is read as it is written, or refused with what is said
against it. -/
theorem read_eq (parse : String → Except String α) (consulted : consults overrides environment v)
    (optional : v.absence? = none) (parses : v.refusal? = v.misread parse) :
    read environment v.name parse =
      weigh [objection? overrides environment v] (v.value environment (parse ∘ Text.trim)) := by
  rw [objection?_of_consults consulted optional, parses]
  unfold read Variable.value Variable.misread weigh
  cases environment v.name with
  | none => rfl
  | some text =>
    simp only [Option.bind_some, Function.comp_apply]
    cases parse (Text.trim text) <;> rfl

/-- A setting that is not given is read from its variable, and falls back on something fixed. -/
theorem pick_eq {given : Option α} (parse : String → Except String α) (otherwise : α)
    (same : consults overrides environment v = given.isNone) (optional : v.absence? = none)
    (parses : v.refusal? = v.misread parse) :
    pick given environment v.name parse otherwise =
      weigh [objection? overrides environment v]
        ((given.or (v.value environment (parse ∘ Text.trim))).getD otherwise) := by
  unfold pick
  cases given with
  | some setting =>
    rw [objection?_of_not_consults same]
    rfl
  | none =>
    simp only [Option.none_or]
    rw [read_eq parse same optional parses, map_weigh]

/-- A number that matters is read with whatever is said against it, and falls back on something
fixed. -/
theorem readNumber_eq (parse : String → Except NumberError α) (otherwise : α)
    (consulted : consults overrides environment v) (optional : v.absence? = none)
    (parses : v.refusal? = v.misreadNumber parse) :
    (PoolSettings.read environment v.name otherwise parse).mapError SettingsError.database =
      weigh [objection? overrides environment v] ((v.value environment parse).getD otherwise) := by
  rw [objection?_of_consults consulted optional, parses]
  unfold PoolSettings.read Variable.value Variable.misreadNumber weigh
  cases environment v.name with
  | none => rfl
  | some text =>
    simp only [Option.bind_some]
    cases parse text <;> rfl

/-- The variables of the pool are read in turn, and the first objection counts. -/
theorem load_pool_eq (postgres : storageOf overrides environment = .postgres) (url : String) :
    (PoolSettings.load environment url).mapError SettingsError.database =
      weigh
        ([.maxConnections, .minConnections, .connectionTimeout, .idleTimeout, .maxLifetime].map
          (objection? overrides environment))
        (poolOf environment url) := by
  have consulted := decide_eq_true postgres
  unfold PoolSettings.load
  refine mapError_bind_eq_weigh
    (readNumber_eq (v := .maxConnections) Number.parseUInt32 10 consulted rfl rfl) ?_
  refine mapError_bind_eq_weigh
    (readNumber_eq (v := .minConnections) Number.parseUInt32 1 consulted rfl rfl) ?_
  refine mapError_bind_eq_weigh
    (readNumber_eq (v := .connectionTimeout) Number.parseUInt64 10 consulted rfl rfl) ?_
  refine mapError_bind_eq_weigh
    (readNumber_eq (v := .idleTimeout) Number.parseUInt64 600 consulted rfl rfl) ?_
  exact mapError_bind_eq_weigh
    (readNumber_eq (v := .maxLifetime) Number.parseUInt64 1800 consulted rfl rfl) rfl

theorem objection?_databaseUrl (postgres : storageOf overrides environment = .postgres) :
    objection? overrides environment .databaseUrl =
      match urlOf overrides environment with
      | some _ => none
      | none => Variable.absence? .databaseUrl := by
  unfold urlOf
  cases given : overrides.databaseUrl with
  | some url => exact objection?_of_not_consults (by simp [consults, given])
  | none =>
    have consulted : consults overrides environment .databaseUrl := by
      simp [consults, postgres, given]
    rw [objection?, if_pos consulted, Option.none_or]
    cases environment Variable.databaseUrl.name <;> rfl

/-- The settings of the database are read in turn, its address first. -/
theorem loadDatabase_eq :
    loadDatabase (storageOf overrides environment) overrides.databaseUrl environment =
      weigh
        ([.databaseUrl, .maxConnections, .minConnections, .connectionTimeout, .idleTimeout,
          .maxLifetime].map (objection? overrides environment))
        (settled overrides environment).database := by
  cases storage : storageOf overrides environment with
  | memory =>
    have idle : ∀ v ∈ [Variable.databaseUrl, .maxConnections, .minConnections, .connectionTimeout,
        .idleTimeout, .maxLifetime], objection? overrides environment v = none := by
      intro v member
      refine objection?_of_not_consults ?_
      simp only [List.mem_cons, List.not_mem_nil, or_false] at member
      rcases member with rfl | rfl | rfl | rfl | rfl | rfl <;> simp [consults, storage]
    rw [List.map_congr_left idle]
    simp [settled, storage, weigh, loadDatabase]
  | postgres =>
    simp only [settled, storage, List.map_cons, objection?_databaseUrl storage]
    unfold loadDatabase urlOf Variable.name
    dsimp only
    cases overrides.databaseUrl.or (environment "DATABASE_URL") with
    | none => rfl
    | some url =>
      have pool := load_pool_eq storage url
      dsimp only
      rw [mapError_map, pool, map_weigh]
      rfl

/-- Nothing is said against a variable exactly if it does not matter, or is well written if it is set
and may be left out if it is not. -/
theorem objection?_eq_none_iff :
    objection? overrides environment v = none ↔
      (consults overrides environment v →
        (∀ text, environment v.name = some text → v.refusal? text = none) ∧
        (environment v.name = none → v.absence? = none)) := by
  unfold objection?
  split
  next consulted => cases environment v.name <;> simp [consulted]
  next idle => simp [idle]

/-- Nothing is said against any variable exactly if those that matter are well written where they are
set, and there is the address of a database that is needed. -/
theorem findSome?_objection?_eq_none_iff :
    Variable.inOrder.findSome? (objection? overrides environment) = none ↔
      (∀ v, consults overrides environment v → ∀ text, environment v.name = some text →
        v.refusal? text = none) ∧
      (storageOf overrides environment = .postgres → (urlOf overrides environment).isSome) := by
  have listed : ∀ v, v ∈ Variable.inOrder := by
    intro v
    cases v <;> decide
  rw [List.findSome?_eq_none_iff]
  constructor
  · intro clear
    constructor
    · intro v consulted
      exact (objection?_eq_none_iff.mp (clear v (listed v)) consulted).1
    · intro postgres
      have url := clear .databaseUrl (listed _)
      rw [objection?_databaseUrl postgres] at url
      split at url
      next given => simp [given]
      next => contradiction
  · rintro ⟨readable, url⟩ v _
    refine objection?_eq_none_iff.mpr fun consulted => ⟨readable v consulted, ?_⟩
    intro unset
    cases v with
    | databaseUrl =>
      simp only [consults, Bool.and_eq_true, decide_eq_true_eq, Option.isNone_iff_eq_none] at consulted
      obtain ⟨postgres, given⟩ := consulted
      have present := url postgres
      simp [urlOf, given, unset] at present
    | _ => rfl

end Steps

/-- Every setting is read as if it were the only one, and the first objection counts. -/
theorem load_eq :
    load overrides environment =
      weigh (Variable.inOrder.map (objection? overrides environment))
        (settled overrides environment) := by
  unfold load
  refine bind_eq_weigh (pick_eq (v := .serverBind) parseAddress defaultBind rfl rfl rfl) ?_
  refine bind_eq_weigh (pick_eq (v := .storage) Storage.parse .memory rfl rfl rfl) ?_
  refine bind_eq_weigh loadDatabase_eq ?_
  refine bind_eq_weigh (pick_eq (v := .pointsToWin) parsePoints defaultPointsToWin rfl rfl rfl) ?_
  exact bind_eq_weigh (read_eq (v := .metricsBind) parseAddress rfl rfl rfl) rfl

section Agree

variable {overrides environment} {other : Environment}
  (agree : ∀ v, consults overrides environment v → other v.name = environment v.name)
include agree

theorem value_congr {ε α : Type} {v : Variable} (parse : String → Except ε α)
    (consulted : consults overrides environment v) : v.value other parse = v.value environment parse := by
  unfold Variable.value
  rw [agree v consulted]

theorem or_value_congr {ε α : Type} {v : Variable} {given : Option α} (parse : String → Except ε α)
    (same : consults overrides environment v = given.isNone) :
    given.or (v.value other parse) = given.or (v.value environment parse) := by
  cases given with
  | some setting => rfl
  | none => rw [value_congr agree parse same]

theorem storageOf_congr : storageOf overrides other = storageOf overrides environment := by
  unfold storageOf
  rw [or_value_congr (v := .storage) agree _ rfl]

theorem consults_congr : consults overrides other = consults overrides environment := by
  funext v
  cases v <;> simp only [consults, storageOf_congr agree]

theorem objection?_congr : objection? overrides other = objection? overrides environment := by
  funext v
  unfold objection?
  rw [consults_congr agree]
  split
  next consulted => rw [agree v consulted]
  next => rfl

theorem poolOf_congr (postgres : storageOf overrides environment = .postgres) :
    poolOf other = poolOf environment := by
  funext url
  have consulted := decide_eq_true postgres
  unfold poolOf
  rw [value_congr (v := .maxConnections) agree _ consulted,
    value_congr (v := .minConnections) agree _ consulted,
    value_congr (v := .connectionTimeout) agree _ consulted,
    value_congr (v := .idleTimeout) agree _ consulted,
    value_congr (v := .maxLifetime) agree _ consulted]

theorem urlOf_congr (postgres : storageOf overrides environment = .postgres) :
    urlOf overrides other = urlOf overrides environment := by
  unfold urlOf
  cases given : overrides.databaseUrl with
  | some url => rfl
  | none => rw [agree .databaseUrl (by simp [consults, postgres, given])]

theorem settled_congr : settled overrides other = settled overrides environment := by
  unfold settled
  rw [storageOf_congr agree, or_value_congr (v := .serverBind) agree _ rfl,
    or_value_congr (v := .pointsToWin) agree _ rfl, value_congr (v := .metricsBind) agree _ rfl]
  cases storage : storageOf overrides environment with
  | memory => rfl
  | postgres => simp only [poolOf_congr agree storage, urlOf_congr agree storage]

end Agree

/-- Only the variables that matter are consulted: those of what is not settled, and those of the
database where there is one. Settings can be had if each of these that is set can be read, and a
database has its address; otherwise the first of them that cannot be had is named. -/
theorem load_consults_what_matters :
    (∀ other : Environment,
      (∀ v, consults overrides environment v → other v.name = environment v.name) →
        load overrides other = load overrides environment) ∧
    ((∃ settings, load overrides environment = .ok settings) ↔
      (∀ v, consults overrides environment v → ∀ text, environment v.name = some text →
        v.refusal? text = none) ∧
      (storageOf overrides environment = .postgres → (urlOf overrides environment).isSome)) ∧
    (∀ failure, load overrides environment = .error failure ↔
      Variable.inOrder.findSome? (objection? overrides environment) = some failure) ∧
    (∀ settings, load overrides environment = .ok settings →
      settings = settled overrides environment) := by
  have loaded := load_eq overrides environment
  refine ⟨?_, ?_, ?_, ?_⟩
  · intro other agree
    rw [load_eq, loaded, objection?_congr agree, settled_congr agree]
  · rw [← findSome?_objection?_eq_none_iff, loaded, weigh, List.findSome?_map, Function.id_comp]
    cases Variable.inOrder.findSome? (objection? overrides environment) <;> simp
  · intro failure
    rw [loaded, weigh, List.findSome?_map, Function.id_comp]
    cases Variable.inOrder.findSome? (objection? overrides environment) <;> simp
  · intro settings
    rw [loaded, weigh]
    cases (Variable.inOrder.map (objection? overrides environment)).findSome? id with
    | some failure => exact nofun
    | none => exact fun same => (Except.ok.inj same).symm

end Settings

end TrucoPaulista
