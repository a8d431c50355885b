import LinkGauge.Proofs.Environment.Places
import LinkGauge.Proofs.Settings.Decoding
import LinkGauge.Settings.Load

/-!
# Where settings come from

Each setting is what its variable says, or else what the file says, or else its default. The address
of the database has more than one place: the one in `DATABASE_URL` comes first, and after that an
address outside of the section of the database comes before the one inside of it, whichever of the
file and the environment they are from.
-/

namespace LinkGauge.Settings

open Environment (Quiet Sets value)
open LinkGauge.Tree (Place Leads InSight Proper)

/-! ### Variables -/

section Variables

variable {name name' : String} {keys : List String} {env : Environment}

/-- Upper and lower case do not matter in the name of a variable. -/
lemma variablePlace?_congr (same : name.toLower = name'.toLower) :
    variablePlace? name = variablePlace? name' := by
  simp only [variablePlace?, Environment.strip?, same]

lemma proper_of_variablePlace? (stands : variablePlace? name = some keys) :
    keys ≠ [] ∧ Proper keys := by
  simp only [variablePlace?] at stands
  split at stands
  · cases stands
  · cases stands
  · exact Environment.proper_of_place? stands

lemma proper_of_databasePlace? (stands : databasePlace? name = some keys) :
    keys ≠ [] ∧ Proper keys := by
  simp only [databasePlace?] at stands
  split at stands
  · cases stands
    simp [Proper]
  · cases stands

/-- The variable that names the file stands for no place. -/
lemma variablePlace?_config (config : name.toLower = "speedctl_config") :
    variablePlace? name = none := by
  have stripped : Environment.strip? "SPEEDCTL_" name = some "config" := by
    simp only [Environment.strip?, config]
    decide +kernel
  simp only [variablePlace?, stripped]

lemma databasePlace?_config (config : name.toLower = "speedctl_config") :
    databasePlace? name = none := by
  simp [databasePlace?, config]

/-- A variable stands for the place of its setting. -/
lemma IsSetting.place {p : Place} {tells : Option Tree → Settings → Prop}
    (setting : IsSetting name p tells) : variablePlace? name = some p.keys := by
  cases setting <;> decide +kernel

end Variables

/-! ### What counts -/

/-- What holds of the part of the sources that counts at a place. `file` is the tree of the file. -/
structure Decided (file : Tree) (env : Environment) (name : String) (p : Place)
    (holds : Option Tree → Prop) : Prop where
  /-- It holds of what the sources say together. -/
  merged : holds ((file.merge (env.tree variablePlace?)).at? p)
  /-- It holds of the text of the variable if no later one concerns the place. -/
  set : ∀ text, Sets variablePlace? p.keys name text env → (value text).isMap = false →
    holds (some (value text))
  /-- It holds of what the file has, or has not, if no variable concerns the place. -/
  unset : ∀ o, Quiet variablePlace? p.keys env → Leads p.keys file o → holds o
  /-- It holds of what the variables have there, whatever their places are. -/
  newer : ∀ t, (env.tree variablePlace?).at? p = some t → t.isMap = false → holds (some t)
  /-- It holds of what the file has there, as far as the variables leave it in sight. -/
  inSight : InSight p file (env.tree variablePlace?) → holds (file.at? p)
  /-- It holds of nothing if the variables have nothing there and the file is out of sight. -/
  hidden : (env.tree variablePlace?).at? p = none → ¬InSight p file (env.tree variablePlace?) →
    holds none

section Deciding

variable {file : Tree} {env : Environment} {name : String} {p : Place}
  {holds : Option Tree → Prop}

lemma leads_of_set {place : String → Option (List String)} {keys : List String} {text : String}
    (places : ∀ name keys, place name = some keys → keys ≠ [] ∧ Proper keys)
    (stands : ∀ spelling : String, spelling.toLower = name.toLower → place spelling = some keys)
    (sets : Sets place keys name text env) (leaf : (value text).isMap = false) :
    Leads keys (env.tree place) (some (value text)) := by
  obtain ⟨u, leads, grown⟩ := Environment.leads_of_sets places stands sets
  rwa [grown.eq_of_leaf leaf] at leads

/-- What holds of the sources together holds of the part that counts. -/
theorem decided (stands : variablePlace? name = some p.keys) (some : p ≠ [])
    (merged : holds ((file.merge (env.tree variablePlace?)).at? p)) :
    Decided file env name p holds := by
  refine ⟨merged, ?_, ?_, ?_, ?_, ?_⟩
  · intro text sets leaf
    have leads := leads_of_set (fun _ _ => proper_of_variablePlace?)
      (fun _ same => (variablePlace?_congr same).trans stands) sets leaf
    rwa [Tree.at?_merge_of_leaf leads.at? leaf] at merged
  · intro o quiet leads
    have keys : p.keys ≠ [] := fun none => some (List.map_eq_nil_iff.mp none)
    have silent := Environment.leads_of_quiet (fun _ _ => proper_of_variablePlace?) keys quiet
    rwa [Tree.at?_merge_of_leads silent leads] at merged
  · intro t there leaf
    rwa [Tree.at?_merge_of_leaf there leaf] at merged
  · intro inSight
    rwa [Tree.at?_merge_of_inSight inSight] at merged
  · intro none hidden
    rwa [Tree.at?_merge_of_not_inSight hidden none] at merged

end Deciding

/-! ### Addresses of the database -/

/-- What the sources say of the address of the database where `DATABASE_URL` is not set. An address
outside of the section counts, and if there is none, what is in the section. -/
inductive Address (file : Tree) (env : Environment) (s : Settings) : Option Tree → Prop where
  | outside {url : String} : s.database.url = some url → Address file env s (some (.text url))
  | inside {o : Option Tree} : o = none ∨ o = some .null →
      Decided file env "SPEEDCTL_DATABASE__URL" (inside "database" Database.layout.names "url")
        (fun o' => Told (Decoder.option Decoder.string) none o' s.database.url) →
      Address file env s o

section Databases

variable {name text : String} {env : Environment} {t : Tree} {fields : List String} {p : Place}

/-- Where `DATABASE_URL` says nothing, the other sources count. -/
lemma at?_merge_quiet (map : t.isMap = true) (quiet : Quiet databasePlace? [name] env) :
    (t.merge (env.tree databasePlace?)).at? ((fields, name) :: p) =
      t.at? ((fields, name) :: p) := by
  have silent := Environment.leads_of_quiet (fun _ _ => proper_of_databasePlace?)
    (List.cons_ne_nil name []) quiet
  obtain ⟨ms, rfl⟩ : ∃ ms, t = .map ms := by cases t <;> simp_all [Tree.isMap]
  generalize env.tree databasePlace? = d at silent
  cases silent with
  | missing none => exact Tree.at?_merge_of_inSight (.free none)
  | under _ inner => cases inner

/-- `DATABASE_URL` says nothing about other places. -/
lemma at?_merge_database (map : t.isMap = true) (other : name ≠ "database_url") :
    (t.merge (env.tree databasePlace?)).at? ((fields, name) :: p) =
      t.at? ((fields, name) :: p) := by
  have quiet : Quiet databasePlace? [name] env := by
    rintro v - ⟨keys, stands, touches⟩
    simp only [databasePlace?] at stands
    split at stands
    · cases stands
      simp [Tree.Touches, eq_comm, other] at touches
    · cases stands
  exact at?_merge_quiet map quiet

end Databases

section Loading

variable {file : Option String} {env : Environment} {s : Settings}

lemma settle_eq (s : Settings) : s.settle =
    { s with
      databaseUrl := none
      database := { s.database with url := s.databaseUrl.or s.database.url } } := by
  obtain ⟨_, _, databaseUrl, _, _, _, _, _, _, _⟩ := s
  cases databaseUrl <;> rfl

/-- Settings that are loaded are decoded from all sources together, settled and checked. -/
lemma load_eq_ok : load file env = .ok s ↔
    ∃ t u, fileTree file = .ok t ∧
      decoder .tree ((t.merge (env.tree variablePlace?)).merge (env.tree databasePlace?)).toNode =
        .ok u ∧ s = u.settle ∧ s.check = .ok () := by
  simp only [load, sources, bind_eq_ok, mapError_eq_ok]
  constructor
  · rintro ⟨_, ⟨t, read, ⟨⟩⟩, u, decoded, ⟨⟩, checked, ⟨⟩⟩
    exact ⟨t, u, read, decoded, rfl, checked⟩
  · rintro ⟨t, u, read, decoded, rfl, checked⟩
    exact ⟨_, ⟨t, read, rfl⟩, u, decoded, (), checked, rfl⟩

/-- What a text or null is decoded as. -/
lemma optional_eq_ok {t : Tree} {o : Option String}
    (read : Decoder.option Decoder.string t.toNode = .ok o) :
    t = .null ∧ o = none ∨ ∃ text, t = .text text ∧ o = some text := by
  cases t with
  | null =>
    cases read
    exact .inl ⟨rfl, rfl⟩
  | text text =>
    cases read
    exact .inr ⟨text, rfl, rfl⟩
  | _ => cases read

/-- Settling moves the address of the database and nothing else. -/
lemma IsSetting.settle {name : String} {p : Place} {tells : Option Tree → Settings → Prop}
    {o : Option Tree} (setting : IsSetting name p tells) (told : tells o s) : tells o s.settle := by
  rw [settle_eq]
  cases setting <;> exact told

/-- No setting but the addresses of the database has the place of `DATABASE_URL`. -/
lemma IsSetting.apart {name : String} {p : Place} {tells : Option Tree → Settings → Prop}
    (setting : IsSetting name p tells) :
    ∃ fields key rest, p = (fields, key) :: rest ∧ key ≠ "database_url" := by
  cases setting <;> exact ⟨_, _, _, rfl, by decide⟩

/-- A text or null that is told of an address. -/
lemma told_optional {o : Option Tree} {own : Option String}
    (told : Told (Decoder.option Decoder.string) none o own) :
    (o = none ∨ o = some .null) ∧ own = none ∨ ∃ url, o = some (.text url) ∧ own = some url := by
  cases told with
  | own => exact .inl ⟨.inl rfl, rfl⟩
  | given read =>
    rcases optional_eq_ok read with ⟨rfl, rfl⟩ | ⟨url, rfl, rfl⟩
    · exact .inl ⟨.inr rfl, rfl⟩
    · exact .inr ⟨url, rfl, rfl⟩

/-- The address in `DATABASE_URL` is what is decoded first. -/
lemma databaseUrl_of_set {t : Tree} {text : String} {own : Option String}
    (sets : Sets databasePlace? ["database_url"] "DATABASE_URL" text env)
    (told : Told (Decoder.option Decoder.string) none
      ((t.merge (env.tree databasePlace?)).at? (outside "database_url")) own) :
    ∃ url, value text = .text url ∧ own = some url := by
  have stands (spelling : String) (same : spelling.toLower = "DATABASE_URL".toLower) :
      databasePlace? spelling = some ["database_url"] := by
    have lower : "DATABASE_URL".toLower = "database_url" := by decide +kernel
    rw [databasePlace?, if_pos (same.trans lower)]
  obtain ⟨u, leads, grown⟩ :=
    Environment.leads_of_sets (fun _ _ => proper_of_databasePlace?) stands sets
  have newer : (env.tree databasePlace?).at? (outside "database_url") = some u :=
    Leads.at? (p := outside "database_url") leads
  obtain ⟨v, there, grown'⟩ := Tree.at?_merge_of_some t newer
  have counts (leaf : v.isMap = false) : v = value text :=
    (grown'.trans grown).eq_of_leaf_left leaf
  rw [there] at told
  rcases told_optional told with ⟨nothing | null, -⟩ | ⟨url, eq, rfl⟩
  · cases nothing
  · cases null
    exact absurd (counts rfl).symm (Environment.value_ne_null text)
  · cases eq
    exact ⟨url, (counts rfl).symm, rfl⟩

end Loading

variable {file : Option String} {env : Environment}

/-- Whatever file and environment settings are loaded from, each setting is decided by its variable,
or by the file if no variable concerns it, or else it has its default. The address of the database
is what `DATABASE_URL` says. Where that is not set, an address outside of the database's section
counts, from its variable or from the file, and only if there is none the one in the section, from
its variable or from the file. No other address is left, the settings fit together, and the variable
that names the file makes no difference. -/
theorem sources_decide_settings {s : Settings}
    (loaded : load file env = .ok s) :
    ∃ t, fileTree file = .ok t ∧
      (∀ name p tells, IsSetting name p tells → Decided t env name p fun o => tells o s) ∧
      (∀ text, Sets databasePlace? ["database_url"] "DATABASE_URL" text env →
        ∃ url, value text = .text url ∧ s.database.url = some url) ∧
      (Quiet databasePlace? ["database_url"] env →
        Decided t env "SPEEDCTL_DATABASE_URL" (outside "database_url") (Address t env s)) ∧
      s.databaseUrl = none ∧ s.check = .ok () ∧
      ∀ before name text after, env = before ++ (name, text) :: after →
        name.toLower = "speedctl_config" → load file (before ++ after) = .ok s := by
  obtain ⟨t, u, read, decoded, rfl, checked⟩ := load_eq_ok.mp loaded
  have map : (t.merge (env.tree variablePlace?)).isMap = true :=
    Tree.isMap_merge (Environment.isMap_tree fun _ _ => proper_of_variablePlace?)
  have parts := parts_of_decoder decoded
  refine ⟨t, read, ?settings, ?set, ?unset, settle_databaseUrl u, checked, ?config⟩
  case settings =>
    intro name p tells setting
    have told := setting.settle (tells_of_decoder setting decoded)
    obtain ⟨fields, key, rest, rfl, other⟩ := setting.apart
    rw [at?_merge_database map other] at told
    exact decided setting.place (List.cons_ne_nil _ _) told
  case set =>
    intro text sets
    have told := parts.databaseUrl
    rw [← at?_outside] at told
    obtain ⟨url, eq, own⟩ := databaseUrl_of_set sets told
    exact ⟨url, eq, by rw [settle_url, own, Option.some_or]⟩
  case unset =>
    intro quiet
    have told := parts.databaseUrl
    rw [← at?_outside, at?_merge_quiet map quiet] at told
    refine decided (by decide +kernel) (List.cons_ne_nil _ _) ?_
    rcases told_optional told with ⟨nothing, none⟩ | ⟨url, eq, some⟩
    · have inner := parts.inDatabase (g := Database.url)
        fun built => (Database.build_layout built).1
      rw [at?_merge_database map (by decide)] at inner
      refine .inside nothing (decided (by decide +kernel) (List.cons_ne_nil _ _) ?_)
      rw [settle_url, none, Option.none_or]
      exact inner
    · rw [eq]
      exact .outside (by rw [settle_url, some, Option.some_or])
  case config =>
    rintro before name text after rfl config
    rw [← loaded, load, load, sources, sources,
      Environment.tree_skip (variablePlace?_config config),
      Environment.tree_skip (databasePlace?_config config)]

/-- What a loading that was evaluated comes to. -/
lemma exists_of_toOption {α : Type} {g : Settings → α} {a : α}
    (evaluated : (load file env).toOption.map g = some a) :
    ∃ s, load file env = .ok s ∧ g s = a := by
  cases loaded : load file env with
  | ok s =>
    rw [loaded] at evaluated
    exact ⟨s, rfl, Option.some.inj evaluated⟩
  | error =>
    rw [loaded] at evaluated
    cases evaluated

/-- A host in a file and another in the environment, where the address of the database is, too. -/
theorem sources_decide_settings_host :
    ∃ s, load (some "host: attic\n") [("SPEEDCTL_HOST", "cellar"), ("DATABASE_URL", "db")] = .ok s ∧
      s.host = "cellar" ∧ s.database.url = some "db" ∧ s.databaseUrl = none := by
  have loads : ((load (some "host: attic\n")
      [("SPEEDCTL_HOST", "cellar"), ("DATABASE_URL", "db")]).toOption.map fun _ => ()) =
        some () := by
    decide +kernel
  have cellar : value "cellar" = .text "cellar" := Tree.text?_eq_some.mp (by decide +kernel)
  have db : value "db" = .text "db" := Tree.text?_eq_some.mp (by decide +kernel)
  obtain ⟨s, loaded, -⟩ := exists_of_toOption loads
  obtain ⟨t, -, settings, set, -, none, -⟩ := sources_decide_settings loaded
  refine ⟨s, loaded, ?_, ?_, none⟩
  · have quiet : Quiet variablePlace? ["host"] [("DATABASE_URL", "db")] := by
      intro v mem
      obtain rfl := List.mem_singleton.mp mem
      rintro ⟨keys, stands, -⟩
      have away : variablePlace? "DATABASE_URL" = .none := by decide +kernel
      cases stands.symm.trans away
    have leaf : (value "cellar").isMap = false := by
      rw [cellar]
      rfl
    have told := (settings _ _ _ .host).set "cellar" ⟨[], _, _, rfl, rfl, quiet⟩ leaf
    rw [cellar] at told
    cases told with
    | given read => exact (Except.ok.inj read).symm
  · obtain ⟨url, eq, counts⟩ := set "db" ⟨[_], _, [], rfl, rfl, nofun⟩
    cases db.symm.trans eq
    exact counts

/-- The address in a file, outside of the section of the database, comes before the one in the
section that the environment gives. -/
theorem address_of_file_prevails :
    ∃ s, load (some "database_url: postgres://file/db\n")
        [("SPEEDCTL_DATABASE__URL", "postgres://env/db")] = .ok s ∧
      s.database.url = some "postgres://file/db" := by
  have loads : (load (some "database_url: postgres://file/db\n")
      [("SPEEDCTL_DATABASE__URL", "postgres://env/db")]).toOption.map (·.database.url) =
        some (some "postgres://file/db") := by
    decide +kernel
  exact exists_of_toOption loads

end LinkGauge.Settings
