import LinkGauge.Environment.Basic
import LinkGauge.Settings.Decoding
import LinkGauge.Yaml.Reading

/-!
# Loading settings

Settings come from a file and from the environment. A variable wins over the file, a default
stands where neither says anything, and the address of the database in `DATABASE_URL` wins over
every other. What was loaded fits together.
-/

namespace LinkGauge.Settings

/-! ### Sources -/

/-- The keys of the setting that a variable is for. The variable that names the file is for
none. -/
def variablePlace? (name : String) : Option (List String) :=
  match Environment.strip? "SPEEDCTL_" name with
  | none | some "config" => none
  | some rest => Environment.place? rest

/-- The keys that the variable with the address of the database is for. -/
def databasePlace? (name : String) : Option (List String) :=
  if name.toLower = "database_url" then some ["database_url"] else none

/-- The tree of a file. A file that does not exist says nothing. -/
def fileTree (file : Option String) : Except Yaml.Fault Tree :=
  match file with
  | some text => Yaml.read text
  | none => .ok (.map [])

/-- All sources laid over each other. -/
def sources (file : Option String) (env : Environment) : Except Yaml.Fault Tree := do
  let t ← fileTree file
  .ok ((t.merge (env.tree variablePlace?)).merge (env.tree databasePlace?))

/-! ### Failures -/

/-- Why there are no settings. -/
inductive LoadFailure where
  /-- The file makes no sense. -/
  | malformed (fault : Yaml.Fault)
  /-- The sources say something that is no setting. -/
  | undecodable (failure : Failure)
  /-- The settings do not fit together. -/
  | inconsistent (reason : String)

/-- What a complaint calls a value. -/
def foundText : Found → String
  | .unit => "unit"
  | .bool b => "bool " ++ (if b then "true" else "false")
  | .number (.natural n) => "unsigned int `" ++ toString n.toNat ++ "`"
  | .number (.negative n) => "signed int `" ++ toString n.toInt ++ "`"
  | .number (.real x) => "float `" ++ Decimal.Style.plain.write x ++ "`"
  | .text s => "string " ++ Text.quoted s
  | .strange description => description
  | .sequence => "sequence"
  | .map => "map"

/-- The wording of what cannot be decoded. -/
def causeText : Cause → String
  | .malformed fault => fault.message
  | .wrongType found expected =>
    "invalid type: found " ++ foundText found ++ ", expected " ++ expected
  | .wrongValue found expected =>
    "invalid value " ++ foundText found ++ ", expected " ++ expected
  | .wrongLength length expected =>
    "invalid length " ++ toString length ++ ", expected " ++ expected
  | .unknownVariant name variants =>
    "unknown variant: found `" ++ name ++ "`, expected `" ++ alternatives variants ++ "`"
  | .unknownField name fields =>
    "unknown field: found `" ++ name ++ "`, expected `" ++ alternatives fields ++ "`"
  | .missingField name => "missing field `" ++ name ++ "`"
  | .duplicateField name => "duplicate field `" ++ name ++ "`"
  | .refused message => message

def LoadFailure.message : LoadFailure → String
  | .malformed fault => fault.message
  | .undecodable failure => causeText failure.cause
  | .inconsistent reason => reason

/-- The setting that is at fault, its keys separated by points. -/
def LoadFailure.path : LoadFailure → String
  | .undecodable failure =>
    String.intercalate "." (failure.path.map fun
      | .member key => key
      | .item index => toString index)
  | _ => ""

/-! ### Loading -/

/-- Settings with the address of the database where it belongs. -/
def settle (s : Settings) : Settings :=
  match s.databaseUrl with
  | some url => { s with databaseUrl := none, database := { s.database with url := some url } }
  | none => s

/-- Settings from a file, if there is one, and an environment. -/
def load (file : Option String) (env : Environment) : Except LoadFailure Settings := do
  let t ← (sources file env).mapError .malformed
  let s ← (decoder .tree t.toNode).mapError .undecodable
  let s := s.settle
  s.check.mapError .inconsistent
  .ok s

/-! ### Where the address of the database ends up -/

@[simp] theorem settle_databaseUrl (s : Settings) : s.settle.databaseUrl = none := by
  unfold settle
  split <;> simp_all

theorem settle_url (s : Settings) : s.settle.database.url = s.databaseUrl.or s.database.url := by
  unfold settle
  split <;> simp_all

end LinkGauge.Settings
