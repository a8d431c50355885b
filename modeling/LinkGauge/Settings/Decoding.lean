import LinkGauge.Document.Layout
import LinkGauge.Settings.Basic
import LinkGauge.Text.Quoted
import LinkGauge.Url.Parse
import LinkGauge.Word

/-!
# Decoding settings

Settings come as a JSON text or as a tree put together from several sources. The two are decoded
alike, but a tree may also name an alternative by its number.
-/

namespace LinkGauge.Settings

/-- Where a document comes from. -/
inductive Origin where
  | text
  | tree
  deriving DecidableEq, Repr

/-! ### Alternatives -/

section

variable {α : Type}

/-- The alternative with a number. -/
def numbered (table : List (String × α)) (n : UInt64) : Except Failure α :=
  match table[n.toNat]? with
  | some (_, a) => .ok a
  | none =>
    .error (.here (.wrongValue (.number (.natural n))
      ("variant index 0 <= i < " ++ toString table.length)))

/-- A choice of a type called `name`. -/
def choice (origin : Origin) (name : String) (table : List (String × α)) : Decoder α := fun n =>
  match origin with
  | .text => Decoder.variant table n
  | .tree =>
    match n with
    | .text (.ok key) => Decoder.variantOf table key
    | .number (.natural v) =>
      if v.toNat < Word.size32 then numbered table v else Decoder.mismatch ("enum " ++ name) n
    | .object ((.ok key, value) :: _) _ => do
      let a ← Decoder.variantOf table key
      match value with
      | .null => .ok a
      | value => (Decoder.mismatch "unit" value).mapError (.within (.member key))
    | .object _ _ => Decoder.mismatch "enum" n
    | n => Decoder.mismatch ("enum " ++ name) n

/-- The mark that tells which alternative an object is. -/
def mark (origin : Origin) (table : List (String × α)) : Decoder α
  | .text (.ok key) => Decoder.variantOf table key
  | n@(.number (.natural v)) =>
    match origin with
    | .text => Decoder.mismatch "variant identifier" n
    | .tree => numbered table v
  | n => Decoder.mismatch "variant identifier" n

end

/-! ### Destinations -/

def url : Decoder Url :=
  Decoder.parsed "a string representing an URL" fun s =>
    (Url.parse s).mapError fun fault => .refused (fault.message ++ ": " ++ Text.quoted s)

def Remote.layout : Layout Remote :=
  Remote.mk <$> .required "endpoint" url
    <*> .defaulted "timeout" Decoder.span Remote.defaultTimeout

/-- The kinds of destinations. -/
inductive Mode where
  | direct
  | remote
  deriving DecidableEq, Repr

def modes : List (String × Mode) := [("direct", .direct), ("api", .remote)]

/-- The mode among members, and the other members as they are. -/
def cutMode (origin : Origin) : Option Mode → List (Except Fault String × Node) → Ending →
    Except Failure (Option Mode × List (Except Fault String × Node))
  | mode, [], ending =>
    match Node.endingFault? ending with
    | some fault => .error (.here (.malformed fault))
    | none => .ok (mode, [])
  | _, (.error fault, _) :: _, _ => .error (.here (.malformed fault))
  | mode, (.ok key, n) :: rest, ending =>
    if key = "mode" then
      if mode.isSome then .error (.here (.duplicateField "mode"))
      else do
        let m ← (mark origin modes n).mapError (.within (.member "mode"))
        cutMode origin (some m) rest ending
    else
      match n.readFault? with
      | some fault => .error (.here (.malformed fault))
      | none => do
        let (mode, others) ← cutMode origin mode rest ending
        .ok (mode, (.ok key, n) :: others)

/-- The first fault among items or at their end. -/
def itemsFault? (items : List Node) (ending : Ending) : Option Fault :=
  (Node.readItems? items).or (Node.endingFault? ending)

/-- What a mode needs besides. Places inside are not told. -/
def Mode.decode (mode : Mode) (rest : Node) : Except Failure Destination :=
  match mode with
  | .direct =>
    match rest with
    | .list (n :: items) _ =>
      .error (.here (.wrongLength (n :: items).length (Layout.elements 0)))
    | _ => .ok .direct
  | .remote =>
    match Remote.layout.decoder "ApiSubmissionConfig" true rest with
    | .ok r => .ok (.remote r)
    | .error failure => .error (.here failure.cause)

/-- A destination: an object with its mode, or a list that begins with it. -/
def Destination.decoder (origin : Origin) : Decoder Destination
  | .object members ending => do
    match ← cutMode origin none members ending with
    | (some mode, others) => mode.decode (.object others .counted)
    | (none, _) => .error (.here (.missingField "mode"))
  | .list [] ending =>
    match Node.endingFault? ending with
    | some fault => .error (.here (.malformed fault))
    | none => .error (.here (.missingField "mode"))
  | .list (n :: items) ending => do
    let mode ← (mark origin modes n).mapError (.within (.item 0))
    match itemsFault? items ending with
    | some fault => .error (.here (.malformed fault))
    | none => mode.decode (.list items .counted)
  | .deep _ _ => .error (.here (.malformed .tooDeep))
  | n => Decoder.mismatch "internally tagged enum SubmissionConfig" n

/-! ### Structures -/

def Database.layout : Layout Database :=
  let d := Database.default
  Database.mk <$> .defaulted "url" (Decoder.option Decoder.string) d.url
    <*> .defaulted "max_connections" Decoder.uint32 d.maxConnections
    <*> .defaulted "min_connections" Decoder.uint32 d.minConnections
    <*> .defaulted "acquire_timeout" Decoder.span d.acquireTimeout

def Testing.layout (origin : Origin) : Layout Testing :=
  let t := Testing.default
  Testing.mk <$> .defaulted "speedtest_interval" Decoder.span t.speedInterval
    <*> .defaulted "throughput_interval" Decoder.span t.throughputInterval
    <*> .defaulted "throughput_duration" Decoder.span t.throughputDuration
    <*> .defaulted "throughput_grace" Decoder.span t.throughputGrace
    <*> .defaulted "speedtest_timeout" Decoder.span t.speedTimeout
    <*> .defaulted "max_concurrent_runs" Decoder.count t.maxConcurrentRuns
    <*> .defaulted "speedtest_bandwidth_unit"
      (choice origin "BandwidthUnit" BandwidthUnit.named) t.speedUnit

def Testing.decoder (origin : Origin) : Decoder Testing :=
  (Testing.layout origin).decoder "TestingConfig" true

def Tools.layout : Layout Tools :=
  Tools.mk <$> .defaulted "speedtest_binary" Decoder.string Tools.default.speed
    <*> .defaulted "iperf_binary" Decoder.string Tools.default.throughput

def Tools.decoder : Decoder Tools := Tools.layout.decoder "ToolsConfig" true

/-- A service that can be switched on. -/
def switch (name : String) (on : Bool) : Decoder Bool :=
  Layout.decoder (.defaulted "enabled" Decoder.bool on) name true

/-- Which services run. -/
structure Services where
  daemon : Bool
  service : Bool

def Services.decoder : Decoder Services :=
  Layout.decoder
    (Services.mk <$> .defaulted "daemon" (switch "DaemonServiceConfig" true) true
      <*> .defaulted "ingest_api" (switch "IngestApiConfig" false) false)
    "BackgroundServicesConfig" true

def layout (origin : Origin) : Layout Settings :=
  let d := Settings.default
  (fun host port databaseUrl database testing tools destination (services : Services)
      exportTraces =>
    { host, port, databaseUrl, database, testing, tools, destination,
      daemon := services.daemon, service := services.service, exportTraces })
    <$> .defaulted "host" Decoder.string d.host
    <*> .defaulted "port" Decoder.uint16 d.port
    <*> .defaulted "database_url" (Decoder.option Decoder.string) d.databaseUrl
    <*> .defaulted "database" (Database.layout.decoder "DatabaseConfig" true) d.database
    <*> .defaulted "testing" (Testing.decoder origin) d.testing
    <*> .defaulted "tools" Tools.decoder d.tools
    <*> .defaulted "submission" (Destination.decoder origin) d.destination
    <*> .defaulted "background_services" Services.decoder ⟨d.daemon, d.service⟩
    <*> .defaulted "enable_otel_export" Decoder.bool d.exportTraces

/-- Settings from a document. -/
def decoder (origin : Origin) : Decoder Settings := (layout origin).decoder "Config" true

end LinkGauge.Settings
