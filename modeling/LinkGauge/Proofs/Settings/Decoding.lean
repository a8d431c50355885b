import LinkGauge.Proofs.Document.Trees
import LinkGauge.Settings.Decoding

/-!
# Settings are told field by field

What a setting is, after a tree was decoded, follows from what the tree has at its place, and from
its default if nothing is there. This holds whether a section is a map or a list.
-/

namespace LinkGauge.Settings

open Layout (build_field build_seq build_map)

/-! ### Values of settings -/

section Values

variable {α β : Type} {d : Decoder β} {own b : β} {o : Option Tree} {name : String}

/-- A value is what is at a place, decoded, or the default if nothing is there. -/
inductive Told (d : Decoder β) (own : β) : Option Tree → β → Prop where
  | given {t : Tree} {b : β} : d t.toNode = .ok b → Told d own (some t) b
  | own : Told d own none own

lemma told_of_defaulted {find : String → Option Node} (found : find name = o.map Tree.toNode)
    (built : (Layout.defaulted name d own).build find = .ok b) : Told d own o b := by
  rcases build_field.mp built with ⟨n, there, read⟩ | ⟨missing, default⟩
  · rw [found] at there
    obtain ⟨t, rfl, rfl⟩ := Option.map_eq_some_iff.mp there
    exact .given read
  · rw [found, Option.map_eq_none_iff] at missing
    cases missing
    cases default
    exact .own

/-- A field of a section is told by the part of the section. -/
lemma Told.field {r : Layout α} {short : List Bool} (lists : r.Lists short)
    (distinct : r.names.Nodup) {title : String} {closed : Bool} {a a₀ : α} {g : α → β}
    (field : ∀ {find a}, r.build find = .ok a →
      (Layout.defaulted name d (g a₀)).build find = .ok (g a))
    (told : Told (r.decoder title closed) a₀ o a) :
    Told d (g a₀) (o.bind (Tree.part? r.names name)) (g a) := by
  cases told with
  | own => exact .own
  | given read =>
    exact told_of_defaulted (Tree.part?_toNode r _ name)
      (field (Layout.build_of_decoder lists distinct read))

end Values

/-! ### Layouts -/

section Sections

lemma Database.layout_lists : Database.layout.Lists [true, true, true, true] :=
  (((Layout.Lists.defaulted.map _).seq .defaulted).seq .defaulted).seq .defaulted

lemma Testing.layout_lists (origin : Origin) :
    (Testing.layout origin).Lists [true, true, true, true, true, true, true] :=
  ((((((Layout.Lists.defaulted.map _).seq .defaulted).seq .defaulted).seq .defaulted).seq
    .defaulted).seq .defaulted).seq .defaulted

lemma Tools.layout_lists : Tools.layout.Lists [true, true] :=
  (Layout.Lists.defaulted.map _).seq .defaulted

lemma Remote.layout_lists : Remote.layout.Lists [false, true] :=
  (Layout.Lists.required.map _).seq .defaulted

/-- The layout of what tells which services run. -/
abbrev Services.layout : Layout Services :=
  Services.mk <$> .defaulted "daemon" (switch "DaemonServiceConfig" true) true
    <*> .defaulted "ingest_api" (switch "IngestApiConfig" false) false

lemma Services.layout_lists : Services.layout.Lists [true, true] :=
  (Layout.Lists.defaulted.map _).seq .defaulted

lemma layout_lists (origin : Origin) :
    (layout origin).Lists [true, true, true, true, true, true, true, true, true] :=
  ((((((((Layout.Lists.defaulted.map _).seq .defaulted).seq .defaulted).seq .defaulted).seq
    .defaulted).seq .defaulted).seq .defaulted).seq .defaulted).seq .defaulted

/-- What the fields of a whole tree tell. -/
structure Parts (t : Tree) (s : Settings) : Prop where
  host : Told Decoder.string default.host (t.part? (layout .tree).names "host") s.host
  port : Told Decoder.uint16 default.port (t.part? (layout .tree).names "port") s.port
  databaseUrl : Told (Decoder.option Decoder.string) none
    (t.part? (layout .tree).names "database_url") s.databaseUrl
  database : Told (Database.layout.decoder "DatabaseConfig" true) .default
    (t.part? (layout .tree).names "database") s.database
  testing : Told (Testing.decoder .tree) .default (t.part? (layout .tree).names "testing") s.testing
  tools : Told Tools.decoder .default (t.part? (layout .tree).names "tools") s.tools
  destination : Told (Destination.decoder .tree) .direct
    (t.part? (layout .tree).names "submission") s.destination
  services : Told Services.decoder ⟨true, false⟩
    (t.part? (layout .tree).names "background_services") ⟨s.daemon, s.service⟩
  exportTraces : Told Decoder.bool default.exportTraces
    (t.part? (layout .tree).names "enable_otel_export") s.exportTraces

lemma parts_of_decoder {t : Tree} {s : Settings} (read : decoder .tree t.toNode = .ok s) :
    Parts t s := by
  have built := Layout.build_of_decoder (layout_lists .tree) (by decide) read
  have found := Tree.part?_toNode (layout .tree) t
  simp only [layout, build_seq, build_map] at built
  obtain ⟨_, traces, ⟨_, services, ⟨_, destination, ⟨_, tools, ⟨_, testing, ⟨_, database,
    ⟨_, databaseUrl, ⟨_, port, ⟨host, h₁, rfl⟩, h₂, rfl⟩, h₃, rfl⟩, h₄, rfl⟩, h₅, rfl⟩, h₆, rfl⟩,
    h₇, rfl⟩, h₈, rfl⟩, h₉, rfl⟩ := built
  exact ⟨told_of_defaulted (found _) h₁, told_of_defaulted (found _) h₂,
    told_of_defaulted (found _) h₃, told_of_defaulted (found _) h₄, told_of_defaulted (found _) h₅,
    told_of_defaulted (found _) h₆, told_of_defaulted (found _) h₇, told_of_defaulted (found _) h₈,
    told_of_defaulted (found _) h₉⟩

end Sections

/-! ### Destinations -/

section Destinations

open Layout (find?)

variable {ms others : List (Except Fault String × Node)} {ending : Ending}
  {seen found : Option Mode} {origin : Origin}

/-- The mode is what stands under its key, and all other members are left. -/
lemma cutMode_eq_ok (cut : cutMode origin seen ms ending = .ok (found, others)) :
    (∀ key, key ≠ "mode" → find? key others = find? key ms) ∧
      (∀ mode, seen = some mode → found = some mode) ∧
      ∀ mode, seen = none → found = some mode →
        ∃ n, find? "mode" ms = some n ∧ mark origin modes n = .ok mode := by
  induction ms generalizing seen others with
  | nil =>
    simp only [cutMode] at cut
    split at cut
    · cases cut
    · cases cut
      refine ⟨fun _ _ => rfl, fun _ same => same, ?_⟩
      intro mode none some
      exact nomatch none.symm.trans some
  | cons m ms ih =>
    obtain ⟨name, n⟩ := m
    cases name with
    | error fault => cases cut
    | ok key =>
      rw [cutMode] at cut
      by_cases isMode : key = "mode"
      · subst isMode
        rw [if_pos rfl] at cut
        cases seen with
        | some mode => cases cut
        | none =>
          obtain ⟨mode, marked, rest⟩ := bind_eq_ok.mp cut
          obtain ⟨kept, same, -⟩ := ih rest
          refine ⟨?_, nofun, ?_⟩
          · intro key other
            rw [kept key other, find?, if_neg other.symm]
          · intro mode' _ eq
            obtain rfl := Option.some.inj ((same mode rfl).symm.trans eq)
            exact ⟨n, if_pos rfl, mapError_eq_ok.mp marked⟩
      · rw [if_neg isMode] at cut
        split at cut
        · cases cut
        · obtain ⟨⟨mode, rest⟩, inner, eq⟩ := bind_eq_ok.mp cut
          cases eq
          obtain ⟨kept, same, first⟩ := ih inner
          refine ⟨?_, same, ?_⟩
          · intro key' other
            simp only [find?, kept key' other]
          · intro mode' none some
            rw [find?, if_neg isMode]
            exact first mode' none some

/-- What kind of destination it is. -/
def Destination.mode : Destination → Mode
  | .direct => .direct
  | .remote _ => .remote

/-- What a mode makes of the other parts. -/
lemma mode_decode_eq_ok {mode : Mode} {rest : Node} {destination : Destination}
    (read : mode.decode rest = .ok destination) :
    destination.mode = mode ∧ ∀ r, destination = .remote r →
      Remote.layout.decoder "ApiSubmissionConfig" true rest = .ok r := by
  cases mode with
  | direct =>
    simp only [Mode.decode] at read
    split at read
    · cases read
    · cases read
      exact ⟨rfl, nofun⟩
  | remote =>
    simp only [Mode.decode] at read
    split at read
    next r decoded =>
      cases read
      refine ⟨rfl, ?_⟩
      rintro _ ⟨⟩
      exact decoded
    next => cases read

/-- The fields of a destination, in order. -/
def Destination.fields : List String := ["mode", "endpoint", "timeout"]

/-- A destination is read from its parts. -/
structure Destination.Parts (t : Tree) (destination : Destination) : Prop where
  mode : ∃ m, t.part? fields "mode" = some m ∧ mark .tree modes m.toNode = .ok destination.mode
  endpoint : ∀ r, destination = .remote r →
    ∃ e, t.part? fields "endpoint" = some e ∧ url e.toNode = .ok r.endpoint
  timeout : ∀ r, destination = .remote r →
    Told Decoder.span Remote.defaultTimeout (t.part? fields "timeout") r.timeout

lemma Remote.build_layout {find : String → Option Node} {r : Remote}
    (built : Remote.layout.build find = .ok r) :
    (Layout.required "endpoint" url).build find = .ok r.endpoint ∧
      (Layout.defaulted "timeout" Decoder.span Remote.defaultTimeout).build find =
        .ok r.timeout := by
  simp only [Remote.layout, build_seq, build_map] at built
  obtain ⟨_, timeout, ⟨endpoint, first, rfl⟩, second, rfl⟩ := built
  exact ⟨first, second⟩

/-- What is told of a remote service is told by the parts it is read from. -/
lemma Destination.parts_of_rest {t : Tree} {rest : Node} {m : Tree} {mode : Mode}
    {destination : Destination} (there : t.part? fields "mode" = some m)
    (marked : mark .tree modes m.toNode = .ok mode)
    (parts : ∀ name, name ∈ Remote.layout.names →
      Remote.layout.part? name rest = (t.part? fields name).map Tree.toNode)
    (read : mode.decode rest = .ok destination) : Parts t destination := by
  obtain ⟨rfl, remote⟩ := mode_decode_eq_ok read
  have built (r : Remote) (eq : destination = .remote r) :=
    Remote.build_layout (Layout.build_of_decoder Remote.layout_lists (by decide) (remote r eq))
  refine ⟨⟨m, there, marked⟩, ?_, ?_⟩
  · intro r eq
    obtain ⟨n, given, value⟩ := Layout.gives_of_required (built r eq).1
    rw [parts "endpoint" (by decide)] at given
    obtain ⟨e, found, rfl⟩ := Option.map_eq_some_iff.mp given
    exact ⟨e, found, value⟩
  · intro r eq
    exact told_of_defaulted (parts "timeout" (by decide)) (built r eq).2

lemma Destination.parts_of_decoder {t : Tree} {destination : Destination}
    (read : decoder .tree t.toNode = .ok destination) : Parts t destination := by
  cases t with
  | map ms =>
    obtain ⟨⟨found, others⟩, cut, read⟩ := bind_eq_ok.mp read
    obtain ⟨kept, -, first⟩ := cutMode_eq_ok cut
    cases found with
    | none => cases read
    | some mode =>
      obtain ⟨n, there, marked⟩ := first mode rfl rfl
      rw [Tree.find?_toMembers] at there
      obtain ⟨m, found, rfl⟩ := Option.map_eq_some_iff.mp there
      refine parts_of_rest found marked ?_ read
      intro name mem
      have other : name ≠ "mode" := by
        rintro rfl
        exact absurd mem (by decide)
      exact (kept name other).trans (Tree.find?_toMembers ms)
  | list ts =>
    cases ts with
    | nil => cases read
    | cons t ts =>
      obtain ⟨mode, marked, read⟩ := bind_eq_ok.mp read
      split at read
      · cases read
      · refine parts_of_rest (m := t) rfl (mapError_eq_ok.mp marked) ?_ read
        intro name mem
        change name ∈ ["endpoint", "timeout"] at mem
        simp only [List.mem_cons, List.not_mem_nil, or_false] at mem
        rcases mem with rfl | rfl
        · exact Tree.getElem?_toNodes ts 0
        · exact Tree.getElem?_toNodes ts 1
  | _ => cases read

end Destinations

/-! ### Sections -/

section Sections

variable {find : String → Option Node}

lemma Database.build_layout {x : Database} (built : Database.layout.build find = .ok x) :
    (Layout.defaulted "url" (Decoder.option Decoder.string) none).build find = .ok x.url ∧
      (Layout.defaulted "max_connections" Decoder.uint32 10).build find = .ok x.maxConnections ∧
      (Layout.defaulted "min_connections" Decoder.uint32 0).build find = .ok x.minConnections ∧
      (Layout.defaulted "acquire_timeout" Decoder.span (seconds 30)).build find =
        .ok x.acquireTimeout := by
  simp only [Database.layout, build_seq, build_map] at built
  obtain ⟨_, _, ⟨_, _, ⟨_, _, ⟨_, h₁, rfl⟩, h₂, rfl⟩, h₃, rfl⟩, h₄, rfl⟩ := built
  exact ⟨h₁, h₂, h₃, h₄⟩

/-- What the fields of the section about tests find. -/
structure Testing.Built (find : String → Option Node) (x : Testing) : Prop where
  speedInterval :
    (Layout.defaulted "speedtest_interval" Decoder.span (seconds 900)).build find =
      .ok x.speedInterval
  throughputInterval :
    (Layout.defaulted "throughput_interval" Decoder.span (seconds 600)).build find =
      .ok x.throughputInterval
  throughputDuration :
    (Layout.defaulted "throughput_duration" Decoder.span (seconds 10)).build find =
      .ok x.throughputDuration
  throughputGrace :
    (Layout.defaulted "throughput_grace" Decoder.span (seconds 30)).build find =
      .ok x.throughputGrace
  speedTimeout :
    (Layout.defaulted "speedtest_timeout" Decoder.span (seconds 120)).build find =
      .ok x.speedTimeout
  maxConcurrentRuns :
    (Layout.defaulted "max_concurrent_runs" Decoder.count 4).build find = .ok x.maxConcurrentRuns
  speedUnit :
    (Layout.defaulted "speedtest_bandwidth_unit"
      (choice .tree "BandwidthUnit" BandwidthUnit.named) .bytesPerSecond).build find =
        .ok x.speedUnit

lemma Testing.build_layout {x : Testing} (built : (Testing.layout .tree).build find = .ok x) :
    Built find x := by
  simp only [Testing.layout, build_seq, build_map] at built
  obtain ⟨_, _, ⟨_, _, ⟨_, _, ⟨_, _, ⟨_, _, ⟨_, _, ⟨_, h₁, rfl⟩, h₂, rfl⟩, h₃, rfl⟩, h₄, rfl⟩, h₅,
    rfl⟩, h₆, rfl⟩, h₇, rfl⟩ := built
  exact ⟨h₁, h₂, h₃, h₄, h₅, h₆, h₇⟩

lemma Tools.build_layout {x : Tools} (built : Tools.layout.build find = .ok x) :
    (Layout.defaulted "speedtest_binary" Decoder.string "speedtest").build find = .ok x.speed ∧
      (Layout.defaulted "iperf_binary" Decoder.string "iperf3").build find =
        .ok x.throughput := by
  simp only [Tools.layout, build_seq, build_map] at built
  obtain ⟨_, _, ⟨_, h₁, rfl⟩, h₂, rfl⟩ := built
  exact ⟨h₁, h₂⟩

lemma Services.build_layout {x : Services} (built : Services.layout.build find = .ok x) :
    (Layout.defaulted "daemon" (switch "DaemonServiceConfig" true) true).build find =
        .ok x.daemon ∧
      (Layout.defaulted "ingest_api" (switch "IngestApiConfig" false) false).build find =
        .ok x.service := by
  simp only [build_seq, build_map] at built
  obtain ⟨_, _, ⟨_, h₁, rfl⟩, h₂, rfl⟩ := built
  exact ⟨h₁, h₂⟩

end Sections

/-! ### Settings -/

open LinkGauge.Tree (Place)

/-- The place of a setting outside of all sections. -/
abbrev outside (name : String) : Place := [((layout .tree).names, name)]

/-- The place of a setting in a section. -/
abbrev inside (title : String) (fields : List String) (name : String) : Place :=
  [((layout .tree).names, title), (fields, name)]

/-- The place of the switch of a service. -/
abbrev switchOf (name : String) : Place :=
  [((layout .tree).names, "background_services"), (Services.layout.names, name),
    (["enabled"], "enabled")]

/-- A setting: the name of its variable, its place, and how what is there tells what it is. The
addresses of the database are not among these. -/
inductive IsSetting : String → Place → (Option Tree → Settings → Prop) → Prop where
  | host : IsSetting "SPEEDCTL_HOST" (outside "host")
      fun o s => Told Decoder.string "0.0.0.0" o s.host
  | port : IsSetting "SPEEDCTL_PORT" (outside "port") fun o s => Told Decoder.uint16 8080 o s.port
  | exportTraces : IsSetting "SPEEDCTL_ENABLE_OTEL_EXPORT" (outside "enable_otel_export")
      fun o s => Told Decoder.bool false o s.exportTraces
  | maxConnections : IsSetting "SPEEDCTL_DATABASE__MAX_CONNECTIONS"
      (inside "database" Database.layout.names "max_connections")
      fun o s => Told Decoder.uint32 10 o s.database.maxConnections
  | minConnections : IsSetting "SPEEDCTL_DATABASE__MIN_CONNECTIONS"
      (inside "database" Database.layout.names "min_connections")
      fun o s => Told Decoder.uint32 0 o s.database.minConnections
  | acquireTimeout : IsSetting "SPEEDCTL_DATABASE__ACQUIRE_TIMEOUT"
      (inside "database" Database.layout.names "acquire_timeout")
      fun o s => Told Decoder.span (seconds 30) o s.database.acquireTimeout
  | speedInterval : IsSetting "SPEEDCTL_TESTING__SPEEDTEST_INTERVAL"
      (inside "testing" (Testing.layout .tree).names "speedtest_interval")
      fun o s => Told Decoder.span (seconds 900) o s.testing.speedInterval
  | throughputInterval : IsSetting "SPEEDCTL_TESTING__THROUGHPUT_INTERVAL"
      (inside "testing" (Testing.layout .tree).names "throughput_interval")
      fun o s => Told Decoder.span (seconds 600) o s.testing.throughputInterval
  | throughputDuration : IsSetting "SPEEDCTL_TESTING__THROUGHPUT_DURATION"
      (inside "testing" (Testing.layout .tree).names "throughput_duration")
      fun o s => Told Decoder.span (seconds 10) o s.testing.throughputDuration
  | throughputGrace : IsSetting "SPEEDCTL_TESTING__THROUGHPUT_GRACE"
      (inside "testing" (Testing.layout .tree).names "throughput_grace")
      fun o s => Told Decoder.span (seconds 30) o s.testing.throughputGrace
  | speedTimeout : IsSetting "SPEEDCTL_TESTING__SPEEDTEST_TIMEOUT"
      (inside "testing" (Testing.layout .tree).names "speedtest_timeout")
      fun o s => Told Decoder.span (seconds 120) o s.testing.speedTimeout
  | maxConcurrentRuns : IsSetting "SPEEDCTL_TESTING__MAX_CONCURRENT_RUNS"
      (inside "testing" (Testing.layout .tree).names "max_concurrent_runs")
      fun o s => Told Decoder.count 4 o s.testing.maxConcurrentRuns
  | speedUnit : IsSetting "SPEEDCTL_TESTING__SPEEDTEST_BANDWIDTH_UNIT"
      (inside "testing" (Testing.layout .tree).names "speedtest_bandwidth_unit")
      fun o s => Told (choice .tree "BandwidthUnit" BandwidthUnit.named) .bytesPerSecond o
        s.testing.speedUnit
  | speedTool : IsSetting "SPEEDCTL_TOOLS__SPEEDTEST_BINARY"
      (inside "tools" Tools.layout.names "speedtest_binary")
      fun o s => Told Decoder.string "speedtest" o s.tools.speed
  | throughputTool : IsSetting "SPEEDCTL_TOOLS__IPERF_BINARY"
      (inside "tools" Tools.layout.names "iperf_binary")
      fun o s => Told Decoder.string "iperf3" o s.tools.throughput
  | mode : IsSetting "SPEEDCTL_SUBMISSION__MODE" (inside "submission" Destination.fields "mode")
      fun o s => Told (mark .tree modes) .direct o s.destination.mode
  | endpoint : IsSetting "SPEEDCTL_SUBMISSION__ENDPOINT"
      (inside "submission" Destination.fields "endpoint")
      fun o s => ∀ r, s.destination = .remote r → ∃ t, o = some t ∧ url t.toNode = .ok r.endpoint
  | timeout : IsSetting "SPEEDCTL_SUBMISSION__TIMEOUT"
      (inside "submission" Destination.fields "timeout")
      fun o s => ∀ r, s.destination = .remote r → Told Decoder.span (seconds 30) o r.timeout
  | daemon : IsSetting "SPEEDCTL_BACKGROUND_SERVICES__DAEMON__ENABLED" (switchOf "daemon")
      fun o s => Told Decoder.bool true o s.daemon
  | service : IsSetting "SPEEDCTL_BACKGROUND_SERVICES__INGEST_API__ENABLED" (switchOf "ingest_api")
      fun o s => Told Decoder.bool false o s.service

section Decoded

variable {t : Tree} {s : Settings} {name : String} {p : Place}
  {tells : Option Tree → Settings → Prop}

lemma at?_outside : t.at? (outside name) = t.part? (layout .tree).names name := by
  rw [Tree.at?]
  cases t.part? (layout .tree).names name <;> rfl

lemma at?_inside {title : String} {fields : List String} :
    t.at? (inside title fields name) =
      (t.part? (layout .tree).names title).bind (Tree.part? fields name) := by
  rw [Tree.at?]
  cases t.part? (layout .tree).names title with
  | none => rfl
  | some u => cases eq : u.part? fields name <;> simp [Tree.at?, eq]

lemma at?_switchOf :
    t.at? (switchOf name) =
      ((t.part? (layout .tree).names "background_services").bind
        (Tree.part? Services.layout.names name)).bind (Tree.part? ["enabled"] "enabled") := by
  rw [Tree.at?]
  cases t.part? (layout .tree).names "background_services" with
  | none => rfl
  | some u =>
    cases eq : u.part? Services.layout.names name with
    | none => simp [Tree.at?, eq]
    | some v => cases eq' : v.part? ["enabled"] "enabled" <;> simp [Tree.at?, eq, eq']

/-- A field of a section of the whole tree. -/
lemma Told.inside {α β : Type} {r : Layout α} {short : List Bool} {title label : String}
    {closed : Bool} {a a₀ : α} {d : Decoder β} {g : α → β} (lists : r.Lists short)
    (distinct : r.names.Nodup)
    (field : ∀ {find a}, r.build find = .ok a →
      (Layout.defaulted name d (g a₀)).build find = .ok (g a))
    (told : Told (r.decoder label closed) a₀ (t.part? (layout .tree).names title) a) :
    Told d (g a₀) (t.at? (Settings.inside title r.names name)) (g a) := by
  rw [at?_inside]
  exact told.field lists distinct field

lemma Parts.inDatabase {β : Type} {d : Decoder β} {g : Database → β} (parts : Parts t s)
    (field : ∀ {find x}, Database.layout.build find = .ok x →
      (Layout.defaulted name d (g .default)).build find = .ok (g x)) :
    Told d (g .default) (t.at? (inside "database" Database.layout.names name)) (g s.database) :=
  parts.database.inside Database.layout_lists (by decide) field

lemma Parts.inTesting {β : Type} {d : Decoder β} {g : Testing → β} (parts : Parts t s)
    (field : ∀ {find x}, Testing.Built find x →
      (Layout.defaulted name d (g .default)).build find = .ok (g x)) :
    Told d (g .default) (t.at? (inside "testing" (Testing.layout .tree).names name))
      (g s.testing) :=
  parts.testing.inside (Testing.layout_lists .tree) (by decide)
    fun built => field (Testing.build_layout built)

lemma Parts.inTools {β : Type} {d : Decoder β} {g : Tools → β} (parts : Parts t s)
    (field : ∀ {find x}, Tools.layout.build find = .ok x →
      (Layout.defaulted name d (g .default)).build find = .ok (g x)) :
    Told d (g .default) (t.at? (inside "tools" Tools.layout.names name)) (g s.tools) :=
  parts.tools.inside Tools.layout_lists (by decide) field

lemma Parts.switch {label : String} {on : Bool} {g : Services → Bool} (parts : Parts t s)
    (default : g ⟨true, false⟩ = on)
    (field : ∀ {find x}, Services.layout.build find = .ok x →
      (Layout.defaulted name (Settings.switch label on) (g ⟨true, false⟩)).build find =
        .ok (g x)) :
    Told Decoder.bool on (t.at? (switchOf name)) (g ⟨s.daemon, s.service⟩) := by
  subst default
  rw [at?_switchOf]
  have told := parts.services.field Services.layout_lists (by decide) field
  exact told.field (g := id) .defaulted (List.nodup_singleton _) fun built => built

/-- What is told of a destination, or that nothing is. -/
lemma Parts.destination_cases (parts : Parts t s) :
    (t.part? (layout .tree).names "submission" = none ∧ s.destination = .direct) ∨
      ∃ u, t.part? (layout .tree).names "submission" = some u ∧
        Destination.Parts u s.destination := by
  have told := parts.destination
  generalize t.part? (layout .tree).names "submission" = o at told
  generalize s.destination = destination at told
  cases told with
  | own => exact .inl ⟨rfl, rfl⟩
  | given read => exact .inr ⟨_, rfl, Destination.parts_of_decoder read⟩

/-- Only what is there is read as a remote service. -/
lemma Parts.of_remote {r : Remote} (parts : Parts t s) (remote : s.destination = .remote r) :
    ∃ u, t.part? (layout .tree).names "submission" = some u ∧
      Destination.Parts u s.destination := by
  rcases parts.destination_cases with ⟨-, direct⟩ | there
  · cases direct.symm.trans remote
  · exact there

/-- What is at the place of a setting tells what it is. -/
theorem tells_of_decoder (setting : IsSetting name p tells)
    (read : decoder .tree t.toNode = .ok s) : tells (t.at? p) s := by
  have parts := parts_of_decoder read
  cases setting with
  | host =>
    rw [at?_outside]
    exact parts.host
  | port =>
    rw [at?_outside]
    exact parts.port
  | exportTraces =>
    rw [at?_outside]
    exact parts.exportTraces
  | maxConnections =>
    exact parts.inDatabase (g := Database.maxConnections)
      fun built => (Database.build_layout built).2.1
  | minConnections =>
    exact parts.inDatabase (g := Database.minConnections)
      fun built => (Database.build_layout built).2.2.1
  | acquireTimeout =>
    exact parts.inDatabase (g := Database.acquireTimeout)
      fun built => (Database.build_layout built).2.2.2
  | speedInterval => exact parts.inTesting (g := Testing.speedInterval) (·.speedInterval)
  | throughputInterval =>
    exact parts.inTesting (g := Testing.throughputInterval) (·.throughputInterval)
  | throughputDuration =>
    exact parts.inTesting (g := Testing.throughputDuration) (·.throughputDuration)
  | throughputGrace => exact parts.inTesting (g := Testing.throughputGrace) (·.throughputGrace)
  | speedTimeout => exact parts.inTesting (g := Testing.speedTimeout) (·.speedTimeout)
  | maxConcurrentRuns =>
    exact parts.inTesting (g := Testing.maxConcurrentRuns) (·.maxConcurrentRuns)
  | speedUnit => exact parts.inTesting (g := Testing.speedUnit) (·.speedUnit)
  | speedTool =>
    exact parts.inTools (g := Tools.speed) fun built => (Tools.build_layout built).1
  | throughputTool =>
    exact parts.inTools (g := Tools.throughput) fun built => (Tools.build_layout built).2
  | mode =>
    rw [at?_inside]
    rcases parts.destination_cases with ⟨none, direct⟩ | ⟨u, some, told⟩
    · rw [none, Option.bind_none]
      change Told _ _ .none s.destination.mode
      rw [direct]
      exact .own
    · obtain ⟨m, there, marked⟩ := told.mode
      rw [some, Option.bind_some, there]
      exact .given marked
  | endpoint =>
    intro r remote
    obtain ⟨u, some, told⟩ := parts.of_remote remote
    rw [at?_inside, some, Option.bind_some]
    exact told.endpoint r remote
  | timeout =>
    intro r remote
    obtain ⟨u, some, told⟩ := parts.of_remote remote
    rw [at?_inside, some, Option.bind_some]
    exact told.timeout r remote
  | daemon =>
    exact parts.switch (g := Services.daemon) rfl fun built => (Services.build_layout built).1
  | service =>
    exact parts.switch (g := Services.service) rfl fun built => (Services.build_layout built).2

end Decoded

end LinkGauge.Settings
