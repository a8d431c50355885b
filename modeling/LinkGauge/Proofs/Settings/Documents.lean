import LinkGauge.Proofs.Json.Documents
import LinkGauge.Proofs.Settings.Decoding
import LinkGauge.Proofs.Time.Spans

/-!
# Settings are decoded again

What is written of settings is read as those settings, section by section.
-/

namespace LinkGauge

open Json (spelled spelledMembers spelledPart present decode_closed)
open Layout (Reads under)

/-! ### Values -/

lemma Json.decode_parsed {α : Type} {expected s : String} {parse : String → Except Cause α} {a : α}
    (parsed : parse s = .ok a) : Decoder.parsed expected parse (spelled (.text s)) = .ok a := by
  rw [spelled, Decoder.parsed, parsed, mapError_ok]

lemma Json.decode_span (s : Span) : Decoder.span (spelled s.toJson) = .ok s := by
  apply decode_parsed
  rw [Span.read?_spelled]

lemma Json.decode_optionalText (o : Option String) :
    Decoder.option Decoder.string (spelled (.ofOption .text o)) = .ok o := by
  cases o <;> rfl

namespace Settings

lemma decode_speedUnit (unit : BandwidthUnit) :
    choice .text "BandwidthUnit" BandwidthUnit.named (spelled unit.toJson) = .ok unit := by
  cases unit <;> rfl

lemma decode_url {u : Url} (printed : Url.parse u.text = .ok u) :
    url (spelled (.text u.text)) = .ok u := by
  apply Json.decode_parsed
  rw [printed, mapError_ok]

/-! ### Sections -/

/-- The members of the written settings of the database. -/
def Database.parts (d : Database) : List (String × Option Json) :=
  [ ("url", some (.ofOption .text d.url)),
    ("max_connections", some (.nat d.maxConnections.toNat)),
    ("min_connections", some (.nat d.minConnections.toNat)),
    ("acquire_timeout", some d.acquireTimeout.toJson) ]

lemma Database.decode_toJson (d : Database) :
    layout.decoder "DatabaseConfig" true (spelled d.toJson) = .ok d := by
  have reads : Reads layout (under (d.parts.map spelledPart)) d := by
    refine .seq (.seq (.seq (.map (.field rfl ?url) _) (.field rfl ?most)) (.field rfl ?least))
      (.field rfl ?timeout)
    case url => exact Json.decode_optionalText d.url
    case most => exact Json.decode_uint32 d.maxConnections
    case least => exact Json.decode_uint32 d.minConnections
    case timeout => exact Json.decode_span d.acquireTimeout
  exact decode_closed (l := d.parts) rfl (by decide) rfl reads

/-- The members of the written settings of tests. -/
def Testing.parts (t : Testing) : List (String × Option Json) :=
  [ ("speedtest_interval", some t.speedInterval.toJson),
    ("throughput_interval", some t.throughputInterval.toJson),
    ("throughput_duration", some t.throughputDuration.toJson),
    ("throughput_grace", some t.throughputGrace.toJson),
    ("speedtest_timeout", some t.speedTimeout.toJson),
    ("max_concurrent_runs", some (.nat t.maxConcurrentRuns.toNat)),
    ("speedtest_bandwidth_unit", some t.speedUnit.toJson) ]

lemma Testing.decode_toJson (t : Testing) : decoder .text (spelled t.toJson) = .ok t := by
  have reads : Reads (layout .text) (under (t.parts.map spelledPart)) t := by
    refine .seq (.seq (.seq (.seq (.seq (.seq (.map (.field rfl (Json.decode_span _)) _)
      (.field rfl (Json.decode_span _))) (.field rfl (Json.decode_span _)))
      (.field rfl (Json.decode_span _))) (.field rfl (Json.decode_span _))) (.field rfl ?runs))
      (.field rfl ?unit)
    case runs => exact Json.decode_count t.maxConcurrentRuns
    case unit => exact decode_speedUnit t.speedUnit
  exact decode_closed (l := t.parts) rfl (by decide) rfl reads

/-- The members of the written settings of tools. -/
def Tools.parts (t : Tools) : List (String × Option Json) :=
  [("speedtest_binary", some (.text t.speed)), ("iperf_binary", some (.text t.throughput))]

lemma Tools.decode_toJson (t : Tools) : decoder (spelled t.toJson) = .ok t := by
  have reads : Reads layout (under (t.parts.map spelledPart)) t :=
    .seq (.map (.field rfl (Json.decode_text _)) _) (.field rfl (Json.decode_text _))
  exact decode_closed (l := t.parts) rfl (by decide) rfl reads

lemma decode_switchJson (name : String) (own on : Bool) :
    switch name own (spelled (switchJson on)) = .ok on := by
  have reads : Reads (.defaulted "enabled" Decoder.bool own)
      (under ([("enabled", some (.bool on))].map spelledPart)) on :=
    .field rfl (Json.decode_bool on)
  exact decode_closed (l := [("enabled", some (.bool on))]) rfl (List.nodup_singleton _) rfl reads

/-- The members of what tells which services run. -/
def Services.parts (s : Services) : List (String × Option Json) :=
  [("daemon", some (switchJson s.daemon)), ("ingest_api", some (switchJson s.service))]

lemma Services.decode_parts (s : Services) :
    decoder (spelled (.object (present s.parts))) = .ok s := by
  have reads : Reads layout (under (s.parts.map spelledPart)) s :=
    .seq (.map (.field rfl (decode_switchJson _ _ _)) _) (.field rfl (decode_switchJson _ _ _))
  exact decode_closed (l := s.parts) rfl (by decide) rfl reads

/-! ### Destinations -/

/-- The members of a written remote service. -/
def Remote.parts (r : Remote) : List (String × Option Json) :=
  [("endpoint", some (.text r.endpoint.text)), ("timeout", some r.timeout.toJson)]

lemma Remote.decode_parts {r : Remote} (printed : Url.parse r.endpoint.text = .ok r.endpoint) :
    layout.decoder "ApiSubmissionConfig" true
      (.object (spelledMembers (present r.parts)) .counted) = .ok r := by
  have reads : Reads layout (under (r.parts.map spelledPart)) r :=
    .seq (.map (.field rfl (decode_url printed)) _) (.field rfl (Json.decode_span _))
  exact decode_closed rfl (by decide) rfl reads

/-- The mode in front is cut off, and what it needs besides is left. -/
lemma cutMode_remote (r : Remote) :
    cutMode .text none (spelledMembers (("mode", .text "api") :: present r.parts)) .closed =
      .ok (some .remote, spelledMembers (present r.parts)) := by
  rfl

lemma Destination.decode_toJson {destination : Destination}
    (printed : ∀ r, destination = .remote r → Url.parse r.endpoint.text = .ok r.endpoint) :
    decoder .text (spelled destination.toJson) = .ok destination := by
  cases destination with
  | direct => rfl
  | remote r =>
    have written : toJson (.remote r) = .object (("mode", .text "api") :: present r.parts) := rfl
    rw [written, spelled, decoder, cutMode_remote, ok_bind]
    simp only [Mode.decode, Remote.decode_parts (printed r rfl)]

/-! ### All settings -/

/-- The members of written settings. -/
def parts (s : Settings) : List (String × Option Json) :=
  [ ("host", some (.text s.host)),
    ("port", some (.nat s.port.toNat)),
    ("database_url", s.databaseUrl.map .text),
    ("database", some s.database.toJson),
    ("testing", some s.testing.toJson),
    ("tools", some s.tools.toJson),
    ("submission", some s.destination.toJson),
    ("background_services", some (.object (present (Services.mk s.daemon s.service).parts))),
    ("enable_otel_export", some (.bool s.exportTraces)) ]

lemma toJson_eq (s : Settings) : s.toJson = .object (present s.parts) := by
  simp [toJson, parts, present, Services.parts, Json.present_map]

/-- Settings from their sections. -/
def ofSections (host : String) (port : UInt16) (databaseUrl : Option String) (database : Database)
    (testing : Testing) (tools : Tools) (destination : Destination) (services : Services)
    (exportTraces : Bool) : Settings :=
  { host, port, databaseUrl, database, testing, tools, destination, daemon := services.daemon,
    service := services.service, exportTraces }

lemma reads_parts {s : Settings}
    (printed : ∀ r, s.destination = .remote r → Url.parse r.endpoint.text = .ok r.endpoint) :
    Reads (layout .text) (under (s.parts.map spelledPart)) s := by
  obtain ⟨host, port, url, database, testing, tools, destination, daemon, service, traces⟩ := s
  change Reads _ _
    (ofSections host port url database testing tools destination ⟨daemon, service⟩ traces)
  refine .seq (.seq (.seq (.seq (.seq (.seq (.seq (.seq (.map (.field rfl ?host) _)
    (.field rfl ?port)) ?address) (.field rfl ?database)) (.field rfl ?testing))
    (.field rfl ?tools)) (.field rfl ?destination)) (.field rfl ?services)) (.field rfl ?traces)
  case host => exact Json.decode_text host
  case port => exact Json.decode_uint16 port
  case address =>
    cases url with
    | none => exact .absent rfl
    | some text => exact .field rfl rfl
  case database => exact database.decode_toJson
  case testing => exact testing.decode_toJson
  case tools => exact tools.decode_toJson
  case destination => exact Destination.decode_toJson printed
  case services => exact Services.decode_parts ⟨daemon, service⟩
  case traces => exact Json.decode_bool traces

/-- Written settings are decoded as themselves, if the text of an address is read as the address. -/
lemma decode_toJson {s : Settings}
    (printed : ∀ r, s.destination = .remote r → Url.parse r.endpoint.text = .ok r.endpoint) :
    decoder .text (spelled s.toJson) = .ok s := by
  rw [toJson_eq]
  exact decode_closed rfl (by decide) rfl (reads_parts printed)

lemma nesting_toJson (s : Settings) : Json.nesting s.toJson ≤ 3 := by
  have destination : Json.nesting s.destination.toJson ≤ 1 := by
    cases s.destination <;>
      simp [Destination.toJson, Json.nesting, Json.nestingMembers, Span.toJson]
  simp [toJson, Json.nesting, Json.nestingMembers, Database.toJson, Testing.toJson, Tools.toJson,
    switchJson, Span.toJson, BandwidthUnit.toJson, Json.nat,
    Json.nesting_ofOption Json.nesting_text, Json.nestingMembers_memberIf Json.nesting_text]
  omega

/-- The text of settings is read as those settings, and they fit together or not for the same
reason, if the text of an address is read as the address. -/
theorem settings_read_back (s : Settings)
    (printed : ∀ r, s.destination = .remote r → Url.parse r.endpoint.text = .ok r.endpoint) :
    Json.read (decoder .text) (Utf8.encode s.toJson.render) = .ok s ∧
      (Json.read (decoder .text) (Utf8.encode s.toJson.render)).map check = .ok s.check := by
  have read : Json.read (decoder .text) (Utf8.encode s.toJson.render) = .ok s := by
    rw [Json.read_render _ _ (s.nesting_toJson.trans (by decide)), decode_toJson printed]
  rw [read]
  exact ⟨rfl, rfl⟩

/-- The address of a collector. -/
def collector : Url where
  scheme := "http"
  username := ""
  password := ""
  host := some "collector"
  port := some 8080
  path := .segments ["api", "v1"]
  query := none
  fragment := none

/-- Settings for submissions to a collector, which wait as long as can be said. -/
def unhurried : Settings :=
  { default with
    databaseUrl := some "postgres://gauge@localhost/gauge"
    destination := .remote ⟨collector, ⟨Word.size64 * nanosPerSecond - 1, by decide⟩⟩ }

theorem settings_read_back_unhurried :
    (∀ r, unhurried.destination = .remote r → Url.parse r.endpoint.text = .ok r.endpoint) ∧
      Json.read (decoder .text) (Utf8.encode unhurried.toJson.render) = .ok unhurried ∧
      (Json.read (decoder .text) (Utf8.encode unhurried.toJson.render)).map check =
        .ok (.ok ()) := by
  have printed : ∀ r, unhurried.destination = .remote r →
      Url.parse r.endpoint.text = .ok r.endpoint := by
    rintro _ ⟨⟩
    rfl
  exact ⟨printed, settings_read_back unhurried printed⟩

end Settings

end LinkGauge
