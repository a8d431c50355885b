import LinkGauge.Proofs.Document.Parts
import LinkGauge.Proofs.Document.Paths
import LinkGauge.Proofs.Json.Texts
import LinkGauge.Speed.Reading

/-!
# Outputs of the speed tool

An output is read if both bandwidths are there and nothing in it is of a wrong type. What else the
reading has is what means something in the output, each thing by its own rule.
-/

namespace LinkGauge.Speed

open Shape (Good Edit Edits Fits Plain)
open Decoder (Tells follows_float follows_string follows_instant tells_float tells_string)
open Node (toFloat?)
open Layout (find? build_map build_seq)

/-! ### What the tool may write -/

def pingFields : List (Field Shape) :=
  [⟨"jitter", false, .number⟩, ⟨"latency", false, .number⟩]

/-- The shape of the transfer in one direction. -/
def transferFields : List (Field Shape) := [⟨"bandwidth", true, .number⟩]

def interfaceFields : List (Field Shape) := [⟨"externalIp", false, .nullable .text⟩]

def serverFields : List (Field Shape) :=
  [⟨"name", false, .nullable .text⟩, ⟨"id", false, .nullable .any⟩]

def resultFields : List (Field Shape) := [⟨"url", false, .nullable .text⟩]

def outputFields : List (Field Shape) :=
  [⟨"timestamp", false, .nullable .instant⟩, ⟨"ping", false, .object pingFields⟩,
    ⟨"download", true, .object transferFields⟩, ⟨"upload", true, .object transferFields⟩,
    ⟨"isp", false, .nullable .text⟩, ⟨"interface", false, .object interfaceFields⟩,
    ⟨"server", false, .object serverFields⟩, ⟨"result", false, .object resultFields⟩]

/-- The shape of the output. -/
def shape : Shape := .object outputFields

lemma nodup_pingFields : (pingFields.map Field.name).Nodup := by decide

lemma nodup_serverFields : (serverFields.map Field.name).Nodup := by decide

lemma nodup_outputFields : (outputFields.map Field.name).Nodup := by decide

/-! ### The decoders follow the shape -/

/-- What a value is as the identity of a server. -/
def ServerId.ofNode : Node → ServerId
  | .number x => .number x
  | .text (.ok t) => .text t
  | _ => .other

lemma ServerId.decoder_eq_ok {n : Node} {id : ServerId} :
    ServerId.decoder n = .ok id ↔ n.readFault? = none ∧ id = ofNode n := by
  simp only [ServerId.decoder]
  cases n.readFault? with
  | some fault => simp
  | none =>
    cases n with
    | text t => cases t <;> simp [ofNode, eq_comm]
    | _ => simp [ofNode, eq_comm]

/-- The identity of a server is read whatever its type is, and lists and objects are all the same
to its reader. -/
lemma ServerId.follows : ServerId.decoder.Follows .any := by
  constructor
  · intro n _
    simp only [ServerId.decoder_eq_ok]
    constructor
    · rintro ⟨id, none, -⟩
      exact .any none
    · intro fits
      cases fits with
      | any none => exact ⟨_, none, rfl⟩
  · intro n n' id _ edit read
    obtain ⟨none, rfl⟩ := ServerId.decoder_eq_ok.mp read
    refine ServerId.decoder_eq_ok.mpr ⟨edit.read none, ?_⟩
    cases edit <;> rfl

section Layouts

variable {find : String → Option Node}

/-- The layout of the round trips. -/
abbrev Ping.layout : Layout Ping :=
  Ping.mk <$> .defaulted "jitter" Decoder.float 0 <*> .defaulted "latency" Decoder.float 0

lemma Ping.layout_follows : Ping.layout.Follows pingFields :=
  ((Layout.Follows.defaulted follows_float).map _).seq (.defaulted follows_float)

lemma Ping.build_layout {p : Ping} (built : Ping.layout.build find = .ok p) :
    (Layout.defaulted "jitter" Decoder.float 0).build find = .ok p.jitter ∧
      (Layout.defaulted "latency" Decoder.float 0).build find = .ok p.latency := by
  simp only [build_seq, build_map] at built
  obtain ⟨_, latency, ⟨jitter, first, rfl⟩, second, rfl⟩ := built
  exact ⟨first, second⟩

lemma Ping.follows : Ping.decoder.Follows (.object pingFields) :=
  Ping.layout_follows.decoder nodup_pingFields

lemma follows_transfer : transfer.Follows (.object transferFields) :=
  (Layout.Follows.required follows_float).decoder (List.nodup_singleton _)

lemma follows_interface : interface.Follows (.object interfaceFields) :=
  (Layout.Follows.defaulted follows_string.option).decoder (List.nodup_singleton _)

lemma follows_resultLink : resultLink.Follows (.object resultFields) :=
  (Layout.Follows.defaulted follows_string.option).decoder (List.nodup_singleton _)

/-- The layout of a server. -/
abbrev Server.layout : Layout Server :=
  Server.mk <$> .defaulted "name" (Decoder.option Decoder.string) none
    <*> .defaulted "id" (Decoder.option ServerId.decoder) none

lemma Server.layout_follows : Server.layout.Follows serverFields :=
  ((Layout.Follows.defaulted follows_string.option).map _).seq
    (.defaulted ServerId.follows.option)

lemma Server.build_layout {s : Server} (built : Server.layout.build find = .ok s) :
    (Layout.defaulted "name" (Decoder.option Decoder.string) none).build find = .ok s.name ∧
      (Layout.defaulted "id" (Decoder.option ServerId.decoder) none).build find = .ok s.id := by
  simp only [build_seq, build_map] at built
  obtain ⟨_, id, ⟨name, first, rfl⟩, second, rfl⟩ := built
  exact ⟨first, second⟩

lemma Server.follows : Server.decoder.Follows (.object serverFields) :=
  Server.layout_follows.decoder nodup_serverFields

lemma Output.layout_follows : Output.layout.Follows outputFields :=
  ((((((((Layout.Follows.optional follows_instant).map _).seq (.defaulted Ping.follows)).seq
    (.required follows_transfer)).seq (.required follows_transfer)).seq
    (.defaulted follows_string.option)).seq (.defaulted follows_interface)).seq
    (.defaulted Server.follows)).seq (.defaulted follows_resultLink)

lemma Output.follows : Output.decoder.Follows shape :=
  Output.layout_follows.decoder nodup_outputFields

/-- What the fields of an output find. -/
structure Output.Built (find : String → Option Node) (o : Output) : Prop where
  timestamp : (Layout.optional "timestamp" Decoder.instant).build find = .ok o.timestamp
  ping : (Layout.defaulted "ping" Ping.decoder ⟨0, 0⟩).build find = .ok o.ping
  download : (Layout.required "download" transfer).build find = .ok o.download
  upload : (Layout.required "upload" transfer).build find = .ok o.upload
  isp : (Layout.defaulted "isp" (Decoder.option Decoder.string) none).build find = .ok o.isp
  externalIp : (Layout.defaulted "interface" interface none).build find = .ok o.externalIp
  server : (Layout.defaulted "server" Server.decoder ⟨none, none⟩).build find = .ok o.server
  resultUrl : (Layout.defaulted "result" resultLink none).build find = .ok o.resultUrl

lemma Output.build_layout {o : Output} (built : Output.layout.build find = .ok o) :
    Output.Built find o := by
  simp only [Output.layout, build_seq, build_map] at built
  obtain ⟨_, result, ⟨_, server, ⟨_, address, ⟨_, isp, ⟨_, upload, ⟨_, download, ⟨_, ping,
    ⟨timestamp, h₁, rfl⟩, h₂, rfl⟩, h₃, rfl⟩, h₄, rfl⟩, h₅, rfl⟩, h₆, rfl⟩, h₇, rfl⟩, h₈, rfl⟩ :=
    built
  exact ⟨h₁, h₂, h₃, h₄, h₅, h₆, h₇, h₈⟩

lemma Output.Built.build {o : Output} (built : Output.Built find o) :
    Output.layout.build find = .ok o := by
  simp only [Output.layout, build_seq, build_map]
  exact ⟨_, _, ⟨_, _, ⟨_, _, ⟨_, _, ⟨_, _, ⟨_, _, ⟨_, _, ⟨_, built.timestamp, rfl⟩, built.ping,
    rfl⟩, built.download, rfl⟩, built.upload, rfl⟩, built.isp, rfl⟩, built.externalIp, rfl⟩,
    built.server, rfl⟩, built.resultUrl, rfl⟩

end Layouts

/-! ### Outputs in either form -/

section Forms

variable {n : Node}

lemma Ping.layout_lists : Ping.layout.Lists [true, true] :=
  (Layout.Lists.defaulted.map _).seq .defaulted

lemma Server.layout_lists : Server.layout.Lists [true, true] :=
  (Layout.Lists.defaulted.map _).seq .defaulted

lemma Output.layout_lists :
    Output.layout.Lists [false, true, false, false, true, true, true, true] :=
  (((((((Layout.Lists.optional.map _).seq .defaulted).seq .required).seq .required).seq
    .defaulted).seq .defaulted).seq .defaulted).seq .defaulted

/-- What is read as round trips has them as its parts. -/
lemma Ping.parts {p : Ping} (read : Ping.decoder n = .ok p) :
    (Layout.defaulted "jitter" Decoder.float 0).build (layout.part? · n) = .ok p.jitter ∧
      (Layout.defaulted "latency" Decoder.float 0).build (layout.part? · n) = .ok p.latency :=
  build_layout (Layout.build_of_decoder layout_lists (by decide) read)

/-- What is read as a transfer has the bandwidth as its part. -/
lemma part_transfer {x : Float} (read : transfer n = .ok x) : ∃ m,
    (Layout.required "bandwidth" Decoder.float).part? "bandwidth" n = some m ∧
      Decoder.float m = .ok x := by
  have built := Layout.build_of_decoder .required (List.nodup_singleton _) read
  rcases Layout.build_field.mp built with there | ⟨-, no⟩
  · exact there
  · cases no

/-- What is read as an output has parts that its fields are read from. -/
lemma Output.parts {o : Output} (read : Output.decoder n = .ok o) :
    Output.Built (layout.part? · n) o :=
  build_layout (Layout.build_of_decoder layout_lists (by decide) read)

end Forms

/-! ### What the decoders find -/

/-- A text that has a character other than a blank. -/
def Worded (t : String) : Prop := ∃ c ∈ t.toList, ¬ isBlankChar c

instance (t : String) : Decidable (Worded t) := List.decidableBEx _ _

/-- A text with words in it, as it stands. -/
def words? : Node → Option String
  | .text (.ok t) => if Worded t then some t else none
  | _ => none

/-- The identity of a server: a number other than zero, or a text with words in it. -/
def identity? : Node → Option String
  | .number x => if x.toFloat == 0 then none else some (String.ofList (Json.writeNumber x))
  | n => words? n

/-- The instant of a timestamp. -/
def toInstant? : Node → Option Instant
  | .text (.ok t) => (Timestamp.read t).toOption
  | _ => none

lemma meaningful_some (t : String) : meaningful (some t) = if Worded t then some t else none := by
  by_cases worded : Worded t <;> simp_all [meaningful, Option.filter, isBlank, Worded]

section Values

lemma tells_words : Decoder.string.Tells .text words? [] fun t v => v = meaningful (some t) := by
  intro n t _ read
  obtain rfl := Decoder.string_eq_ok.mp read
  exact (meaningful_some t).symm

/-- A text that may be null, as the reading keeps it. -/
lemma tells_optionalWords : (Decoder.option Decoder.string).Tells (.nullable .text) words? []
    fun o v => v = meaningful o := by
  refine (tells_words.option rfl).mono fun o v eq => eq.trans ?_
  cases o <;> rfl

lemma tells_instant : Decoder.instant.Tells .instant toInstant? [] fun i v => v = some i := by
  intro n i _ read
  obtain ⟨t, rfl, time⟩ := Decoder.instant_eq_ok.mp read
  change (Timestamp.read t).toOption = some i
  rw [time]
  rfl

lemma tells_identity :
    ServerId.decoder.Tells .any identity? [] fun id v => v = id.meaningful := by
  intro n id _ read
  obtain ⟨-, rfl⟩ := ServerId.decoder_eq_ok.mp read
  change identity? n = _
  cases n with
  | number x => rfl
  | text t =>
    cases t with
    | ok t => exact (meaningful_some t).symm
    | error fault => rfl
  | _ => rfl

/-- A number that is zero where it is missing. -/
lemma tells_orZero : Decoder.float.Tells .number toFloat? [] fun x v => x = v.getD 0 :=
  tells_float.mono fun x v eq => by rw [eq, Option.getD_some]

lemma Ping.tells_jitter : Ping.decoder.Tells (.object pingFields) toFloat? [.member "jitter"]
    fun p v => p.jitter = v.getD 0 :=
  tells_orZero.member Ping.layout_follows nodup_pingFields (.head _)
    (fun built => ⟨_, (Ping.build_layout built).1, fun _ h => h⟩) (by simp)

lemma Ping.tells_latency : Ping.decoder.Tells (.object pingFields) toFloat? [.member "latency"]
    fun p v => p.latency = v.getD 0 :=
  tells_orZero.member Ping.layout_follows nodup_pingFields (.tail _ (.head _))
    (fun built => ⟨_, (Ping.build_layout built).2, fun _ h => h⟩) (by simp)

lemma tells_transfer : transfer.Tells (.object transferFields) toFloat? [.member "bandwidth"]
    fun x v => v = some x :=
  tells_float.member (.required follows_float) (List.nodup_singleton _) (.head _)
    (fun built => ⟨_, built, fun _ h => h⟩) (by simp)

lemma tells_interface : interface.Tells (.object interfaceFields) words? [.member "externalIp"]
    fun o v => v = meaningful o :=
  tells_optionalWords.member (.defaulted follows_string.option) (List.nodup_singleton _)
    (.head _) (fun built => ⟨_, built, fun _ h => h⟩) (by simp [meaningful])

lemma tells_resultLink : resultLink.Tells (.object resultFields) words? [.member "url"]
    fun o v => v = meaningful o :=
  tells_optionalWords.member (.defaulted follows_string.option) (List.nodup_singleton _)
    (.head _) (fun built => ⟨_, built, fun _ h => h⟩) (by simp [meaningful])

lemma Server.tells_name : Server.decoder.Tells (.object serverFields) words? [.member "name"]
    fun s v => v = meaningful s.name :=
  tells_optionalWords.member Server.layout_follows nodup_serverFields (.head _)
    (fun built => ⟨_, (Server.build_layout built).1, fun _ h => h⟩) (by simp [meaningful])

lemma Server.tells_id : Server.decoder.Tells (.object serverFields) identity? [.member "id"]
    fun s v => v = s.id.bind ServerId.meaningful :=
  (tells_identity.option rfl).member Server.layout_follows nodup_serverFields (.tail _ (.head _))
    (fun built => ⟨_, (Server.build_layout built).2, fun _ h => h⟩) (by simp)

namespace Output

lemma tells_timestamp : Output.decoder.Tells shape toInstant? [.member "timestamp"]
    fun o v => v = o.timestamp :=
  (tells_instant.option rfl).member layout_follows nodup_outputFields
    (List.mem_of_getElem? (i := 0) rfl)
    (fun built => ⟨_, (build_layout built).timestamp, by simp⟩) (by simp)

lemma tells_ping {path : List Step} {g : Ping → Float}
    (h : Ping.decoder.Tells (.object pingFields) toFloat? path fun p v => g p = v.getD 0)
    (zero : g ⟨0, 0⟩ = 0) :
    Output.decoder.Tells shape toFloat? (.member "ping" :: path)
      fun o v => g o.ping = v.getD 0 :=
  h.member layout_follows nodup_outputFields (List.mem_of_getElem? (i := 1) rfl)
    (fun built => ⟨_, (build_layout built).ping, fun _ h => h⟩) (by simp [zero])

lemma tells_download : Output.decoder.Tells shape toFloat?
    [.member "download", .member "bandwidth"] fun o v => v = some o.download :=
  tells_transfer.member layout_follows nodup_outputFields (List.mem_of_getElem? (i := 2) rfl)
    (fun built => ⟨_, (build_layout built).download, fun _ h => h⟩) (by simp)

lemma tells_upload : Output.decoder.Tells shape toFloat?
    [.member "upload", .member "bandwidth"] fun o v => v = some o.upload :=
  tells_transfer.member layout_follows nodup_outputFields (List.mem_of_getElem? (i := 3) rfl)
    (fun built => ⟨_, (build_layout built).upload, fun _ h => h⟩) (by simp)

lemma tells_isp : Output.decoder.Tells shape words? [.member "isp"]
    fun o v => v = meaningful o.isp :=
  tells_optionalWords.member layout_follows nodup_outputFields (List.mem_of_getElem? (i := 4) rfl)
    (fun built => ⟨_, (build_layout built).isp, fun _ h => h⟩) (by simp [meaningful])

lemma tells_externalIp : Output.decoder.Tells shape words?
    [.member "interface", .member "externalIp"] fun o v => v = meaningful o.externalIp :=
  tells_interface.member layout_follows nodup_outputFields (List.mem_of_getElem? (i := 5) rfl)
    (fun built => ⟨_, (build_layout built).externalIp, fun _ h => h⟩) (by simp [meaningful])

lemma tells_server {view : Node → Option String} {path : List Step}
    {g : Server → Option String}
    (h : Server.decoder.Tells (.object serverFields) view path fun s v => v = g s)
    (nothing : g ⟨none, none⟩ = none) :
    Output.decoder.Tells shape view (.member "server" :: path) fun o v => v = g o.server :=
  h.member layout_follows nodup_outputFields (List.mem_of_getElem? (i := 6) rfl)
    (fun built => ⟨_, (build_layout built).server, fun _ h => h⟩) (by simp [nothing])

lemma tells_resultUrl : Output.decoder.Tells shape words?
    [.member "result", .member "url"] fun o v => v = meaningful o.resultUrl :=
  tells_resultLink.member layout_follows nodup_outputFields (List.mem_of_getElem? (i := 7) rfl)
    (fun built => ⟨_, (build_layout built).resultUrl, fun _ h => h⟩) (by simp [meaningful])

end Output

end Values

/-! ### Measured outputs -/

/-- An output that tells both bandwidths, with nothing of a wrong type in it. -/
structure Measured (root : Node) : Prop where
  download : ∃ x, root.number? [.member "download", .member "bandwidth"] = some x
  upload : ∃ x, root.number? [.member "upload", .member "bandwidth"] = some x
  typed : Fits shape root

/-- The reading that an output tells. -/
structure Told (root : Node) (unit : BandwidthUnit) (now : Instant) (r : Reading) : Prop where
  download : ∃ x, root.number? [.member "download", .member "bandwidth"] = some x ∧
    r.downloadMbps = unit.toMegabits x
  upload : ∃ x, root.number? [.member "upload", .member "bandwidth"] = some x ∧
    r.uploadMbps = unit.toMegabits x
  ping : r.pingMs = (root.number? [.member "ping", .member "latency"]).getD 0
  jitter : r.jitterMs = (root.number? [.member "ping", .member "jitter"]).filter (0 < ·)
  serverName : r.serverName = root.inside? words? [.member "server", .member "name"]
  serverId : r.serverId = root.inside? identity? [.member "server", .member "id"]
  isp : r.isp = root.inside? words? [.member "isp"]
  externalIp : r.externalIp = root.inside? words? [.member "interface", .member "externalIp"]
  resultUrl : r.resultUrl = root.inside? words? [.member "result", .member "url"]
  timestamp : r.timestamp = (root.inside? toInstant? [.member "timestamp"]).getD now

section Outputs

variable {root : Node} {o : Output}

/-- An output is decoded if it is a measured one. -/
lemma exists_output_iff (good : Good shape root) :
    (∃ o, Output.decoder root = .ok o) ↔ Measured root := by
  constructor
  · rintro ⟨o, read⟩
    exact ⟨⟨_, Output.tells_download root o good read⟩, ⟨_, Output.tells_upload root o good read⟩,
      (Output.follows.accepts good).mp ⟨o, read⟩⟩
  · rintro ⟨-, -, typed⟩
    exact (Output.follows.accepts good).mpr typed

/-- What is read is what the output tells. -/
lemma told (good : Good shape root) (read : Output.decoder root = .ok o) (unit : BandwidthUnit)
    (now : Instant) : Told root unit now (o.reading unit now) := by
  have zero : ¬ (0 : Float) < 0 := by decide
  have jitter : o.ping.jitter = (root.number? [.member "ping", .member "jitter"]).getD 0 :=
    Output.tells_ping Ping.tells_jitter rfl root o good read
  constructor
  · exact ⟨_, Output.tells_download root o good read, rfl⟩
  · exact ⟨_, Output.tells_upload root o good read, rfl⟩
  · exact Output.tells_ping Ping.tells_latency rfl root o good read
  · simp only [Output.reading, jitter]
    cases root.number? [.member "ping", .member "jitter"] with
    | none => simp [zero]
    | some x => simp [Option.filter]
  · exact (Output.tells_server Server.tells_name rfl root o good read).symm
  · exact (Output.tells_server Server.tells_id rfl root o good read).symm
  · exact (Output.tells_isp root o good read).symm
  · exact (Output.tells_externalIp root o good read).symm
  · exact (Output.tells_resultUrl root o good read).symm
  · exact congrArg (·.getD now) (Output.tells_timestamp root o good read).symm

end Outputs

/-- A reading is made of an output. -/
lemma exists_output {raw : Json.Bytes} {unit : BandwidthUnit} {now : Instant} {r : Reading}
    (accepted : read raw unit now = .ok r) :
    ∃ o, Json.read Output.decoder raw = .ok o ∧ o.reading unit now = r := by
  rw [read] at accepted
  split at accepted
  next o found => exact ⟨o, found, Except.ok.inj accepted⟩
  · cases accepted

/-- An output is read as a document. -/
lemma read_eq_ok {raw : Json.Bytes} {root : Node} (text : Json.IsText raw root)
    {unit : BandwidthUnit} {now : Instant} {r : Reading} :
    read raw unit now = .ok r ↔ ∃ o, Output.decoder root = .ok o ∧ o.reading unit now = r := by
  rw [read, text.read]
  cases Output.decoder root with
  | ok o => simp
  | error failure => simp

/-- The transfer in one direction. -/
def transferOf (bandwidth : UInt64) : Node :=
  .object [(.ok "bandwidth", .number (.natural bandwidth))] .closed

/-- The output of a run that measured so much bandwidth. -/
def runOf (download upload : UInt64) : Node :=
  .object [(.ok "download", transferOf download), (.ok "upload", transferOf upload)] .closed

lemma plain_runOf (download upload : UInt64) : Plain shape (runOf download upload) := by
  have transfer (bandwidth : UInt64) : Plain (.object transferFields) (transferOf bandwidth) :=
    .named [("bandwidth", _)] (by simp) (List.forall_mem_singleton.mpr (.leaf trivial))
  exact .named [("download", _), ("upload", _)] (by simp) (List.forall_mem_cons.mpr
    ⟨transfer download, List.forall_mem_singleton.mpr (transfer upload)⟩)

lemma measured_runOf (download upload : UInt64) : Measured (runOf download upload) := by
  have transfer (bandwidth : UInt64) : Fits (.object transferFields) (transferOf bandwidth) :=
    .named [("bandwidth", _)] (List.forall_mem_singleton.mpr .number) (by simp [transferFields])
  refine ⟨⟨_, rfl⟩, ⟨_, rfl⟩, ?_⟩
  exact .named [("download", _), ("upload", _)] (List.forall_mem_cons.mpr
    ⟨transfer download, List.forall_mem_singleton.mpr (transfer upload)⟩) (by simp [outputFields])

end LinkGauge.Speed
