import LinkGauge.Proofs.Document.Paths
import LinkGauge.Proofs.Json.Texts
import LinkGauge.Throughput.Reading

/-!
# Outputs of the throughput tool

The outputs that are read are those of finished runs, and the reading tells what stands in them.
The order of members and members that are not known do not matter.
-/

namespace LinkGauge.Throughput

open Shape (Good Edits Fits Plain)
open Decoder (Tells follows_float follows_string tells_float tells_string)
open Node (toFloat? toText?)
open Layout (find? build_map build_seq)

/-! ### What the tool may write -/

/-- The shape of the total of one direction. -/
def totalFields : List (Field Shape) :=
  [⟨"bits_per_second", true, .number⟩, ⟨"retransmits", false, .nullable .number⟩]

/-- The shape of a stream. -/
def streamFields : List (Field Shape) :=
  [⟨"sender", false, .object [⟨"mean_rtt", false, .nullable .number⟩]⟩]

def summaryFields : List (Field Shape) :=
  [⟨"sum_sent", false, .nullable (.object totalFields)⟩,
    ⟨"sum_received", false, .nullable (.object totalFields)⟩,
    ⟨"streams", false, .list (.object streamFields)⟩]

def startFields : List (Field Shape) :=
  [⟨"test_start", false, .object [⟨"protocol", false, .nullable .text⟩]⟩]

def outputFields : List (Field Shape) :=
  [⟨"start", false, .object startFields⟩, ⟨"end", false, .object summaryFields⟩,
    ⟨"error", false, .nullable .text⟩]

/-- The shape of the output. -/
def shape : Shape := .object outputFields

lemma nodup_totalFields : (totalFields.map Field.name).Nodup := by decide

lemma nodup_summaryFields : (summaryFields.map Field.name).Nodup := by decide

lemma nodup_outputFields : (outputFields.map Field.name).Nodup := by decide

/-! ### The decoders follow the shape -/

section Layouts

variable {find : String → Option Node}

lemma follows_sender : sender.Follows (.object [⟨"mean_rtt", false, .nullable .number⟩]) :=
  (Layout.Follows.defaulted follows_float.option).decoder (List.nodup_singleton _)

lemma follows_stream : stream.Follows (.object streamFields) :=
  (Layout.Follows.defaulted follows_sender).decoder (List.nodup_singleton _)

lemma follows_testStart : testStart.Follows (.object [⟨"protocol", false, .nullable .text⟩]) :=
  (Layout.Follows.defaulted follows_string.option).decoder (List.nodup_singleton _)

lemma follows_start : start.Follows (.object startFields) :=
  (Layout.Follows.defaulted follows_testStart).decoder (List.nodup_singleton _)

/-- The layout of a total. -/
abbrev Total.layout : Layout Total :=
  Total.mk <$> .required "bits_per_second" Decoder.float <*> .optional "retransmits" Decoder.float

lemma Total.layout_follows : Total.layout.Follows totalFields :=
  ((Layout.Follows.required follows_float).map _).seq (.optional follows_float)

lemma Total.build_layout {t : Total} (built : Total.layout.build find = .ok t) :
    (Layout.required "bits_per_second" Decoder.float).build find = .ok t.bitsPerSecond ∧
      (Layout.optional "retransmits" Decoder.float).build find = .ok t.retransmits := by
  simp only [build_seq, build_map] at built
  obtain ⟨_, retransmits, ⟨bits, first, rfl⟩, second, rfl⟩ := built
  exact ⟨first, second⟩

lemma Total.follows : Total.decoder.Follows (.object totalFields) :=
  Total.layout_follows.decoder nodup_totalFields

/-- The layout of a summary. -/
abbrev Summary.layout : Layout Summary :=
  Summary.mk <$> .defaulted "sum_sent" (Decoder.option Total.decoder) none
    <*> .defaulted "sum_received" (Decoder.option Total.decoder) none
    <*> .defaulted "streams" (Decoder.list stream) []

lemma Summary.layout_follows : Summary.layout.Follows summaryFields :=
  (((Layout.Follows.defaulted Total.follows.option).map _).seq
    (.defaulted Total.follows.option)).seq (.defaulted follows_stream.list)

lemma Summary.build_layout {s : Summary} (built : Summary.layout.build find = .ok s) :
    (Layout.defaulted "sum_sent" (Decoder.option Total.decoder) none).build find = .ok s.sent ∧
      (Layout.defaulted "sum_received" (Decoder.option Total.decoder) none).build find =
        .ok s.received ∧
      (Layout.defaulted "streams" (Decoder.list stream) []).build find = .ok s.meanRtts := by
  simp only [build_seq, build_map] at built
  obtain ⟨_, rtts, ⟨_, received, ⟨sent, first, rfl⟩, second, rfl⟩, third, rfl⟩ := built
  exact ⟨first, second, third⟩

lemma Summary.follows : Summary.decoder.Follows (.object summaryFields) :=
  Summary.layout_follows.decoder nodup_summaryFields

lemma Output.layout_follows : Output.layout.Follows outputFields :=
  (((Layout.Follows.defaulted follows_start).map _).seq
    (.defaulted Summary.follows)).seq (.optional follows_string)

lemma Output.build_layout {o : Output} (built : Output.layout.build find = .ok o) :
    (Layout.defaulted "start" start none).build find = .ok o.protocol ∧
      (Layout.defaulted "end" Summary.decoder ⟨none, none, []⟩).build find = .ok o.summary ∧
      (Layout.optional "error" Decoder.string).build find = .ok o.error := by
  simp only [Output.layout, build_seq, build_map] at built
  obtain ⟨_, error, ⟨_, summary, ⟨protocol, first, rfl⟩, second, rfl⟩, third, rfl⟩ := built
  exact ⟨first, second, third⟩

lemma Output.follows : Output.decoder.Follows shape :=
  Output.layout_follows.decoder nodup_outputFields

end Layouts

/-! ### What the decoders find -/

section Values

lemma Total.tells_bits : Total.decoder.Tells (.object totalFields) toFloat?
    [.member "bits_per_second"] fun t v => v = some t.bitsPerSecond :=
  tells_float.member Total.layout_follows nodup_totalFields (.head _)
    (fun built => ⟨_, (Total.build_layout built).1, fun _ h => h⟩) (by simp)

lemma Total.tells_retransmits : Total.decoder.Tells (.object totalFields) toFloat?
    [.member "retransmits"] fun t v => v = t.retransmits :=
  (tells_float.option rfl).member Total.layout_follows nodup_totalFields (.tail _ (.head _))
    (fun built => ⟨_, (Total.build_layout built).2, by simp⟩) (by simp)

lemma tells_sender : sender.Tells (.object [⟨"mean_rtt", false, .nullable .number⟩]) toFloat?
    [.member "mean_rtt"] fun rtt v => v = rtt :=
  (tells_float.option rfl).member (.defaulted follows_float.option) (List.nodup_singleton _)
    (.head _) (fun built => ⟨_, built, by simp⟩) (by simp)

lemma tells_stream : stream.Tells (.object streamFields) toFloat?
    [.member "sender", .member "mean_rtt"] fun rtt v => v = rtt :=
  tells_sender.member (.defaulted follows_sender) (List.nodup_singleton _) (.head _)
    (fun built => ⟨_, built, fun _ h => h⟩) (by simp)

variable {path : List Step} {g : Total → Option Float}

lemma Summary.tells_sent
    (h : Total.decoder.Tells (.object totalFields) toFloat? path fun t v => v = g t) :
    Summary.decoder.Tells (.object summaryFields) toFloat? (.member "sum_sent" :: path)
      fun s v => v = s.sent.bind g :=
  (h.option rfl).member Summary.layout_follows nodup_summaryFields (.head _)
    (fun built => ⟨_, (Summary.build_layout built).1, fun _ h => h⟩) (by simp)

lemma Summary.tells_received
    (h : Total.decoder.Tells (.object totalFields) toFloat? path fun t v => v = g t) :
    Summary.decoder.Tells (.object summaryFields) toFloat? (.member "sum_received" :: path)
      fun s v => v = s.received.bind g :=
  (h.option rfl).member Summary.layout_follows nodup_summaryFields (.tail _ (.head _))
    (fun built => ⟨_, (Summary.build_layout built).2.1, fun _ h => h⟩) (by simp)

lemma Summary.tells_meanRtt : Summary.decoder.Tells (.object summaryFields) toFloat?
    [.member "streams", .item 0, .member "sender", .member "mean_rtt"]
    fun s v => v = s.meanRtts.head?.join :=
  tells_stream.head.member Summary.layout_follows nodup_summaryFields (.tail _ (.tail _ (.head _)))
    (fun built => ⟨_, (Summary.build_layout built).2.2, fun _ h => h⟩) (by simp)

lemma Output.tells_summary {h : Summary → Option Float}
    (tells : Summary.decoder.Tells (.object summaryFields) toFloat? path fun s v => v = h s)
    (missing : h ⟨none, none, []⟩ = none) :
    Output.decoder.Tells shape toFloat? (.member "end" :: path) fun o v => v = h o.summary :=
  tells.member Output.layout_follows nodup_outputFields (.tail _ (.head _))
    (fun built => ⟨_, (Output.build_layout built).2.1, fun _ h => h⟩) (by simp [missing])

lemma tells_testStart :
    testStart.Tells (.object [⟨"protocol", false, .nullable .text⟩]) toText?
      [.member "protocol"] fun t v => v = t :=
  (tells_string.option rfl).member (.defaulted follows_string.option) (List.nodup_singleton _)
    (.head _) (fun built => ⟨_, built, by simp⟩) (by simp)

lemma tells_start : start.Tells (.object startFields) toText?
    [.member "test_start", .member "protocol"] fun t v => v = t :=
  tells_testStart.member (.defaulted follows_testStart) (List.nodup_singleton _) (.head _)
    (fun built => ⟨_, built, fun _ h => h⟩) (by simp)

lemma Output.tells_protocol : Output.decoder.Tells shape toText?
    [.member "start", .member "test_start", .member "protocol"] fun o v => v = o.protocol :=
  tells_start.member Output.layout_follows nodup_outputFields (.head _)
    (fun built => ⟨_, (Output.build_layout built).1, fun _ h => h⟩) (by simp)

end Values

/-! ### Finished runs -/

/-- The place of the bandwidth in a total. -/
def bandwidthOf (total : String) : List Step :=
  [.member "end", .member total, .member "bits_per_second"]

/-- An output that describes a finished run: what is known has its type, both totals are there with
their bandwidths, and no error is told. -/
structure Finished (root : Node) : Prop where
  typed : Fits shape root
  sent : ∃ x, root.number? (bandwidthOf "sum_sent") = some x
  received : ∃ x, root.number? (bandwidthOf "sum_received") = some x
  noError : ∀ n, root.at? [.member "error"] = some n → n = .null ∨ n = .ofString ""

/-- The reading that an output tells. -/
structure Told (root : Node) (r : Reading) : Prop where
  sent : ∃ x, root.number? (bandwidthOf "sum_sent") = some x ∧
    r.sentMbps = atLeastZero (x / 1000000)
  received : ∃ x, root.number? (bandwidthOf "sum_received") = some x ∧
    r.receivedMbps = atLeastZero (x / 1000000)
  retransmits : r.retransmits =
    root.number? [.member "end", .member "sum_sent", .member "retransmits"]
  meanRtt : r.meanRttMs =
    (root.number? [.member "end", .member "streams", .item 0, .member "sender",
      .member "mean_rtt"]).map (· / 1000)
  transport : r.transport = .udp ↔
    ∃ t, root.text? [.member "start", .member "test_start", .member "protocol"] = some t ∧
      t.toLower = "udp"

section Runs

variable {root : Node} {o : Output} {r : Reading}

lemma reading_eq_ok : o.reading = .ok r ↔
    o.error.filter (· ≠ "") = none ∧ ∃ sent received,
      o.summary.sent = some sent ∧ o.summary.received = some received ∧
      r = { sentMbps := bitsToMegabits sent.bitsPerSecond
            receivedMbps := bitsToMegabits received.bitsPerSecond
            retransmits := sent.retransmits
            meanRttMs := o.summary.meanRtts.head?.join.map (· / 1000)
            transport := (o.protocol.map Transport.ofTool).getD .tcp } := by
  simp only [Output.reading]
  cases o.error.filter (· ≠ "") with
  | some error => simp
  | none =>
    cases o.summary.sent <;> cases o.summary.received <;> simp [eq_comm]

/-- The bandwidth of a total stands in the output if the total is found. -/
lemma tells_bandwidths (good : Good shape root) (read : Output.decoder root = .ok o) :
    root.number? (bandwidthOf "sum_sent") = o.summary.sent.map Total.bitsPerSecond ∧
      root.number? (bandwidthOf "sum_received") = o.summary.received.map Total.bitsPerSecond := by
  have sent := Output.tells_summary (Summary.tells_sent Total.tells_bits) rfl root o good read
  have received :=
    Output.tells_summary (Summary.tells_received Total.tells_bits) rfl root o good read
  exact ⟨sent.trans Option.map_eq_bind.symm, received.trans Option.map_eq_bind.symm⟩

/-- No error is found where none is told. -/
lemma noError_iff (good : Good shape root) (read : Output.decoder root = .ok o) :
    o.error.filter (· ≠ "") = none ↔
      ∀ n, root.at? [.member "error"] = some n → n = .null ∨ n = .ofString "" := by
  obtain ⟨ms, ending, rfl⟩ := Layout.object_of_decoder good read
  have built := (Output.build_layout ((Output.layout_follows.decoder_object good).mp read)).2.2
  have path : (Node.object ms ending).at? [.member "error"] = find? "error" ms := by
    rw [Node.at?]
    cases find? "error" ms <;> rfl
  rw [path]
  rcases Layout.build_field.mp built with ⟨n, there, value⟩ | ⟨none, absent⟩
  · simp only [there, Option.some.injEq, forall_eq']
    by_cases null : n = .null
    · subst null
      rw [← Except.ok.inj value]
      simp
    · rw [Decoder.option_of_ne_null null, map_eq_ok] at value
      obtain ⟨t, text, eq⟩ := value
      obtain rfl := Decoder.string_eq_ok.mp text
      simp [← eq, Node.ofString]
  · rw [← Except.ok.inj absent]
    simp [none]

/-- An output is read if its run is finished. -/
lemma exists_reading_iff (good : Good shape root) :
    (∃ o r, Output.decoder root = .ok o ∧ o.reading = .ok r) ↔ Finished root := by
  constructor
  · rintro ⟨o, r, read, reading⟩
    obtain ⟨noError, sent, received, hsent, hreceived, -⟩ := reading_eq_ok.mp reading
    obtain ⟨first, second⟩ := tells_bandwidths good read
    rw [hsent] at first
    rw [hreceived] at second
    exact ⟨(Output.follows.accepts good).mp ⟨o, read⟩, ⟨_, first⟩, ⟨_, second⟩,
      (noError_iff good read).mp noError⟩
  · rintro ⟨typed, ⟨x, hx⟩, ⟨y, hy⟩, noError⟩
    obtain ⟨o, read⟩ := (Output.follows.accepts good).mpr typed
    obtain ⟨first, second⟩ := tells_bandwidths good read
    rw [first, Option.map_eq_some_iff] at hx
    rw [second, Option.map_eq_some_iff] at hy
    obtain ⟨sent, hsent, -⟩ := hx
    obtain ⟨received, hreceived, -⟩ := hy
    exact ⟨o, _, read, reading_eq_ok.mpr
      ⟨(noError_iff good read).mpr noError, sent, received, hsent, hreceived, rfl⟩⟩

/-- The protocol is compared without regard to the case of ASCII letters. -/
lemma ofTool_eq_udp {t : String} : Transport.ofTool t = .udp ↔ t.toLower = "udp" := by
  have lower : t.toLower = t.map Char.toLower := rfl
  rw [Transport.ofTool, lower, ← String.toList_inj]
  simp

/-- What is read is what the output tells. -/
lemma told (good : Good shape root) (read : Output.decoder root = .ok o)
    (reading : o.reading = .ok r) : Told root r := by
  obtain ⟨-, sent, received, hsent, hreceived, rfl⟩ := reading_eq_ok.mp reading
  obtain ⟨first, second⟩ := tells_bandwidths good read
  have retransmits :=
    Output.tells_summary (Summary.tells_sent Total.tells_retransmits) rfl root o good read
  have meanRtt := Output.tells_summary Summary.tells_meanRtt rfl root o good read
  have protocol := Output.tells_protocol root o good read
  rw [hsent] at first
  rw [hreceived] at second
  constructor
  · exact ⟨_, first, rfl⟩
  · exact ⟨_, second, rfl⟩
  · refine Eq.trans ?_ retransmits.symm
    simp [hsent]
  · rw [Node.number?, meanRtt]
  · rw [Node.text?, protocol]
    cases o.protocol with
    | none => simp
    | some t => simp [ofTool_eq_udp]

end Runs

/-- An output is read as a document. -/
lemma read_eq_ok {raw : Json.Bytes} {root : Node} (text : Json.IsText raw root) {r : Reading} :
    read raw = .ok r ↔ ∃ o, Output.decoder root = .ok o ∧ o.reading = .ok r := by
  rw [read, text.read]
  cases Output.decoder root with
  | ok o => simp [mapError_eq_ok]
  | error failure => simp

/-- The total of a direction, with the bandwidth alone. -/
def totalOf (bits : UInt64) : Node :=
  .object [(.ok "bits_per_second", .number (.natural bits))] .closed

/-- The output of a run that moved so many bits a second. -/
def runOf (sent received : UInt64) : Node :=
  .object [(.ok "end",
    .object [(.ok "sum_sent", totalOf sent), (.ok "sum_received", totalOf received)] .closed)]
    .closed

lemma plain_runOf (sent received : UInt64) : Plain shape (runOf sent received) := by
  have total (bits : UInt64) : Plain (.nullable (.object totalFields)) (totalOf bits) :=
    .nullable (.named [("bits_per_second", _)] (by simp)
      (List.forall_mem_singleton.mpr (.leaf trivial)))
  have summary : Plain (.object summaryFields)
      (.object [(.ok "sum_sent", totalOf sent), (.ok "sum_received", totalOf received)] .closed) :=
    .named [("sum_sent", _), ("sum_received", _)] (by simp) (List.forall_mem_cons.mpr
      ⟨total sent, List.forall_mem_singleton.mpr (total received)⟩)
  exact .named [("end", _)] (by simp) (List.forall_mem_singleton.mpr summary)

lemma finished_runOf (sent received : UInt64) : Finished (runOf sent received) := by
  have total (bits : UInt64) : Fits (.nullable (.object totalFields)) (totalOf bits) :=
    .nullable (.named [("bits_per_second", _)] (List.forall_mem_singleton.mpr .number)
      (by simp [totalFields]))
  have summary : Fits (.object summaryFields)
      (.object [(.ok "sum_sent", totalOf sent), (.ok "sum_received", totalOf received)] .closed) :=
    .named [("sum_sent", _), ("sum_received", _)]
      (List.forall_mem_cons.mpr ⟨total sent, List.forall_mem_singleton.mpr (total received)⟩)
      (by simp [summaryFields])
  refine ⟨?_, ⟨_, rfl⟩, ⟨_, rfl⟩, nofun⟩
  exact .named [("end", _)] (List.forall_mem_singleton.mpr summary) (by simp [outputFields])

end LinkGauge.Throughput
