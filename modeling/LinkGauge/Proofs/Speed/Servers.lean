import LinkGauge.Proofs.Decimal.Doubles
import LinkGauge.Proofs.Document.Replacements
import LinkGauge.Proofs.Speed.Outputs
import LinkGauge.Proofs.Time.Timestamps

/-!
# Servers with a number

Some versions of the tool write the number of a server as such, others in quotes. An output is read
alike either way, whatever 64 bits hold, save for zero: as a number it is no identity, and in quotes
it is a text like any other.
-/

namespace LinkGauge

/-! ### Integers of 64 bits -/

namespace Number

/-- An integer of 64 bits: a natural number, if it has no sign. -/
def ofInt (n : ℤ) : Number :=
  if 0 ≤ n then .natural (UInt64.ofNat n.toNat) else .negative (Int64.ofInt n)

lemma ofInt_natCast (k : ℕ) : ofInt k = .natural (UInt64.ofNat k) :=
  if_pos (Int.natCast_nonneg k)

lemma ofInt_negSucc (k : ℕ) : ofInt (Int.negSucc k) = .negative (Int64.ofInt (Int.negSucc k)) :=
  if_neg (by omega)

end Number

section Integers

open Number (ofInt)

variable {k : ℕ}

lemma toString_natCast (k : ℕ) : toString (k : ℤ) = String.ofList (Decimal.digitChars k) := rfl

lemma toString_negSucc (k : ℕ) :
    toString (Int.negSucc k) = String.ofList ('-' :: Decimal.digitChars (k + 1)) := by
  rw [String.ofList_cons]
  rfl

lemma toNat_ofNat (high : k < 2 ^ 64) : (UInt64.ofNat k).toNat = k := by
  rw [UInt64.toNat_ofNat', Nat.mod_eq_of_lt high]

lemma ofNat_ne_zero (high : k < 2 ^ 64) (some : k ≠ 0) : UInt64.ofNat k ≠ 0 := by
  intro zero
  have := congrArg UInt64.toNat zero
  rw [toNat_ofNat high] at this
  exact some this

lemma toInt_ofInt_negSucc (low : k < 2 ^ 63) :
    (Int64.ofInt (Int.negSucc k)).toInt = Int.negSucc k :=
  Int64.toInt_ofInt_of_le (by omega) (by omega)

/-- Integers that fit 64 bits, by their sign. -/
lemma word_cases {n : ℤ} (low : -2 ^ 63 ≤ n) (high : n < 2 ^ 64) :
    (∃ k < 2 ^ 64, n = (k : ℕ)) ∨ ∃ k < 2 ^ 63, n = Int.negSucc k := by
  cases n with
  | ofNat k => exact .inl ⟨k, by simpa using high, rfl⟩
  | negSucc k => exact .inr ⟨k, by omega, rfl⟩

variable {n : ℤ} (low : -2 ^ 63 ≤ n) (high : n < 2 ^ 64)

include low high

/-- An integer is written in its digits. -/
lemma writeNumber_ofInt : String.ofList (Json.writeNumber (ofInt n)) = toString n := by
  obtain ⟨k, fits, rfl⟩ | ⟨k, fits, rfl⟩ := word_cases low high
  · rw [Number.ofInt_natCast, Json.writeNumber, toNat_ofNat fits, toString_natCast]
  · rw [Number.ofInt_negSucc, Json.writeNumber, toInt_ofInt_negSucc fits, toString_negSucc]
    rfl

/-- Only zero comes to a double that is zero. -/
lemma toFloat_ofInt : ((ofInt n).toFloat == 0) = decide (n = 0) := by
  obtain ⟨k, fits, rfl⟩ | ⟨k, fits, rfl⟩ := word_cases low high
  · rw [Number.ofInt_natCast, Number.toFloat]
    by_cases zero : k = 0
    · subst zero
      rfl
    · rw [(Double.isNormal_toFloat (ofNat_ne_zero fits zero)).beq_zero, eq_comm,
        decide_eq_false_iff_not]
      omega
  · have magnitude := Double.isNormal_toFloat (ofNat_ne_zero (k := k + 1) (by omega) (by omega))
    simp only [Number.ofInt_negSucc, Number.toFloat, toInt_ofInt_negSucc fits, Int.natAbs_negSucc]
    split
    · rw [magnitude.neg.beq_zero, eq_comm, decide_eq_false_iff_not]
      exact Int.negSucc_ne_zero k
    · rw [magnitude.beq_zero, eq_comm, decide_eq_false_iff_not]
      exact Int.negSucc_ne_zero k

/-- The digits of an integer are scanned as the number. -/
lemma scan_toString : Json.scan (Utf8.encode (toString n)) = ⟨.number (ofInt n), false⟩ := by
  have scanned := Json.scan_render (.number (ofInt n)) (Nat.zero_le _)
  rw [← writeNumber_ofInt low high]
  refine scanned.trans ?_
  rw [Json.spelled]
  obtain ⟨k, fits, rfl⟩ | ⟨k, fits, rfl⟩ := word_cases low high
  · rw [Number.ofInt_natCast, Json.spelledNumber_natural]
  · rw [Number.ofInt_negSucc, Json.spelledNumber_negative]
    rw [Int64.lt_iff_toInt_lt, toInt_ofInt_negSucc fits]
    exact Int.negSucc_lt_zero k

end Integers

section Quoted

lemma escapeChar_of_isDigit {c : Char} (digit : c.isDigit) : Json.escapeChar c = [c] := by
  have other {d : Char} (noDigit : d.isDigit = false) : c ≠ d := by
    rintro rfl
    rw [digit] at noDigit
    cases noDigit
  have least : ¬c.val < 0x20 := by
    simp only [Char.isDigit, Bool.and_eq_true, decide_eq_true_eq, UInt32.le_iff_toNat_le] at digit
    rw [UInt32.lt_iff_toNat_lt]
    exact fun less => absurd (digit.1.trans_lt less) (by decide)
  have above {v : UInt32} (small : v < 0x20) : c.val ≠ v := by
    rintro rfl
    exact least small
  rw [Json.escapeChar, if_neg (other rfl), if_neg (other rfl), if_neg (other rfl),
    if_neg (other rfl), if_neg (other rfl), if_neg (above (by decide)), if_neg (above (by decide)),
    if_neg least]

/-- No character of an integer needs an escape. -/
lemma escapeChar_of_mem_toString {n : ℤ} {c : Char} (mem : c ∈ (toString n).toList) :
    Json.escapeChar c = [c] := by
  have digits {k : ℕ} (mem : c ∈ Decimal.digitChars k) : Json.escapeChar c = [c] :=
    escapeChar_of_isDigit (Text.isDigit_of_mem_digits mem)
  cases n with
  | ofNat k =>
    rw [Int.ofNat_eq_natCast, toString_natCast, String.toList_ofList] at mem
    exact digits mem
  | negSucc k =>
    rw [toString_negSucc, String.toList_ofList, List.mem_cons] at mem
    rcases mem with rfl | mem
    · rfl
    · exact digits mem

/-- In quotes, the digits of an integer are scanned as a text. -/
lemma scan_quoted (n : ℤ) :
    Json.scan (Utf8.encode ("\"" ++ toString n ++ "\"")) = ⟨.text (.ok (toString n)), false⟩ := by
  have scanned := Json.scan_render (.text (toString n)) (Nat.zero_le _)
  have plain : (Json.text (toString n)).render = "\"" ++ toString n ++ "\"" := by
    have same : (toString n).toList.flatMap Json.escapeChar = (toString n).toList := by
      rw [List.flatMap_congr fun c mem => escapeChar_of_mem_toString mem]
      exact List.flatMap_singleton' _
    rw [Json.render, Json.chars, Json.quote, same, ← String.toList_inj]
    simp [String.toList_append]
  rw [← plain]
  exact scanned

end Quoted

namespace Speed

open Layout (build_seq build_map)

/-! ### Another identity -/

/-- The document `root'` is `root` with `x` as the identity of the server, which may have been
another one or missing before. -/
def WithServerId (x root root' : Node) : Prop :=
  ∃ server, Server.layout.Puts "id" x
      ((Output.layout.part? "server" root).getD (.object [] .closed)) server ∧
    Output.layout.Puts "server" server root root'

section Identities

variable {x n m root root' : Node} {id : ServerId} {s : Server} {o : Output}

lemma option_identity (some : x ≠ .null) (identity : ServerId.decoder x = .ok id) :
    Decoder.option ServerId.decoder x = .ok (.some id) := by
  rw [Decoder.option_of_ne_null some, identity, map_ok]

/-- A server with another identity has the same name. -/
lemma Server.decoder_puts (puts : Server.layout.Puts "id" x n m) (some : x ≠ .null)
    (identity : ServerId.decoder x = .ok id) (read : Server.decoder n = .ok s) :
    Server.decoder m = .ok { s with id := .some id } := by
  have option := option_identity some identity
  obtain ⟨name, -⟩ := build_layout (Layout.build_of_decoder layout_lists (by decide) read)
  have kept : layout.part? "name" m = layout.part? "name" n :=
    puts.part?_of_ne (by decide) (by decide)
  have built : layout.build (layout.part? · m) = .ok { s with id := .some id } := by
    refine build_seq.mpr ⟨_, _, build_map.mpr ⟨s.name, ?_, rfl⟩, ?_, rfl⟩
    · exact (Layout.build_field_congr kept).trans name
    · exact Layout.build_field.mpr (.inl ⟨x, puts.part?_self, option⟩)
  refine puts.decoder layout_lists (by decide) rfl ?_ read built
  simp only [option, map_ok]

/-- An output in which the server has another identity is the same otherwise. -/
lemma Output.decoder_withServerId (changed : WithServerId x root root') (some : x ≠ .null)
    (identity : ServerId.decoder x = .ok id) (read : Output.decoder root = .ok o) :
    Output.decoder root' = .ok { o with server := { o.server with id := .some id } } := by
  obtain ⟨server, inner, outer⟩ := changed
  have parts := Output.parts read
  have served : Server.decoder ((layout.part? "server" root).getD (.object [] .closed)) =
      .ok o.server := by
    rcases Layout.build_field.mp parts.server with ⟨w, there, value⟩ | ⟨missing, none⟩
    · rw [there]
      exact value
    · rw [missing, ← Except.ok.inj none]
      rfl
  have value := Server.decoder_puts inner some identity served
  have kept (other : String) (h : other ∈ layout.names ∧ "server" ≠ other) :
      layout.part? other root' = layout.part? other root := outer.part?_of_ne h.1 h.2
  have built : Output.Built (layout.part? · root')
      { o with server := { o.server with id := .some id } } := by
    constructor
    case server => exact Layout.build_field.mpr (.inl ⟨server, outer.part?_self, value⟩)
    case timestamp => exact (Layout.build_field_congr (kept _ (by decide))).trans parts.timestamp
    case ping => exact (Layout.build_field_congr (kept _ (by decide))).trans parts.ping
    case download => exact (Layout.build_field_congr (kept _ (by decide))).trans parts.download
    case upload => exact (Layout.build_field_congr (kept _ (by decide))).trans parts.upload
    case isp => exact (Layout.build_field_congr (kept _ (by decide))).trans parts.isp
    case externalIp => exact (Layout.build_field_congr (kept _ (by decide))).trans parts.externalIp
    case resultUrl => exact (Layout.build_field_congr (kept _ (by decide))).trans parts.resultUrl
  refine outer.decoder layout_lists (by decide) rfl ?_ read built.build
  simp only [value, map_ok]

/-- A text that has another identity of the server is read as the same but for that. -/
lemma read_withServerId {raw raw' : Json.Bytes} (found : Json.read Output.decoder raw = .ok o)
    (changed : WithServerId x (Json.scan raw).root (Json.scan raw').root)
    (ends : (Json.scan raw').trailing = false) (some : x ≠ .null)
    (identity : ServerId.decoder x = .ok id) (unit : BandwidthUnit) (now : Instant) :
    read raw' unit now = .ok { o.reading unit now with serverId := id.meaningful } := by
  have decoded := Output.decoder_withServerId changed some identity (Json.read_eq_ok.mp found).1
  rw [read, Json.read_eq_ok.mpr ⟨decoded, ends⟩]
  rfl

end Identities

/-- The identity that an integer is, as a number. -/
lemma meaningful_number {n : ℤ} (low : -2 ^ 63 ≤ n) (high : n < 2 ^ 64) :
    (ServerId.number (.ofInt n)).meaningful = if n = 0 then none else some (toString n) := by
  rw [ServerId.meaningful, toFloat_ofInt low high, writeNumber_ofInt low high]
  simp only [decide_eq_true_eq]

/-- The identity that the digits of an integer are, as a text. -/
lemma meaningful_text (n : ℤ) : (ServerId.text (toString n)).meaningful = some (toString n) := by
  rw [ServerId.meaningful, meaningful_some]
  refine if_pos ?_
  cases n with
  | ofNat k =>
    obtain ⟨c, mem⟩ := List.exists_mem_of_ne_nil (Decimal.digitChars k) Nat.toDigits_ne_nil
    refine ⟨c, ?_, by simp [Timestamp.not_blank_of_isDigit (Text.isDigit_of_mem_digits mem)]⟩
    rwa [Int.ofNat_eq_natCast, toString_natCast, String.toList_ofList]
  | negSucc k =>
    refine ⟨'-', ?_, by decide⟩
    rw [toString_negSucc, String.toList_ofList]
    exact List.mem_cons_self ..

/-- An output with a timestamp is given twice more, the server having the same integer for its
identity, once as a number and once in quotes. Both are read as the output was but for the identity,
which in quotes is the digits of the integer, and as a number too unless it is zero. -/
theorem quotes_matter_for_zero_alone {raw bare quoted : Json.Bytes} {unit : BandwidthUnit}
    {r : Reading} {n : ℤ} (accepted : ∀ now, read raw unit now = .ok r) (low : -2 ^ 63 ≤ n)
    (high : n < 2 ^ 64)
    (asNumber : WithServerId (Json.scan (Utf8.encode (toString n))).root (Json.scan raw).root
      (Json.scan bare).root) (bareEnds : (Json.scan bare).trailing = false)
    (asText : WithServerId (Json.scan (Utf8.encode ("\"" ++ toString n ++ "\""))).root
      (Json.scan raw).root (Json.scan quoted).root)
    (quotedEnds : (Json.scan quoted).trailing = false) (now now' : Instant) :
    read bare unit now =
        .ok { r with serverId := if n = 0 then none else some (toString n) } ∧
      read quoted unit now' = .ok { r with serverId := some (toString n) } ∧
      (n ≠ 0 → read bare unit now = read quoted unit now') := by
  rw [scan_toString low high] at asNumber
  rw [scan_quoted] at asText
  obtain ⟨o, found, reading⟩ := exists_output (accepted now)
  have reading' : o.reading unit now' = r := by
    obtain ⟨o', found', reading'⟩ := exists_output (accepted now')
    rwa [← Except.ok.inj (found.symm.trans found')] at reading'
  have number := read_withServerId found asNumber bareEnds nofun rfl unit now
  have text := read_withServerId found asText quotedEnds nofun rfl unit now'
  rw [reading, meaningful_number low high] at number
  rw [reading', meaningful_text] at text
  refine ⟨number, text, ?_⟩
  intro notZero
  rw [number, text, if_neg notZero]

/-! ### A run with a server -/

/-- A server with this identity. -/
def serverText (id : Json.Bytes) : Json.Bytes := Utf8.encode "\x7b\"id\":" ++ (id ++ [0x7D])

/-- A run whose server has this identity. -/
def servedText (id : Json.Bytes) : Json.Bytes :=
  Utf8.encode ("\x7b\"timestamp\":\"2025-03-02T12:00:00Z\",\"download\":\x7b\"bandwidth\":8\x7d," ++
    "\"upload\":\x7b\"bandwidth\":0\x7d,\"server\":") ++ (serverText id ++ [0x7D])

/-- What such a run tells besides. -/
def unservedMembers : List (Except Fault String × Node) :=
  [(.ok "timestamp", .text (.ok "2025-03-02T12:00:00Z")), (.ok "download", transferOf 8),
    (.ok "upload", transferOf 0)]

/-- The document of such a run. -/
def servedBy (id : Node) : Node :=
  .object (unservedMembers ++ [(.ok "server", .object [(.ok "id", id)] .closed)]) .closed

lemma scan_servedText {bs : Json.Bytes} {id : Node} (value : Json.Phrase 125 bs (.value id)) :
    Json.scan (servedText bs) = ⟨servedBy id, false⟩ := by
  have eight : Json.Phrase 125 [0x38] (.value (.number (.natural 8))) := .digit rfl
  have zero : Json.Phrase 125 [0x30] (.value (.number (.natural 0))) := .digit rfl
  have transfer {v : Json.Bytes} {n : Node} (value : Json.Phrase 125 v (.value n)) :=
    Json.Phrase.openObject (.keyed "bandwidth" (by decide) value .close)
  have text := Json.Phrase.openObject (.keyed "timestamp" (by decide)
    (.plainText "2025-03-02T12:00:00Z" (by decide)) (.keyed "download" (by decide) (transfer eight)
      (.keyed "upload" (by decide) (transfer zero) (.keyed "server" (by decide)
        (.openObject (.keyed "id" (by decide) value .close)) .close))))
  exact text.isText.scan

lemma withServerId_servedBy (x y : Node) : WithServerId y (servedBy x) (servedBy y) := by
  have first : .ok "id" ∉ ([] : List (Except Fault String × Node)).map Prod.fst :=
    List.not_mem_nil
  have missing : .ok "server" ∉ unservedMembers.map Prod.fst := by simp [unservedMembers]
  exact ⟨.object [(.ok "id", y)] .closed, .member first, .member missing⟩

/-- The output of such a run, if the server has no identity. -/
def unserved : Output :=
  ⟨some ⟨1740916800, 0, by decide⟩, ⟨0, 0⟩, UInt64.toFloat 8, UInt64.toFloat 0, none, none,
    ⟨none, none⟩, none⟩

lemma decoder_servedBy_null : Output.decoder (servedBy .null) = .ok unserved := rfl

lemma scan_unserved :
    Json.scan (servedText (Utf8.encode "null")) = ⟨servedBy .null, false⟩ :=
  scan_servedText .null

lemma read_unserved :
    Json.read Output.decoder (servedText (Utf8.encode "null")) = .ok unserved := by
  rw [Json.read_eq_ok, scan_unserved]
  exact ⟨decoder_servedBy_null, rfl⟩

lemma read_servedText {bs : Json.Bytes} {x : Node} {id : ServerId}
    (value : Json.Phrase 125 bs (.value x)) (some : x ≠ .null)
    (identity : ServerId.decoder x = .ok id) (unit : BandwidthUnit) (now : Instant) :
    read (servedText bs) unit now =
      .ok { unserved.reading unit now with serverId := id.meaningful } := by
  have scanned := scan_servedText value
  refine read_withServerId read_unserved ?_ ?_ some identity unit now
  · rw [scan_unserved, scanned]
    exact withServerId_servedBy .null x
  · rw [scanned]

/-- The identity 7 is the same in quotes. -/
theorem quotes_matter_for_zero_alone_seven :
    read (servedText (Utf8.encode "7")) .bytesPerSecond (.mk 0 0) =
      read (servedText (Utf8.encode "\"7\"")) .bytesPerSecond (.mk 1 0) := by
  have number : Json.scan (servedText (Utf8.encode "7")) =
      ⟨servedBy (.number (.natural 7)), false⟩ := scan_servedText (.digit rfl)
  have text : Json.scan (servedText (Utf8.encode "\"7\"")) =
      ⟨servedBy (.text (.ok "7")), false⟩ := scan_servedText (.plainText "7" (by decide))
  have low : -2 ^ 63 ≤ (7 : ℤ) := by decide
  have high : (7 : ℤ) < 2 ^ 64 := by decide
  have accepted (now : Instant) : read (servedText (Utf8.encode "null")) .bytesPerSecond now =
      .ok (unserved.reading .bytesPerSecond (.mk 0 0)) := by
    rw [read, read_unserved]
    rfl
  have asNumber : WithServerId (Json.scan (Utf8.encode (toString (7 : ℤ)))).root
      (Json.scan (servedText (Utf8.encode "null"))).root
      (Json.scan (servedText (Utf8.encode "7"))).root := by
    rw [scan_toString low high, scan_unserved, number]
    exact withServerId_servedBy _ _
  have asText : WithServerId (Json.scan (Utf8.encode ("\"" ++ toString (7 : ℤ) ++ "\""))).root
      (Json.scan (servedText (Utf8.encode "null"))).root
      (Json.scan (servedText (Utf8.encode "\"7\""))).root := by
    rw [scan_quoted, scan_unserved, text]
    exact withServerId_servedBy _ _
  exact (quotes_matter_for_zero_alone accepted low high asNumber (by rw [number]) asText
    (by rw [text]) (.mk 0 0) (.mk 1 0)).2.2 (by decide)

/-- Zero is an identity in quotes, and none as a number. -/
theorem quoted_zero_is_an_identity :
    read (servedText (Utf8.encode "0")) .bytesPerSecond (.mk 0 0) =
        .ok { unserved.reading .bytesPerSecond (.mk 0 0) with serverId := none } ∧
      read (servedText (Utf8.encode "\"0\"")) .bytesPerSecond (.mk 0 0) =
        .ok { unserved.reading .bytesPerSecond (.mk 0 0) with serverId := some "0" } := by
  have number : Json.Phrase 125 [0x30] (.value (.number (.natural 0))) := .digit rfl
  have text : Json.Phrase 125 _ (.value (.text (.ok "0"))) := .plainText "0" (by decide)
  exact ⟨read_servedText number nofun rfl .., read_servedText text nofun rfl ..⟩

end Speed

end LinkGauge
