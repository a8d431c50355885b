import LinkGauge.Proofs.Delivery.Addresses
import LinkGauge.Proofs.Delivery.Documents
import LinkGauge.Proofs.Delivery.Replies
import LinkGauge.Proofs.Web.Pursuits

/-!
# Posts and what is answered to them

The last reply decides what comes of a post. It is a reply to a call with the document as long as no
reply before it takes the document away.
-/

namespace LinkGauge

open Plan (Turn)

/-! ### Numbers in bodies -/

/-- A node that spells an integer. -/
def Node.Spells (n : Int64) : Node → Prop
  | .number (.natural v) => (v.toNat : ℤ) = n.toInt
  | .number (.negative v) => v = n
  | _ => False

/-- A node with an integer where what is stored has its number: under that name, or in front. -/
def Node.Numbers (n : Int64) : Node → Prop
  | .object members _ => ∃ value, Layout.find? "id" members = some value ∧ value.Spells n
  | .list (value :: _) _ => value.Spells n
  | _ => False

lemma Node.spells_of_int64 {node : Node} {n : Int64} (h : Decoder.int64 node = .ok n) :
    node.Spells n := by
  simp only [Decoder.int64] at h
  cases integer : Decoder.integer "i64" (-Word.half64) (Word.half64 - 1) node with
  | error failure =>
    rw [integer] at h
    cases h
  | ok i =>
    rw [integer] at h
    obtain rfl := Except.ok.inj h
    simp only [Decoder.integer] at integer
    split at integer
    next v =>
      split at integer
      next fits =>
        obtain rfl := Except.ok.inj integer
        rw [Spells, Int64.toInt_ofInt_of_le]
        · simp
        · simp only [Word.half64] at fits
          omega
      next => cases integer
    next v =>
      split at integer
      next =>
        obtain rfl := Except.ok.inj integer
        exact (Int64.ofInt_toInt v).symm
      next => cases integer
    next => exact absurd integer (Decoder.mismatch_ne_ok _ _ _)

lemma Node.numbers_of_number {node : Node} {n : Int64} (h : Delivery.number node = .ok n) :
    node.Numbers n := by
  simp only [Delivery.number, Layout.decoder] at h
  split at h
  next members ending =>
    obtain ⟨_, -, built⟩ := bind_eq_ok.mp h
    simp only [Layout.required, Layout.field] at built
    split at built
    next value found => exact ⟨value, found, spells_of_int64 (mapError_eq_ok.mp built)⟩
    next => cases built
  next items ending =>
    obtain ⟨⟨i, supply⟩, took, rest⟩ := bind_eq_ok.mp h
    cases items with
    | nil =>
      simp only [Layout.required, Layout.field] at took
      split at took
      next => cases took
      next short => cases short
      next => cases took
    | cons value items =>
      obtain ⟨_, read, same⟩ := bind_eq_ok.mp took
      cases same
      -- What follows the first item may be too much, but it is no other number.
      have first : i = n := by
        split at rest
        all_goals cases rest
        all_goals rfl
      rw [← first]
      exact spells_of_int64 (mapError_eq_ok.mp read)
  next => cases h
  next => exact absurd h (Decoder.mismatch_ne_ok _ _ _)

/-! ### Addresses of resources -/

/-- Under an address with a hierarchy there is a place for every path without marks. -/
lemma Settings.Remote.exists_place {r : Settings.Remote} {parts : List String}
    (hierarchy : r.endpoint.path = .segments parts) {path : String}
    (clean : Url.cutFragment (Url.cleaned path) = (path.toList, none))
    (plain : Url.cutScheme path.toList = none)
    (noQuery : ∀ special, Url.cutQuery special path.toList = (path.toList, none)) {c : Char}
    {rest : List Char} (start : path.toList = c :: rest)
    (below : ∀ special, Url.isSlash special c = false) : ∃ url, r.place path = .ok url := by
  obtain ⟨kept, base, -⟩ := Delivery.base_segments hierarchy
  have first : path.toList.head? = some c := by rw [start, List.head?_cons]
  rw [Settings.Remote.place, Url.join_eq_follow base clean plain (noQuery _) first (below _)]
  exact ⟨_, rfl⟩

/-- Under an address without one there is no place. -/
lemma Settings.Remote.place_plain {r : Settings.Remote} {text : String}
    (flat : r.endpoint.path = .plain text) {path : String}
    (clean : Url.cutFragment (Url.cleaned path) = (path.toList, none))
    (plain : Url.cutScheme path.toList = none) :
    ∃ message, r.place path = .error (.other message []) := by
  obtain ⟨other, base⟩ : ∃ other, r.base.path = .plain other := by
    change ∃ other, r.endpoint.path.withSlash = .plain other
    rw [flat, Url.Path.withSlash]
    split
    · exact ⟨_, rfl⟩
    · exact ⟨_, rfl⟩
  rw [Settings.Remote.place]
  simp [Url.join, clean, plain, Url.join.relative, base, Except.mapError]

/-! ### Posts -/

namespace Delivery

open Settings (Remote)
open Web (Exchange Call Reply Pursuit)

/-- A reply is a success whose body holds the number of what was stored. -/
def Confirms (n : Int64) (reply : Reply) : Prop :=
  ∃ status location body, reply = .response status location (.ok body) ∧ isSuccess status ∧
    Json.read number (Utf8.encode body.text) = .ok n ∧
    (Json.scan (Utf8.encode body.text)).root.Numbers n

/-- A row of calls came to no reply: the last call was not answered, or the reply to it asks for
another one that is not made, or it breaks off. -/
def Unanswered (turns : List (Turn Exchange)) : Prop :=
  ∀ t ∈ turns.getLast?,
    (∃ causes, t.answer = Reply.unreached causes) ∨
    (∃ c, Reply.elsewhere? t.question t.answer = some c) ∨
    ∃ status location causes, isSuccess status ∧
      t.answer = Reply.response status location (.error causes)

/-- What comes of posting a document under a path, after all calls that are made for it. -/
structure Posted (r : Remote) (path : String) (j : Json) (turns : List (Turn Exchange))
    (result : Except Problem Int64) : Prop where
  first : ∀ t ∈ turns.head?, ∃ url, r.place path = .ok url ∧
    t.question = ⟨"POST", url, some j, r.timeout⟩
  next : turns.IsChain fun t u => Reply.elsewhere? t.question t.answer = some u.question
  few : turns.length ≤ Web.maxRedirects + 1
  /-- The document is posted until a reply turns it away, and not after that. -/
  posts : ∀ before t after, turns = before ++ t :: after →
    (∀ u ∈ before, ¬Reply.TurnsAway u.answer) ∧ t.question.Posts j ∨
      (∃ u ∈ before, Reply.TurnsAway u.answer) ∧ t.question.Gets
  /-- A number comes of it exactly if the last reply confirms it. -/
  taken : ∀ n, result = .ok n ↔ ∃ before t, turns = before ++ [t] ∧ Confirms n t.answer
  /-- That is a reply to a call with the document exactly if none turned it away. -/
  delivered : ∀ n, result = .ok n →
    ((∃ t ∈ turns, t.question.Posts j ∧ Confirms n t.answer) ↔
      ∀ t ∈ turns, ¬Reply.TurnsAway t.answer)
  rejected : ∀ before c status location body,
    turns = before ++ [⟨c, .response status location body⟩] →
      c.redirected? status location = none → isSuccess status = false →
        result = .error (.rejected status
          (match body with
            | .error _ => ""
            | .ok body => body.text))
  unread : ∀ before c status location body,
    turns = before ++ [⟨c, .response status location (.ok body)⟩] → isSuccess status →
      (∀ n, Json.read number (Utf8.encode body.text) ≠ .ok n) →
        ∃ message, result = .error (.other message [])
  unanswered : ∀ parts, r.endpoint.path = .segments parts → Unanswered turns →
    ∃ causes, result = .error (.unreachable r.base.text causes)
  /-- Under an address without a hierarchy there is no place for resources. -/
  nowhere : ∀ text, r.endpoint.path = .plain text →
    turns = [] ∧ ∃ message, result = .error (.other message [])

variable {r : Remote} {path : String} {j : Json} {turns : List (Turn Exchange)}

lemma receive_eq_ok {reply : Reply} {n : Int64} :
    receive r number reply = .ok n ↔ Confirms n reply := by
  constructor
  · intro received
    cases reply with
    | unreached => cases received
    | response status location body =>
      simp only [receive] at received
      split at received
      next success =>
        cases body with
        | error => cases received
        | ok body =>
          have read := mapError_eq_ok.mp received
          obtain ⟨a, decoded, same⟩ := bind_eq_ok.mp read
          have first : a = n := by
            split at same
            · cases same
            · exact Except.ok.inj same
          rw [first] at decoded
          exact ⟨status, location, body, rfl, success, read, Node.numbers_of_number decoded⟩
      next => cases received
  · rintro ⟨status, location, body, rfl, success, read, -⟩
    simp only [receive, success, if_true, read, mapError_ok]

/-- What confirms asks for no other call. -/
lemma Confirms.stays {reply : Reply} {n : Int64} (h : Confirms n reply) (c : Call) :
    reply.elsewhere? c = none ∧ ¬reply.TurnsAway := by
  obtain ⟨status, location, body, rfl, success, -, -⟩ := h
  exact ⟨Web.redirected_eq_none success, Web.not_turnsAway_of_isSuccess success⟩

lemma confirms_iff {left : ℕ} {c : Call} {reply : Reply} (h : Pursuit left c turns reply)
    (n : Int64) : Confirms n reply ↔ ∃ before t, turns = before ++ [t] ∧ Confirms n t.answer := by
  constructor
  · intro confirms
    rcases h.last with ⟨before, t, split, -, rfl⟩ | ⟨-, causes, rfl⟩
    · exact ⟨before, t, split, confirms⟩
    · obtain ⟨_, _, _, no, -⟩ := confirms
      cases no
  · rintro ⟨before, t, split, confirms⟩
    rwa [h.eq_answer split (confirms.stays t.question).1]

/-- Only the last reply can confirm. -/
lemma delivered_iff {left : ℕ} {c : Call} {reply : Reply} (h : Pursuit left c turns reply)
    (first : c.Posts j) {n : Int64} (confirms : Confirms n reply) :
    (∃ t ∈ turns, t.question.Posts j ∧ Confirms n t.answer) ↔
      ∀ t ∈ turns, ¬Reply.TurnsAway t.answer := by
  obtain ⟨before, t, split, confirmed⟩ := (confirms_iff h n).mp confirms
  have last := h.posts first split
  constructor
  · rintro ⟨u, mem, posts, again⟩
    rw [split] at mem ⊢
    rcases List.mem_append.mp mem with inside | here
    · obtain ⟨c', sent⟩ := h.sent_of_mem split u inside
      rw [(again.stays u.question).1] at sent
      cases sent
    · obtain rfl := List.mem_singleton.mp here
      rcases last with ⟨none, -⟩ | ⟨-, gets⟩
      · intro v mem
        rcases List.mem_append.mp mem with inside | here
        · exact none v inside
        · obtain rfl := List.mem_singleton.mp here
          exact (confirmed.stays v.question).2
      · exact absurd gets posts.not_gets
  · intro none
    rcases last with ⟨-, posts⟩ | ⟨⟨u, mem, away⟩, -⟩
    · exact ⟨t, by simp [split], posts, confirmed⟩
    · exact absurd away (none u (by simp [split, mem]))

/-- A post whose place is known, from the pursuit of its first call. -/
lemma posted_of_pursuit {url : Url} {reply : Reply} (place : r.place path = .ok url)
    (hierarchy : ∀ text, r.endpoint.path ≠ .plain text)
    (h : Pursuit Web.maxRedirects ⟨"POST", url, some j, r.timeout⟩ turns reply) :
    Posted r path j turns (receive r number reply) := by
  have document : Call.Posts ⟨"POST", url, some j, r.timeout⟩ j := ⟨rfl, rfl⟩
  refine ⟨?first, h.isChain.2, h.length_le, fun _ _ _ => h.posts document, ?taken, ?delivered,
    ?rejected, ?unread, ?unanswered, fun text flat => absurd flat (hierarchy text)⟩
  case first => exact fun t mem => ⟨url, place, h.isChain.1 t mem⟩
  case taken => exact fun n => receive_eq_ok.trans (confirms_iff h n)
  case delivered => exact fun n taken => delivered_iff h document (receive_eq_ok.mp taken)
  case rejected =>
    intro before c status location body split stays failure
    rw [h.eq_answer split stays]
    simp only [receive, failure]
    rfl
  case unread =>
    intro before c status location body split success undecoded
    rw [h.eq_answer split (Web.redirected_eq_none success)]
    simp only [receive, success, if_true]
    cases read : Json.read number (Utf8.encode body.text) with
    | ok n => exact absurd read (undecoded n)
    | error failure => exact ⟨_, rfl⟩
  case unanswered =>
    intro _ _ none
    rcases h.last with ⟨before, t, split, stays, rfl⟩ | ⟨-, causes, rfl⟩
    · rcases none t (by simp [split]) with ⟨causes, eq⟩ | ⟨c, sent⟩ | broken
      · rw [eq]
        exact ⟨causes, rfl⟩
      · rw [stays] at sent
        cases sent
      · obtain ⟨status, location, causes, success, eq⟩ := broken
        rw [eq]
        refine ⟨causes, ?_⟩
        simp only [receive, success, if_true]
        rfl
    · exact ⟨causes, rfl⟩

/-- A post for which there is no place. -/
lemma posted_nowhere {text message : String} (flat : r.endpoint.path = .plain text) :
    Posted r path j [] (.error (.other message [])) := by
  refine ⟨?first, .nil, Nat.zero_le _, ?posts, ?taken, nofun, ?rejected, ?unread, ?unanswered,
    fun _ _ => ⟨rfl, message, rfl⟩⟩
  case first => exact fun t mem => absurd mem (Option.not_mem_none t)
  case posts =>
    intro before t after split
    simp at split
  case taken =>
    intro n
    constructor
    · nofun
    · rintro ⟨before, t, split, -⟩
      simp at split
  case rejected =>
    intro before c status location body split
    simp at split
  case unread =>
    intro before c status location body split
    simp at split
  case unanswered =>
    intro parts hierarchy
    rw [flat] at hierarchy
    cases hierarchy

/-- A post to a resource of the service, at its end. -/
lemma posted_of_ends {result : Except Problem Int64}
    (clean : Url.cutFragment (Url.cleaned path) = (path.toList, none))
    (plain : Url.cutScheme path.toList = none)
    (noQuery : ∀ special, Url.cutQuery special path.toList = (path.toList, none)) {c : Char}
    {rest : List Char} (start : path.toList = c :: rest)
    (below : ∀ special, Url.isSlash special c = false)
    (ends : (post r path j).Ends turns result) : Posted r path j turns result := by
  rw [post, call] at ends
  cases endpoint : r.endpoint.path with
  | plain text =>
    obtain ⟨message, nowhere⟩ := Remote.place_plain endpoint clean plain
    rw [nowhere] at ends
    obtain ⟨rfl, rfl⟩ := Plan.ends_done.mp ends
    exact posted_nowhere endpoint
  | segments parts =>
    obtain ⟨url, place⟩ := Remote.exists_place endpoint clean plain noQuery start below
    rw [place] at ends
    obtain ⟨reply, calls, none, rfl, sending, receiving⟩ := Plan.ends_bind.mp ends
    obtain ⟨rfl, rfl⟩ := Plan.ends_done.mp receiving
    rw [List.append_nil]
    refine posted_of_pursuit place ?_ (Web.pursuit_of_ends sending)
    intro text none
    cases endpoint.symm.trans none

/-- What comes of a post is decided by the last reply. A number is the one in a last reply that is a
success; that reply is to a call with the document exactly if no reply before it asked to get
something else instead. A last reply that is no success is what is told, and one that cannot be read
or does not come is an error. -/
theorem last_reply_decides_post (r : Remote) :
    (∀ (s : Speed.Submission) (turns : List (Turn Exchange)) (result : Except Problem Int64),
      (remote r (.speed s)).Ends turns result →
        Posted r "speedtest/results" s.toJson turns result) ∧
    ∀ (s : Throughput.Submission) (turns : List (Turn Exchange)) (result : Except Problem Int64),
      (remote r (.throughput s)).Ends turns result →
        Posted r "iperf/results" s.toJson turns result := by
  constructor
  · intro s turns result ends
    exact posted_of_ends (by decide) (by decide) (by decide) rfl (by decide) ends
  · intro s turns result ends
    exact posted_of_ends (by decide) (by decide) (by decide) rfl (by decide) ends

/-! ### Numbers alone -/

/-- A document with nothing but the number of what was stored. -/
def numbered (n : Int64) : Json := .object [("id", .int64 n)]

lemma nesting_numbered (n : Int64) : Json.nesting (numbered n) ≤ Json.maxDepth := by
  simp [numbered, Json.nesting, Json.nestingMembers, Json.nesting_int64, Json.maxDepth]

lemma number_numbered (n : Int64) : number (Json.spelled (numbered n)) = .ok n :=
  number_object (by simp)

/-- A number counts in UTF-16 as well, whatever charset the reply names. -/
theorem receive_utf16 (r : Remote) {status : ℕ} (success : isSuccess status) (n : Int64)
    (order : Utf16.Order) (location type foreign : Option String) :
    receive r number (.response status location
      (.ok ⟨type, order.octets 0xFEFF ++ Utf16.encode order (numbered n).render, foreign⟩)) =
        .ok n :=
  receive_text r number success (Web.Content.text_mark_utf16 type _ foreign order)
    (nesting_numbered n) (number_numbered n) location

/-! ### A post that is turned away -/

/-- A service that is behind another one. -/
def depot : Remote where
  endpoint := ⟨"http", "", "", some "depot.local", none, .segments ["api", "v1"], none, none⟩
  timeout := Settings.seconds 30

/-- Where that service takes speed tests, and where else it sends those who post them. -/
def counter (names : List String) : Url :=
  ⟨"http", "", "", some "depot.local", none, .segments names, none, none⟩

def reading : Speed.Submission where
  timestamp := ⟨1720000000, 0, by decide⟩
  downloadMbps := 100
  uploadMbps := 20
  pingMs := 9.5
  jitterMs := none
  serverName := none
  serverId := none
  isp := none
  externalIp := none
  resultUrl := none
  daemon := "daemon-probe-7"

/-- A success that names a number. -/
def receipt (n : Int64) : Reply := (Web.Response.json 200 (numbered n)).reply

/-- The call that posts the reading. -/
def handover : Call :=
  ⟨"POST", counter ["api", "v1", "speedtest", "results"], some reading.toJson, depot.timeout⟩

lemma place_depot : depot.place "speedtest/results" = .ok handover.url := by
  rfl

lemma receive_receipt (n : Int64) : receive depot number (receipt n) = .ok n :=
  receive_json depot number (by decide) (unmarked_object _) (nesting_numbered n)
    (number_numbered n)

/-- A reply to the post asks for another call, and the reply to that is a receipt. -/
lemma ends_receipt {status : ℕ} {elsewhere : Call} {n : Int64}
    (sent : handover.redirected? status (some "/elsewhere") = some elsewhere)
    (carried : elsewhere.url.scheme = "http") :
    (remote depot (.speed reading)).Ends
      [ ⟨handover, .response status (some "/elsewhere") (.ok ⟨none, [], none⟩)⟩,
        ⟨elsewhere, receipt n⟩ ]
      (.ok n) := by
  change Plan.Ends (post depot "speedtest/results" reading.toJson) _ _
  rw [post, call, place_depot]
  refine Plan.ends_bind.mpr ⟨receipt n, _, [], (List.append_nil _).symm, ?_, ?_⟩
  · change Plan.Leads (Web.send handover) _ _
    rw [Web.send, Web.maxRedirects, Web.follow, Web.attempt, if_pos (.inl rfl)]
    apply Plan.Leads.ask
    simp only [sent]
    rw [Web.follow, Web.attempt, if_pos (.inl carried)]
    apply Plan.Leads.ask
    exact .refl _
  · rw [receive_receipt]
    exact .refl _

/-- The reading counts as stored although nobody took it: the reply to the post sends its sender
away, and what is got elsewhere is a number. -/
theorem reading_counts_without_delivery :
    ∃ turns, (remote depot (.speed reading)).Ends turns (.ok 5) ∧
      ∀ t ∈ turns, t.question.Posts reading.toJson → ∀ n, ¬Confirms n t.answer := by
  have sent : handover.redirected? 303 (some "/elsewhere") =
      some { handover with method := "GET", url := counter ["elsewhere"], body := none } := by
    rfl
  refine ⟨_, ends_receipt sent rfl, ?_⟩
  rw [List.forall_mem_cons, List.forall_mem_singleton]
  constructor
  · rintro - n ⟨_, _, _, ⟨⟩, success, -⟩
    cases success
  · rintro ⟨-, none⟩
    cases none

/-- If the reply asks to repeat the post elsewhere, it is the post that is answered. -/
theorem last_reply_decides_post_repeated :
    ∃ turns, (remote depot (.speed reading)).Ends turns (.ok 8) ∧
      Posted depot "speedtest/results" reading.toJson turns (.ok 8) ∧
      ∃ t ∈ turns, t.question.Posts reading.toJson ∧ Confirms 8 t.answer := by
  have sent : handover.redirected? 307 (some "/elsewhere") =
      some { handover with url := counter ["elsewhere"] } := by
    rfl
  have ends := ends_receipt (n := 8) sent rfl
  have posted := (last_reply_decides_post depot).1 reading _ _ ends
  refine ⟨_, ends, posted, (posted.delivered 8 rfl).mpr ?_⟩
  rw [List.forall_mem_cons, List.forall_mem_singleton]
  constructor
  · rintro ⟨_, _, status, away, ⟨⟩⟩
    revert away
    decide
  · rintro ⟨_, _, status, away, ⟨⟩⟩
    revert away
    decide

end Delivery

end LinkGauge
