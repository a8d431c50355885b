import LinkGauge.Delivery.Remote
import LinkGauge.Proofs.Url.Slashes

/-!
# Addresses that deliveries go to

What is delivered to a remote service goes to an address under the one of the service: its whole
path stays, a slash follows where there is none at its end, and then comes the resource. Whether
the address of the service is written with that slash or without it makes no difference.
-/

namespace LinkGauge

open Settings (Remote)

/-! ### Resources -/

namespace Delivery.Question

/-- The resource that a question is about, seen from the address of a service. -/
def resource : Delivery.Question → String
  | .hosts => "hosts"
  | .speed _ => "speedtest/results"
  | .throughput _ => "iperf/results"

/-- The names in the path of the resource. -/
def names : Delivery.Question → List String
  | .hosts => ["hosts"]
  | .speed _ => ["speedtest", "results"]
  | .throughput _ => ["iperf", "results"]

/-- What is asked of the resource. -/
def query : Delivery.Question → Option String
  | .hosts => some "active=true"
  | .speed _ | .throughput _ => none

/-- The address that asks it, from the place of the resource. -/
def address : Delivery.Question → Url → Url
  | .hosts, url => url.withPair "active" "true"
  | .speed _, url | .throughput _, url => url

lemma text_names (q : Delivery.Question) :
    (Url.Path.segments q.names).text = "/" ++ q.resource := by
  cases q <;> rfl

/-- The resource is a text without marks and falls into its names. -/
lemma plain_resource (q : Delivery.Question) :
    Url.cutFragment (Url.cleaned q.resource) = (q.resource.toList, none) ∧
      Url.cutScheme q.resource.toList = none ∧
      Url.cutQuery true q.resource.toList = (q.resource.toList, none) ∧
      Url.pieces true q.resource.toList = q.names.map String.toList := by
  cases q <;> simp only [resource, names] <;> decide

lemma head?_resource (q : Delivery.Question) :
    ∃ c, q.resource.toList.head? = some c ∧ Url.isSlash true c = false := by
  cases q with
  | hosts => exact ⟨'h', by decide, by decide⟩
  | speed => exact ⟨'s', by simp only [resource]; decide, by decide⟩
  | throughput => exact ⟨'i', by simp only [resource]; decide, by decide⟩

lemma isSegment_names (q : Delivery.Question) : ∀ p ∈ q.names, Url.IsSegment true p := by
  cases q <;> simp only [names] <;> decide

end Delivery.Question

namespace Delivery

/-- The address of a resource extends the one of a service. -/
structure Extends (endpoint : Url) (resource : String) (url : Url) : Prop where
  /-- The whole path, a slash where there is none at its end, and the resource. -/
  path : url.path.text =
    endpoint.path.text ++ (if endpoint.path.text.endsWith '/' then "" else "/") ++ resource
  /-- No segment is replaced or dropped, but for the empty one that a slash at the end leaves. -/
  segments : ∃ kept names, url.path = .segments (kept ++ names) ∧
    (endpoint.path = .segments kept ∧ kept.getLast? ≠ some "" ∨
      endpoint.path = .segments (kept ++ [""]))
  /-- In front of the path, nothing is changed. -/
  origin : { url with
      path := endpoint.path, query := endpoint.query, fragment := endpoint.fragment } = endpoint
  fragment : url.fragment = none

/-- A call is about the resource of a question, and asks nothing else of it. -/
structure Reaches (r : Remote) (q : Delivery.Question) (call : Web.Call) : Prop where
  under : Extends r.endpoint q.resource call.url
  query : call.url.query = q.query
  place : ∃ url, r.place q.resource = .ok url ∧ call.url = q.address url

variable {r : Remote} {kept : List String}

/-- The address of a service, with a slash, is its segments and an empty one. -/
lemma base_segments {parts : List String} (hierarchy : r.endpoint.path = .segments parts) :
    ∃ kept, r.base.path = .segments (kept ++ [""]) ∧
      (parts = kept ∧ kept.getLast? ≠ some "" ∨ parts = kept ++ [""]) := by
  have path : r.base.path = (Url.Path.segments parts).withSlash :=
    congrArg Url.Path.withSlash hierarchy
  by_cases slash : parts.getLast? = some ""
  · obtain ⟨kept, rfl⟩ := List.getLast?_eq_some_iff.mp slash
    exact ⟨kept, by rw [path, Url.Path.withSlash, if_pos slash], .inr rfl⟩
  · exact ⟨parts, by rw [path, Url.Path.withSlash, if_neg slash], .inl ⟨rfl, slash⟩⟩

/-- Under the address of a service there is a place for each resource. -/
lemma place_resource (special : Url.isSpecialScheme r.endpoint.scheme = true)
    (base : r.base.path = .segments (kept ++ [""])) (q : Delivery.Question) :
    r.place q.resource =
      .ok { r.base with
        path := .segments (kept ++ q.names), query := none, fragment := none } := by
  have special' : Url.isSpecialScheme r.base.scheme = true := special
  obtain ⟨clean, plain, noQuery, pieces⟩ := q.plain_resource
  obtain ⟨c, start, below⟩ := q.head?_resource
  have joined := Url.join_eq_follow base clean plain (by rwa [special']) start
    (by rwa [special'])
  rw [special', pieces, List.dropLast_concat, Url.follow_segments q.isSegment_names] at joined
  rw [Remote.place, joined]
  rfl

/-- The address of each resource extends the one of the service. -/
lemma exists_extension {parts : List String}
    (special : Url.isSpecialScheme r.endpoint.scheme = true)
    (hierarchy : r.endpoint.path = .segments parts)
    (segments : ∀ p ∈ parts, Url.IsSegment (Url.isSpecialScheme r.endpoint.scheme) p)
    (q : Delivery.Question) :
    ∃ url, r.place q.resource = .ok url ∧ url.query = none ∧
      Extends r.endpoint q.resource url := by
  obtain ⟨kept, base, whole⟩ := base_segments hierarchy
  refine ⟨_, place_resource special base q, rfl, ?_, ⟨kept, q.names, rfl, ?_⟩, rfl, rfl⟩
  · have text : (Url.Path.segments (kept ++ q.names)).text =
        (Url.Path.segments kept).text ++ "/" ++ q.resource := by
      rw [Url.text_append, q.text_names, String.append_assoc]
    rw [text, hierarchy]
    simp only [Url.endsWith_text_segments segments]
    rcases whole with ⟨rfl, bare⟩ | rfl
    · rw [if_neg bare]
    · rw [if_pos List.getLast?_concat, Url.text_append]
      simp [Url.Path.text]
  · rw [hierarchy]
    rcases whole with ⟨rfl, bare⟩ | rfl
    · exact .inl ⟨rfl, bare⟩
    · exact .inr rfl

/-! ### Calls -/

lemma query_address {url : Url} (none : url.query = none) (q : Delivery.Question) :
    (q.address url).query = q.query := by
  cases q with
  | hosts =>
    rw [Question.address, Url.withPair, none]
    rfl
  | speed | throughput => exact none

lemma Extends.address {endpoint url : Url} {resource : String}
    (h : Extends endpoint resource url) (q : Delivery.Question) :
    Extends endpoint resource (q.address url) := by
  cases q with
  | hosts => exact ⟨h.path, h.segments, h.origin, h.fragment⟩
  | speed | throughput => exact h

/-- What is extended keeps its scheme. -/
lemma Extends.scheme {endpoint url : Url} {resource : String}
    (h : Extends endpoint resource url) : url.scheme = endpoint.scheme := by
  have same := congrArg Url.scheme h.origin
  exact same

/-- A call to a service in the web is made, if there is a place for it. -/
lemma call_eq_ask {α : Type} {d : Decoder α} {path : String} {url : Url}
    (place : r.place path = .ok url) (make : Url → Web.Call)
    (web : (make url).url.scheme = "http" ∨ (make url).url.scheme = "https") :
    ∃ next, call r d path make = .ask (make url) next := by
  simp only [call, place]
  rw [Web.send, Web.maxRedirects, Web.follow, Web.attempt, if_pos web]
  exact ⟨_, rfl⟩

/-- A service in the web is asked what the question says before anything else. -/
lemma remote_eq_ask {url : Url} {q : Delivery.Question} (place : r.place q.resource = .ok url)
    (web : url.scheme = "http" ∨ url.scheme = "https") (none : url.query = none) :
    ∃ call next, remote r q = .ask call next ∧ call.url = q.address url := by
  cases q with
  | hosts =>
    obtain ⟨next, asked⟩ := call_eq_ask (d := Decoder.list Host.decoder) place
      (fun url => ⟨"GET", { url with query := some "active=true" }, .none, r.timeout⟩) web
    refine ⟨_, next, asked, ?_⟩
    rw [Question.address, Url.withPair, none]
    rfl
  | speed s =>
    obtain ⟨next, asked⟩ := call_eq_ask (d := number) place
      (fun url => ⟨"POST", url, some s.toJson, r.timeout⟩) web
    exact ⟨_, next, asked, rfl⟩
  | throughput s =>
    obtain ⟨next, asked⟩ := call_eq_ask (d := number) place
      (fun url => ⟨"POST", url, some s.toJson, r.timeout⟩) web
    exact ⟨_, next, asked, rfl⟩

/-- All that counts of the address of a service is the address with a slash. -/
lemma remote_congr {r' : Remote} (base : r'.base = r.base) (timeout : r'.timeout = r.timeout)
    (q : Delivery.Question) :
    r'.place q.resource = r.place q.resource ∧ remote r' q = remote r q := by
  have place (path : String) : r'.place path = r.place path := by
    rw [Remote.place, base, Remote.place]
  have receive' {α : Type} (d : Decoder α) : receive r' d = receive r d := by
    funext reply
    cases reply <;> simp only [receive, Remote.unreachable, base]
  have call' {α : Type} (d : Decoder α) (path : String) (make : Url → Web.Call) :
      call r' d path make = call r d path make := by
    rw [call, place, receive', call]
  have post' (path : String) (body : Json) : post r' path body = post r path body := by
    rw [post, post, call', timeout]
  refine ⟨place _, ?_⟩
  cases q with
  | hosts =>
    rw [remote, call', timeout]
    rfl
  | speed | throughput => exact post' _ _

/-! ### Endpoints of the web -/

/-- What is delivered to a service in the web goes to an address that extends the whole path of the
service's, and asks nothing but what the question says. The slash in between is set where there is
none, and to set it again changes nothing. So the address of the service may be written with that
slash or without it. -/
theorem deliveries_extend_endpoint {text : String} {r : Remote}
    (read : Url.parse text = .ok r.endpoint)
    (web : r.endpoint.scheme = "http" ∨ r.endpoint.scheme = "https") :
    (∀ q, ∃ call next, remote r q = .ask call next ∧ Reaches r q call) ∧
      (r.base =
          (if r.endpoint.path.text.endsWith '/' then r.endpoint
            else r.endpoint.setPath (r.endpoint.path.text ++ "/")) ∧
        r.base.withSlash = r.base) ∧
      (∀ v, Url.AddsSlash r.endpoint v → ∀ q,
        Remote.place { r with endpoint := v } q.resource = r.place q.resource ∧
          remote { r with endpoint := v } q = remote r q) ∧
      ∀ front back, text = front ++ back → Url.PartsAt front back →
        r.endpoint.path.text.endsWith '/' = false →
          ∃ v, Url.parse (front ++ "/" ++ back) = .ok v ∧ Url.AddsSlash r.endpoint v := by
  have special : Url.isSpecialScheme r.endpoint.scheme = true := by
    rcases web with web | web <;> rw [web] <;> decide
  have path := Url.parse_isRead read
  refine ⟨?calls, ⟨Url.withSlash_eq_setPath path special, Url.withSlash_withSlash _⟩, ?slash,
    ?written⟩
  case calls =>
    intro q
    obtain ⟨parts, hierarchy, segments, -⟩ := path.exists_segments special
    obtain ⟨url, place, none, extend⟩ := exists_extension special hierarchy segments q
    obtain ⟨call, next, asked, address⟩ := remote_eq_ask place (by rwa [extend.scheme]) none
    refine ⟨call, next, asked, ?_, ?_, url, place, address⟩
    · rw [address]
      exact extend.address q
    · rw [address]
      exact query_address none q
  case slash =>
    intro v adds q
    have base : Remote.base { r with endpoint := v } = r.base := by
      rw [adds.eq_withSlash path special]
      exact Url.withSlash_withSlash _
    exact remote_congr base rfl q
  case written =>
    rintro front back rfl apart bare
    have slashed := Url.parse_slash web bare apart read
    exact ⟨_, slashed, Url.addsSlash_withSlash path special bare ⟨_, slashed⟩⟩

/-- A service under a path with an encoded slash and an empty segment, and with a query. -/
def archive : Remote where
  endpoint := ⟨"https", "probe", "", some "lab.example", some 8443,
    .segments ["a%2Fb", "", "api"], some "key=1", some "top"⟩
  timeout := Settings.seconds 10

theorem deliveries_extend_endpoint_archive :
    Url.parse "https://probe@lab.example:8443/a%2Fb//api?key=1#top" = .ok archive.endpoint ∧
      archive.endpoint.scheme = "https" ∧
      Url.PartsAt "https://probe@lab.example:8443/a%2Fb//api" "?key=1#top" ∧
      (∃ call next, remote archive .hosts = .ask call next ∧
        call.url.target = "/a%2Fb//api/hosts?active=true") ∧
      ∃ v, Url.parse "https://probe@lab.example:8443/a%2Fb//api/?key=1#top" = .ok v ∧
        Url.AddsSlash archive.endpoint v ∧
        remote { archive with endpoint := v } .hosts = remote archive .hosts := by
  have read : Url.parse "https://probe@lab.example:8443/a%2Fb//api?key=1#top" =
      .ok archive.endpoint := by
    rfl
  have apart : Url.PartsAt "https://probe@lab.example:8443/a%2Fb//api" "?key=1#top" :=
    ⟨by simp, by simp, by simp⟩
  have bare : archive.endpoint.path.text.endsWith '/' = false := by
    rw [String.endsWith_char_eq_getLast?]
    rfl
  obtain ⟨calls, -, slash, written⟩ := deliveries_extend_endpoint read (.inr rfl)
  obtain ⟨call, next, asked, reaches⟩ := calls .hosts
  obtain ⟨v, slashed, adds⟩ := written _ _ rfl apart bare
  refine ⟨read, rfl, apart, ⟨call, next, asked, ?_⟩, v, slashed, adds, (slash v adds .hosts).2⟩
  rw [Url.target, reaches.under.path, reaches.query, bare]
  rfl

end Delivery

end LinkGauge
