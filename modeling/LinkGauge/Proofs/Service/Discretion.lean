import LinkGauge.Proofs.Measurement.Questions
import LinkGauge.Proofs.Service.Writes

/-!
# What is inside stays inside

Clients are told what a problem is, and nothing of what a tool, another service or the database said
of it. So problems that differ in that only are told in the same words, and whatever the database
says of its refusals, the service asks the same and answers the same.
-/

namespace LinkGauge

open Plan (Steady Turn)
open Store (Reply Violation)

/-! ### Problems that are alike -/

/-- Problems of the store of one kind, whatever the database says of them. -/
inductive Store.Problem.Alike : Store.Problem → Store.Problem → Prop where
  | notFound : Alike .notFound .notFound
  | unique (v w : Violation) : Alike (.unique v) (.unique w)
  | foreignKey (v w : Violation) : Alike (.foreignKey v) (.foreignKey w)
  | check (v w : Violation) : Alike (.check v) (.check w)
  | other (message message' : String) (causes causes' : List String) :
      Alike (.other message causes) (.other message' causes')

/-- Problems of one kind that agree in what clients may know, whatever else is known of them. -/
inductive Problem.Alike : Problem → Problem → Prop where
  | timedOut (command : String) {deadline deadline' : Span}
      (same : deadline.seconds = deadline'.seconds) :
      Alike (.timedOut command deadline) (.timedOut command deadline')
  | toolFailed (command detail : String) (stderr stderr' : Option String) :
      Alike (.toolFailed command detail stderr) (.toolFailed command detail stderr')
  | unreadable (tool reason : String) (raw raw' : Json.Bytes) :
      Alike (.unreadable tool reason raw) (.unreadable tool reason raw')
  | noHosts (category : Category) : Alike (.noHosts category) (.noHosts category)
  | rejected (status status' : ℕ) (body body' : String) :
      Alike (.rejected status body) (.rejected status' body')
  | unreachable (endpoint endpoint' : String) (causes causes' : List String) :
      Alike (.unreachable endpoint causes) (.unreachable endpoint' causes')
  | notStored (entity entity' : String) {source source' : Store.Problem}
      (alike : source.Alike source') : Alike (.notStored entity source) (.notStored entity' source')
  | unknownHost (id : Int64) : Alike (.unknownHost id) (.unknownHost id)
  | notFound (resource id : String) : Alike (.notFound resource id) (.notFound resource id)
  | badRequest (message : String) : Alike (.badRequest message) (.badRequest message)
  | store {source source' : Store.Problem} (alike : source.Alike source') :
      Alike (.store source) (.store source')
  | other (message message' : String) (causes causes' : List String) :
      Alike (.other message causes) (.other message' causes')

lemma Store.Problem.Alike.refl (p : Store.Problem) : p.Alike p := by
  cases p <;> constructor

lemma Store.Problem.Alike.ofCode (code : String) (v w : Violation) :
    (Store.Problem.ofCode code v).Alike (.ofCode code w) := by
  simp only [Store.Problem.ofCode]
  split_ifs
  · exact .unique v w
  · exact .foreignKey v w
  · exact .check v w
  · exact .other ..

lemma Store.Problem.Alike.throughputProblem (host : Int64) {p q : Store.Problem} (h : p.Alike q) :
    (Store.throughputProblem host p).Alike (Store.throughputProblem host q) := by
  cases h with
  | foreignKey v w => exact .unknownHost host
  | notFound => exact .notStored _ _ .notFound
  | unique v w => exact .notStored _ _ (.unique v w)
  | check v w => exact .notStored _ _ (.check v w)
  | other => exact .notStored _ _ (.other ..)

namespace Problem

variable {p q : Problem}

lemma Alike.refl (p : Problem) : p.Alike p := by
  cases p with
  | timedOut command deadline => exact .timedOut command rfl
  | notStored entity source => exact .notStored entity entity (.refl source)
  | store source => exact .store (.refl source)
  | _ => constructor

/-- Clients are told the same of problems that are alike. -/
lemma Alike.publicMessage_eq (h : p.Alike q) : p.publicMessage = q.publicMessage := by
  cases h with
  | timedOut command same =>
    exact congrArg (fun n : ℕ => command ++ " timed out after " ++ toString n ++ "s") same
  | notStored _ _ alike => cases alike <;> rfl
  | store alike => cases alike <;> rfl
  | _ => rfl

lemma Alike.status_eq (h : p.Alike q) : p.status = q.status := by
  cases h with
  | notStored _ _ alike => cases alike <;> rfl
  | store alike => cases alike <;> rfl
  | _ => rfl

lemma Alike.ofProblem_eq (h : p.Alike q) : Web.Response.ofProblem p = .ofProblem q := by
  rw [Web.Response.ofProblem, h.status_eq, h.publicMessage_eq, Web.Response.ofProblem]

/-- What clients may know of a problem besides its kind. -/
def told : Problem → List String
  | .timedOut command deadline => [command, toString deadline.seconds]
  | .toolFailed command detail _ => [command, detail]
  | .unreadable tool reason _ => [tool, reason]
  | .noHosts category => [category.name]
  | .unknownHost id => [toString id.toInt]
  | .notFound resource id => [resource, id]
  | .badRequest message => [message]
  | _ => []

/-- A text that is put together from pieces holds each of them. -/
lemma infix_of_join {text : String} {parts : List String} (pieces : List String)
    (eq : text = String.join pieces) (among : parts ⊆ pieces) :
    ∀ part ∈ parts, part.toList <:+: text.toList := by
  intro part mem
  rw [eq, String.toList_join, List.flatMap_def]
  exact List.infix_of_mem_flatten (List.mem_map_of_mem (among mem))

/-- Clients are told all that they may know. -/
lemma told_infix (p : Problem) : ∀ part ∈ p.told, part.toList <:+: p.publicMessage.toList := by
  cases p with
  | timedOut command deadline =>
    have put : command ++ " timed out after " ++ toString deadline.seconds ++ "s" =
        String.join [command, " timed out after ", toString deadline.seconds, "s"] := by
      simp [String.append_assoc]
    exact infix_of_join _ put (by simp [told])
  | toolFailed command detail =>
    have put : command ++ " failed: " ++ detail = String.join [command, " failed: ", detail] := by
      simp [String.append_assoc]
    exact infix_of_join _ put (by simp [told])
  | unreadable tool reason =>
    have put : "failed to parse " ++ tool ++ " output: " ++ reason =
        String.join ["failed to parse ", tool, " output: ", reason] := by
      simp [String.append_assoc]
    exact infix_of_join _ put (by simp [told])
  | noHosts category =>
    have put : "no eligible " ++ category.name ++ " hosts" =
        String.join ["no eligible ", category.name, " hosts"] := by
      simp [String.append_assoc]
    exact infix_of_join _ put (by simp [told])
  | unknownHost id =>
    have put : "host " ++ toString id.toInt ++ " not found" =
        String.join ["host ", toString id.toInt, " not found"] := by
      simp [String.append_assoc]
    exact infix_of_join _ put (by simp [told])
  | notFound resource id =>
    have put : resource ++ " with ID " ++ id ++ " not found" =
        String.join [resource, " with ID ", id, " not found"] := by
      simp [String.append_assoc]
    exact infix_of_join _ put (by simp [told])
  | badRequest text => exact List.forall_mem_singleton.mpr List.infix_rfl
  | rejected | unreachable | notStored | store | other => exact List.forall_mem_nil _

end Problem

/-! ### Answers that are alike -/

section Answers

variable {ε ε' α β : Type} {E : ε → ε → Prop} {F : ε' → ε' → Prop}

/-- The same answer, or errors that are related. -/
inductive Answered (E : ε → ε → Prop) : Except ε α → Except ε α → Prop where
  | ok (a : α) : Answered E (.ok a) (.ok a)
  | error {e f : ε} (h : E e f) : Answered E (.error e) (.error f)

namespace Answered

variable {x y : Except ε α}

lemma refl (h : ∀ e, E e e) (x : Except ε α) : Answered E x x := by
  cases x with
  | ok a => exact .ok a
  | error e => exact .error (h e)

lemma bind {f : α → Except ε β} (h : Answered E x y) (hf : ∀ a, Answered E (f a) (f a)) :
    Answered E (x >>= f) (y >>= f) := by
  cases h with
  | ok a => exact hf a
  | error h => exact .error h

lemma map (h : Answered E x y) (f : α → β) : Answered E (x.map f) (y.map f) := by
  cases h with
  | ok a => exact .ok (f a)
  | error h => exact .error h

lemma mapError {f : ε → ε'} (h : Answered E x y) (hf : ∀ e e', E e e' → F (f e) (f e')) :
    Answered F (x.mapError f) (y.mapError f) := by
  cases h with
  | ok a => exact .ok a
  | error h => exact .error (hf _ _ h)

end Answered

variable {I : Interface} {A : (q : I.Question) → I.Answer q → I.Answer q → Prop}

lemma Plan.Related.andThen {p p' : Plan I (Except ε α)} {f : α → Plan I (Except ε β)}
    (h : p.Related A (Answered E) p') (hf : ∀ a, Steady A (Answered E) (f a)) :
    (p.andThen f).Related A (Answered E) (p'.andThen f) := by
  refine h.bind fun x y answered => ?_
  cases answered with
  | ok a => exact hf a
  | error h => exact .done (.error h)

/-- A single question whose answer is handed on. -/
lemma Plan.steady_query (q : I.Question) : Steady A (A q) (Plan.ask q .done) :=
  .ask fun _ _ h => .done h

end Answers

/-! ### The database -/

namespace Store

variable {α : Type}

/-- Replies that differ only in what is said of a refusal, or of why the connection broke off. -/
inductive Reply.Alike : Reply → Reply → Prop where
  | rows (found : List Row) : Alike (.rows found) (.rows found)
  | affected (n : ℕ) : Alike (.affected n) (.affected n)
  | refused (code : String) (v w : Violation) : Alike (.refused code v) (.refused code w)
  | lost (reason reason' : String) : Alike (.lost reason) (.lost reason')

/-- Answers of the database that differ only in what it says of its refusals. -/
def Access.Alike : (q : Access.Question) → Access.Answer q → Access.Answer q → Prop
  | .connect => Answered Problem.Alike
  | .execute _ => Reply.Alike

lemma Reply.Alike.rows? {a b : Reply} (h : a.Alike b) : Answered Problem.Alike a.rows? b.rows? := by
  cases h with
  | rows found => exact .ok found
  | affected n => exact .ok []
  | refused code v w => exact .error (.ofCode code v w)
  | lost reason reason' => exact .error (.other ..)

lemma Reply.Alike.count {a b : Reply} (h : a.Alike b) :
    Answered Problem.Alike a.count b.count := by
  cases h with
  | rows found => exact .ok found.length
  | affected n => exact .ok n
  | refused code v w => exact .error (.ofCode code v w)
  | lost reason reason' => exact .error (.other ..)

/-- A way to make sense of replies that looks at nothing that the database says of a refusal. -/
def Discreet (read : Reply → Except Problem α) : Prop :=
  ∀ a b : Reply, a.Alike b → Answered Problem.Alike (read a) (read b)

lemma discreet_all (read : Row → Except Problem α) : Discreet (Reply.all read) :=
  fun _ _ h => h.rows?.bind fun _ => .refl .refl _

lemma discreet_first? (read : Row → Except Problem α) : Discreet (Reply.first? read) :=
  fun _ _ h => h.rows?.bind fun _ => .refl .refl _

lemma discreet_first (read : Row → Except Problem α) : Discreet (Reply.first read) :=
  fun _ _ h => (discreet_first? read _ _ h).bind fun _ => .refl .refl _

lemma steady_asking (s : Statement) {read : Reply → Except Problem α} (discreet : Discreet read) :
    Steady Access.Alike (Answered Problem.Alike) (asking s read) :=
  .ask fun a b h => .done (discreet a b h)

section Connections

variable {fail : Problem → LinkGauge.Problem}
  (keeps : ∀ p q, p.Alike q → (fail p).Alike (fail q))

include keeps

lemma steady_telling {p : Plan Access (Except Problem α)}
    (h : Steady Access.Alike (Answered Problem.Alike) p) :
    Steady Access.Alike (Answered LinkGauge.Problem.Alike) (telling fail p) :=
  h.bind fun _ _ answered => .done (answered.mapError keeps)

lemma steady_withConnection {p : Plan Access (Except LinkGauge.Problem α)}
    (h : Steady Access.Alike (Answered LinkGauge.Problem.Alike) p) :
    Steady Access.Alike (Answered LinkGauge.Problem.Alike) (withConnection fail p) := by
  refine .ask fun x y answered => ?_
  cases answered with
  | ok _ => exact h
  | error h => exact .done (.error (keeps _ _ h))

end Connections

/-- A single statement over a connection. -/
lemma steady_single (s : Statement) {read : Reply → Except Problem α} (discreet : Discreet read)
    {fail tell : Problem → LinkGauge.Problem} (fails : ∀ p q, p.Alike q → (fail p).Alike (fail q))
    (tells : ∀ p q, p.Alike q → (tell p).Alike (tell q)) :
    Steady Access.Alike (Answered LinkGauge.Problem.Alike)
      (withConnection fail (telling tell (asking s read))) :=
  steady_withConnection fails (steady_telling tells (steady_asking s discreet))

lemma steady_keepSpeed (s : Speed.Submission) :
    Steady Access.Alike (Answered LinkGauge.Problem.Alike) (keepSpeed s) := by
  rw [keepSpeed]
  split
  · exact .done (.error (.refl _))
  · exact steady_single _ (discreet_first _) (fun _ _ => .notStored _ _)
      fun _ _ => .notStored _ _

lemma steady_keepThroughput (s : Throughput.Submission) :
    Steady Access.Alike (Answered LinkGauge.Problem.Alike) (keepThroughput s) := by
  rw [keepThroughput]
  split
  · exact .done (.error (.refl _))
  · exact steady_single _ (discreet_first _) (fun _ _ => .notStored _ _)
      fun _ _ alike => alike.throughputProblem _

end Store

/-! ### Measuring -/

/-- Answers of either of two interfaces, which are related as each of them says. -/
def Interface.either {I J : Interface} (A : (q : I.Question) → I.Answer q → I.Answer q → Prop)
    (B : (q : J.Question) → J.Answer q → J.Answer q → Prop) :
    (q : (I.sum J).Question) → (I.sum J).Answer q → (I.sum J).Answer q → Prop
  | .inl q => A q
  | .inr q => B q

/-- Where questions of one interface are replaced by steady plans, that is steady as well. -/
lemma Plan.steady_translateRight {I J K : Interface}
    {A : (q : I.Question) → I.Answer q → I.Answer q → Prop}
    {B : (q : J.Question) → J.Answer q → J.Answer q → Prop}
    {C : (q : K.Question) → K.Answer q → K.Answer q → Prop}
    {answer : (q : J.Question) → Plan K (J.Answer q)}
    (h : ∀ q, Steady C (B q) (answer q)) (q : (I.sum J).Question) :
    Steady (Interface.either A C) (Interface.either A B q) (translateRight answer q) := by
  cases q with
  | inl q => exact steady_query (I := I.sum K) (.inl q)
  | inr q => exact (h q).translate fun q => steady_query (I := I.sum K) (.inr q)

/-- Answers of the place where results go that differ only in what is known of a problem. -/
def Delivery.Alike : (q : Delivery.Question) → Delivery.Answer q → Delivery.Answer q → Prop
  | .hosts | .speed _ | .throughput _ => Answered Problem.Alike

lemma Delivery.steady_direct (q : Delivery.Question) :
    Steady Store.Access.Alike (Alike q) (direct q) := by
  cases q with
  | hosts =>
    exact Store.steady_single _ (Store.discreet_all _) (fun _ _ => .store) fun _ _ => .store
  | speed s => exact (Store.steady_keepSpeed s).bind fun _ _ answered => .done (answered.map _)
  | throughput s =>
    exact (Store.steady_keepThroughput s).bind fun _ _ answered => .done (answered.map _)

/-- Answers that differ only in what is known of a problem of delivery. The bench says the same:
what a tool wrote to its error output is submitted with a failed test, and is meant to be seen
there. -/
abbrev Measuring.Alike :
    (q : Measuring.Question) → Measuring.Answer q → Measuring.Answer q → Prop :=
  Interface.either (fun _ => Eq) (Interface.either (fun _ => Eq) Delivery.Alike)

/-- Outcomes that differ only in what is known of a problem. -/
inductive Outcome.Alike : Outcome → Outcome → Prop where
  | recorded (host test : Int64) (success : Bool) :
      Alike (.recorded host test success) (.recorded host test success)
  | skipped : Alike .skipped .skipped
  | notSubmitted {p q : Problem} (alike : p.Alike q) : Alike (.notSubmitted p) (.notSubmitted q)

/-- Clients are told the same of outcomes that are alike. -/
lemma Outcome.Alike.toJson_eq {o o' : Outcome} (h : o.Alike o') (category : Category) :
    o.toJson category = o'.toJson category := by
  cases h with
  | notSubmitted alike => rw [Outcome.toJson, alike.publicMessage_eq, Outcome.toJson]
  | _ => rfl

namespace Rig

variable {r : Rig} {α : Type}

lemma steady_withSlot {R : α → α → Prop} {p : Plan Measuring α} (h : Steady Measuring.Alike R p) :
    Steady Measuring.Alike R (Measuring.withSlot p) :=
  .ask fun _ _ _ => h.bind fun _ _ same => .ask fun _ _ _ => .done same

/-- What is wrong with the output of a tool is found in the output, and so is found again. -/
lemma steady_speed : Steady Measuring.Alike (Answered Problem.Alike) r.speed := by
  have runs : Steady Measuring.Alike (Answered Problem.Alike) (Measuring.run r.speedCommand) := by
    refine .ask fun raw _ same => ?_
    obtain rfl : raw = _ := same
    exact .done (.refl .refl raw)
  have submits (reading : Except Problem Speed.Reading) :
      Steady Measuring.Alike (Answered Problem.Alike) (r.submitReading reading) := by
    cases reading with
    | error p => exact .done (.error (.refl p))
    | ok reading => exact .ask fun _ _ answered => .done answered
  refine runs.andThen fun raw => .ask fun now _ same => ?_
  obtain rfl : now = _ := same
  exact submits _

lemma steady_throughput (h : Host) (duration : Span) :
    Steady Measuring.Alike (Answered Problem.Alike) (r.throughput h duration) := by
  have measures : Steady Measuring.Alike Eq (r.measure h duration) := by
    rw [measure]
    split
    · exact .ask fun no => Empty.elim no
    · refine .ask fun raw _ same => ?_
      obtain rfl : raw = _ := same
      exact .done rfl
  refine measures.bind fun outcome _ same => .ask fun now _ same' => ?_
  obtain rfl := same
  obtain rfl : now = _ := same'
  exact .ask fun _ _ answered => .done (answered.map _)

lemma steady_selectHost (hosts : List Host) (category : Category) :
    Steady Measuring.Alike Eq (selectHost hosts category) := by
  have draws := asks_selectHost (Q := fun q => ∃ last, q = .inr (.inl (.draw last)))
    (fun last => ⟨last, rfl⟩) hosts category
  apply draws.steady
  rintro _ ⟨last, rfl⟩ x y same
  exact same

lemma steady_visit (hosts : List Host) (duration : Span) (category : Category) :
    Steady Measuring.Alike Outcome.Alike (r.visit hosts duration category) := by
  refine (steady_selectHost hosts category).bind fun drawn _ same => ?_
  obtain rfl := same
  cases drawn with
  | error p => exact .done .skipped
  | ok h =>
    refine (steady_throughput h duration).bind fun _ _ answered => ?_
    cases answered with
    | ok a => exact .done (.recorded ..)
    | error alike => exact .done (.notSubmitted alike)

/-- What came of the same categories, up to what is known of problems. -/
abbrev AlikeVisits : List (Category × Outcome) → List (Category × Outcome) → Prop :=
  List.Forall₂ fun v w => v.1 = w.1 ∧ v.2.Alike w.2

lemma AlikeVisits.toJson_eq {v w : List (Category × Outcome)} (h : AlikeVisits v w) :
    (v.map fun (category, o) => o.toJson category) =
      w.map fun (category, o) => o.toJson category := by
  induction h with
  | nil => rfl
  | @cons v w _ _ head _ ih =>
    obtain ⟨category, o⟩ := v
    obtain ⟨category', o'⟩ := w
    obtain ⟨rfl, alike⟩ := head
    have first : o.toJson category = o'.toJson category := alike.toJson_eq category
    simp only [List.map_cons, ih, first]

lemma steady_visits (hosts : List Host) (duration : Span) (categories : List Category) :
    Steady Measuring.Alike AlikeVisits (r.visits hosts duration categories) := by
  induction categories with
  | nil => exact .done .nil
  | cons category rest ih =>
    refine .ask fun stop _ same => ?_
    obtain rfl : stop = _ := same
    cases stop with
    | true => exact .done .nil
    | false =>
      exact (steady_visit hosts duration category).bind fun _ _ alike =>
        ih.bind fun _ _ others => .done (.cons ⟨rfl, alike⟩ others)

lemma steady_round (duration : Span) : Steady Measuring.Alike AlikeVisits (r.round duration) := by
  refine .ask fun _ _ answered => ?_
  cases answered with
  | ok hosts => exact steady_visits hosts duration _
  | error _ => exact .done .nil

lemma steady_throughputNow (id : Int64) (duration : Option Span) :
    Steady Measuring.Alike (Answered Problem.Alike) (r.throughputNow id duration) := by
  have hosts : Steady Measuring.Alike (Answered Problem.Alike) Measuring.hosts :=
    .ask fun _ _ answered => .done answered
  refine hosts.andThen fun hosts => ?_
  rw [throughputAmong]
  split
  · exact .done (.error (.refl _))
  · exact steady_withSlot (steady_throughput _ _)

end Rig

/-! ### Responses -/

namespace Service

variable {α : Type}

/-- Answers to the service that differ only in what the database says of its refusals. -/
abbrev Alike : (q : Serving.Question) → Serving.Answer q → Serving.Answer q → Prop :=
  Interface.either (fun _ => Eq) (Interface.either (fun _ => Eq) Store.Access.Alike)

lemma steady_measuring {R : α → α → Prop} {p : Plan Measuring α}
    (h : Steady Measuring.Alike R p) : Steady Alike R (measuring p) :=
  h.translate (Plan.steady_translateRight (Plan.steady_translateRight Delivery.steady_direct))

lemma steady_stored {R : α → α → Prop} {p : Plan Store.Access α}
    (h : Steady Store.Access.Alike R p) : Steady Alike R (stored p) :=
  h.translate fun q => Plan.steady_query (I := Serving) (.inr (.inr q))

lemma steady_single {s : Store.Statement} {read : Reply → Except Store.Problem α}
    (discreet : Store.Discreet read) :
    Steady Alike (Answered Problem.Alike) (single (Store.asking s read)) :=
  steady_stored (Store.steady_single s discreet (fun _ _ => .store) fun _ _ => .store)

lemma steady_present {resource : String} {id : Int64} {s : Store.Statement}
    (read : Store.Row → Except Store.Problem α) :
    Steady Alike (Answered Problem.Alike)
      (present resource id (Store.asking s (Reply.first? read))) := by
  refine (steady_single (Store.discreet_first? read)).andThen fun found => ?_
  cases found with
  | none => exact .done (.error (.refl _))
  | some a => exact .done (.ok a)

/-- What answers with the same response, whatever the database says of its refusals. -/
abbrev Discreet (p : Plan Serving Web.Response) : Prop := Steady Alike Eq p

lemma discreet_report {status : ℕ} {toJson : α → Json} {p : Plan Serving (Except Problem α)}
    (h : Steady Alike (Answered Problem.Alike) p) : Discreet (report status toJson p) := by
  refine h.bind fun _ _ answered => ?_
  cases answered with
  | ok a => exact .done rfl
  | error alike => exact .done alike.ofProblem_eq

lemma discreet_removed {resource : String} {id : Int64} {s : Store.Statement} :
    Discreet (reportDone (removed resource id (Store.delete s))) := by
  have finds : Steady Alike (Answered Problem.Alike) (single (Store.delete s)) :=
    steady_single fun _ _ alike => alike.count.map _
  have removes : Steady Alike (Answered Problem.Alike) (removed resource id (Store.delete s)) :=
    finds.andThen fun _ => .done (.refl .refl _)
  refine removes.bind fun _ _ answered => ?_
  cases answered with
  | ok _ => exact .done rfl
  | error alike => exact .done alike.ofProblem_eq

lemma discreet_orComplain {read : Except Web.Response α} {f : α → Plan Serving Web.Response}
    (h : ∀ a, Discreet (f a)) : Discreet (orComplain read f) := by
  cases read with
  | ok a => exact h a
  | error response => exact .done rfl

lemma steady_dashboard :
    Steady Store.Access.Alike (Answered Problem.Alike) dashboard := by
  have lists {β : Type} (s : Store.Statement) (read : Store.Row → Except Store.Problem β) :=
    Store.steady_asking s (Store.discreet_all read)
  have counts (s : Store.Statement) := Store.steady_asking s (Store.discreet_first Store.readCount)
  apply Store.steady_withConnection fun _ _ => .store
  apply Store.steady_telling fun _ _ => .store
  exact (lists _ _).andThen fun _ => (lists _ _).andThen fun _ => (counts _).andThen fun _ =>
    (lists _ _).andThen fun _ => (lists _ _).andThen fun _ => (counts _).andThen fun _ =>
    (lists _ _).andThen fun _ => .done (.ok _)

variable {rig : Rig} {r : Web.Request}

lemma discreet_listThroughput : Discreet (listThroughput r) := by
  refine discreet_orComplain fun q => ?_
  cases q.category with
  | none => exact discreet_report (steady_single (Store.discreet_all _))
  | some category => exact discreet_report (steady_single (Store.discreet_all _))

lemma discreet_runSpeed : Discreet (runSpeed rig) := by
  have numbers := steady_measuring (Rig.steady_withSlot rig.steady_speed)
  exact discreet_report (numbers.andThen fun _ => steady_present _)

lemma discreet_runHost (written : String) : Discreet (runHost rig written r) := by
  refine discreet_orComplain fun id => discreet_orComplain fun q => ?_
  refine discreet_orComplain fun duration => ?_
  have numbers := steady_measuring (Rig.steady_throughputNow (r := rig) id duration)
  exact discreet_report (numbers.andThen fun _ => steady_present _)

/-- A round is told in the same words if what came of its categories is alike. -/
lemma discreet_runRound : Discreet (runRound rig r) := by
  refine discreet_orComplain fun q => discreet_orComplain fun duration => ?_
  refine (steady_measuring (Rig.steady_withSlot (Rig.steady_round _))).bind fun _ _ alike => ?_
  rw [alike.toJson_eq]
  exact .done rfl

lemma discreet_respondTo (resource : Resource) (method : Method) :
    Discreet (respondTo rig r resource method) := by
  fun_cases respondTo rig r resource method with
  | case1 | case20 => exact .done rfl
  -- Hosts and tests are listed.
  | case2 | case7 =>
    exact discreet_orComplain fun _ => discreet_report (steady_single (Store.discreet_all _))
  | case9 =>
    exact discreet_orComplain fun _ => discreet_orComplain fun _ =>
      discreet_report (steady_single (Store.discreet_all _))
  | case13 => exact discreet_listThroughput
  -- One of them is shown or deleted.
  | case4 | case10 | case15 =>
    exact discreet_orComplain fun _ => discreet_report (steady_present _)
  | case6 | case11 | case16 => exact discreet_orComplain fun _ => discreet_removed
  -- Something is stored.
  | case3 =>
    exact discreet_orComplain fun _ => discreet_orComplain fun _ =>
      discreet_report (steady_single (Store.discreet_first _))
  | case5 =>
    exact discreet_orComplain fun _ => discreet_orComplain fun _ => discreet_orComplain fun _ =>
      discreet_report (steady_single (Store.discreet_first _))
  | case8 =>
    exact discreet_orComplain fun _ => discreet_report (steady_stored (Store.steady_keepSpeed _))
  | case14 =>
    exact discreet_orComplain fun _ =>
      discreet_report (steady_stored (Store.steady_keepThroughput _))
  -- Something is measured.
  | case12 => exact discreet_runSpeed
  | case17 => exact discreet_runRound
  | case18 => exact discreet_runHost _
  | case19 => exact discreet_report (steady_stored steady_dashboard)

lemma discreet_respond : Discreet (respond rig r) := by
  rw [respond]
  split
  · exact .done rfl
  · split
    · exact .done rfl
    · split
      · refine (discreet_respondTo _ _).bind fun _ _ same => ?_
        exact .done (same ▸ rfl)
      · exact .done rfl
    · exact discreet_respondTo _ _

/-- What is known of a problem inside does not get out. Problems that are alike are told in the same
response and in the same entry of a round, which hold all that clients may know. And whatever else
the database had said of its refusals, a run of the service would have gone as it did, to the same
response. -/
theorem details_stay_inside :
    (∀ p q : Problem, p.Alike q →
      Web.Response.ofProblem p = Web.Response.ofProblem q ∧
        ∀ category, Outcome.toJson category (.notSubmitted p) =
          Outcome.toJson category (.notSubmitted q)) ∧
      (∀ p : Problem, ∃ text, (Web.Response.ofProblem p).body = .text text ∧
        ∀ part ∈ p.told, part.toList <:+: text.toList) ∧
      ∀ (rig : Rig) (r : Web.Request) (turns turns' : List (Turn Serving))
        (response : Web.Response), (respond rig r).Ends turns response →
          List.Forall₂ (Turn.Related Alike) turns turns' →
            (respond rig r).Ends turns' response := by
  refine ⟨fun p q alike => ⟨alike.ofProblem_eq, ?entry⟩, fun p => ⟨_, rfl, p.told_infix⟩, ?run⟩
  case entry => exact (Outcome.Alike.notSubmitted alike).toJson_eq
  case run =>
    intro rig r turns turns' response ends related
    obtain ⟨_, rfl, ends'⟩ := discreet_respond.ends ends related
    exact ends'

/-- What a database says of a host that tests are of. -/
def outspoken : Violation :=
  ⟨some "throughput_tests_host_id_fkey", some "throughput_tests",
    "update or delete on table hosts violates foreign key constraint"⟩

/-- A database that says nothing of it. -/
def silent : Violation := ⟨none, none, ""⟩

lemma ends_refused :
    (respond station dismissal).Ends
      [connection (.ok ()), execution (.deleteHost 7) (.refused "23503" outspoken)]
      (.text 400 "Invalid reference to related resource") := by
  have routed : Routed dismissal (.host "7") .delete := by constructor <;> decide
  have number : pathId "id" "7" = .ok 7 := by rfl
  rw [respond_routed routed (by decide), respondTo, deleteHost, number, orComplain]
  exact .ask _ (.ask _ (.refl _))

/-- A host that has tests is not deleted, and nobody outside learns what the database said of it. -/
theorem details_stay_inside_outspoken :
    Problem.Alike (.store (.foreignKey outspoken)) (.store (.foreignKey silent)) ∧
      Web.Response.ofProblem (.store (.foreignKey outspoken)) =
        .ofProblem (.store (.foreignKey silent)) ∧
      (respond station dismissal).Ends
        [connection (.ok ()), execution (.deleteHost 7) (.refused "23503" silent)]
        (.text 400 "Invalid reference to related resource") := by
  obtain ⟨problems, -, runs⟩ := details_stay_inside
  have alike : Problem.Alike (.store (.foreignKey outspoken)) (.store (.foreignKey silent)) :=
    .store (.foreignKey _ _)
  refine ⟨alike, (problems _ _ alike).1, runs _ _ _ _ _ ends_refused ?_⟩
  exact .cons (.intro (.ok ())) (.cons (.intro (.refused _ _ _)) .nil)

end Service

end LinkGauge
