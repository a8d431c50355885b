import LinkGauge.Plan
import Mathlib.Tactic

/-!
# Plans as trees

What plans can ask and result in, how far they have come when some of their questions are answered,
and how translations go together with sequencing and with runs.
-/

namespace LinkGauge.Plan

variable {I J : Interface} {α β σ : Type}

/-! ### Results -/

/-- Whatever the answers are, the result satisfies `P`. -/
inductive Yields (P : α → Prop) : Plan I α → Prop where
  | done {a : α} (h : P a) : Yields P (done a)
  | ask {q : I.Question} {next : I.Answer q → Plan I α} (h : ∀ answer, Yields P (next answer)) :
      Yields P (ask q next)

variable {P : α → Prop} {p : Plan I α}

lemma Yields.bind {Q : β → Prop} {f : α → Plan I β} (h : p.Yields P)
    (hf : ∀ a, P a → (f a).Yields Q) : (p.bind f).Yields Q := by
  induction h with
  | done ha => exact hf _ ha
  | ask _ ih => exact .ask ih

lemma Yields.trivial (p : Plan I α) : p.Yields fun _ => True := by
  induction p with
  | done a => exact .done True.intro
  | ask q next ih => exact .ask ih

lemma Yields.translate (answer : (q : I.Question) → Plan J (I.Answer q)) (h : p.Yields P) :
    (p.translate answer).Yields P := by
  induction h with
  | done ha => exact .done ha
  | ask _ ih => exact (Yields.trivial _).bind fun a _ => ih a

/-- Only what a plan can result in counts for how it goes on. -/
lemma bind_congr {f g : α → Plan I β} (h : p.Yields P) (eq : ∀ a, P a → f a = g a) :
    p.bind f = p.bind g := by
  induction h with
  | done ha => exact eq _ ha
  | ask _ ih =>
    rw [ask_bind, ask_bind]
    congr 1
    funext answer
    exact ih answer

/-! ### Translations -/

lemma translate_bind (answer : (q : I.Question) → Plan J (I.Answer q)) (p : Plan I α)
    (f : α → Plan I β) :
    (p.bind f).translate answer = (p.translate answer).bind fun a => (f a).translate answer := by
  induction p with
  | done a => rfl
  | ask q next ih =>
    rw [ask_bind, translate, translate, bind_assoc]
    congr 1
    funext a
    exact ih a

/-- A question that is replaced by a single one is asked in its place. -/
lemma run_translate_ask (place : I.Question → J.Question)
    (back : (q : I.Question) → J.Answer (place q) → I.Answer q)
    (answer : (q : J.Question) → σ → J.Answer q × σ) (p : Plan I α) (s : σ) :
    (p.translate fun q => .ask (place q) fun a => .done (back q a)).run answer s =
      p.run (fun q s => ((back q (answer (place q) s).1), (answer (place q) s).2)) s := by
  induction p generalizing s with
  | done a => rfl
  | ask q next ih =>
    rw [translate, ask_bind, run, run]
    exact ih _ _

/-! ### Questions -/

/-- Every question that may come up satisfies `Q`. -/
inductive Asks (Q : I.Question → Prop) : Plan I α → Prop where
  | done (a : α) : Asks Q (done a)
  | ask {q : I.Question} {next : I.Answer q → Plan I α} (here : Q q)
      (later : ∀ answer, Asks Q (next answer)) : Asks Q (ask q next)

section Asks

variable {Q : I.Question → Prop} {p : Plan I α}

lemma Asks.mono {R : I.Question → Prop} (h : p.Asks Q) (imp : ∀ q, Q q → R q) : p.Asks R := by
  induction h with
  | done a => exact .done a
  | ask here _ ih => exact .ask (imp _ here) ih

lemma Asks.bind {f : α → Plan I β} (h : p.Asks Q) (hf : ∀ a, (f a).Asks Q) :
    (p.bind f).Asks Q := by
  induction h with
  | done a => exact hf a
  | ask here _ ih => exact .ask here ih

lemma Asks.andThen {ε : Type} {p : Plan I (Except ε α)} {f : α → Plan I (Except ε β)}
    (h : p.Asks Q) (hf : ∀ a, (f a).Asks Q) : (p.andThen f).Asks Q := by
  apply h.bind
  rintro (e | a)
  · exact .done _
  · exact hf a

/-- Questions that come up bring up those that they are replaced by. -/
lemma Asks.translate {R : J.Question → Prop} {answer : (q : I.Question) → Plan J (I.Answer q)}
    (h : p.Asks Q) (imp : ∀ q, Q q → (answer q).Asks R) : (p.translate answer).Asks R := by
  induction h with
  | done a => exact .done a
  | ask here _ ih => exact (imp _ here).bind ih

lemma Asks.trivial (p : Plan I α) : p.Asks fun _ => True := by
  induction p with
  | done a => exact .done a
  | ask q next ih => exact .ask True.intro ih

end Asks

/-! ### Courses -/

/-- A question and its answer. -/
structure Turn (I : Interface) where
  question : I.Question
  answer : I.Answer question

/-- After some turns, a second plan is what is left of the first. -/
inductive Leads : Plan I α → List (Turn I) → Plan I α → Prop where
  | refl (p : Plan I α) : Leads p [] p
  | ask {q : I.Question} {next : I.Answer q → Plan I α} {turns : List (Turn I)} {p : Plan I α}
      (answer : I.Answer q) (h : Leads (next answer) turns p) :
      Leads (ask q next) (⟨q, answer⟩ :: turns) p

/-- The turns take the plan to its end, with the result `a`. -/
abbrev Ends (p : Plan I α) (turns : List (Turn I)) (a : α) : Prop := Leads p turns (done a)

section Leads

variable {turns : List (Turn I)} {p p' : Plan I α} {a : α}

/-- One turn more. -/
lemma Leads.snoc {q : I.Question} {next : I.Answer q → Plan I α}
    (h : Leads p turns (Plan.ask q next)) (answer : I.Answer q) :
    Leads p (turns ++ [⟨q, answer⟩]) (next answer) := by
  generalize left : Plan.ask q next = rest at h
  induction h with
  | refl p =>
    subst left
    exact .ask answer (.refl _)
  | ask first _ ih => exact .ask first (ih left)

lemma leads_done : Leads (done a) turns p ↔ turns = [] ∧ p = done a := by
  constructor
  · intro h
    cases h
    exact ⟨rfl, rfl⟩
  · rintro ⟨rfl, rfl⟩
    exact .refl _

lemma ends_done {b : α} : Ends (done b) turns a ↔ turns = [] ∧ a = b := by
  constructor
  · intro h
    cases h
    exact ⟨rfl, rfl⟩
  · rintro ⟨rfl, rfl⟩
    exact .refl _

lemma ends_ask {q : I.Question} {next : I.Answer q → Plan I α} :
    Ends (Plan.ask q next) turns a ↔
      ∃ answer rest, turns = ⟨q, answer⟩ :: rest ∧ Ends (next answer) rest a := by
  constructor
  · intro h
    cases h with
    | ask answer h => exact ⟨answer, _, rfl, h⟩
  · rintro ⟨answer, rest, rfl, h⟩
    exact .ask answer h

/-- Who comes to the end of two plans in sequence comes to the end of one and then of the other. -/
lemma ends_bind {f : α → Plan I β} {b : β} :
    Ends (p.bind f) turns b ↔
      ∃ a first second, turns = first ++ second ∧ Ends p first a ∧ Ends (f a) second b := by
  induction p generalizing turns with
  | done a =>
    constructor
    · intro h
      exact ⟨a, [], turns, rfl, .refl _, h⟩
    · rintro ⟨_, first, second, rfl, h, h'⟩
      obtain ⟨rfl, rfl⟩ := ends_done.mp h
      exact h'
  | ask q next ih =>
    rw [ask_bind, ends_ask]
    constructor
    · rintro ⟨answer, rest, rfl, h⟩
      obtain ⟨a, first, second, rfl, h, h'⟩ := (ih answer).mp h
      exact ⟨a, _, second, rfl, .ask answer h, h'⟩
    · rintro ⟨a, first, second, rfl, h, h'⟩
      obtain ⟨answer, rest, rfl, left⟩ := ends_ask.mp h
      exact ⟨answer, rest ++ second, rfl, (ih answer).mpr ⟨a, rest, second, rfl, left, h'⟩⟩

/-- What came up in a course may come up. -/
lemma Asks.of_leads {Q : I.Question → Prop} (asks : p.Asks Q) (h : Leads p turns p') :
    ∀ t ∈ turns, Q t.question := by
  induction h with
  | refl p => exact List.forall_mem_nil _
  | ask answer _ ih =>
    cases asks with
    | ask here later => exact List.forall_mem_cons.mpr ⟨here, ih (later answer)⟩

/-! ### Questions after others -/

/-- Every question that may come up satisfies `Q` together with the turns before it. -/
inductive Warranted (Q : List (Turn I) → I.Question → Prop) : List (Turn I) → Plan I α → Prop where
  | done (past : List (Turn I)) (a : α) : Warranted Q past (done a)
  | ask {past : List (Turn I)} {q : I.Question} {next : I.Answer q → Plan I α} (here : Q past q)
      (later : ∀ answer, Warranted Q (past ++ [⟨q, answer⟩]) (next answer)) :
      Warranted Q past (Plan.ask q next)

variable {Q : List (Turn I) → I.Question → Prop} {past : List (Turn I)}

/-- From some turns on, it may be enough what the questions are. -/
lemma Asks.warranted {R : I.Question → Prop} (h : p.Asks R)
    (imp : ∀ more q, R q → Q (past ++ more) q) : p.Warranted Q past := by
  induction h generalizing past with
  | done a => exact .done _ a
  | ask here _ ih =>
    have start := imp [] _ here
    rw [List.append_nil] at start
    refine .ask start fun answer => ih answer ?_
    intro more q asked
    rw [List.append_assoc]
    exact imp _ q asked

/-- What came up in a course was warranted when it came up. -/
lemma Warranted.of_leads (h : p.Warranted Q past) {before after : List (Turn I)} {t : Turn I}
    (leads : Leads p (before ++ t :: after) p') : Q (past ++ before) t.question := by
  generalize eq : before ++ t :: after = turns at leads
  induction leads generalizing past before with
  | refl p => exact absurd eq (by simp)
  | ask answer _ ih =>
    cases h with
    | ask here later =>
      cases before with
      | nil =>
        obtain ⟨rfl, -⟩ := List.cons.inj eq
        rwa [List.append_nil]
      | cons first before =>
        obtain ⟨rfl, rest⟩ := List.cons.inj eq
        rw [List.append_cons]
        exact ih (later answer) rest

end Leads

/-! ### Two plans side by side -/

/-- Two plans ask the same as long as their answers are related by `A`, and come to results that are
related by `R`. -/
inductive Related (A : (q : I.Question) → I.Answer q → I.Answer q → Prop) (R : α → β → Prop) :
    Plan I α → Plan I β → Prop where
  | done {a : α} {b : β} (h : R a b) : Related A R (done a) (done b)
  | ask {q : I.Question} {next : I.Answer q → Plan I α} {next' : I.Answer q → Plan I β}
      (h : ∀ x y, A q x y → Related A R (next x) (next' y)) :
      Related A R (ask q next) (ask q next')

/-- A plan that asks the same and comes to related results whichever of related answers it gets. -/
abbrev Steady (A : (q : I.Question) → I.Answer q → I.Answer q → Prop) (R : α → α → Prop)
    (p : Plan I α) : Prop := Related A R p p

/-- Two turns with the same question and related answers. -/
inductive Turn.Related (A : (q : I.Question) → I.Answer q → I.Answer q → Prop) :
    Turn I → Turn I → Prop where
  | intro {q : I.Question} {x y : I.Answer q} (h : A q x y) : Related A ⟨q, x⟩ ⟨q, y⟩

section Related

variable {A : (q : I.Question) → I.Answer q → I.Answer q → Prop} {R : α → β → Prop}
  {p : Plan I α} {p' : Plan I β}

lemma Related.bind {γ δ : Type} {S : γ → δ → Prop} {f : α → Plan I γ} {f' : β → Plan I δ}
    (h : p.Related A R p') (hf : ∀ a b, R a b → (f a).Related A S (f' b)) :
    (p.bind f).Related A S (p'.bind f') := by
  induction h with
  | done h => exact hf _ _ h
  | ask _ ih => exact .ask ih

/-- Related plans stay so where every question is replaced by a steady plan. -/
lemma Related.translate {B : (q : J.Question) → J.Answer q → J.Answer q → Prop}
    {answer : (q : I.Question) → Plan J (I.Answer q)} (h : p.Related A R p')
    (ha : ∀ q, Steady B (A q) (answer q)) :
    (p.translate answer).Related B R (p'.translate answer) := by
  induction h with
  | done h => exact .done h
  | ask _ ih => exact (ha _).bind ih

/-- A plan is steady where only the same answers are related. -/
lemma Asks.steady {Q : I.Question → Prop} {p : Plan I α} (h : p.Asks Q)
    (same : ∀ q, Q q → ∀ x y, A q x y → x = y) : Steady A Eq p := by
  induction h with
  | done a => exact .done rfl
  | ask here _ ih =>
    refine .ask fun x y related => ?_
    obtain rfl := same _ here x y related
    exact ih x

/-- With related answers, the course of one plan is a course of the other to a related result. -/
lemma Related.ends {turns turns' : List (Turn I)} {a : α} (h : p.Related A R p')
    (ends : p.Ends turns a) (related : List.Forall₂ (Turn.Related A) turns turns') :
    ∃ b, R a b ∧ p'.Ends turns' b := by
  induction h generalizing turns turns' with
  | done h =>
    obtain ⟨rfl, rfl⟩ := ends_done.mp ends
    cases related
    exact ⟨_, h, .refl _⟩
  | ask _ ih =>
    obtain ⟨x, rest, rfl, left⟩ := ends_ask.mp ends
    cases related with
    | cons first others =>
      cases first with
      | intro h =>
        obtain ⟨b, same, left'⟩ := ih x _ h left others
        exact ⟨b, same, .ask _ left'⟩

end Related

end LinkGauge.Plan
