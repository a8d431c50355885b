/-!
# Plans

A plan is a computation that asks questions of the world and goes on with the answers. What may be
asked, and what kind of answer each question has, is an `Interface`. Nothing is said about where
answers come from: a plan can be run against a script, translated into a plan over another
interface, or taken one question at a time.
-/

namespace LinkGauge

/-- The questions that may be asked, and the kinds of answers. -/
structure Interface where
  Question : Type
  Answer : Question → Type

/-- The questions of either of two interfaces. -/
def Interface.sum (I J : Interface) : Interface where
  Question := I.Question ⊕ J.Question
  Answer
    | .inl q => I.Answer q
    | .inr q => J.Answer q

/-- A computation of an `α` that asks questions. -/
inductive Plan (I : Interface) (α : Type) where
  | done (a : α)
  | ask (q : I.Question) (next : I.Answer q → Plan I α)

namespace Plan

variable {I J : Interface} {α β σ : Type}

/-- Go on with `f` where the plan is done. -/
def bind (p : Plan I α) (f : α → Plan I β) : Plan I β :=
  match p with
  | done a => f a
  | ask q next => ask q fun answer => (next answer).bind f

instance : Monad (Plan I) where
  pure := done
  bind := bind

/-- Ask a single question. -/
def query (q : I.Question) : Plan I (I.Answer q) := ask q done

/-- Give the answers from a state. -/
def run (answer : (q : I.Question) → σ → I.Answer q × σ) (p : Plan I α) (s : σ) : α × σ :=
  match p with
  | done a => (a, s)
  | ask q next =>
    let (a, s) := answer q s
    run answer (next a) s

/-- Give the answers in a monad. -/
def interpret {m : Type → Type} [Monad m] (answer : (q : I.Question) → m (I.Answer q)) :
    Plan I α → m α
  | done a => pure a
  | ask q next => do interpret answer (next (← answer q))

/-- Replace each question by a plan over another interface. -/
def translate (answer : (q : I.Question) → Plan J (I.Answer q)) (p : Plan I α) : Plan J α :=
  match p with
  | done a => done a
  | ask q next => (answer q).bind fun a => translate answer (next a)

/-- Where questions of `J` are replaced and those of `I` stay. -/
def translateRight {K : Interface} (answer : (q : J.Question) → Plan K (J.Answer q)) :
    (q : (I.sum J).Question) → Plan (I.sum K) ((I.sum J).Answer q)
  | .inl q => ask (.inl q) done
  | .inr q => (answer q).translate fun (q : K.Question) => ask (.inr q) done

/-- Go on with the plan `f` makes if there is no error so far. -/
def andThen {ε : Type} (p : Plan I (Except ε α)) (f : α → Plan I (Except ε β)) :
    Plan I (Except ε β) :=
  p.bind fun
    | .ok a => f a
    | .error e => done (.error e)

/-! ### Laws -/

@[simp] theorem done_bind (a : α) (f : α → Plan I β) : (done a).bind f = f a := rfl

@[simp] theorem ask_bind (q : I.Question) (next : I.Answer q → Plan I α) (f : α → Plan I β) :
    (ask q next).bind f = ask q fun answer => (next answer).bind f := rfl

@[simp] theorem bind_done (p : Plan I α) : p.bind done = p := by
  induction p with
  | done a => rfl
  | ask q next ih => simp [ih]

theorem bind_assoc {γ : Type} (p : Plan I α) (f : α → Plan I β) (g : β → Plan I γ) :
    (p.bind f).bind g = p.bind fun a => (f a).bind g := by
  induction p with
  | done a => rfl
  | ask q next ih => simp [ih]

theorem run_bind (answer : (q : I.Question) → σ → I.Answer q × σ) (p : Plan I α)
    (f : α → Plan I β) (s : σ) :
    (p.bind f).run answer s = (f (p.run answer s).1).run answer (p.run answer s).2 := by
  induction p generalizing s with
  | done a => rfl
  | ask q next ih => simp only [ask_bind, run]; exact ih _ _

end Plan

end LinkGauge
