import LinkGauge.Delivery.Remote
import LinkGauge.Proofs.Plans

/-!
# Pursuits

A call is made, and where the reply asks for another one, that is made instead. So there is a row of
calls, each but the first being the one that the reply before it asks for. A reply that asks to get
something else instead takes away what was posted, for good.
-/

namespace LinkGauge

open Plan (Turn)

namespace Web

/-- A network takes the scheme of the call. -/
def Call.IsCarried (c : Call) : Prop := c.url.scheme = "http" ∨ c.url.scheme = "https"

/-- A call that posts a document. -/
def Call.Posts (c : Call) (j : Json) : Prop := c.method = "POST" ∧ c.body = some j

/-- A call that gets something and says nothing. -/
def Call.Gets (c : Call) : Prop := c.method = "GET" ∧ c.body = none

/-- The call that a reply asks for instead of one that was made. -/
def Reply.elsewhere? (c : Call) : Reply → Option Call
  | .unreached _ => none
  | .response status location _ => c.redirected? status location

/-- A reply that asks to get something else instead. -/
def Reply.TurnsAway (reply : Reply) : Prop :=
  ∃ location body, ∃ status ∈ [301, 302, 303], reply = .response status location body

/-- Calls from a first one on, of which so many may be sent elsewhere, and the reply that they come
to. -/
inductive Pursuit : ℕ → Call → List (Turn Exchange) → Reply → Prop where
  | refused {left : ℕ} {c : Call} (strange : ¬c.IsCarried) :
      Pursuit left c [] (refusedScheme c.url)
  | answered {left : ℕ} {c : Call} {reply : Reply} (final : reply.elsewhere? c = none) :
      Pursuit left c [⟨c, reply⟩] reply
  | elsewhere {left : ℕ} {c c' : Call} {reply final : Reply} {turns : List (Turn Exchange)}
      (sent : reply.elsewhere? c = some c') (rest : Pursuit left c' turns final) :
      Pursuit (left + 1) c (⟨c, reply⟩ :: turns) final
  | tooMany {c c' : Call} {reply : Reply} (sent : reply.elsewhere? c = some c') :
      Pursuit 0 c [⟨c, reply⟩] (tooManyRedirects c'.url)

variable {left : ℕ} {c c' : Call} {turns : List (Turn Exchange)} {reply final : Reply}

lemma ends_attempt {next : Call → Plan Exchange Reply}
    (ends : (attempt c next).Ends turns final) :
    ¬c.IsCarried ∧ turns = [] ∧ final = refusedScheme c.url ∨
      ∃ reply rest, turns = ⟨c, reply⟩ :: rest ∧
        (reply.elsewhere? c = none ∧ rest = [] ∧ final = reply ∨
          ∃ c', reply.elsewhere? c = some c' ∧ (next c').Ends rest final) := by
  rw [attempt] at ends
  split at ends
  next =>
    obtain ⟨reply, rest, rfl, going⟩ := Plan.ends_ask.mp ends
    refine .inr ⟨reply, rest, rfl, ?_⟩
    cases reply with
    | unreached causes =>
      obtain ⟨rfl, rfl⟩ := Plan.ends_done.mp going
      exact .inl ⟨rfl, rfl, rfl⟩
    | response status location body =>
      simp only [Reply.elsewhere?]
      cases sent : c.redirected? status location with
      | none =>
        simp only [sent] at going
        obtain ⟨rfl, rfl⟩ := Plan.ends_done.mp going
        exact .inl ⟨rfl, rfl, rfl⟩
      | some c' =>
        simp only [sent] at going
        exact .inr ⟨c', rfl, going⟩
  next strange =>
    obtain ⟨rfl, rfl⟩ := Plan.ends_done.mp ends
    exact .inl ⟨strange, rfl, rfl⟩

lemma pursuit_of_ends (ends : (follow left c).Ends turns final) : Pursuit left c turns final := by
  induction left generalizing c turns with
  | zero =>
    rcases ends_attempt ends with ⟨strange, rfl, rfl⟩ | ⟨reply, rest, rfl, ⟨last, rfl, rfl⟩ | more⟩
    · exact .refused strange
    · exact .answered last
    · obtain ⟨c', sent, going⟩ := more
      obtain ⟨rfl, rfl⟩ := Plan.ends_done.mp going
      exact .tooMany sent
  | succ left ih =>
    rcases ends_attempt ends with ⟨strange, rfl, rfl⟩ | ⟨reply, rest, rfl, ⟨last, rfl, rfl⟩ | more⟩
    · exact .refused strange
    · exact .answered last
    · obtain ⟨c', sent, going⟩ := more
      exact .elsewhere sent (ih going)

/-! ### What a call elsewhere keeps -/

section Elsewhere

variable {j : Json}

lemma redirected_eq_some {status : ℕ} {location : Option String}
    (sent : c.redirected? status location = some c') :
    (status ∈ [301, 302, 303] ∧ c'.method = (if c.method = "HEAD" then "HEAD" else "GET") ∧
        c'.body = none) ∨
      status ∈ [307, 308] ∧ c'.method = c.method ∧ c'.body = c.body := by
  simp only [Call.redirected?, Option.bind_eq_bind, Option.bind_eq_some_iff] at sent
  obtain ⟨place, -, url, -, sent⟩ := sent
  split at sent
  next away =>
    cases sent
    exact .inl ⟨by simpa using away, rfl, rfl⟩
  next =>
    split at sent
    next again =>
      cases sent
      exact .inr ⟨by simpa using again, rfl, rfl⟩
    next => cases sent

/-- Who is turned away gets something, and who is not repeats the post. -/
lemma Call.Posts.elsewhere (posts : c.Posts j) (sent : reply.elsewhere? c = some c') :
    reply.TurnsAway ∧ c'.Gets ∨ ¬reply.TurnsAway ∧ c'.Posts j := by
  cases reply with
  | unreached => cases sent
  | response status location body =>
    rcases redirected_eq_some sent with ⟨away, method, none⟩ | ⟨again, method, same⟩
    · refine .inl ⟨⟨location, body, status, away, rfl⟩, ?_, none⟩
      rw [method, posts.1]
      decide
    · refine .inr ⟨?_, method.trans posts.1, same.trans posts.2⟩
      rintro ⟨_, _, status, away, ⟨⟩⟩
      simp only [List.mem_cons, List.not_mem_nil, or_false] at away again
      omega

lemma Call.Posts.not_gets (posts : c.Posts j) : ¬c.Gets := by
  intro gets
  exact absurd (posts.1.symm.trans gets.1) (by decide)

lemma Call.Gets.elsewhere (gets : c.Gets) (sent : reply.elsewhere? c = some c') : c'.Gets := by
  cases reply with
  | unreached => cases sent
  | response status location body =>
    rcases redirected_eq_some sent with ⟨-, method, none⟩ | ⟨-, method, same⟩
    · refine ⟨?_, none⟩
      rw [method, gets.1]
      decide
    · exact ⟨method.trans gets.1, same.trans gets.2⟩

lemma not_isSuccess_of_mem {status : ℕ} (mem : status ∈ [301, 302, 303, 307, 308]) :
    Delivery.isSuccess status = false := by
  revert mem
  revert status
  decide

/-- A success does not send a call elsewhere. -/
lemma redirected_eq_none {status : ℕ} {location : Option String}
    (success : Delivery.isSuccess status) : c.redirected? status location = none := by
  rw [Option.eq_none_iff_forall_ne_some]
  intro c' sent
  have mem : status ∈ [301, 302, 303, 307, 308] := by
    rcases redirected_eq_some sent with ⟨away, -⟩ | ⟨again, -⟩
    · exact List.mem_append_left [307, 308] away
    · exact List.mem_append_right [301, 302, 303] again
  rw [not_isSuccess_of_mem mem] at success
  cases success

/-- Nor does it turn it away. -/
lemma not_turnsAway_of_isSuccess {status : ℕ} {location : Option String}
    {body : Except (List String) Content} (success : Delivery.isSuccess status) :
    ¬Reply.TurnsAway (.response status location body) := by
  rintro ⟨_, _, status, away, ⟨⟩⟩
  rw [not_isSuccess_of_mem (List.mem_append_left [307, 308] away)] at success
  cases success

end Elsewhere

/-! ### What pursuits are -/

namespace Pursuit

variable {j : Json}

/-- Each call but the first is the one that the reply before it asks for. -/
lemma isChain (h : Pursuit left c turns final) :
    (∀ t ∈ turns.head?, t.question = c) ∧
      turns.IsChain fun t u => Reply.elsewhere? t.question t.answer = some u.question := by
  induction h with
  | refused => exact ⟨fun t mem => absurd mem (Option.not_mem_none t), .nil⟩
  | answered =>
    refine ⟨?_, .singleton _⟩
    rintro t ⟨⟩
    rfl
  | tooMany =>
    refine ⟨?_, .singleton _⟩
    rintro t ⟨⟩
    rfl
  | elsewhere sent rest ih =>
    constructor
    · rintro t ⟨⟩
      rfl
    · refine .cons ih.2 ?_
      intro u mem
      rw [sent, ih.1 u mem]

lemma length_le (h : Pursuit left c turns final) : turns.length ≤ left + 1 := by
  induction h with
  | refused => exact Nat.zero_le _
  | answered | tooMany => exact Nat.succ_le_succ (Nat.zero_le _)
  | elsewhere _ _ ih => exact Nat.succ_le_succ ih

lemma gets (h : Pursuit left c turns final) (first : c.Gets) : ∀ t ∈ turns, t.question.Gets := by
  induction h with
  | refused => exact List.forall_mem_nil _
  | answered | tooMany => exact List.forall_mem_singleton.mpr first
  | elsewhere sent _ ih => exact List.forall_mem_cons.mpr ⟨first, ih (first.elsewhere sent)⟩

/-- A post is repeated until a reply turns it away. After that nothing is posted. -/
lemma posts (h : Pursuit left c turns final) (first : c.Posts j)
    {before after : List (Turn Exchange)} {t : Turn Exchange}
    (split : turns = before ++ t :: after) :
    (∀ u ∈ before, ¬Reply.TurnsAway u.answer) ∧ t.question.Posts j ∨
      (∃ u ∈ before, Reply.TurnsAway u.answer) ∧ t.question.Gets := by
  induction h generalizing before with
  | refused => simp at split
  | answered | tooMany =>
    obtain ⟨rfl, ⟨rfl, rfl⟩⟩ | ⟨_, rfl, none⟩ := List.cons_eq_append_iff.mp split
    · exact .inl ⟨List.forall_mem_nil _, first⟩
    · simp at none
  | elsewhere sent rest ih =>
    cases before with
    | nil =>
      obtain ⟨rfl, -⟩ := List.cons.inj split
      exact .inl ⟨List.forall_mem_nil _, first⟩
    | cons here before =>
      obtain ⟨rfl, others⟩ := List.cons.inj split
      rcases first.elsewhere sent with ⟨away, gets⟩ | ⟨stays, posts⟩
      · refine .inr ⟨⟨_, List.mem_cons_self .., away⟩, rest.gets gets t ?_⟩
        rw [others]
        exact List.mem_append_right _ (List.mem_cons_self ..)
      · rcases ih posts others with ⟨none, posts⟩ | ⟨⟨u, mem, away⟩, gets⟩
        · exact .inl ⟨List.forall_mem_cons.mpr ⟨stays, none⟩, posts⟩
        · exact .inr ⟨⟨u, List.mem_cons_of_mem _ mem, away⟩, gets⟩

/-- The reply that calls come to is the last one, unless there is none or it leads nowhere. -/
lemma last (h : Pursuit left c turns final) :
    (∃ before t, turns = before ++ [t] ∧ Reply.elsewhere? t.question t.answer = none ∧
        final = t.answer) ∨
      (∀ t ∈ turns.getLast?, ∃ c', Reply.elsewhere? t.question t.answer = some c') ∧
        ∃ causes, final = .unreached causes := by
  induction h with
  | refused => exact .inr ⟨fun t mem => absurd mem (Option.not_mem_none t), _, rfl⟩
  | answered none => exact .inl ⟨[], _, rfl, none, rfl⟩
  | tooMany sent =>
    refine .inr ⟨?_, _, rfl⟩
    rintro t ⟨⟩
    exact ⟨_, sent⟩
  | @elsewhere left c c' reply final turns sent rest ih =>
    rcases ih with ⟨before, t, rfl, none, rfl⟩ | ⟨nowhere, causes, rfl⟩
    · exact .inl ⟨_ :: before, t, rfl, none, rfl⟩
    · refine .inr ⟨?_, causes, rfl⟩
      intro t mem
      cases turns with
      | nil =>
        obtain rfl := Option.some.inj mem
        exact ⟨c', sent⟩
      | cons u turns => exact nowhere t (by simpa using mem)

/-- A last reply that asks for no other call is what calls come to. -/
lemma eq_answer (h : Pursuit left c turns final) {before : List (Turn Exchange)}
    {t : Turn Exchange} (split : turns = before ++ [t])
    (none : Reply.elsewhere? t.question t.answer = none) : final = t.answer := by
  rcases h.last with ⟨before', t', split', -, eq⟩ | ⟨nowhere, -⟩
  · obtain ⟨-, same⟩ := List.append_inj' (split.symm.trans split') rfl
    obtain rfl := List.singleton_inj.mp same
    exact eq
  · obtain ⟨c', sent⟩ := nowhere t (by simp [split])
    rw [none] at sent
    cases sent

/-- Every reply but the last one asks for another call. -/
lemma sent_of_mem (h : Pursuit left c turns final) {before : List (Turn Exchange)}
    {t : Turn Exchange} (split : turns = before ++ [t]) :
    ∀ u ∈ before, ∃ c', Reply.elsewhere? u.question u.answer = some c' := by
  induction h generalizing before with
  | refused => simp at split
  | answered | tooMany =>
    obtain ⟨rfl, -⟩ | ⟨_, rfl, none⟩ := List.cons_eq_append_iff.mp split
    · exact List.forall_mem_nil _
    · simp at none
  | elsewhere sent _ ih =>
    cases before with
    | nil => exact List.forall_mem_nil _
    | cons here before =>
      obtain ⟨rfl, others⟩ := List.cons.inj split
      exact List.forall_mem_cons.mpr ⟨⟨_, sent⟩, ih others⟩

end Pursuit

end Web

end LinkGauge
