import LinkGauge.Document.Layout
import LinkGauge.Proofs.Answers

/-!
# Reading structures from faultless objects

An object in which every field has a node that its decoder takes is read as the structure, whatever
other members stand beside the fields.
-/

namespace LinkGauge

/-! ### Faultless documents -/

namespace Node

/-- A document whose text makes sense to its end, and whose strings are texts. Some of its values
may be nested too deep to be read. -/
inductive Faultless : Node → Prop where
  | null : Faultless .null
  | bool (b : Bool) : Faultless (.bool b)
  | number (x : Number) : Faultless (.number x)
  | beyond : Faultless .beyond
  | text (t : String) : Faultless (.text (.ok t))
  | list {ns : List Node} (items : ∀ n ∈ ns, Faultless n) : Faultless (.list ns .closed)
  | object {ms : List (Except Fault String × Node)} (keys : ∀ m ∈ ms, ∃ key, m.1 = .ok key)
      (values : ∀ m ∈ ms, Faultless m.2) : Faultless (.object ms .closed)
  | deep (bracket : Bracket) : Faultless (.deep bracket none)

lemma skipItems?_eq_none {ns : List Node} :
    skipItems? ns = none ↔ ∀ n ∈ ns, n.skipFault? = none := by
  induction ns with
  | nil => simp [skipItems?]
  | cons n ns ih => simp [skipItems?, ih]

lemma skipMembers?_eq_none {ms : List (Except Fault String × Node)} :
    skipMembers? ms = none ↔ ∀ m ∈ ms, m.2.skipFault? = none := by
  induction ms with
  | nil => simp [skipMembers?]
  | cons m ms ih => simp [skipMembers?, ih]

/-- Nobody who passes over a faultless document meets a fault. -/
lemma Faultless.skipFault? {n : Node} (h : n.Faultless) : n.skipFault? = none := by
  induction h with
  | list _ ih => simp [Node.skipFault?, Node.skipFault?.skipEnding?, skipItems?_eq_none.mpr ih]
  | object _ _ ih =>
    simp [Node.skipFault?, Node.skipFault?.skipEnding?, skipMembers?_eq_none.mpr ih]
  | _ => rfl

/-- Neither does one who passes over it where it is nested too deep. -/
lemma Faultless.opened {n : Node} (h : n.Faultless) (depth : ℕ) : (n.opened depth).Faultless := by
  fun_cases Node.opened depth n with
  | case1 | case2 =>
    rw [h.skipFault?]
    exact .deep _
  | case3 => exact h

end Node

lemma Decoder.mismatch_ne_ok {α : Type} (expected : String) (n : Node) (a : α) :
    Decoder.mismatch expected n ≠ .ok a := by
  simp only [Decoder.mismatch]
  split <;> nofun

namespace Layout

variable {α β : Type}

/-! ### Values of fields -/

section Values

variable {find : String → Option Node} {a : α} {b : β}

lemma build_map {r : Layout α} {g : α → β} :
    (g <$> r).build find = .ok b ↔ ∃ a, r.build find = .ok a ∧ g a = b :=
  map_eq_ok

lemma build_seq {f : Layout (α → β)} {r : Layout α} :
    (f <*> r).build find = .ok b ↔
      ∃ g a, f.build find = .ok g ∧ r.build find = .ok a ∧ g a = b := by
  change (f.build find >>= fun g => r.build find >>= fun a => Except.ok (g a)) = _ ↔ _
  simp only [bind_eq_ok, Except.ok.injEq]
  constructor
  · rintro ⟨g, first, a, second, rfl⟩
    exact ⟨g, a, first, second, rfl⟩
  · rintro ⟨g, a, first, second, rfl⟩
    exact ⟨g, first, a, second, rfl⟩

lemma build_field {name : String} {d : Decoder α} {absent : Except Failure α}
    {short : Option α} :
    (field name d absent short).build find = .ok a ↔
      (∃ n, find name = some n ∧ d n = .ok a) ∨ find name = none ∧ absent = .ok a := by
  cases h : find name <;> simp [field, h, mapError_eq_ok]

end Values

/-- A layout finds a value among named nodes, and takes every node that stands under a field. -/
structure Reads (r : Layout α) (find : String → Option Node) (a : α) : Prop where
  build : r.build find = .ok a
  fields : ∀ name d, (name, d) ∈ r.fields → ∀ n, find name = some n → d n = .ok ()

namespace Reads

variable {find : String → Option Node} {name : String} {d : Decoder α} {n : Node} {a : α}

lemma map {r : Layout α} (h : Reads r find a) (g : α → β) : Reads (g <$> r) find (g a) := by
  refine ⟨?_, h.fields⟩
  change (r.build find).map g = _
  rw [h.build, map_ok]

lemma seq {f : Layout (α → β)} {r : Layout α} {g : α → β} (hf : Reads f find g)
    (hr : Reads r find a) : Reads (f <*> r) find (g a) := by
  constructor
  · change (do
      let g ← f.build find
      let a ← r.build find
      Except.ok (g a)) = _
    rw [hf.build, ok_bind, hr.build, ok_bind]
  · intro name d mem
    rcases List.mem_append.mp mem with left | right
    · exact hf.fields name d left
    · exact hr.fields name d right

/-- A field under which a node stands. -/
lemma field {absent : Except Failure α} {short : Option α} (found : find name = some n)
    (value : d n = .ok a) : Reads (Layout.field name d absent short) find a := by
  constructor
  · simp [Layout.field, found, value]
  · intro name' d' mem n' found'
    obtain ⟨rfl, rfl⟩ := Prod.mk.inj (List.mem_singleton.mp mem)
    obtain rfl := Option.some.inj (found.symm.trans found')
    simp only [value, map_ok]

/-- A field under which nothing stands. -/
lemma absent {short : Option α} (none : find name = none) :
    Reads (Layout.field name d (.ok a) short) find a := by
  constructor
  · simp [Layout.field, none]
  · intro name' d' mem n' found
    obtain ⟨rfl, -⟩ := Prod.mk.inj (List.mem_singleton.mp mem)
    rw [none] at found
    cases found

end Reads

/-! ### Members -/

/-- The members of an object, from nodes of which some may be left out. -/
def given : List (String × Option Node) → List (Except Fault String × Node)
  | [] => []
  | (key, some n) :: rest => (.ok key, n) :: given rest
  | (_, none) :: rest => given rest

/-- The node under a key. -/
def under (l : List (String × Option Node)) (key : String) : Option Node := (l.lookup key).join

lemma find?_given_of_notMem {key : String} {l : List (String × Option Node)}
    (other : key ∉ l.map Prod.fst) : find? key (given l) = none := by
  induction l with
  | nil => rfl
  | cons m l ih =>
    obtain ⟨k, o⟩ := m
    simp only [List.map_cons, List.mem_cons, not_or] at other
    have rest := ih other.2
    cases o with
    | none => exact rest
    | some n =>
      rw [given, find?, if_neg fun eq => other.1 eq.symm]
      exact rest

/-- The first member of a name is the only one. -/
lemma find?_given {l : List (String × Option Node)} (distinct : (l.map Prod.fst).Nodup)
    (key : String) : find? key (given l) = under l key := by
  induction l with
  | nil => rfl
  | cons m l ih =>
    obtain ⟨k, o⟩ := m
    rw [List.map_cons, List.nodup_cons] at distinct
    obtain ⟨new, distinct⟩ := distinct
    by_cases here : key = k
    · subst here
      cases o with
      | none =>
        rw [given, find?_given_of_notMem new]
        simp [under]
      | some n => simp [given, find?, under]
    · have later : under ((k, o) :: l) key = under l key := by
        have other : (key == k) = false := by simpa using here
        rw [under, List.lookup_cons, other]
        rfl
      rw [later, ← ih distinct]
      cases o with
      | none => rfl
      | some n => rw [given, find?, if_neg fun eq => here eq.symm]

lemma mem_given {l : List (String × Option Node)} {m : Except Fault String × Node} :
    m ∈ given l ↔ ∃ key n, m = (.ok key, n) ∧ (key, some n) ∈ l := by
  induction l with
  | nil => simp [given]
  | cons p l ih =>
    obtain ⟨k, o⟩ := p
    cases o with
    | none => simp [given, ih]
    | some n' =>
      rw [given, List.mem_cons, ih]
      constructor
      · rintro (rfl | ⟨key, n, rfl, mem⟩)
        · exact ⟨k, n', rfl, List.mem_cons_self ..⟩
        · exact ⟨key, n, rfl, List.mem_cons_of_mem _ mem⟩
      · rintro ⟨key, n, rfl, mem⟩
        rcases List.mem_cons.mp mem with eq | mem
        · cases eq
          exact .inl rfl
        · exact .inr ⟨key, n, rfl, mem⟩

/-- Distinct names give distinct keys. -/
lemma nodup_given {l : List (String × Option Node)} (distinct : (l.map Prod.fst).Nodup) :
    ((given l).map Prod.fst).Nodup := by
  induction l with
  | nil => exact List.nodup_nil
  | cons p l ih =>
    obtain ⟨k, o⟩ := p
    rw [List.map_cons, List.nodup_cons] at distinct
    obtain ⟨fresh, distinct⟩ := distinct
    cases o with
    | none => exact ih distinct
    | some n =>
      rw [given, List.map_cons, List.nodup_cons]
      refine ⟨?_, ih distinct⟩
      rintro mem
      obtain ⟨m, inside, eq⟩ := List.mem_map.mp mem
      obtain ⟨key, n', rfl, named⟩ := mem_given.mp inside
      cases eq
      exact fresh (List.mem_map.mpr ⟨_, named, rfl⟩)

/-- Members that stand under fields are taken, if none does twice, and the others are passed
over. -/
lemma check_eq_ok {fields : List (String × (Node → Except Failure Unit))} {seen : List String}
    {ms : List (Except Fault String × Node)} {ending : Ending}
    (texts : ∀ m ∈ ms, ∃ key, m.1 = .ok key)
    (once : (ms.map Prod.fst).Pairwise fun k k' =>
      ∀ key d, fields.lookup key = some d → k = .ok key → k' ≠ .ok key)
    (new : ∀ key ∈ seen, .ok key ∉ ms.map Prod.fst)
    (takes : ∀ key n d, (.ok key, n) ∈ ms → fields.lookup key = some d → d n = .ok ())
    (skips : ∀ m ∈ ms, m.2.skipFault? = none) (closed : Node.endingFault? ending = none) :
    check fields false seen ms ending = .ok () := by
  induction ms generalizing seen with
  | nil => rw [check, closed]
  | cons m ms ih =>
    obtain ⟨k, n⟩ := m
    rw [List.map_cons, List.pairwise_cons] at once
    simp only [List.map_cons, List.mem_cons, not_or] at new
    obtain ⟨⟨key, rfl⟩, others⟩ := List.forall_mem_cons.mp texts
    have rest := fun (seen : List String) (new : ∀ key ∈ seen, .ok key ∉ ms.map Prod.fst) =>
      ih others once.2 new (fun key n d mem => takes key n d (List.mem_cons_of_mem _ mem))
        (fun m mem => skips m (List.mem_cons_of_mem _ mem))
    have new' : ∀ key ∈ seen, .ok key ∉ ms.map Prod.fst := fun key mem => (new key mem).2
    rw [check]
    cases h : fields.lookup key with
    | none =>
      have skip : Decoder.skip n = .ok () := by
        rw [Decoder.skip, skips _ (List.mem_cons_self ..)]
      simp only [skip, mapError_ok, ok_bind]
      exact rest seen new'
    | some d =>
      have unseen : key ∉ seen := fun mem => (new key mem).1 rfl
      simp only [if_neg unseen, takes key n d (List.mem_cons_self ..) h, mapError_ok, ok_bind]
      apply rest
      intro key' mem
      rcases List.mem_cons.mp mem with rfl | mem
      · exact fun inside => once.1 _ inside key' d h rfl rfl
      · exact new' key' mem

/-- Where all members stand under fields, it makes no difference that others are refused. -/
lemma check_closed {fields : List (String × (Node → Except Failure Unit))} {seen : List String}
    {ms : List (Except Fault String × Node)} {ending : Ending}
    (known : ∀ key, .ok key ∈ ms.map Prod.fst → key ∈ fields.map Prod.fst) :
    check fields true seen ms ending = check fields false seen ms ending := by
  induction ms generalizing seen with
  | nil => rfl
  | cons m ms ih =>
    obtain ⟨k, n⟩ := m
    have rest (seen : List String) :
        check fields true seen ms ending = check fields false seen ms ending :=
      ih fun key mem => known key (List.mem_cons_of_mem _ mem)
    cases k with
    | error fault => rfl
    | ok key =>
      obtain ⟨p, mem, name⟩ := List.mem_map.mp (known key (List.mem_cons_self ..))
      cases there : fields.lookup key with
      | none => exact absurd name.symm (bne_iff_ne.mp (List.lookup_eq_none_iff.mp there p mem))
      | some d => simp only [check, there, rest]

/-! ### Structures -/

lemma mem_of_lookup {γ : Type} {key : String} {c : γ} {l : List (String × γ)}
    (h : l.lookup key = some c) : (key, c) ∈ l := by
  obtain ⟨before, after, rfl, -⟩ := List.lookup_eq_some_iff.mp h
  exact List.mem_append_right _ (List.mem_cons_self ..)

/-- A member of distinct ones is the one under its key. -/
lemma under_of_mem {l : List (String × Option Node)} (distinct : (l.map Prod.fst).Nodup)
    {key : String} {n : Node} (mem : (key, some n) ∈ l) : under l key = some n := by
  induction l with
  | nil => cases mem
  | cons m l ih =>
    obtain ⟨k, o⟩ := m
    rw [List.map_cons, List.nodup_cons] at distinct
    obtain ⟨fresh, distinct⟩ := distinct
    rcases List.mem_cons.mp mem with eq | inside
    · obtain ⟨rfl, rfl⟩ := Prod.mk.inj eq
      simp [under]
    · have other : (key == k) = false := by
        rw [beq_eq_false_iff_ne]
        rintro rfl
        exact fresh (List.mem_map.mpr ⟨_, inside, rfl⟩)
      rw [under, List.lookup_cons, other]
      exact ih distinct inside

/-- An object is read as the value that its layout finds among the members. Other members must not
be there if they are refused. -/
theorem decoder_given {r : Layout α} {name : String} {closed : Bool}
    {l : List (String × Option Node)} {ending : Ending} {a : α}
    (distinct : (l.map Prod.fst).Nodup)
    (known : closed = true → ∀ key ∈ l.map Prod.fst, key ∈ r.names)
    (skips : ∀ key n, (key, some n) ∈ l → n.skipFault? = none)
    (ended : Node.endingFault? ending = none) (reads : Reads r (under l) a) :
    decoder r name closed (.object (given l) ending) = .ok a := by
  have opened : check r.fields false [] (given l) ending = .ok () := by
    apply check_eq_ok
    · intro m mem
      obtain ⟨key, n, rfl, -⟩ := mem_given.mp mem
      exact ⟨key, rfl⟩
    · exact (nodup_given distinct).imp fun apart key d _ eq eq' => apart (eq.trans eq'.symm)
    · exact fun key mem => absurd mem List.not_mem_nil
    · intro key n d mem field
      obtain ⟨_, _, eq, inside⟩ := mem_given.mp mem
      cases eq
      exact reads.fields key d (mem_of_lookup field) n (under_of_mem distinct inside)
    · intro m mem
      obtain ⟨key, n, rfl, inside⟩ := mem_given.mp mem
      exact skips key n inside
    · exact ended
  have checked : check r.fields closed [] (given l) ending = .ok () := by
    cases closed with
    | false => exact opened
    | true =>
      rw [check_closed, opened]
      intro key mem
      obtain ⟨m, inside, eq⟩ := List.mem_map.mp mem
      obtain ⟨key', n, rfl, named⟩ := mem_given.mp inside
      cases eq
      exact known rfl _ (List.mem_map.mpr ⟨_, named, rfl⟩)
  have found : (fun key => find? key (given l)) = under l := funext (find?_given distinct)
  rw [decoder, checked, ok_bind, found]
  exact reads.build

end Layout

end LinkGauge
