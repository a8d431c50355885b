import LinkGauge.Proofs.Document.Layouts
import LinkGauge.Time.Json

/-!
# Shapes of documents

What a decoder wants of a document, as a tree of its own: the known members of objects, whether
they must be there, and the types of their values. An edit changes the order of members or adds
one that is not known; documents keep their good form under edits.
-/

namespace LinkGauge

open Layout (find?)

variable {n n' : Node} {ms ms' : List (Except Fault String × Node)} {key : String}

/-! ### Shapes -/

/-- A known member: its name, whether it must be there, and what its value should be. -/
structure Field (σ : Type) where
  name : String
  required : Bool
  shape : σ

/-- What a value should be. -/
inductive Shape where
  /-- It is passed over. -/
  | unknown
  /-- It may be of any type, and is read to its end. -/
  | any
  | number
  | text
  | instant
  | nullable (s : Shape)
  | list (s : Shape)
  | object (fields : List (Field Shape))

namespace Shape

/-- The shape of the items of a list. -/
def item : Shape → Shape
  | any => any
  | nullable s => s.item
  | list s => s
  | _ => unknown

/-- The shape of a member of an object. -/
def member (key : String) : Shape → Shape
  | any => any
  | nullable s => s.member key
  | object fields =>
    match fields.find? fun f => f.name = key with
    | some f => f.shape
    | none => unknown
  | _ => unknown

/-- The key is that of a known member. -/
def Knows (key : String) : Shape → Prop
  | nullable s => s.Knows key
  | object fields => ∃ f ∈ fields, f.name = key
  | _ => False

/-- A value that is neither a list nor an object has no other values inside. -/
def IsLeaf : Shape → Prop
  | nullable _ | list _ | object _ => False
  | _ => True

/-- The value is of the type that the shape asks for, and so are all known members inside. A
number beyond every double is of no type. -/
inductive Fits : Shape → Node → Prop where
  | unknown {n : Node} : Fits unknown n
  | any {n : Node} (h : n.readFault? = none) : Fits any n
  | number {x : Number} : Fits number (.number x)
  | text {t : String} : Fits text (.text (.ok t))
  | instant {t : String} {i : Instant} (h : Timestamp.read t = .ok i) :
      Fits instant (.text (.ok t))
  | null {s : Shape} : Fits (nullable s) .null
  | nullable {s : Shape} {n : Node} (h : Fits s n) : Fits (nullable s) n
  | list {s : Shape} {ns : List Node} {ending : Ending} (items : ∀ n ∈ ns, Fits s n) :
      Fits (list s) (.list ns ending)
  | object {fields : List (Field Shape)} {ms : List (Except Fault String × Node)}
      {ending : Ending}
      (members : ∀ key n, (.ok key, n) ∈ ms → Fits ((object fields).member key) n)
      (required : ∀ f ∈ fields, f.required → ∃ n, (.ok f.name, n) ∈ ms) :
      Fits (object fields) (.object ms ending)

/-- No known key is repeated. -/
def Once (s : Shape) (keys : List (Except Fault String)) : Prop :=
  keys.Pairwise fun k k' => ∀ key, s.Knows key → k = .ok key → k' ≠ .ok key

/-- Structures are given as objects, if at all, and in these no known key is repeated. -/
inductive Plain : Shape → Node → Prop where
  | leaf {s : Shape} {n : Node} (h : s.IsLeaf) : Plain s n
  | nullable {s : Shape} {n : Node} (h : Plain s n) : Plain (nullable s) n
  | list {s : Shape} {ns : List Node} {ending : Ending} (items : ∀ n ∈ ns, Plain s n) :
      Plain (list s) (.list ns ending)
  | noList {s : Shape} {n : Node} (h : ∀ ns ending, n ≠ .list ns ending) : Plain (list s) n
  | object {fields : List (Field Shape)} {ms : List (Except Fault String × Node)}
      {ending : Ending} (once : Once (object fields) (ms.map Prod.fst))
      (members : ∀ key n, (.ok key, n) ∈ ms → Plain ((object fields).member key) n) :
      Plain (object fields) (.object ms ending)
  | noObject {fields : List (Field Shape)} {n : Node} (notList : ∀ ns ending, n ≠ .list ns ending)
      (notObject : ∀ ms ending, n ≠ .object ms ending) : Plain (object fields) n

/-- A document in good form: structures are objects, and the text makes sense to its end. -/
structure Good (s : Shape) (n : Node) : Prop where
  plain : Plain s n
  faultless : n.Faultless

/-! ### Edits -/

/-- A change that should not matter: members of an object stand in another order, or there is one
more, of a key that is not known. It may be made to any value inside. What is nested too deep to be
read keeps no members, so that a change to its text leaves the document as it is. -/
inductive Edit : Shape → Node → Node → Prop where
  | permuted {s : Shape} {ms ms' : List (Except Fault String × Node)} {ending : Ending}
      (h : ms.Perm ms') : Edit s (.object ms ending) (.object ms' ending)
  | added {s : Shape} {key : String} {n : Node} {ms : List (Except Fault String × Node)}
      {ending : Ending} (unknown : ¬ s.Knows key) (fits : (s.member key).Fits n)
      (faultless : n.Faultless) :
      Edit s (.object ms ending) (.object ((.ok key, n) :: ms) ending)
  | item {s : Shape} {n n' : Node} {before after : List Node} {ending : Ending}
      (h : Edit s.item n n') :
      Edit s (.list (before ++ n :: after) ending) (.list (before ++ n' :: after) ending)
  | member {s : Shape} {key : String} {n n' : Node}
      {before after : List (Except Fault String × Node)} {ending : Ending}
      (h : Edit (s.member key) n n') :
      Edit s (.object (before ++ (.ok key, n) :: after) ending)
        (.object (before ++ (.ok key, n') :: after) ending)

/-- Any number of edits. -/
abbrev Edits (s : Shape) : Node → Node → Prop := Relation.ReflTransGen s.Edit

/-! ### Keys -/

/-- A member of a key that is not known is passed over. -/
lemma member_of_unknown {fields : List (Field Shape)} (unknown : ¬ (object fields).Knows key) :
    (object fields).member key = .unknown := by
  have none : fields.find? (fun f => f.name = key) = none := by
    rw [List.find?_eq_none]
    intro f mem
    simpa using fun eq => unknown ⟨f, mem, eq⟩
  rw [Shape.member, none]

section Keys

variable {s : Shape} {keys keys' : List (Except Fault String)}

lemma Once.perm (h : Once s keys) (perm : keys.Perm keys') : Once s keys' := by
  refine (perm.pairwise_iff ?_).mp h
  intro k k' apart key known eq' eq
  exact apart key known eq eq'

lemma Once.cons (h : Once s keys) (unknown : ¬ s.Knows key) : Once s (.ok key :: keys) := by
  refine List.pairwise_cons.mpr ⟨?_, h⟩
  intro k _ key' known eq
  cases eq
  exact absurd known unknown

lemma once_of_nodup (names : List String) (h : names.Nodup) : Once s (names.map Except.ok) := by
  refine List.pairwise_map.mpr (h.imp ?_)
  intro name name' apart key _ eq eq'
  exact apart (Except.ok.inj (eq.trans eq'.symm))

/-- Of a known key, the member that is found is the only one. -/
lemma Once.find?_eq_some (h : Once s (ms.map Prod.fst)) (texts : ∀ m ∈ ms, ∃ key, m.1 = .ok key)
    (known : s.Knows key) : find? key ms = some n ↔ (.ok key, n) ∈ ms := by
  induction ms with
  | nil => simp [find?]
  | cons m ms ih =>
    obtain ⟨k, n'⟩ := m
    obtain ⟨⟨key', rfl⟩, others⟩ := List.forall_mem_cons.mp texts
    obtain ⟨apart, later⟩ := List.pairwise_cons.mp h
    rw [find?, List.mem_cons]
    by_cases here : key' = key
    · subst here
      have only : (Except.ok key', n) ∉ ms := fun mem =>
        apart _ (List.mem_map_of_mem mem) key' known rfl rfl
      simp [only, eq_comm]
    · rw [if_neg here, ih later others]
      simp [Ne.symm here]

end Keys

/-! ### Good form -/

/-- An edited document is faultless as before. -/
lemma Edit.faultless {s : Shape} (h : Edit s n n') (faultless : n.Faultless) : n'.Faultless := by
  induction h with
  | permuted perm =>
    cases faultless with
    | object keys values =>
      exact .object (fun m mem => keys m (perm.mem_iff.mpr mem))
        fun m mem => values m (perm.mem_iff.mpr mem)
  | added _ _ value =>
    cases faultless with
    | object keys values =>
      exact .object (List.forall_mem_cons.mpr ⟨⟨_, rfl⟩, keys⟩)
        (List.forall_mem_cons.mpr ⟨value, values⟩)
  | item _ ih =>
    cases faultless with
    | list items =>
      apply Node.Faultless.list
      simp only [List.forall_mem_append, List.forall_mem_cons] at items ⊢
      exact ⟨items.1, ih items.2.1, items.2.2⟩
  | member _ ih =>
    cases faultless with
    | object keys values =>
      simp only [List.forall_mem_append, List.forall_mem_cons] at keys values
      apply Node.Faultless.object
      · simp only [List.forall_mem_append, List.forall_mem_cons]
        exact keys
      · simp only [List.forall_mem_append, List.forall_mem_cons]
        exact ⟨values.1, ih values.2.1, values.2.2⟩

/-- Edits of a value that may be null are edits of the value. -/
lemma Edit.of_nullable {s : Shape} (h : Edit (nullable s) n n') : Edit s n n' := by
  cases h with
  | permuted perm => exact .permuted perm
  | added unknown fits faultless => exact .added unknown fits faultless
  | item h => exact .item h
  | member h => exact .member h

/-- An edited document still has objects for structures, without repeated keys. -/
lemma Edit.plain {s : Shape} (h : Edit s n n') (plain : Plain s n) : Plain s n' := by
  induction plain generalizing n' with
  | leaf leaf => exact .leaf leaf
  | nullable _ ih => exact .nullable (ih h.of_nullable)
  | list items ih =>
    cases h with
    | item h =>
      simp only [List.forall_mem_append, List.forall_mem_cons] at items ih
      apply Plain.list
      simp only [List.forall_mem_append, List.forall_mem_cons]
      exact ⟨items.1, ih.2.1 h, items.2.2⟩
  | noList noList =>
    cases h with
    | item => exact (noList _ _ rfl).elim
    | permuted => exact .noList (by simp)
    | added => exact .noList (by simp)
    | member => exact .noList (by simp)
  | object once members ih =>
    cases h with
    | permuted perm =>
      exact .object (once.perm (perm.map _)) fun key n mem =>
        members key n (perm.mem_iff.mpr mem)
    | added unknown =>
      refine .object (once.cons unknown) ?_
      intro key n mem
      rcases List.mem_cons.mp mem with eq | mem
      · cases eq
        rw [member_of_unknown unknown]
        exact .leaf trivial
      · exact members key n mem
    | @member _ _ _ _ before after _ h =>
      refine .object (by simpa using once) ?_
      intro key n mem
      rcases List.mem_append.mp mem with mem | mem
      · exact members key n (List.mem_append_left _ mem)
      rcases List.mem_cons.mp mem with eq | mem
      · cases eq
        exact ih _ _ (List.mem_append_right _ (List.mem_cons_self ..)) h
      · exact members key n (List.mem_append_right _ (List.mem_cons_of_mem _ mem))
  | noObject notList notObject =>
    cases h with
    | item => exact (notList _ _ rfl).elim
    | permuted | added | member => exact (notObject _ _ rfl).elim

lemma Good.nullable {s : Shape} (good : Good (nullable s) n) : Good s n := by
  obtain ⟨plain, faultless⟩ := good
  cases plain with
  | leaf leaf => exact leaf.elim
  | nullable plain => exact ⟨plain, faultless⟩

lemma Good.items {s : Shape} {ns : List Node} {ending : Ending}
    (good : Good (list s) (.list ns ending)) : ∀ n ∈ ns, Good s n := by
  obtain ⟨plain, faultless⟩ := good
  intro n mem
  constructor
  · cases plain with
    | leaf leaf => exact leaf.elim
    | list items => exact items n mem
    | noList noList => exact (noList _ _ rfl).elim
  · cases faultless with
    | list items => exact items n mem

section Objects

variable {fields : List (Field Shape)} {ending : Ending}

lemma Good.keys (good : Good (object fields) (.object ms ending)) :
    (∀ m ∈ ms, ∃ key, m.1 = .ok key) ∧ Once (object fields) (ms.map Prod.fst) := by
  obtain ⟨plain, faultless⟩ := good
  constructor
  · cases faultless with
    | object keys _ => exact keys
  · cases plain with
    | leaf leaf => exact leaf.elim
    | object once _ => exact once
    | noObject _ notObject => exact (notObject _ _ rfl).elim

/-- Of a known key, the member that is found is the only one. -/
lemma Good.find?_eq_some (good : Good (object fields) (.object ms ending))
    (known : (object fields).Knows key) : find? key ms = some n ↔ (.ok key, n) ∈ ms :=
  good.keys.2.find?_eq_some good.keys.1 known

lemma Good.members (good : Good (object fields) (.object ms ending)) :
    ∀ key n, (.ok key, n) ∈ ms → Good ((object fields).member key) n := by
  obtain ⟨plain, faultless⟩ := good
  intro key n mem
  constructor
  · cases plain with
    | leaf leaf => exact leaf.elim
    | object _ members => exact members key n mem
    | noObject _ notObject => exact (notObject _ _ rfl).elim
  · cases faultless with
    | object _ values => exact values _ mem

end Objects

/-- An object of named values is given without repeated keys. -/
lemma Plain.named {fields : List (Field Shape)} {ending : Ending} (l : List (String × Node))
    (names : (l.map Prod.fst).Nodup)
    (values : ∀ p ∈ l, Plain ((Shape.object fields).member p.1) p.2) :
    Plain (Shape.object fields) (.object (l.map fun p => (.ok p.1, p.2)) ending) := by
  refine .object ?_ ?_
  · have keys := once_of_nodup (s := Shape.object fields) (l.map Prod.fst) names
    rwa [List.map_map] at keys ⊢
  · intro key n mem
    obtain ⟨p, inside, eq⟩ := List.mem_map.mp mem
    cases eq
    exact values p inside

/-- An object of named values fits if they do and all that must be there are. -/
lemma Fits.named {fields : List (Field Shape)} {ending : Ending} (l : List (String × Node))
    (values : ∀ p ∈ l, Fits ((Shape.object fields).member p.1) p.2)
    (required : ∀ f ∈ fields, f.required → f.name ∈ l.map Prod.fst) :
    Fits (Shape.object fields) (.object (l.map fun p => (.ok p.1, p.2)) ending) := by
  refine .object ?_ ?_
  · intro key n mem
    obtain ⟨p, inside, eq⟩ := List.mem_map.mp mem
    cases eq
    exact values p inside
  · intro f mem must
    obtain ⟨p, inside, eq⟩ := List.mem_map.mp (required f mem must)
    exact ⟨p.2, List.mem_map.mpr ⟨p, inside, by rw [eq]⟩⟩

/-- Documents keep their good form under an edit. -/
lemma Edit.good {s : Shape} (h : Edit s n n') (good : Good s n) : Good s n' :=
  ⟨h.plain good.plain, h.faultless good.faultless⟩

/-! ### Values of any type -/

lemma readItems?_eq_none {ns : List Node} :
    Node.readItems? ns = none ↔ ∀ n ∈ ns, n.readFault? = none := by
  induction ns with
  | nil => simp [Node.readItems?]
  | cons n ns ih => simp [Node.readItems?, ih]

lemma readMembers?_eq_none :
    Node.readMembers? ms = none ↔ ∀ m ∈ ms, (∃ key, m.1 = .ok key) ∧ m.2.readFault? = none := by
  induction ms with
  | nil => simp [Node.readMembers?]
  | cons m ms ih =>
    obtain ⟨k, n⟩ := m
    cases k <;> simp [Node.readMembers?, ih]

lemma readFault?_list {ns : List Node} {ending : Ending} :
    (Node.list ns ending).readFault? = none ↔
      (∀ n ∈ ns, n.readFault? = none) ∧ Node.endingFault? ending = none := by
  simp [Node.readFault?, readItems?_eq_none]

lemma readFault?_object {ending : Ending} :
    (Node.object ms ending).readFault? = none ↔
      (∀ m ∈ ms, (∃ key, m.1 = .ok key) ∧ m.2.readFault? = none) ∧
        Node.endingFault? ending = none := by
  simp [Node.readFault?, readMembers?_eq_none]

/-- An edited value of any type is still read to its end. -/
lemma Edit.read (h : Edit any n n') (read : n.readFault? = none) : n'.readFault? = none := by
  generalize eq : any = s at h
  induction h with
  | permuted perm =>
    rw [readFault?_object] at read ⊢
    exact ⟨fun m mem => read.1 m (perm.mem_iff.mpr mem), read.2⟩
  | added _ fits _ =>
    subst eq
    rw [readFault?_object] at read ⊢
    refine ⟨?_, read.2⟩
    intro m mem
    rcases List.mem_cons.mp mem with rfl | mem
    · cases fits with
      | any h => exact ⟨⟨_, rfl⟩, h⟩
    · exact read.1 m mem
  | item _ ih =>
    subst eq
    rw [readFault?_list] at read ⊢
    refine ⟨?_, read.2⟩
    simp only [List.forall_mem_append, List.forall_mem_cons] at read ⊢
    exact ⟨read.1.1, ih read.1.2.1 rfl, read.1.2.2⟩
  | member _ ih =>
    subst eq
    rw [readFault?_object] at read ⊢
    refine ⟨?_, read.2⟩
    simp only [List.forall_mem_append, List.forall_mem_cons] at read ⊢
    exact ⟨read.1.1, ⟨read.1.2.1.1, ih read.1.2.1.2 rfl⟩, read.1.2.2⟩

end Shape

end LinkGauge
