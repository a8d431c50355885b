import LinkGauge.Proofs.Document.Shapes

/-!
# Decoders that follow a shape

A decoder follows a shape if it takes exactly the documents of this shape and finds the same value
in every edited one. Structures follow the shape that their fields make up.
-/

namespace LinkGauge

open Layout (find?)
open Shape (Edit Edits Fits Plain Good)

variable {α β : Type} {s : Shape} {n n' : Node} {a : α}

/-- Of the documents in good form the decoder takes those of the shape and no others, and an edit
does not change what it finds. -/
structure Decoder.Follows (d : Decoder α) (s : Shape) : Prop where
  accepts : ∀ {n}, Good s n → ((∃ a, d n = .ok a) ↔ Fits s n)
  stable : ∀ {n n' a}, Good s n → Edit s n n' → d n = .ok a → d n' = .ok a

/-- Neither does any number of edits. -/
theorem Decoder.Follows.edits {d : Decoder α} (h : d.Follows s) (good : Good s n)
    (edits : Edits s n n') (read : d n = .ok a) : d n' = .ok a := by
  have kept : Good s n' ∧ d n' = .ok a := by
    induction edits with
    | refl => exact ⟨good, read⟩
    | tail _ edit ih => exact ⟨edit.good ih.1, h.stable ih.1 edit ih.2⟩
  exact kept.2

/-! ### Simple values -/

namespace Decoder

/-- Values without others inside are not edited. -/
lemma follows_simple {d : Decoder α} (takes : ∀ n, (∃ a, d n = .ok a) ↔ Fits s n)
    (notObject : ∀ ms ending, ¬ Fits s (.object ms ending))
    (notList : ∀ ns ending, ¬ Fits s (.list ns ending)) : d.Follows s := by
  refine ⟨fun {n} _ => takes n, ?_⟩
  intro n n' a _ edit read
  have fits := (takes n).mp ⟨a, read⟩
  cases edit with
  | permuted | added | member => exact absurd fits (notObject _ _)
  | item => exact absurd fits (notList _ _)

lemma float_eq_ok {x : Float} : float n = .ok x ↔ ∃ v : Number, n = .number v ∧ v.toFloat = x := by
  constructor
  · intro read
    simp only [float] at read
    split at read
    · cases read
      exact ⟨_, rfl, rfl⟩
    · exact (mismatch_ne_ok _ _ _ read).elim
  · rintro ⟨v, rfl, rfl⟩
    rfl

lemma string_eq_ok {t : String} : string n = .ok t ↔ n = .text (.ok t) := by
  constructor
  · intro read
    simp only [string] at read
    split at read
    · cases read
      rfl
    · exact (mismatch_ne_ok _ _ _ read).elim
  · rintro rfl
    rfl

lemma instant_eq_ok {i : Instant} :
    instant n = .ok i ↔ ∃ t, n = .text (.ok t) ∧ Timestamp.read t = .ok i := by
  constructor
  · intro read
    simp only [instant, parsed] at read
    split at read
    · exact ⟨_, rfl, mapError_eq_ok.mp (mapError_eq_ok.mp read)⟩
    · exact (mismatch_ne_ok _ _ _ read).elim
  · rintro ⟨t, rfl, read⟩
    exact mapError_eq_ok.mpr (mapError_eq_ok.mpr read)

lemma follows_float : float.Follows .number := by
  apply follows_simple
  · intro n
    simp only [float_eq_ok]
    constructor
    · rintro ⟨x, v, rfl, -⟩
      exact .number
    · rintro ⟨⟩
      exact ⟨_, _, rfl, rfl⟩
  · rintro ms ending ⟨⟩
  · rintro ns ending ⟨⟩

lemma follows_string : string.Follows .text := by
  apply follows_simple
  · intro n
    simp only [string_eq_ok]
    constructor
    · rintro ⟨t, rfl⟩
      exact .text
    · rintro ⟨⟩
      exact ⟨_, rfl⟩
  · rintro ms ending ⟨⟩
  · rintro ns ending ⟨⟩

lemma follows_instant : instant.Follows .instant := by
  apply follows_simple
  · intro n
    simp only [instant_eq_ok]
    constructor
    · rintro ⟨i, t, rfl, read⟩
      exact .instant read
    · intro fits
      cases fits with
      | instant read => exact ⟨_, _, rfl, read⟩
  · rintro ms ending ⟨⟩
  · rintro ns ending ⟨⟩

/-! ### Values around others -/

lemma option_of_ne_null {d : Decoder α} (some : n ≠ .null) : option d n = (d n).map .some := by
  cases n <;> first | exact absurd rfl some | rfl

lemma Follows.option {d : Decoder α} (h : d.Follows s) :
    (Decoder.option d).Follows (.nullable s) := by
  constructor
  · intro n good
    by_cases null : n = .null
    · subst null
      exact ⟨fun _ => .null, fun _ => ⟨_, rfl⟩⟩
    · simp only [option_of_ne_null null, map_eq_ok]
      constructor
      · rintro ⟨o, a, read, -⟩
        exact .nullable ((h.accepts good.nullable).mp ⟨a, read⟩)
      · intro fits
        cases fits with
        | null => exact absurd rfl null
        | nullable fits =>
          obtain ⟨a, read⟩ := (h.accepts good.nullable).mpr fits
          exact ⟨_, a, read, rfl⟩
  · intro n n' o good edit read
    have some : n ≠ .null := by
      rintro rfl
      cases edit
    have some' : n' ≠ .null := by
      rintro rfl
      cases edit
    rw [option_of_ne_null some, map_eq_ok] at read
    obtain ⟨a, read, rfl⟩ := read
    rw [option_of_ne_null some', h.stable good.nullable edit.of_nullable read, map_ok]

/-- The items of a list are decoded one by one. -/
lemma mapM_item_eq_ok {d : Decoder α} {ns : List Node} {as : List α} (k : ℕ) :
    (ns.zipIdx k).mapM d.item = .ok as ↔ List.Forall₂ (fun n a => d n = .ok a) ns as := by
  induction ns generalizing k as with
  | nil =>
    simp [pure, Except.pure, eq_comm]
  | cons n ns ih =>
    simp only [List.zipIdx_cons, List.mapM_cons, bind_eq_ok, List.forall₂_cons_left_iff, ih, item,
      mapError_eq_ok, pure, Except.pure, Except.ok.injEq]
    constructor
    · rintro ⟨a, head, as, tail, rfl⟩
      exact ⟨a, as, head, tail, rfl⟩
    · rintro ⟨a, as, head, tail, rfl⟩
      exact ⟨a, head, as, tail, rfl⟩

lemma list_eq_ok {d : Decoder α} {as : List α} (faultless : n.Faultless) :
    list d n = .ok as ↔
      ∃ ns ending, n = .list ns ending ∧ List.Forall₂ (fun n a => d n = .ok a) ns as := by
  constructor
  · intro read
    simp only [list] at read
    split at read
    · obtain ⟨as', items, rest⟩ := bind_eq_ok.mp read
      split at rest
      · cases rest
      · cases rest
        exact ⟨_, _, rfl, (mapM_item_eq_ok 0).mp items⟩
    · cases read
    · exact (mismatch_ne_ok _ _ _ read).elim
  · rintro ⟨ns, ending, rfl, items⟩
    cases faultless
    simp only [list, (mapM_item_eq_ok 0).mpr items, ok_bind, Node.endingFault?]

section Items

variable {d : Decoder α} {ns before after : List Node} {as : List α}

/-- All items are decoded if each of them is. -/
lemma exists_forall₂ :
    (∃ as, List.Forall₂ (fun n a => d n = .ok a) ns as) ↔ ∀ n ∈ ns, ∃ a, d n = .ok a := by
  induction ns with
  | nil => simp
  | cons n ns ih =>
    simp only [List.forall₂_cons_left_iff, List.forall_mem_cons, ← ih]
    constructor
    · rintro ⟨_, a, as, head, tail, -⟩
      exact ⟨⟨a, head⟩, as, tail⟩
    · rintro ⟨⟨a, head⟩, as, tail⟩
      exact ⟨_, a, as, head, tail, rfl⟩

/-- An item makes room for one that is decoded to the same. -/
lemma forall₂_replace (kept : ∀ a, d n = .ok a → d n' = .ok a)
    (items : List.Forall₂ (fun n a => d n = .ok a) (before ++ n :: after) as) :
    List.Forall₂ (fun n a => d n = .ok a) (before ++ n' :: after) as := by
  induction before generalizing as with
  | nil =>
    cases items with
    | cons head tail => exact .cons (kept _ head) tail
  | cons m before ih =>
    cases items with
    | cons head tail => exact .cons head (ih tail)

end Items

lemma Follows.list {d : Decoder α} (h : d.Follows s) : (Decoder.list d).Follows (.list s) := by
  constructor
  · intro n good
    simp only [list_eq_ok good.faultless]
    constructor
    · rintro ⟨as, ns, ending, rfl, items⟩
      refine .list fun n mem => ?_
      exact (h.accepts (good.items n mem)).mp (exists_forall₂.mp ⟨as, items⟩ n mem)
    · intro fits
      cases fits with
      | list items =>
        obtain ⟨as, decoded⟩ := exists_forall₂.mpr fun n mem =>
          (h.accepts (good.items n mem)).mpr (items n mem)
        exact ⟨as, _, _, rfl, decoded⟩
  · intro n n' as good edit read
    have good' := edit.good good
    rw [list_eq_ok good.faultless] at read
    rw [list_eq_ok good'.faultless]
    obtain ⟨ns, ending, rfl, items⟩ := read
    cases edit with
    | item edit =>
      refine ⟨_, _, rfl, forall₂_replace ?_ items⟩
      intro a read
      exact h.stable (good.items _ (by simp)) edit read

end Decoder

/-! ### Fields -/

/-- The member of the field is there if it must be, and has the shape that it should have. -/
structure Field.Met (f : Field Shape) (find : String → Option Node) : Prop where
  fits : ∀ n, find f.name = some n → f.shape.Fits n
  there : f.required → ∃ n, find f.name = some n

/-- The member of the field is the same as before, or edited. -/
def Field.Kept (f : Field Shape) (find find' : String → Option Node) : Prop :=
  find' f.name = find f.name ∨
    ∃ n n', find f.name = some n ∧ find' f.name = some n' ∧ f.shape.Edit n n'

/-- Where all members are in good form, the layout makes a value of those that meet its fields, and
the same value of edited ones. -/
structure Layout.Follows (r : Layout α) (fields : List (Field Shape)) : Prop where
  names : r.fields.map Prod.fst = fields.map Field.name
  accepts : ∀ {find}, (∀ f ∈ fields, ∀ n, find f.name = some n → Good f.shape n) →
    ((∃ a, r.build find = .ok a) ↔ ∀ f ∈ fields, f.Met find)
  reads : ∀ {find a}, r.build find = .ok a → r.Reads find a
  stable : ∀ {find find' a}, (∀ f ∈ fields, ∀ n, find f.name = some n → Good f.shape n) →
    (∀ f ∈ fields, f.Kept find find') → r.build find = .ok a → r.build find' = .ok a

namespace Layout

variable {fields fields' : List (Field Shape)} {name : String}

lemma Follows.map {r : Layout α} (h : r.Follows fields) (g : α → β) : (g <$> r).Follows fields := by
  constructor
  · exact h.names
  · intro find good
    rw [← h.accepts good]
    simp only [build_map]
    constructor
    · rintro ⟨b, a, read, -⟩
      exact ⟨a, read⟩
    · rintro ⟨a, read⟩
      exact ⟨g a, a, read, rfl⟩
  · intro find b read
    obtain ⟨a, inner, rfl⟩ := build_map.mp read
    exact (h.reads inner).map g
  · intro find find' b good kept read
    obtain ⟨a, inner, rfl⟩ := build_map.mp read
    exact build_map.mpr ⟨a, h.stable good kept inner, rfl⟩

lemma Follows.seq {f : Layout (α → β)} {r : Layout α} (hf : f.Follows fields)
    (hr : r.Follows fields') : (f <*> r).Follows (fields ++ fields') := by
  constructor
  · change (f.fields ++ r.fields).map Prod.fst = _
    rw [List.map_append, List.map_append, hf.names, hr.names]
  · intro find good
    rw [List.forall_mem_append] at good
    rw [List.forall_mem_append, ← hf.accepts good.1, ← hr.accepts good.2]
    simp only [build_seq]
    constructor
    · rintro ⟨b, g, a, first, second, -⟩
      exact ⟨⟨g, first⟩, a, second⟩
    · rintro ⟨⟨g, first⟩, a, second⟩
      exact ⟨g a, g, a, first, second, rfl⟩
  · intro find b read
    obtain ⟨g, a, first, second, rfl⟩ := build_seq.mp read
    exact (hf.reads first).seq (hr.reads second)
  · intro find find' b good kept read
    rw [List.forall_mem_append] at good kept
    obtain ⟨g, a, first, second, rfl⟩ := build_seq.mp read
    exact build_seq.mpr
      ⟨g, a, hf.stable good.1 kept.1 first, hr.stable good.2 kept.2 second, rfl⟩

section Fields

variable {d : Decoder α} {absent : Except Failure α} {short : Option α} {required : Bool}

/-- A field finds a value if its member meets it. Without a member it does if something else stands
for it. -/
lemma exists_build_field_iff (h : d.Follows s) (need : (∃ a, absent = .ok a) ↔ required = false)
    {find : String → Option Node} (good : ∀ n, find name = some n → Good s n) :
    (∃ a, (Layout.field name d absent short).build find = .ok a) ↔
      (Field.mk name required s).Met find := by
  simp only [build_field]
  constructor
  · rintro ⟨a, ⟨n, found, value⟩ | ⟨none, absent⟩⟩
    · refine ⟨?_, fun _ => ⟨n, found⟩⟩
      intro n' found'
      obtain rfl := Option.some.inj (found.symm.trans found')
      exact (h.accepts (good n found)).mp ⟨a, value⟩
    · refine ⟨?_, ?_⟩
      · intro n found
        rw [none] at found
        cases found
      · intro must
        rw [need.mp ⟨a, absent⟩] at must
        cases must
  · rintro ⟨fits, there⟩
    cases found : find name with
    | some n =>
      obtain ⟨a, value⟩ := (h.accepts (good n found)).mpr (fits n found)
      exact ⟨a, .inl ⟨n, rfl, value⟩⟩
    | none =>
      cases required with
      | false =>
        obtain ⟨a, absent⟩ := need.mpr rfl
        exact ⟨a, .inr ⟨rfl, absent⟩⟩
      | true =>
        obtain ⟨n, found'⟩ := there rfl
        rw [found] at found'
        cases found'

/-- A field finds the same value where its member is kept. -/
lemma build_field_of_kept (h : d.Follows s) {find find' : String → Option Node}
    (good : ∀ n, find name = some n → Good s n) (kept : (Field.mk name required s).Kept find find')
    (read : (Layout.field name d absent short).build find = .ok a) :
    (Layout.field name d absent short).build find' = .ok a := by
  rw [build_field] at read ⊢
  rcases kept with same | ⟨n, n', found, found', edit⟩
  · rwa [same]
  · rcases read with ⟨m, here, value⟩ | ⟨none, -⟩
    · obtain rfl := Option.some.inj (found.symm.trans here)
      exact .inl ⟨n', found', h.stable (good n found) edit value⟩
    · rw [none] at found
      cases found

/-- A field follows the shape of its value. It must be there if nothing else stands for it. -/
lemma Follows.field (h : d.Follows s) (need : (∃ a, absent = .ok a) ↔ required = false) :
    (Layout.field name d absent short).Follows [⟨name, required, s⟩] := by
  constructor
  · rfl
  · intro find good
    rw [List.forall_mem_singleton] at good ⊢
    exact exists_build_field_iff h need good
  · intro find a read
    rcases build_field.mp read with ⟨n, found, value⟩ | ⟨none, absent⟩
    · exact .field found value
    · subst absent
      exact .absent none
  · intro find find' a good kept read
    rw [List.forall_mem_singleton] at good kept
    exact build_field_of_kept h good kept read

end Fields

lemma Follows.required {d : Decoder α} (h : d.Follows s) :
    (Layout.required name d).Follows [⟨name, true, s⟩] :=
  Follows.field h (by simp)

lemma Follows.defaulted {d : Decoder α} (h : d.Follows s) {a : α} :
    (Layout.defaulted name d a).Follows [⟨name, false, s⟩] :=
  Follows.field h (by simp)

lemma Follows.optional {d : Decoder α} (h : d.Follows s) :
    (Layout.optional name d).Follows [⟨name, false, .nullable s⟩] :=
  Follows.field h.option (by simp)

/-! ### Structures -/

section Structures

variable {r : Layout α} {ms ms' : List (Except Fault String × Node)} {ending : Ending}

lemma knows_of_mem {f : Field Shape} (mem : f ∈ fields) : (Shape.object fields).Knows f.name :=
  ⟨f, mem, rfl⟩

/-- The shape of a field is that of the member with its name. -/
lemma member_of_mem (distinct : (fields.map Field.name).Nodup) {f : Field Shape}
    (mem : f ∈ fields) : (Shape.object fields).member f.name = f.shape := by
  have found : fields.find? (fun f' => f'.name = f.name) = some f := by
    induction fields with
    | nil => cases mem
    | cons f' fields ih =>
      rw [List.map_cons, List.nodup_cons] at distinct
      rcases List.mem_cons.mp mem with rfl | mem
      · simp
      · have other : f'.name ≠ f.name := fun eq =>
          distinct.1 (eq ▸ List.mem_map_of_mem mem)
        simpa [other] using ih distinct.2 mem
  rw [Shape.member, found]

/-- The members of the fields are in good form. -/
lemma good_of_find? (distinct : (fields.map Field.name).Nodup)
    (good : Good (.object fields) (.object ms ending)) :
    ∀ f ∈ fields, ∀ n, find? f.name ms = some n → Good f.shape n := by
  intro f mem n found
  rw [← member_of_mem distinct mem]
  exact good.members f.name n ((good.find?_eq_some (knows_of_mem mem)).mp found)

/-- An object in good form is read if its members make a value. -/
lemma Follows.decoder_object (h : r.Follows fields)
    (good : Good (.object fields) (.object ms ending)) :
    r.decoder name false (.object ms ending) = .ok a ↔
      r.build (fun key => find? key ms) = .ok a := by
  have known {key : String} {d : Node → Except Failure Unit}
      (field : r.fields.lookup key = some d) : (Shape.object fields).Knows key := by
    have mem : key ∈ r.fields.map Prod.fst := List.mem_map_of_mem (mem_of_lookup field)
    rw [h.names] at mem
    obtain ⟨f, inside, rfl⟩ := List.mem_map.mp mem
    exact knows_of_mem inside
  rw [decoder, bind_eq_ok]
  constructor
  · rintro ⟨_, -, built⟩
    exact built
  · intro built
    obtain ⟨texts, once⟩ := good.keys
    refine ⟨(), check_eq_ok texts ?_ ?_ ?_ ?_ ?_, built⟩
    · exact once.imp fun apart key d field => apart key (known field)
    · exact fun key mem => absurd mem List.not_mem_nil
    · intro key n d mem field
      exact (h.reads built).fields key d (mem_of_lookup field) n
        ((good.find?_eq_some (known field)).mpr mem)
    · cases good.faultless with
      | object _ values => exact fun m mem => (values m mem).skipFault?
    · cases good.faultless
      rfl

/-- The members of the fields are kept by an edit of the object. -/
lemma kept_of_edit (distinct : (fields.map Field.name).Nodup)
    (good : Good (.object fields) (.object ms ending)) {ending' : Ending}
    (edit : Edit (.object fields) (.object ms ending) (.object ms' ending')) :
    ∀ f ∈ fields, f.Kept (fun key => find? key ms) (fun key => find? key ms') := by
  intro f mem
  have known := knows_of_mem mem
  have before (n : Node) := good.find?_eq_some (n := n) known
  have after (n : Node) := (edit.good good).find?_eq_some (n := n) known
  cases edit with
  | permuted perm =>
    left
    apply Option.ext
    intro n
    simp only [before, after, perm.mem_iff]
  | added unknown =>
    left
    apply Option.ext
    intro n
    simp only [before, after, List.mem_cons]
    apply or_iff_right
    intro eq
    cases eq
    exact unknown known
  | @member _ key n n' front back _ edit =>
    by_cases here : f.name = key
    · subst here
      right
      rw [member_of_mem distinct mem] at edit
      exact ⟨n, n', (before n).mpr (by simp), (after n').mpr (by simp), edit⟩
    · left
      apply Option.ext
      intro m
      simp [before, after, here]

/-- In good form, a structure is read from objects alone. -/
lemma object_of_decoder (good : Good (.object fields) n) (read : r.decoder name false n = .ok a) :
    ∃ ms ending, n = .object ms ending := by
  cases n with
  | object ms ending => exact ⟨ms, ending, rfl⟩
  | list ns ending =>
    cases good.plain with
    | leaf leaf => exact leaf.elim
    | noObject notList _ => exact (notList _ _ rfl).elim
  | _ => simp [decoder, Decoder.mismatch_ne_ok] at read

/-- An object in good form fits if all its fields are met. -/
lemma fits_iff_met (distinct : (fields.map Field.name).Nodup)
    (good : Good (.object fields) (.object ms ending)) :
    Fits (.object fields) (.object ms ending) ↔
      ∀ f ∈ fields, f.Met fun key => find? key ms := by
  have found {f : Field Shape} (mem : f ∈ fields) (n : Node) :=
    good.find?_eq_some (n := n) (knows_of_mem mem)
  constructor
  · intro fits f mem
    cases fits with
    | object members required =>
      constructor
      · intro n here
        rw [← member_of_mem distinct mem]
        exact members f.name n ((found mem n).mp here)
      · intro must
        obtain ⟨n, here⟩ := required f mem must
        exact ⟨n, (found mem n).mpr here⟩
  · intro met
    refine .object ?_ ?_
    · intro key n here
      by_cases known : (Shape.object fields).Knows key
      · obtain ⟨f, mem, rfl⟩ := known
        rw [member_of_mem distinct mem]
        exact (met f mem).fits n ((found mem n).mpr here)
      · rw [Shape.member_of_unknown known]
        exact .unknown
    · intro f mem must
      obtain ⟨n, here⟩ := (met f mem).there must
      exact ⟨n, (found mem n).mp here⟩

/-- A structure follows the shape that its fields make up. -/
theorem Follows.decoder (h : r.Follows fields) (distinct : (fields.map Field.name).Nodup) :
    (r.decoder name false).Follows (.object fields) := by
  constructor
  · intro n good
    constructor
    · rintro ⟨a, read⟩
      obtain ⟨ms, ending, rfl⟩ := object_of_decoder good read
      rw [h.decoder_object good] at read
      rw [fits_iff_met distinct good, ← h.accepts (good_of_find? distinct good)]
      exact ⟨a, read⟩
    · intro fits
      obtain ⟨ms, ending, rfl⟩ : ∃ ms ending, n = .object ms ending := by
        cases fits with
        | object => exact ⟨_, _, rfl⟩
      simp only [h.decoder_object good]
      rwa [h.accepts (good_of_find? distinct good), ← fits_iff_met distinct good]
  · intro n n' a good edit read
    obtain ⟨ms, ending, rfl⟩ := object_of_decoder good read
    obtain ⟨ms', ending', rfl⟩ : ∃ ms' ending', n' = .object ms' ending' := by
      cases edit with
      | permuted | added | member => exact ⟨_, _, rfl⟩
    rw [h.decoder_object good] at read
    rw [h.decoder_object (edit.good good)]
    exact h.stable (good_of_find? distinct good) (kept_of_edit distinct good edit) read

end Structures

end Layout

end LinkGauge
