import LinkGauge.Proofs.Document.Acceptance

/-!
# Parts of a structure

A structure may be given as an object or as the list of its fields' values. Either way its value is
built from the parts that stand under the names of the fields, in a list those at their places.
-/

namespace LinkGauge.Layout

variable {α β : Type} {n : Node} {ns : List Node} {ending : Ending}

/-- The node that a structure has under the name of a field. -/
def part? (r : Layout α) (name : String) : Node → Option Node
  | .object ms _ => find? name ms
  | .list ns _ => ns[r.names.idxOf name]?
  | _ => none

/-! ### Lists -/

/-- The items of a list stand under the names of fields, one after the other. -/
def Listed (names : List String) (ns : List Node) (find : String → Option Node) : Prop :=
  ∀ i (h : i < names.length), find (names.get ⟨i, h⟩) = ns[i]?

lemma listed_append {names names' : List String} {find : String → Option Node} :
    Listed (names ++ names') ns find ↔
      Listed names ns find ∧ Listed names' (ns.drop names.length) find := by
  constructor
  · intro listed
    refine ⟨?_, ?_⟩
    · intro i h
      have := listed i (by simp; omega)
      simpa [List.getElem_append_left h] using this
    · intro i h
      have := listed (names.length + i) (by simp; omega)
      simpa [List.getElem_append_right] using this
  · rintro ⟨left, right⟩ i h
    by_cases inside : i < names.length
    · have := left i inside
      simpa [List.getElem_append_left inside] using this
    · have := right (i - names.length) (by simp at h; omega)
      rw [List.getElem?_drop, Nat.add_sub_cancel' (by omega)] at this
      simpa [List.getElem_append_right (by omega : names.length ≤ i)] using this

/-- A list may end before the last fields if all of these have values of their own. -/
def MayEnd (short : List Bool) (ns : List Node) (ending : Ending) : Prop :=
  ∀ own ∈ short.drop ns.length, own = true ∧ Node.endingFault? ending = none

lemma mayEnd_append {short short' : List Bool} :
    MayEnd (short ++ short') ns ending ↔
      MayEnd short ns ending ∧ MayEnd short' (ns.drop short.length) ending := by
  simp only [MayEnd, List.drop_append, List.forall_mem_append, List.length_drop]

/-- From a list, the fields are taken as the parts under their names would be found. `short` tells
which fields may be missing at the end. -/
structure Lists (r : Layout α) (short : List Bool) : Prop where
  length : r.names.length = short.length
  take_eq_ok : ∀ {expected : String} {k : ℕ} {ns : List Node} {ending : Ending}
    {find : String → Option Node} {a : α} {rest : Supply}, Listed r.names ns find →
    (r.take expected ⟨k, ns, ending⟩ = .ok (a, rest) ↔
      r.build find = .ok a ∧ MayEnd short ns ending ∧
        rest = ⟨k + short.length, ns.drop short.length, ending⟩)

namespace Lists

variable {short short' : List Bool}

lemma map {r : Layout α} (h : r.Lists short) (g : α → β) : (g <$> r).Lists short := by
  refine ⟨h.length, ?_⟩
  intro expected k ns ending find b rest listed
  change (r.take expected ⟨k, ns, ending⟩).map _ = _ ↔ _
  simp only [map_eq_ok, build_map, Prod.exists, Prod.mk.injEq, h.take_eq_ok listed]
  constructor
  · rintro ⟨a, rest', ⟨built, ends, rfl⟩, rfl, rfl⟩
    exact ⟨⟨a, built, rfl⟩, ends, rfl⟩
  · rintro ⟨⟨a, built, rfl⟩, ends, rfl⟩
    exact ⟨a, _, ⟨built, ends, rfl⟩, rfl, rfl⟩

lemma seq {f : Layout (α → β)} {r : Layout α} (hf : f.Lists short) (hr : r.Lists short') :
    (f <*> r).Lists (short ++ short') := by
  have names : (f <*> r).names = f.names ++ r.names := List.map_append
  refine ⟨by rw [names, List.length_append, List.length_append, hf.length, hr.length], ?_⟩
  intro expected k ns ending find b rest listed
  rw [names, listed_append, hf.length] at listed
  change (f.take expected ⟨k, ns, ending⟩ >>= _) = _ ↔ _
  simp only [bind_eq_ok, build_seq, Prod.exists, Except.ok.injEq, Prod.mk.injEq,
    hf.take_eq_ok listed.1, mayEnd_append, List.length_append]
  constructor
  · rintro ⟨g, _, ⟨first, ends, rfl⟩, a, _, second, rfl, rfl⟩
    rw [hr.take_eq_ok listed.2] at second
    obtain ⟨second, ends', rfl⟩ := second
    refine ⟨⟨g, a, first, second, rfl⟩, ⟨ends, ends'⟩, ?_⟩
    rw [List.drop_drop, Nat.add_assoc]
  · rintro ⟨⟨g, a, first, second, rfl⟩, ⟨ends, ends'⟩, rfl⟩
    refine ⟨g, _, ⟨first, ends, rfl⟩, a, _, (hr.take_eq_ok listed.2).mpr ⟨second, ends', rfl⟩,
      rfl, ?_⟩
    rw [List.drop_drop, Nat.add_assoc]

/-- A field that has the same value where an object lacks it and where a list ends before it. -/
lemma field {name : String} {d : Decoder α} {absent : Except Failure α} {short : Option α}
    (same : ∀ a, short = some a → absent = .ok a) :
    (Layout.field name d absent short).Lists [short.isSome] := by
  refine ⟨rfl, ?_⟩
  intro expected k ns ending find a rest listed
  have found : find name = ns[0]? := listed 0 Nat.one_pos
  rw [build_field, found]
  cases ns with
  | cons n ns =>
    change (((d n).mapError _) >>= fun a => Except.ok (a, _)) = _ ↔ _
    simp [bind_eq_ok, mapError_eq_ok, MayEnd, eq_comm (a := rest)]
  | nil =>
    cases faults : Node.endingFault? ending <;> cases own : short <;>
      simp [Layout.field, MayEnd, faults, own, same, eq_comm (a := rest)]

lemma required {name : String} {d : Decoder α} : (Layout.required name d).Lists [false] :=
  field nofun

lemma optional {name : String} {d : Decoder α} : (Layout.optional name d).Lists [false] :=
  field nofun

lemma defaulted {name : String} {d : Decoder α} {a : α} :
    (Layout.defaulted name d a).Lists [true] :=
  field fun _ own => congrArg Except.ok (Option.some.inj own)

end Lists

/-! ### Structures -/

section Structures

variable {r : Layout α} {short : List Bool} {name : String} {closed : Bool} {a : α}

/-- How a list of the fields' values may end that is read as a structure. -/
def Ends (short : List Bool) (ns : List Node) (ending : Ending) : Prop :=
  MayEnd short ns ending ∧
    (ending = .lax ∨ ns.length ≤ short.length ∧ (ending = .closed ∨ ending = .counted))

/-- The items of a list are the parts of the structure. -/
lemma listed_part? (r : Layout α) (distinct : r.names.Nodup) :
    Listed r.names ns fun name => r.part? name (.list ns ending) := by
  intro i h
  change ns[r.names.idxOf (r.names.get ⟨i, h⟩)]? = ns[i]?
  rw [List.get_eq_getElem, distinct.idxOf_getElem]

/-- A list is read as the structure that its items make as parts. -/
lemma decoder_list (lists : r.Lists short) (distinct : r.names.Nodup) :
    r.decoder name closed (.list ns ending) = .ok a ↔
      r.build (r.part? · (.list ns ending)) = .ok a ∧ Ends short ns ending := by
  have listed : Listed r.names ns (r.part? · (.list ns ending)) := listed_part? r distinct
  rw [decoder, bind_eq_ok]
  simp only [Prod.exists, lists.take_eq_ok listed]
  rw [Ends, ← List.drop_eq_nil_iff]
  cases ending <;> cases ns.drop short.length <;> simp [and_comm]

/-- An object is read as the structure that its members make as parts. -/
lemma decoder_object {ms : List (Except Fault String × Node)} :
    r.decoder name closed (.object ms ending) = .ok a ↔
      r.build (r.part? · (.object ms ending)) = .ok a ∧
        check r.fields closed [] ms ending = .ok () := by
  rw [decoder, bind_eq_ok, and_comm]
  simp [part?, Unique.exists_iff]

/-- The value of a structure is built from its parts. -/
theorem build_of_decoder (lists : r.Lists short) (distinct : r.names.Nodup)
    (read : r.decoder name closed n = .ok a) : r.build (r.part? · n) = .ok a := by
  cases n with
  | list => exact ((decoder_list lists distinct).mp read).1
  | object => exact (decoder_object.mp read).1
  | _ => simp [decoder, Decoder.mismatch_ne_ok] at read

end Structures

/-! ### Given and omitted fields -/

section Fields

variable {r : Layout α} {name : String} {d : Decoder β} {b : β}

/-- A structure has a value under the name of a field. -/
def Gives (r : Layout α) (n : Node) (name : String) (d : Decoder β) (b : β) : Prop :=
  ∃ m, r.part? name n = some m ∧ d m = .ok b

lemma Gives.unique {b' : β} (h : r.Gives n name d b) (h' : r.Gives n name d b') : b = b' := by
  obtain ⟨m, there, value⟩ := h
  obtain ⟨m', there', value'⟩ := h'
  obtain rfl := Option.some.inj (there.symm.trans there')
  exact Except.ok.inj (value.symm.trans value')

/-- A structure has nothing under the name of a field, or null. -/
def Omits (r : Layout α) (n : Node) (name : String) : Prop :=
  ∀ m, r.part? name n = some m → m = .null

/-- A value that a structure may have under the name of a field. -/
structure Tells (r : Layout α) (n : Node) (name : String) (d : Decoder β) (o : Option β) :
    Prop where
  eq_none : o = none ↔ r.Omits n name
  eq_some : ∀ b, o = some b ↔ r.Gives n name d b

/-- What is given is told, unless null is a value. -/
lemma Gives.tells (gives : r.Gives n name d b) (null : ∀ b, d .null ≠ .ok b) :
    r.Tells n name d (some b) := by
  constructor
  · refine iff_of_false nofun fun omits => ?_
    obtain ⟨m, there, value⟩ := gives
    obtain rfl := omits m there
    exact null b value
  · intro b'
    rw [Option.some.injEq]
    constructor
    · rintro rfl
      exact gives
    · exact gives.unique

lemma Omits.tells (omits : r.Omits n name) (null : ∀ b, d .null ≠ .ok b) :
    r.Tells n name d none := by
  refine ⟨iff_of_true rfl omits, fun b => iff_of_false nofun ?_⟩
  rintro ⟨m, there, value⟩
  obtain rfl := omits m there
  exact null b value

/-- A field that must be there is given. -/
lemma gives_of_required (built : (required name d).build (r.part? · n) = .ok b) :
    r.Gives n name d b := by
  rcases build_field.mp built with there | ⟨-, missing⟩
  · exact there
  · cases missing

/-- A field that may be missing is told by what is there. -/
lemma tells_of_optional {o : Option β} (null : ∀ b, d .null ≠ .ok b)
    (built : (optional name d).build (r.part? · n) = .ok o) : r.Tells n name d o := by
  rcases build_field.mp built with ⟨m, there, value⟩ | ⟨missing, none⟩
  · by_cases isNull : m = .null
    · subst isNull
      cases value
      have omits : r.Omits n name := fun m' there' => Option.some.inj (there'.symm.trans there)
      exact omits.tells null
    · rw [Decoder.option_of_ne_null isNull, map_eq_ok] at value
      obtain ⟨b, value, rfl⟩ := value
      have gives : r.Gives n name d b := ⟨m, there, value⟩
      exact gives.tells null
  · cases none
    have omits : r.Omits n name := fun m there => nomatch missing.symm.trans there
    exact omits.tells null

end Fields

end LinkGauge.Layout
