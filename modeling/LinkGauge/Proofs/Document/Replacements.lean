import LinkGauge.Proofs.Document.Parts

/-!
# Structures with another part

A structure is given once more, with one part of another value: in an object the member is replaced
or comes in at some place, in a list the item is replaced or comes in as the last one. What was read
before is read again, if the new part is of the type that the field asks for.
-/

namespace LinkGauge.Layout

variable {α β : Type} {r : Layout α} {name : String} {v n m : Node}

/-- The structures `n` and `m` are the same but for the part under the name, which is `v` in `m`. -/
inductive Puts (r : Layout α) (name : String) (v : Node) : Node → Node → Prop where
  | member {before after : List (Except Fault String × Node)} {w : Node} {ending : Ending}
      (first : .ok name ∉ before.map Prod.fst) :
      Puts r name v (.object (before ++ (.ok name, w) :: after) ending)
        (.object (before ++ (.ok name, v) :: after) ending)
  | newMember {before after : List (Except Fault String × Node)} {ending : Ending}
      (missing : .ok name ∉ (before ++ after).map Prod.fst) :
      Puts r name v (.object (before ++ after) ending)
        (.object (before ++ (.ok name, v) :: after) ending)
  | item {before after : List Node} {w : Node} {ending : Ending}
      (place : before.length = r.names.idxOf name) :
      Puts r name v (.list (before ++ w :: after) ending) (.list (before ++ v :: after) ending)
  | newItem {ns : List Node} {ending : Ending} (place : ns.length = r.names.idxOf name) :
      Puts r name v (.list ns ending) (.list (ns ++ [v]) ending)

/-! ### Members -/

section Members

variable {key : String} {ms before after : List (Except Fault String × Node)}

lemma find?_append_of_notMem (notMem : .ok key ∉ before.map Prod.fst) :
    find? key (before ++ after) = find? key after := by
  induction before with
  | nil => rfl
  | cons m before ih =>
    obtain ⟨k, n⟩ := m
    rw [List.map_cons, List.mem_cons, not_or] at notMem
    cases k with
    | error fault => exact ih notMem.2
    | ok k =>
      have other : k ≠ key := fun eq => notMem.1 (by rw [eq])
      rw [List.cons_append, find?, if_neg other]
      exact ih notMem.2

lemma find?_append_cons_of_ne {key' : String} (other : key ≠ key') :
    find? key' (before ++ (.ok key, v) :: after) = find? key' (before ++ after) := by
  induction before with
  | nil => exact if_neg other
  | cons m before ih =>
    obtain ⟨k, n⟩ := m
    cases k with
    | error fault => exact ih
    | ok k =>
      rw [List.cons_append, List.cons_append, find?, find?, ih]

end Members

section Items

variable {ns before after : List Node} {w : Node} {i : ℕ}

lemma getElem?_replace (other : i ≠ before.length) :
    (before ++ v :: after)[i]? = (before ++ w :: after)[i]? := by
  induction before generalizing i with
  | nil =>
    cases i with
    | zero => exact absurd rfl other
    | succ i => rfl
  | cons n before ih =>
    cases i with
    | zero => rfl
    | succ i => exact ih fun eq => other (congrArg Nat.succ eq)

lemma getElem?_concat_of_ne (other : i ≠ ns.length) : (ns ++ [v])[i]? = ns[i]? := by
  rcases Nat.lt_or_gt_of_ne other with inside | outside
  · exact List.getElem?_append_left inside
  · rw [List.getElem?_eq_none (by simpa using outside), List.getElem?_eq_none outside.le]

end Items

/-! ### Parts -/

/-- The part is the one that was put there. -/
lemma Puts.part?_self (puts : Puts r name v n m) : r.part? name m = some v := by
  cases puts with
  | member first =>
    change find? name _ = _
    rw [find?_append_of_notMem first, find?, if_pos rfl]
  | newMember missing =>
    rw [List.map_append, List.mem_append, not_or] at missing
    change find? name _ = _
    rw [find?_append_of_notMem missing.1, find?, if_pos rfl]
  | item place | newItem place =>
    change (_ : List Node)[_]? = _
    rw [← place]
    simp

/-- Every other part is as before. -/
lemma Puts.part?_of_ne (puts : Puts r name v n m) {other : String} (mem : other ∈ r.names)
    (ne : name ≠ other) : r.part? other m = r.part? other n := by
  cases puts with
  | member first =>
    change find? other _ = find? other _
    rw [find?_append_cons_of_ne ne, find?_append_cons_of_ne ne]
  | newMember missing => exact find?_append_cons_of_ne ne
  | item place =>
    change (_ : List Node)[_]? = (_ : List Node)[_]?
    refine getElem?_replace ?_
    rw [place]
    exact fun eq => ne ((List.idxOf_inj mem).mp eq).symm
  | newItem place =>
    change (_ : List Node)[_]? = (_ : List Node)[_]?
    refine getElem?_concat_of_ne ?_
    rw [place]
    exact fun eq => ne ((List.idxOf_inj mem).mp eq).symm

/-- A field is built from the part under its name alone. -/
lemma build_field_congr {d : Decoder α} {absent : Except Failure α} {short : Option α}
    {find find' : String → Option Node} (same : find' name = find name) :
    (field name d absent short).build find' = (field name d absent short).build find := by
  simp only [field, same]

/-! ### Acceptance -/

section Check

variable {fields : List (String × (Node → Except Failure Unit))} {closed : Bool}
  {seen seen' : List String} {key : String} {d : Node → Except Failure Unit}
  {ms before after : List (Except Fault String × Node)} {ending : Ending}

lemma check_cons_known (known : fields.lookup key = some d) :
    check fields closed seen ((.ok key, n) :: ms) ending = .ok () ↔
      key ∉ seen ∧ d n = .ok () ∧ check fields closed (key :: seen) ms ending = .ok () := by
  rw [check, known]
  by_cases repeated : key ∈ seen
  · simp [repeated]
  · simp [repeated, bind_eq_ok, mapError_eq_ok, Unique.exists_iff]

lemma check_cons_unknown (unknown : fields.lookup key = none) :
    check fields closed seen ((.ok key, n) :: ms) ending = .ok () ↔
      closed = false ∧ Decoder.skip n = .ok () ∧ check fields closed seen ms ending = .ok () := by
  rw [check, unknown]
  cases closed
  · simp [bind_eq_ok, mapError_eq_ok, Unique.exists_iff]
  · simp

lemma check_seen (same : ∀ key, .ok key ∈ ms.map Prod.fst → (key ∈ seen' ↔ key ∈ seen))
    (checked : check fields closed seen ms ending = .ok ()) :
    check fields closed seen' ms ending = .ok () := by
  induction ms generalizing seen seen' with
  | nil => exact checked
  | cons m ms ih =>
    obtain ⟨k, n⟩ := m
    simp only [List.map_cons, List.mem_cons] at same
    cases k with
    | error fault => cases checked
    | ok key =>
      have later := fun key' mem => same key' (.inr mem)
      cases field : fields.lookup key with
      | some d =>
        obtain ⟨new, value, rest⟩ := (check_cons_known field).mp checked
        refine (check_cons_known field).mpr ⟨?_, value, ih ?_ rest⟩
        · rwa [same key (.inl rfl)]
        · intro key' mem
          rw [List.mem_cons, List.mem_cons, later key' mem]
      | none =>
        obtain ⟨opened, skipped, rest⟩ := (check_cons_unknown field).mp checked
        exact (check_cons_unknown field).mpr ⟨opened, skipped, ih later rest⟩

/-- What follows the same members may be exchanged if that makes no difference by itself, whichever
of the keys before it are taken for seen. -/
lemma check_behind {ms' : List (Except Fault String × Node)}
    (exchanged : ∀ seen', (∀ k ∈ seen', k ∈ seen ∨ .ok k ∈ before.map Prod.fst) →
      check fields closed seen' ms ending = .ok () → check fields closed seen' ms' ending = .ok ())
    (checked : check fields closed seen (before ++ ms) ending = .ok ()) :
    check fields closed seen (before ++ ms') ending = .ok () := by
  induction before generalizing seen with
  | nil => exact exchanged seen (fun _ mem => .inl mem) checked
  | cons m before ih =>
    obtain ⟨k, n⟩ := m
    cases k with
    | error fault => cases checked
    | ok key =>
      cases field : fields.lookup key with
      | some d =>
        obtain ⟨new, value, rest⟩ := (check_cons_known field).mp checked
        refine (check_cons_known field).mpr ⟨new, value, ih ?_ rest⟩
        intro seen' known
        refine exchanged seen' fun k mem => ?_
        rcases known k mem with mem | later
        · rw [List.mem_cons] at mem
          rcases mem with rfl | mem
          · exact .inr List.mem_cons_self
          · exact .inl mem
        · exact .inr (List.mem_cons_of_mem _ later)
      | none =>
        obtain ⟨opened, skipped, rest⟩ := (check_cons_unknown field).mp checked
        refine (check_cons_unknown field).mpr ⟨opened, skipped, ih ?_ rest⟩
        intro seen' known
        exact exchanged seen' fun k mem => (known k mem).imp_right (List.mem_cons_of_mem _)

/-- An object is checked as before, when a member of a field has another value of its type. -/
lemma check_replaced (known : fields.lookup key = some d) (value : d v = .ok ())
    (checked : check fields closed seen (before ++ (.ok key, n) :: after) ending = .ok ()) :
    check fields closed seen (before ++ (.ok key, v) :: after) ending = .ok () := by
  refine check_behind ?_ checked
  intro seen' _ checked
  obtain ⟨new, -, rest⟩ := (check_cons_known known).mp checked
  exact (check_cons_known known).mpr ⟨new, value, rest⟩

/-- An object is checked as before, when a member of a field that was missing comes in. -/
lemma check_inserted (known : fields.lookup key = some d) (value : d v = .ok ())
    (missing : .ok key ∉ (before ++ after).map Prod.fst) (new : key ∉ seen)
    (checked : check fields closed seen (before ++ after) ending = .ok ()) :
    check fields closed seen (before ++ (.ok key, v) :: after) ending = .ok () := by
  rw [List.map_append, List.mem_append, not_or] at missing
  refine check_behind ?_ checked
  intro seen' origin checked
  refine (check_cons_known known).mpr ⟨?_, value, check_seen ?_ checked⟩
  · intro mem
    rcases origin key mem with old | earlier
    · exact new old
    · exact missing.1 earlier
  · intro key' mem
    have other : key' ≠ key := by
      rintro rfl
      exact missing.2 mem
    simp [other]

end Check

section Structures

variable {short : List Bool} {title : String} {closed : Bool} {a b : α}
  {d : Node → Except Failure Unit}

lemma Ends.replace {before after : List Node} {ending : Ending} {w : Node}
    (ends : Ends short (before ++ w :: after) ending) :
    Ends short (before ++ v :: after) ending := by
  simpa [Ends, MayEnd] using ends

/-- With one more item, a list still has none too many, and is short by one less. -/
lemma Ends.concat {ns : List Node} {ending : Ending} (ends : Ends short ns ending)
    (room : ns.length < short.length) : Ends short (ns ++ [v]) ending := by
  obtain ⟨mayEnd, fits⟩ := ends
  refine ⟨?_, ?_⟩
  · intro own mem
    refine mayEnd own (List.drop_subset_drop_left _ ?_ mem)
    simp
  · exact fits.imp_right fun h => ⟨by simpa using room, h.2⟩

/-- A structure with another part is read as what its parts make, if the new part is of the type
of its field. -/
theorem Puts.decoder (puts : Puts r name v n m) (lists : r.Lists short) (distinct : r.names.Nodup)
    (field : r.fields.lookup name = some d) (value : d v = .ok ())
    (read : r.decoder title closed n = .ok a) (built : r.build (r.part? · m) = .ok b) :
    r.decoder title closed m = .ok b := by
  cases puts with
  | member first =>
    obtain ⟨-, checked⟩ := decoder_object.mp read
    exact decoder_object.mpr ⟨built, check_replaced field value checked⟩
  | newMember missing =>
    obtain ⟨-, checked⟩ := decoder_object.mp read
    exact decoder_object.mpr
      ⟨built, check_inserted field value missing List.not_mem_nil checked⟩
  | item place =>
    obtain ⟨-, ends⟩ := (decoder_list lists distinct).mp read
    exact (decoder_list lists distinct).mpr ⟨built, ends.replace⟩
  | newItem place =>
    obtain ⟨-, ends⟩ := (decoder_list lists distinct).mp read
    refine (decoder_list lists distinct).mpr ⟨built, ends.concat ?_⟩
    rw [place, ← lists.length]
    exact List.idxOf_lt_length_of_mem (List.mem_map_of_mem (mem_of_lookup field))

end Structures

end LinkGauge.Layout
