import LinkGauge.Document.Tree
import LinkGauge.Proofs.Document.Parts

/-!
# Trees laid over each other

What stands at a place of a tree after another one was laid over it. Maps are merged key by key, and
everything else is replaced as a whole. So the later tree wins where it has something that is no
map, and where it has nothing the older one counts, unless something was replaced on the way.
-/

namespace LinkGauge.Tree

/-- The tree is a map. -/
def isMap : Tree → Bool
  | .map _ => true
  | _ => false

/-- The text that a tree is. -/
def text? : Tree → Option String
  | .text s => some s
  | _ => none

lemma text?_eq_some {t : Tree} {s : String} : t.text? = some s ↔ t = .text s := by
  cases t <;> simp [text?]

/-! ### Merging members -/

section Members

variable {key : String} {t : Tree} {ms old new : List (String × Tree)}

lemma lookup_member (k : String) :
    ((key, t) :: ms).lookup k = if k = key then some t else ms.lookup k := by
  by_cases same : k = key
  · rw [if_pos same, same, List.lookup_cons_self]
  · rw [if_neg same, List.lookup_cons, beq_eq_false_iff_ne.mpr same]

lemma lookup_insert (k : String) :
    (insert key t ms).lookup k = if k = key then some t else ms.lookup k := by
  induction ms with
  | nil => rw [insert, lookup_member]
  | cons m ms ih =>
    obtain ⟨k', u⟩ := m
    rw [insert]
    split
    next eq =>
      subst eq
      simp only [lookup_member]
      split <;> rfl
    next other =>
      split
      · rw [lookup_member]
      · rw [lookup_member, lookup_member, ih]
        by_cases first : k = k'
        · subst first
          rw [if_pos rfl, if_neg (Ne.symm other), if_pos rfl]
        · rw [if_neg first, if_neg first]

/-- Members are merged key by key. -/
lemma lookup_mergeMembers (k : String) :
    (mergeMembers old new).lookup k = Option.merge merge (old.lookup k) (new.lookup k) := by
  induction new with
  | nil => rw [mergeMembers, List.lookup_nil, Option.merge_none_right]
  | cons m new ih =>
    obtain ⟨key, t⟩ := m
    rw [mergeMembers, lookup_insert, lookup_member, ih]
    by_cases same : k = key
    · subst same
      rw [if_pos rfl, if_pos rfl]
      cases old.lookup k <;> rfl
    · rw [if_neg same, if_neg same]

/-- A single member is merged with what is under its key. -/
lemma lookup_mergeMembers_self (key : String) (t : Tree) (ms : List (String × Tree)) :
    (mergeMembers ms [(key, t)]).lookup key = Option.merge merge (ms.lookup key) (some t) := by
  rw [lookup_mergeMembers, lookup_member, if_pos rfl]

lemma lookup_mergeMembers_of_ne {k : String} (other : k ≠ key) :
    (mergeMembers ms [(key, t)]).lookup k = ms.lookup k := by
  rw [lookup_mergeMembers, lookup_member, if_neg other, List.lookup_nil, Option.merge_none_right]

end Members

/-! ### Merging -/

section Merge

variable {old new t u v : Tree}

lemma merge_of_isMap (h : (old.isMap && new.isMap) = false) :
    old.merge new = new := by
  cases new with
  | map => cases old <;> first | rfl | cases h
  | _ => cases old <;> rfl

lemma isMap_merge (map : new.isMap = true) : (old.merge new).isMap = true := by
  cases new with
  | map => cases old <;> rfl
  | _ => cases map

lemma exists_maps (maps : ¬(old.isMap && new.isMap) = false) :
    ∃ os ns, old = .map os ∧ new = .map ns := by
  cases old <;> cases new <;> simp_all [isMap]

/-- A tree is another one, or both are maps, as where members were merged into the other. -/
def Grown (u t : Tree) : Prop := u = t ∨ u.isMap = true ∧ t.isMap = true

lemma grown_merge (old new : Tree) : Grown (old.merge new) new := by
  by_cases maps : (old.isMap && new.isMap) = false
  · exact .inl (merge_of_isMap maps)
  · obtain ⟨os, ns, rfl, rfl⟩ := exists_maps maps
    exact .inr ⟨rfl, rfl⟩

lemma Grown.trans (grown : Grown u t) (grown' : Grown t v) : Grown u v := by
  rcases grown with rfl | ⟨map, map'⟩
  · exact grown'
  · rcases grown' with rfl | ⟨-, map''⟩
    · exact .inr ⟨map, map'⟩
    · exact .inr ⟨map, map''⟩

lemma Grown.eq_of_leaf (grown : Grown u t) (leaf : t.isMap = false) : u = t := by
  rcases grown with eq | ⟨-, map⟩
  · exact eq
  · exact absurd (leaf.symm.trans map) nofun

lemma Grown.eq_of_leaf_left (grown : Grown u t) (leaf : u.isMap = false) : u = t := by
  rcases grown with eq | ⟨map, -⟩
  · exact eq
  · exact absurd (leaf.symm.trans map) nofun

end Merge

/-! ### Places -/

/-- A place in a tree: for each level, the fields of the structure that is read from it, in order,
and the one of them that leads on. -/
abbrev Place := List (List String × String)

/-- The keys that lead to a place in maps. -/
def Place.keys (p : Place) : List String := p.map Prod.snd

/-- The part of a tree that a field is read from: what is under its key in a map, and in a list the
item at its place. -/
def part? (fields : List String) (name : String) : Tree → Option Tree
  | .map ms => ms.lookup name
  | .list ts => ts[fields.idxOf name]?
  | _ => none

/-- What is at a place. -/
def at? : Place → Tree → Option Tree
  | [], t => some t
  | (fields, name) :: p, t => (t.part? fields name).bind (at? p)

/-- An older tree is in sight at a place if a newer one lies over it: there are maps in both on the
way, up to where the newer one has nothing. -/
inductive InSight : Place → Tree → Tree → Prop where
  | free {fields : List String} {name : String} {p : Place} {old new : List (String × Tree)} :
      new.lookup name = none → InSight ((fields, name) :: p) (.map old) (.map new)
  | under {fields : List String} {name : String} {p : Place} {old new : List (String × Tree)}
      {o n : Tree} : old.lookup name = some o → new.lookup name = some n → InSight p o n →
      InSight ((fields, name) :: p) (.map old) (.map new)

section Merging

variable {p : Place} {old new t : Tree}

/-- One step into merged maps. -/
lemma at?_merge_map {fields : List String} {name : String} {os ns : List (String × Tree)} :
    ((Tree.map os).merge (.map ns)).at? ((fields, name) :: p) =
      (Option.merge merge (os.lookup name) (ns.lookup name)).bind (at? p) := by
  rw [merge, at?, part?, lookup_mergeMembers]

/-- What the newer tree has somewhere is there, though a map may have got more members. -/
theorem at?_merge_of_some (old : Tree) (there : new.at? p = some t) :
    ∃ u, (old.merge new).at? p = some u ∧ Grown u t := by
  induction p generalizing old new with
  | nil =>
    obtain rfl := Option.some.inj there
    exact ⟨_, rfl, grown_merge _ _⟩
  | cons step p ih =>
    obtain ⟨fields, name⟩ := step
    by_cases maps : (old.isMap && new.isMap) = false
    · exact ⟨t, by rw [merge_of_isMap maps, there], .inl rfl⟩
    · obtain ⟨os, ns, rfl, rfl⟩ := exists_maps maps
      rw [at?_merge_map]
      change (ns.lookup name).bind (at? p) = some t at there
      obtain ⟨n, found, there⟩ := Option.bind_eq_some_iff.mp there
      cases before : os.lookup name with
      | none => exact ⟨t, by simpa [found] using there, .inl rfl⟩
      | some o => simpa [found] using ih o there

/-- What the newer tree has somewhere is what counts if it is no map. -/
theorem at?_merge_of_leaf (there : new.at? p = some t) (leaf : t.isMap = false) :
    (old.merge new).at? p = some t := by
  obtain ⟨u, found, grown⟩ := at?_merge_of_some old there
  rwa [grown.eq_of_leaf leaf] at found

/-- What is in sight counts. -/
theorem at?_merge_of_inSight (inSight : InSight p old new) :
    (old.merge new).at? p = old.at? p := by
  induction inSight with
  | free none =>
    rw [at?_merge_map, none, Option.merge_none_right]
    rfl
  | under o n _ ih =>
    rw [at?_merge_map, o, n, at?, part?, o]
    exact ih

/-- What is not in sight counts no more. -/
theorem at?_merge_of_not_inSight (hidden : ¬InSight p old new) (none : new.at? p = none) :
    (old.merge new).at? p = .none := by
  induction p generalizing old new with
  | nil => cases none
  | cons step p ih =>
    obtain ⟨fields, name⟩ := step
    by_cases maps : (old.isMap && new.isMap) = false
    · rw [merge_of_isMap maps, none]
    · obtain ⟨os, ns, rfl, rfl⟩ := exists_maps maps
      rw [at?_merge_map]
      cases after : ns.lookup name with
      | none => exact absurd (.free after) hidden
      | some n =>
        change (ns.lookup name).bind (at? p) = .none at none
        rw [after] at none
        cases before : os.lookup name with
        | none => exact none
        | some o => exact ih (fun inSight => hidden (.under before after inSight)) none

end Merging

/-! ### Documents of trees -/

section Documents

variable {name : String}

lemma find?_toMembers (ms : List (String × Tree)) :
    Layout.find? name (toMembers ms) = (ms.lookup name).map toNode := by
  induction ms with
  | nil => rfl
  | cons m ms ih =>
    obtain ⟨key, t⟩ := m
    rw [toMembers, Layout.find?, lookup_member, ih]
    by_cases same : name = key
    · rw [if_pos same, if_pos same.symm]
      rfl
    · rw [if_neg same, if_neg (Ne.symm same)]

lemma getElem?_toNodes (ts : List Tree) (i : ℕ) : (toNodes ts)[i]? = ts[i]?.map toNode := by
  induction ts generalizing i with
  | nil => rfl
  | cons t ts ih =>
    cases i with
    | zero => rfl
    | succ i => exact ih i

/-- A field of a structure is read from the part of the tree. -/
lemma part?_toNode {α : Type} (r : Layout α) (t : Tree) (name : String) :
    r.part? name t.toNode = (t.part? r.names name).map toNode := by
  cases t with
  | map ms => exact find?_toMembers ms
  | list ts => exact getElem?_toNodes ts _
  | _ => rfl

end Documents

end LinkGauge.Tree
