import LinkGauge.Environment.Basic
import LinkGauge.Proofs.Document.Trees

/-!
# Places of variables

A variable that stands for a place holds what is there in the tree of an environment, unless a later
one stands for the same place, for one inside of it or for one that it is inside of. Where no
variable stands for such a place, nothing is there, and what lies below stays in sight.
-/

namespace LinkGauge

/-! ### Keys -/

namespace Tree

/-- Keys inside each other lead through maps only, to what is under the last or to where nothing
is. -/
inductive Leads : List String → Tree → Option Tree → Prop where
  | here {t : Tree} : Leads [] t (some t)
  | missing {key : String} {keys : List String} {ms : List (String × Tree)} :
      ms.lookup key = none → Leads (key :: keys) (.map ms) none
  | under {key : String} {keys : List String} {ms : List (String × Tree)} {t : Tree}
      {o : Option Tree} : ms.lookup key = some t → Leads keys t o → Leads (key :: keys) (.map ms) o

/-- Two places are the same, or one is inside of the other. -/
def Touches (keys keys' : List String) : Prop := keys <+: keys' ∨ keys' <+: keys

section Keys

variable {p : Place} {key : String} {keys keys' : List String} {ms : List (String × Tree)}
  {old new t v : Tree} {o : Option Tree}

lemma Leads.at? (leads : Leads p.keys t o) : t.at? p = o := by
  induction p generalizing t with
  | nil =>
    cases leads
    rfl
  | cons step p ih =>
    cases leads with
    | missing none =>
      rw [Tree.at?, part?, none]
      rfl
    | under found inner =>
      rw [Tree.at?, part?, found]
      exact ih inner

/-- Where a tree has nothing, and maps on the way, what lies below it counts. -/
lemma at?_merge_of_leads (silent : Leads p.keys new none) (leads : Leads p.keys old o) :
    (old.merge new).at? p = o := by
  induction p generalizing old new with
  | nil => cases silent
  | cons step p ih =>
    obtain ⟨fields, key⟩ := step
    cases silent with
    | missing none =>
      rw [← leads.at?]
      cases leads with
      | missing | under => exact at?_merge_of_inSight (.free none)
    | under found inner =>
      cases leads with
      | missing none =>
        rw [at?_merge_map, none, found, Option.merge_none_left]
        exact inner.at?
      | under found' inner' =>
        rw [at?_merge_map, found', found]
        exact ih inner inner'

lemma touches_cons : Touches (key :: keys) (key :: keys') ↔ Touches keys keys' := by
  simp [Touches]

/-! ### Nested values -/

/-- Keys none of which is empty. -/
def Proper (keys : List String) : Prop := "" ∉ keys

lemma Proper.tail (proper : Proper (key :: keys)) : Proper keys :=
  fun mem => proper (List.mem_cons_of_mem _ mem)

lemma Proper.nest_cons (proper : Proper (key :: keys)) :
    nest (key :: keys) v = .map [(key, nest keys v)] := by
  rw [nest, if_neg]
  rintro rfl
  exact proper List.mem_cons_self

/-- A value that is laid over a tree is under its keys, unless maps are merged there. -/
lemma leads_merge_nest (proper : Proper keys) :
    ∃ u, Leads keys (t.merge (nest keys v)) (some u) ∧ Grown u v := by
  induction keys generalizing t with
  | nil => exact ⟨_, .here, grown_merge _ _⟩
  | cons key keys ih =>
    obtain ⟨fresh, inner, grown⟩ := ih (t := .null) proper.tail
    rw [merge_of_isMap rfl] at inner
    rw [proper.nest_cons]
    by_cases maps : (t.isMap && (Tree.map [(key, nest keys v)]).isMap) = false
    · rw [merge_of_isMap maps]
      exact ⟨fresh, .under List.lookup_cons_self inner, grown⟩
    · obtain ⟨os, ns, rfl, eq⟩ := exists_maps maps
      cases eq
      have found := lookup_mergeMembers_self key (nest keys v) os
      cases before : os.lookup key with
      | none =>
        rw [before, Option.merge_none_left] at found
        exact ⟨fresh, .under found inner, grown⟩
      | some old =>
        rw [before] at found
        obtain ⟨u, inner, grown⟩ := ih (t := old) proper.tail
        exact ⟨u, .under found inner, grown⟩

/-- A value has nothing elsewhere. -/
lemma leads_nest (proper : Proper keys') (apart : ¬Touches keys' keys) :
    Leads keys (nest keys' v) none := by
  induction keys' generalizing keys with
  | nil => exact absurd (.inl List.nil_prefix) apart
  | cons key' keys' ih =>
    cases keys with
    | nil => exact absurd (.inr List.nil_prefix) apart
    | cons key keys =>
      rw [proper.nest_cons]
      by_cases same : key = key'
      · subst same
        have inner := ih proper.tail fun touches => apart (touches_cons.mpr touches)
        exact .under List.lookup_cons_self inner
      · exact .missing (by rw [lookup_member, if_neg same, List.lookup_nil])

/-- A value that is laid over a tree changes nothing elsewhere. -/
lemma Leads.merge_nest (leads : Leads keys t o) (proper : Proper keys')
    (apart : ¬Touches keys' keys) : Leads keys (t.merge (nest keys' v)) o := by
  induction leads generalizing keys' with
  | here => exact absurd (.inr List.nil_prefix) apart
  | @missing key _ _ none =>
    cases keys' with
    | nil => exact absurd (.inl List.nil_prefix) apart
    | cons key' keys' =>
      rw [proper.nest_cons]
      by_cases same : key = key'
      · subst same
        have inner := leads_nest (v := v) proper.tail fun touches =>
          apart (touches_cons.mpr touches)
        exact .under (by rw [lookup_mergeMembers_self, none, Option.merge_none_left]) inner
      · exact .missing (by rw [lookup_mergeMembers_of_ne same, none])
  | @under key _ _ _ _ found inner ih =>
    cases keys' with
    | nil => exact absurd (.inl List.nil_prefix) apart
    | cons key' keys' =>
      rw [proper.nest_cons]
      by_cases same : key = key'
      · subst same
        have merged := ih proper.tail fun touches => apart (touches_cons.mpr touches)
        exact .under (by rw [lookup_mergeMembers_self, found]; rfl) merged
      · exact .under (by rw [lookup_mergeMembers_of_ne same, found]) inner

end Keys

end Tree

/-! ### Variables -/

namespace Environment

open LinkGauge.Tree (Leads Touches Proper)

variable {place : String → Option (List String)} {keys : List String} {env : Environment}

/-- A variable stands for a place, for one inside of it or for one that it is inside of. -/
def Concerns (place : String → Option (List String)) (keys : List String) (name : String) : Prop :=
  ∃ keys', place name = some keys' ∧ Touches keys' keys

/-- No variable concerns a place. -/
def Quiet (place : String → Option (List String)) (keys : List String) (env : Environment) : Prop :=
  ∀ v ∈ env, ¬Concerns place keys v.1

/-- A variable, in upper or lower case, has a text, and no later one concerns its place. -/
def Sets (place : String → Option (List String)) (keys : List String) (name text : String)
    (env : Environment) : Prop :=
  ∃ before spelling after, env = before ++ (spelling, text) :: after ∧
    spelling.toLower = name.toLower ∧ Quiet place keys after

/-- One variable more. -/
def lay (place : String → Option (List String)) (t : Tree) (v : String × String) : Tree :=
  match place v.1 with
  | some keys => t.merge (.nest keys (value v.2))
  | none => t

lemma tree_eq_foldl : env.tree place = env.foldl (lay place) (.map []) := rfl

section Laying

variable {t : Tree} {o : Option Tree}

/-- Variables that do not concern a place change nothing there. -/
lemma leads_foldl_lay (places : ∀ name keys, place name = some keys → keys ≠ [] ∧ Proper keys)
    (quiet : Quiet place keys env) (leads : Leads keys t o) :
    Leads keys (env.foldl (lay place) t) o := by
  induction env generalizing t with
  | nil => exact leads
  | cons v env ih =>
    apply ih fun w mem => quiet w (List.mem_cons_of_mem _ mem)
    rw [lay]
    cases stands : place v.1 with
    | none => exact leads
    | some keys' =>
      exact leads.merge_nest (places _ _ stands).2 fun touches =>
        quiet v List.mem_cons_self ⟨keys', stands, touches⟩

/-- Where no variable concerns a place, nothing is there. -/
theorem leads_of_quiet (places : ∀ name keys, place name = some keys → keys ≠ [] ∧ Proper keys)
    (some : keys ≠ []) (quiet : Quiet place keys env) : Leads keys (env.tree place) none := by
  rw [tree_eq_foldl]
  apply leads_foldl_lay places quiet
  cases keys with
  | nil => exact absurd rfl some
  | cons key keys => exact .missing rfl

/-- The last variable that concerns a place decides what is there. If its text stands for a map,
this may be merged with what earlier ones say. -/
theorem leads_of_sets (places : ∀ name keys, place name = some keys → keys ≠ [] ∧ Proper keys)
    {name text : String} (stands : ∀ spelling : String, spelling.toLower = name.toLower →
      place spelling = some keys) (sets : Sets place keys name text env) :
    ∃ u, Leads keys (env.tree place) (some u) ∧ u.Grown (value text) := by
  obtain ⟨before, spelling, after, rfl, same, quiet⟩ := sets
  have stands := stands spelling same
  obtain ⟨u, leads, grown⟩ := Tree.leads_merge_nest (t := before.foldl (lay place) (.map []))
    (v := value text) (places _ _ stands).2
  refine ⟨u, ?_, grown⟩
  rw [tree_eq_foldl, List.foldl_append, List.foldl_cons]
  apply leads_foldl_lay places quiet
  simp only [lay, stands]
  exact leads

/-- A variable that stands for no place makes no difference. -/
lemma tree_skip {before after : Environment} {name text : String} (none : place name = .none) :
    tree place (before ++ (name, text) :: after) = tree place (before ++ after) := by
  simp only [tree_eq_foldl, List.foldl_append, List.foldl_cons, lay, none]

/-- The tree of an environment is a map. -/
lemma isMap_tree (places : ∀ name keys, place name = some keys → keys ≠ [] ∧ Proper keys) :
    (env.tree place).isMap = true := by
  have laid (t : Tree) (map : t.isMap = true) : (env.foldl (lay place) t).isMap = true := by
    induction env generalizing t with
    | nil => exact map
    | cons v env ih =>
      apply ih
      rw [lay]
      cases stands : place v.1 with
      | none => exact map
      | some keys =>
        obtain ⟨cons, proper⟩ := places _ _ stands
        apply Tree.isMap_merge
        cases keys with
        | nil => exact absurd rfl cons
        | cons key keys =>
          rw [proper.nest_cons]
          rfl
  exact laid _ rfl

end Laying

lemma proper_of_place? {name : String} (stands : place? name = some keys) :
    keys ≠ [] ∧ Proper keys := by
  simp only [place?] at stands
  split at stands
  · cases stands
  next none =>
    obtain rfl := Option.some.inj stands
    exact ⟨fun nil => List.splitOnP_ne_nil _ _ (List.map_eq_nil_iff.mp nil), none⟩

/-! ### Texts -/

lemma word_ne_null (cs : List Char) : word cs ≠ .null := by
  simp only [word]
  split
  · nofun
  split
  · nofun
  split <;> nofun

lemma value?_ne_null {fuel : ℕ} {cs rest : List Char} {t : Tree}
    (read : value? fuel cs = some (t, rest)) : t ≠ .null := by
  cases fuel with
  | zero => cases read
  | succ fuel =>
    rw [value?] at read
    split at read
    · obtain ⟨_, _, eq⟩ := Option.bind_eq_some_iff.mp read
      cases eq
      nofun
    · obtain ⟨_, _, eq⟩ := Option.bind_eq_some_iff.mp read
      cases eq
      nofun
    · obtain ⟨_, _, eq⟩ := Option.bind_eq_some_iff.mp read
      cases eq
      nofun
    · split at read
      · split at read
        · split at read
          · cases read
            nofun
          · cases read
        · cases read
      · cases read
        exact word_ne_null _
    · cases read
      nofun

/-- No text stands for null. -/
lemma value_ne_null (text : String) : value text ≠ .null := by
  simp only [value]
  split
  next read => exact value?_ne_null read
  next => nofun
end Environment

end LinkGauge
