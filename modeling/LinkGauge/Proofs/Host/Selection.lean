import LinkGauge.Host.Selection
import Mathlib.Data.List.NodupEquivFin
import Mathlib.Data.List.Sort
import Mathlib.Logic.Relation
import Mathlib.Tactic

/-!
# Draws and the hosts they choose

Draws are in one-to-one correspondence with the positions of the hosts that may be measured, in the
order of the list. So each of these positions is chosen by exactly one draw, and no other is. Lists
have the same draws choose the same hosts exactly if they differ in other hosts alone.
-/

namespace LinkGauge.Host

variable {hosts hosts' : List Host} {category : Category}

/-! ### Eligible hosts -/

lemma isEligible_iff {h : Host} :
    isEligible category h = true ↔ h.active = true ∧ h.category = category := by
  simp [isEligible]

lemma eligible_eq_nil_iff :
    eligible hosts category = [] ↔ ∀ h ∈ hosts, ¬(h.active = true ∧ h.category = category) := by
  simp only [eligible, List.filter_eq_nil_iff, isEligible_iff]

lemma select_eq_error_iff :
    select hosts category = .done (.error (.noHosts category)) ↔ eligible hosts category = [] := by
  rw [select]
  split
  case h_1 none => exact ⟨fun _ => none, fun _ => rfl⟩
  case h_2 first others some =>
    rw [some]
    exact ⟨nofun, nofun⟩

/-! ### Positions -/

/-- The places in the list that hold a host to be measured in the category. -/
abbrev Position (hosts : List Host) (category : Category) : Type :=
  {i : Fin hosts.length // (hosts.get i).active = true ∧ (hosts.get i).category = category}

/-- These places in their order. -/
def positions (hosts : List Host) (category : Category) : List (Fin hosts.length) :=
  (List.finRange hosts.length).filter fun i => isEligible category (hosts.get i)

lemma map_get_positions : (positions hosts category).map hosts.get = eligible hosts category := by
  rw [positions, ← Function.comp_def, ← List.filter_map, List.map_get_finRange, eligible]

lemma mem_positions {i : Fin hosts.length} : i ∈ positions hosts category ↔
    (hosts.get i).active = true ∧ (hosts.get i).category = category := by
  simp [positions, isEligible_iff]

lemma sortedLT_positions : (positions hosts category).SortedLT :=
  ((List.sortedLT_finRange _).pairwise.filter _).sortedLT

lemma length_positions : (positions hosts category).length = (eligible hosts category).length := by
  rw [← map_get_positions, List.length_map]

/-- Who comes first among those to be measured stands before the others in the list. -/
def positionIso (hosts : List Host) (category : Category) :
    Fin (eligible hosts category).length ≃o Position hosts category :=
  (Fin.castOrderIso length_positions.symm).trans <|
    (sortedLT_positions.getIso _).trans <| OrderIso.setCongr _ _ (Set.ext fun _ => mem_positions)

lemma get_positionIso (draw : Fin (eligible hosts category).length) :
    hosts.get (positionIso hosts category draw) = (eligible hosts category).get draw := by
  have chosen : (positionIso hosts category draw : Fin hosts.length) =
      (positions hosts category).get (draw.cast length_positions.symm) := rfl
  rw [chosen]
  simp only [← map_get_positions, List.get_eq_getElem, List.getElem_map, Fin.val_cast]

/-- If anybody can be measured, a number below how many can is drawn, and it tells who is. -/
lemma select_eq_ask {last : ℕ} (count : (eligible hosts category).length = last + 1) :
    select hosts category = .ask last fun (draw : Fin (last + 1)) =>
      .done (.ok (hosts.get (positionIso hosts category (draw.cast count.symm)))) := by
  simp only [get_positionIso, select]
  generalize eligible hosts category = those at count
  cases those with
  | nil => cases count
  | cons first others =>
    obtain rfl : others.length = last := Nat.succ.inj count
    rfl

/-! ### Other hosts -/

/-- A change of a list that a category does not notice: a host that is not to be measured in it
comes in, leaves, or changes places with the one behind it. -/
inductive Unnoticed (category : Category) : List Host → List Host → Prop where
  | inserted (before after : List Host) {h : Host}
      (other : ¬(h.active = true ∧ h.category = category)) :
      Unnoticed category (before ++ after) (before ++ h :: after)
  | removed (before after : List Host) {h : Host}
      (other : ¬(h.active = true ∧ h.category = category)) :
      Unnoticed category (before ++ h :: after) (before ++ after)
  | moved (before after : List Host) {h : Host} (next : Host)
      (other : ¬(h.active = true ∧ h.category = category)) :
      Unnoticed category (before ++ h :: next :: after) (before ++ next :: h :: after)

lemma Unnoticed.eligible_eq (change : Unnoticed category hosts hosts') :
    eligible hosts category = eligible hosts' category := by
  cases change with
  | inserted before after other => simp [eligible, isEligible_iff, other]
  | removed before after other => simp [eligible, isEligible_iff, other]
  | moved before after next other => simp [eligible, List.filter_cons, isEligible_iff, other]

lemma Unnoticed.cons (h : Host) (change : Unnoticed category hosts hosts') :
    Unnoticed category (h :: hosts) (h :: hosts') := by
  cases change with
  | inserted before after other => exact .inserted (h :: before) after other
  | removed before after other => exact .removed (h :: before) after other
  | moved before after next other => exact .moved (h :: before) after next other

/-- All others can leave, -/
lemma unnoticed_eligible (hosts : List Host) (category : Category) :
    Relation.ReflTransGen (Unnoticed category) hosts (eligible hosts category) := by
  induction hosts with
  | nil => exact .refl
  | cons h hosts ih =>
    by_cases same : h.active = true ∧ h.category = category
    · rw [eligible, List.filter_cons_of_pos (isEligible_iff.mpr same)]
      exact ih.lift (h :: ·) fun _ _ => Unnoticed.cons h
    · rw [eligible, List.filter_cons_of_neg (mt isEligible_iff.mp same)]
      exact ih.head (.removed [] hosts same)

/-- and come in again. -/
lemma eligible_unnoticed (hosts : List Host) (category : Category) :
    Relation.ReflTransGen (Unnoticed category) (eligible hosts category) hosts := by
  induction hosts with
  | nil => exact .refl
  | cons h hosts ih =>
    by_cases same : h.active = true ∧ h.category = category
    · rw [eligible, List.filter_cons_of_pos (isEligible_iff.mpr same)]
      exact ih.lift (h :: ·) fun _ _ => Unnoticed.cons h
    · rw [eligible, List.filter_cons_of_neg (mt isEligible_iff.mp same)]
      exact ih.tail (.inserted [] hosts same)

lemma eligible_eq_iff : eligible hosts category = eligible hosts' category ↔
    Relation.ReflTransGen (Unnoticed category) hosts hosts' := by
  constructor
  · intro same
    exact (unnoticed_eligible hosts category).trans (same ▸ eligible_unnoticed hosts' category)
  · intro changes
    induction changes with
    | refl => rfl
    | tail _ change ih => exact ih.trans change.eligible_eq

/-- Equal choices agree on each draw. -/
lemma apply_eq_of_heq {α : Type} {n n' : ℕ} (count : n = n') {f : Fin (n + 1) → α}
    {g : Fin (n' + 1) → α} (same : f ≍ g) {i : ℕ} (lt : i < n + 1) (lt' : i < n' + 1) :
    f ⟨i, lt⟩ = g ⟨i, lt'⟩ := by
  subst count
  rw [eq_of_heq same]

/-- Whom draws choose tells who is eligible. -/
lemma select_eq_iff : select hosts category = select hosts' category ↔
    eligible hosts category = eligible hosts' category := by
  constructor
  · intro same
    simp only [select] at same
    generalize eligible hosts category = those at same
    generalize eligible hosts' category = those' at same
    cases those with
    | nil =>
      cases those' with
      | nil => rfl
      | cons => cases same
    | cons first others =>
      cases those' with
      | nil => cases same
      | cons first' others' =>
        obtain ⟨count, choices⟩ := Plan.ask.inj same
        refine List.ext_get (congrArg Nat.succ count) ?_
        intro i lt lt'
        have choice := apply_eq_of_heq count choices lt lt'
        exact Except.ok.inj (Plan.done.inj choice)
  · intro same
    rw [select, select, same]

/-- Nobody is chosen exactly if nobody is to be measured. Else each draw chooses the host in one
place, and the draws stand for the places of all hosts to be measured in the order of the list. All
draws choose the same in two lists exactly if other hosts are all that they differ in. -/
theorem draws_choose_places (hosts : List Host) (category : Category) :
    (select hosts category = .done (.error (.noHosts category)) ↔
      ∀ h ∈ hosts, ¬(h.active = true ∧ h.category = category)) ∧
    (select hosts category = .done (.error (.noHosts category)) ∨
      ∃ (last : ℕ) (place : Fin (last + 1) ≃o Position hosts category),
        select hosts category = .ask last fun (draw : Fin (last + 1)) =>
          .done (.ok (hosts.get (place draw)))) ∧
    ∀ hosts', select hosts category = select hosts' category ↔
      Relation.ReflTransGen (Unnoticed category) hosts hosts' := by
  refine ⟨select_eq_error_iff.trans eligible_eq_nil_iff, ?_,
    fun hosts' => select_eq_iff.trans eligible_eq_iff⟩
  cases count : (eligible hosts category).length with
  | zero => exact .inl (select_eq_error_iff.mpr (List.length_eq_zero_iff.mp count))
  | succ last =>
    exact .inr ⟨last, (Fin.castOrderIso count.symm).trans (positionIso hosts category),
      select_eq_ask count⟩

end LinkGauge.Host
