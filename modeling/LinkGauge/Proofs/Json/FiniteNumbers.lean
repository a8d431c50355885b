import LinkGauge.Json.Reading
import LinkGauge.Proofs.Decimal.Doubles
import LinkGauge.Proofs.Document.Parts

/-!
# The numbers of a document are finite

Whatever text is scanned, faulty ones included, every number inside the document is finite as a
double: integers of 64 bits are, and of decimals those that are not are set aside as beyond.
-/

namespace LinkGauge

/-! ### Numbers -/

namespace Number

/-- A number of 64 bits is finite. -/
lemma isFinite_toFloat_natural (n : UInt64) : (natural n).toFloat.isFinite = true :=
  Double.isFinite_toFloat n

lemma isFinite_toFloat_negative (n : Int64) : (negative n).toFloat.isFinite = true := by
  have magnitude := Double.isFinite_toFloat (.ofNat n.toInt.natAbs)
  simp only [toFloat]
  split
  · exact Double.isFinite_neg magnitude
  · exact magnitude

end Number

namespace Decimal

variable {negative : Bool} {n : ℕ} {e : ℤ} {x : Float}

lemma isFinite_of_nearest? (found : nearest? n e = some x) : x.isFinite = true := by
  have zero : (0 : Float).isFinite = true := rfl
  simp only [nearest?] at found
  split at found
  · cases found
    exact zero
  · split at found
    · cases found
    · split at found
      · cases found
        exact zero
      · split at found
        next finite =>
          cases found
          exact finite
        · cases found

lemma isFinite_of_signed? (found : signed? negative n e = some x) : x.isFinite = true := by
  obtain ⟨y, nearest, rfl⟩ := Option.map_eq_some_iff.mp found
  have finite := isFinite_of_nearest? nearest
  cases negative with
  | true => exact Double.isFinite_neg finite
  | false => exact finite

end Decimal

/-! ### Documents -/

/-- All numbers inside are finite as doubles. -/
inductive Node.Finite : Node → Prop where
  | null : Finite .null
  | bool (b : Bool) : Finite (.bool b)
  | number {x : Number} (h : x.toFloat.isFinite = true) : Finite (.number x)
  | beyond : Finite .beyond
  | text (t : Except Fault String) : Finite (.text t)
  | strange (description : String) : Finite (.strange description)
  | list {ns : List Node} {ending : Ending} (items : ∀ n ∈ ns, Finite n) :
      Finite (.list ns ending)
  | object {ms : List (Except Fault String × Node)} {ending : Ending}
      (values : ∀ m ∈ ms, Finite m.2) : Finite (.object ms ending)
  | deep (bracket : Bracket) (fault? : Option Fault) : Finite (.deep bracket fault?)
  | broken (flaw : Flaw) : Finite (.broken flaw)

/-- Nothing is looked at in a list or an object that is nested too deep. -/
lemma Node.Finite.opened {n : Node} (finite : n.Finite) (depth : ℕ) : (n.opened depth).Finite := by
  fun_cases Node.opened depth n with
  | case1 | case2 => exact .deep _ _
  | case3 => exact finite

lemma Layout.mem_of_find? {key : String} {ms : List (Except Fault String × Node)} {n : Node}
    (found : find? key ms = some n) : (.ok key, n) ∈ ms := by
  fun_induction find? key ms with
  | case1 => cases found
  | case2 => cases found; exact List.mem_cons_self ..
  | case3 _ _ _ _ ih => exact List.mem_cons_of_mem _ (ih found)
  | case4 _ _ _ ih => exact List.mem_cons_of_mem _ (ih found)

/-- So are those of each part of a structure. -/
lemma Node.Finite.part {α : Type} {r : Layout α} {name : String} {n m : Node} (finite : n.Finite)
    (found : r.part? name n = some m) : m.Finite := by
  cases finite with
  | list items => exact items m (List.mem_of_getElem? found)
  | object values => exact values _ (Layout.mem_of_find? found)
  | _ => cases found

/-! ### Scanning -/

namespace Json

open Node (Finite)

lemma finite_integerNode (negative : Bool) (n : ℕ) : (integerNode negative n).Finite := by
  simp only [integerNode]
  split
  · exact .number (Number.isFinite_toFloat_natural _)
  · split
    · exact .number (Number.isFinite_toFloat_negative _)
    · split
      next found => exact .number (Decimal.isFinite_of_signed? found)
      · exact .beyond

lemma finite_realNode (negative : Bool) (n : ℕ) (e : ℤ) : (realNode negative n e).Finite := by
  simp only [realNode]
  split
  next found => exact .number (Decimal.isFinite_of_signed? found)
  · exact .beyond

lemma finite_scanFraction (negative : Bool) (whole s : Bytes) :
    (scanFraction negative whole s).1.Finite := by
  fun_cases scanFraction negative whole s <;>
    first
      | exact finite_integerNode ..
      | exact finite_realNode ..
      | exact .broken _

lemma finite_scanNumber (negative : Bool) (s : Bytes) : (scanNumber negative s).1.Finite := by
  fun_cases scanNumber negative s <;>
    first
      | exact finite_scanFraction ..
      | exact .broken _

lemma finite_scanLiteral {value : Node} (finite : value.Finite) (letters s : Bytes) :
    (scanLiteral value letters s).1.Finite := by
  fun_induction scanLiteral value letters s with
  | case1 => exact finite
  | case2 => exact .broken _
  | case3 _ _ _ _ _ ih => exact ih
  | case4 => exact .broken _

lemma finite_scanSimple (s : Bytes) : (scanSimple s).1.Finite := by
  fun_cases scanSimple s <;>
    first
      | exact finite_scanNumber ..
      | exact finite_scanLiteral .null ..
      | exact finite_scanLiteral (.bool _) ..
      | exact .text _
      | exact .broken _

/-- What is scanned with so much fuel has finite numbers. -/
structure FiniteWith (fuel : ℕ) : Prop where
  value : ∀ depth s, (scanValue fuel depth s).1.Finite
  items : ∀ depth first s, ∀ n ∈ (scanItems fuel depth first s).1, n.Finite
  item : ∀ depth s, ∀ n ∈ (scanItem fuel depth s).1, n.Finite
  members : ∀ depth first s, ∀ m ∈ (scanMembers fuel depth first s).1, m.2.Finite
  member : ∀ depth s, ∀ m ∈ (scanMember fuel depth s).1, m.2.Finite

namespace FiniteWith

variable {fuel : ℕ}

lemma zero : FiniteWith 0 := by
  constructor
  case value =>
    intro depth s
    rw [scanValue]
    exact .broken _
  all_goals simp [scanItems, scanItem, scanMembers, scanMember]

lemma value_succ (h : FiniteWith fuel) (depth : ℕ) (s : Bytes) :
    (scanValue (fuel + 1) depth s).1.Finite := by
  rw [scanValue]
  split
  · exact .broken _
  · split
    · exact .opened (.list (h.items _ _ _)) _
    · split
      · exact .opened (.object (h.members _ _ _)) _
      · exact finite_scanSimple _

lemma items_succ (h : FiniteWith fuel) (depth : ℕ) (first : Bool) (s : Bytes) :
    ∀ n ∈ (scanItems (fuel + 1) depth first s).1, n.Finite := by
  rw [scanItems]
  split
  · exact List.forall_mem_nil _
  · split
    · exact List.forall_mem_nil _
    · split
      · exact h.item _ _
      · split
        · split
          · exact List.forall_mem_nil _
          · split
            · exact List.forall_mem_nil _
            · exact h.item _ _
        · exact List.forall_mem_nil _

lemma item_succ (h : FiniteWith fuel) (depth : ℕ) (s : Bytes) :
    ∀ n ∈ (scanItem (fuel + 1) depth s).1, n.Finite := by
  rw [scanItem]
  exact List.forall_mem_cons.mpr ⟨h.value _ _, h.items _ _ _⟩

lemma members_succ (h : FiniteWith fuel) (depth : ℕ) (first : Bool) (s : Bytes) :
    ∀ m ∈ (scanMembers (fuel + 1) depth first s).1, m.2.Finite := by
  rw [scanMembers]
  split
  · exact List.forall_mem_nil _
  · split
    · exact List.forall_mem_nil _
    · split
      · split
        · exact h.member _ _
        · exact List.forall_mem_nil _
      · split
        · split
          · exact List.forall_mem_nil _
          · split
            · exact h.member _ _
            · split <;> exact List.forall_mem_nil _
        · exact List.forall_mem_nil _

lemma member_succ (h : FiniteWith fuel) (depth : ℕ) (s : Bytes) :
    ∀ m ∈ (scanMember (fuel + 1) depth s).1, m.2.Finite := by
  rw [scanMember]
  split
  · exact List.forall_mem_nil _
  · split
    · exact List.forall_mem_singleton.mpr (.broken _)
    · split
      · exact List.forall_mem_cons.mpr ⟨h.value _ _, h.members _ _ _⟩
      · exact List.forall_mem_singleton.mpr (.broken _)

lemma all (fuel : ℕ) : FiniteWith fuel := by
  induction fuel with
  | zero => exact zero
  | succ fuel ih =>
    exact ⟨ih.value_succ, ih.items_succ, ih.item_succ, ih.members_succ, ih.member_succ⟩

end FiniteWith

/-- All numbers of a scanned text are finite. -/
theorem finite_scan (s : Bytes) : (scan s).root.Finite := (FiniteWith.all _).value _ _

end Json

end LinkGauge
