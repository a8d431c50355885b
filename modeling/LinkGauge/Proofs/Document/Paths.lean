import LinkGauge.Proofs.Document.Acceptance

/-!
# Values at the end of a path

What a decoder finds, told by where it stands in the document: a path leads from the root through
members and items to the value, or to nothing.
-/

namespace LinkGauge

open Layout (find?)
open Shape (Good)

variable {α β γ : Type} {s : Shape} {n : Node} {path : List Step}

/-! ### Paths -/

namespace Node

/-- The value at the end of a path. -/
def at? : List Step → Node → Option Node
  | [], n => some n
  | .member key :: path, .object ms _ => (find? key ms).bind (at? path)
  | .item i :: path, .list ns _ => ns[i]?.bind (at? path)
  | _, _ => none

/-- What a value at the end of a path is taken for. -/
def inside? (view : Node → Option γ) (path : List Step) (n : Node) : Option γ :=
  (n.at? path).bind view

/-- A number, as the nearest double. -/
def toFloat? : Node → Option Float
  | .number x => some x.toFloat
  | _ => none

def toText? : Node → Option String
  | .text (.ok t) => some t
  | _ => none

/-- The number at the end of a path. -/
abbrev number? : List Step → Node → Option Float := inside? toFloat?

/-- The text at the end of a path. -/
abbrev text? : List Step → Node → Option String := inside? toText?

variable {view : Node → Option γ}

lemma inside?_member {key : String} {ms : List (Except Fault String × Node)} {ending : Ending} :
    (object ms ending).inside? view (.member key :: path) =
      (find? key ms).bind (inside? view path) := by
  rw [inside?, at?]
  cases find? key ms <;> rfl

lemma inside?_item {i : ℕ} {ns : List Node} {ending : Ending} :
    (list ns ending).inside? view (.item i :: path) = ns[i]?.bind (inside? view path) := by
  rw [inside?, at?]
  cases ns[i]? <;> rfl

/-- Nothing is inside null. -/
lemma inside?_null (none : view .null = none) : null.inside? view path = .none := by
  cases path with
  | nil => exact none
  | cons step path => cases step <;> rfl

end Node

/-! ### Decoders -/

/-- What the decoder finds is related to what stands at the end of the path, or to nothing. -/
def Decoder.Tells (d : Decoder α) (s : Shape) (view : Node → Option γ) (path : List Step)
    (rel : α → Option γ → Prop) : Prop :=
  ∀ n a, Good s n → d n = .ok a → rel a (n.inside? view path)

namespace Decoder

variable {d : Decoder α} {view : Node → Option γ} {rel rel' : α → Option γ → Prop}

lemma Tells.mono (h : d.Tells s view path rel) (weaker : ∀ a v, rel a v → rel' a v) :
    d.Tells s view path rel' :=
  fun n a good read => weaker a _ (h n a good read)

lemma tells_float : float.Tells .number Node.toFloat? [] fun x v => v = some x := by
  intro n x _ read
  obtain ⟨v, rfl, rfl⟩ := float_eq_ok.mp read
  rfl

lemma tells_string : string.Tells .text Node.toText? [] fun t v => v = some t := by
  intro n t _ read
  obtain rfl := string_eq_ok.mp read
  rfl

/-- Null stands for nothing. -/
lemma Tells.option {g : α → Option γ} (h : d.Tells s view path fun a v => v = g a)
    (null : view .null = none) :
    (Decoder.option d).Tells (.nullable s) view path fun o v => v = o.bind g := by
  intro n o good read
  by_cases here : n = .null
  · subst here
    cases read
    exact Node.inside?_null null
  · rw [option_of_ne_null here, map_eq_ok] at read
    obtain ⟨a, read, rfl⟩ := read
    exact h n a good.nullable read

/-- The first item of a list. -/
lemma Tells.head {g : α → Option γ} (h : d.Tells s view path fun a v => v = g a) :
    (Decoder.list d).Tells (.list s) view (.item 0 :: path)
      fun as v => v = as.head?.bind g := by
  intro n as good read
  obtain ⟨ns, ending, rfl, items⟩ := (list_eq_ok good.faultless).mp read
  rw [Node.inside?_item]
  cases items with
  | nil => rfl
  | cons head _ => exact h _ _ (good.items _ (List.mem_cons_self ..)) head

/-- A member of a structure, where the structure keeps what its field finds. -/
lemma Tells.member {r : Layout β} {fields : List (Field Shape)} {name title : String}
    {required : Bool} {absent : Except Failure α} {short : Option α} {rel' : β → Option γ → Prop}
    (h : d.Tells s view path rel) (follows : r.Follows fields)
    (distinct : (fields.map Field.name).Nodup) (mem : ⟨name, required, s⟩ ∈ fields)
    (keeps : ∀ {find b}, r.build find = .ok b →
      ∃ a, (Layout.field name d absent short).build find = .ok a ∧ ∀ v, rel a v → rel' b v)
    (missing : ∀ a, absent = .ok a → rel a none) :
    (r.decoder title false).Tells (.object fields) view (.member name :: path) rel' := by
  intro n b good read
  obtain ⟨ms, ending, rfl⟩ := Layout.object_of_decoder good read
  rw [follows.decoder_object good] at read
  obtain ⟨a, found, kept⟩ := keeps read
  apply kept
  rw [Node.inside?_member]
  rcases Layout.build_field.mp found with ⟨m, there, value⟩ | ⟨none, default⟩
  · rw [there]
    exact h m a (Layout.good_of_find? distinct good _ mem m there) value
  · rw [none]
    exact missing a default

end Decoder

end LinkGauge
