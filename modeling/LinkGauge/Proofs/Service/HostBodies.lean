import LinkGauge.Proofs.Delivery.StoredTests
import LinkGauge.Proofs.Document.Parts
import LinkGauge.Proofs.Json.Texts
import LinkGauge.Proofs.Service.Writes
import LinkGauge.Proofs.Text.Blanks

/-!
# Bodies of requests about hosts

A body by which a host is registered or changed is told field by field: what is given, what is null
and what is not there. It is refused only for a blank name or hostname or for a port out of range.
Otherwise all values that are bound to the statement are ones that the table takes, and each is what
the body tells of it.
-/

namespace LinkGauge

open Json (spelled present spelledPart)
open Layout (Reads under)
open Store (Statement Value)

/-! ### Columns -/

namespace Store

/-- A value that may stand in a column of the table of hosts: what the table itself asks of it, and
for names that there are no blanks around them. -/
inductive TakesHost : String → Value → Prop where
  | name {t : String} : Neat t → TakesHost "name" (.text t)
  | hostname {t : String} : Neat t → TakesHost "hostname" (.text t)
  | port {p : Int32} : 1 ≤ p → p ≤ 65535 → TakesHost "port" (.ofInt32 p)
  | category {k : String} : k ∈ ["lan", "vpn", "remote"] → TakesHost "category" (.text k)
  | active {b : Bool} : TakesHost "active" (.bool b)
  | noDescription : TakesHost "description" .null
  | description {t : String} : TakesHost "description" (.text t)

/-- A category is written by its name. -/
def ofCategory (k : Category) : Value := .text k.name

lemma takesHost_category (k : Category) : TakesHost "category" (ofCategory k) :=
  .category (by cases k <;> decide)

lemma Value.ofOption_map {α β : Type} (f : β → Value) (g : α → β) (o : Option α) :
    Value.ofOption f (o.map g) = Value.ofOption (fun a => f (g a)) o := by
  cases o <;> rfl

lemma takesHost_description (o : Option String) :
    TakesHost "description" (.ofOption .text o) := by
  cases o with
  | none => exact .noDescription
  | some t => exact .description

end Store

/-! ### Values that are bound -/

namespace Host

/-- The values that are bound for the columns of a host. -/
structure Bound where
  name : Value
  hostname : Value
  port : Value
  category : Value
  active : Value
  description : Value

/-- The values under the names of the columns. -/
def Bound.row (v : Bound) : Store.Row :=
  [ ("name", v.name), ("hostname", v.hostname), ("port", v.port), ("category", v.category),
    ("active", v.active), ("description", v.description) ]

section Bodies

variable {α β : Type}

/-- The value that is bound for a field: null if the field is omitted, and otherwise what comes of
the value that is given. -/
inductive Binds (r : Layout α) (n : Node) (name : String) (d : Decoder β) (f : β → Value) :
    Value → Prop where
  | omitted : r.Omits n name → Binds r n name d f .null
  | given {b : β} : r.Gives n name d b → Binds r n name d f (f b)

/-- The value that is bound for a field that has a value of its own where it is omitted. -/
inductive Defaults (r : Layout α) (n : Node) (name : String) (d : Decoder β) (own : β)
    (f : β → Value) : Value → Prop where
  | omitted : r.Omits n name → Defaults r n name d own f (f own)
  | given {b : β} : r.Gives n name d b → Defaults r n name d own f (f b)

/-- A document gives a name or a hostname that is blank, or a port that is none. -/
def Objectionable (r : Layout α) (n : Node) : Prop :=
  (∃ field ∈ ["name", "hostname"], ∃ t, r.Gives n field Decoder.string t ∧ isBlank t = true) ∨
    ∃ p, r.Gives n "port" Decoder.int32 p ∧ ¬(1 ≤ p ∧ p ≤ 65535)

variable {r : Layout α} {n : Node} {name : String} {d : Decoder β} {f : β → Value} {o : Option β}

lemma binds_of_tells (tells : r.Tells n name d o) : Binds r n name d f (.ofOption f o) := by
  cases o with
  | none => exact .omitted (tells.eq_none.mp rfl)
  | some b => exact .given ((tells.eq_some b).mp rfl)

/-- Null is bound exactly if the field is omitted. -/
lemma eq_null_iff (tells : r.Tells n name d o) (given : ∀ b, f b ≠ .null) :
    Value.ofOption f o = .null ↔ r.Omits n name := by
  rw [← tells.eq_none]
  cases o with
  | none => exact iff_of_true rfl rfl
  | some b => exact iff_of_false (given b) nofun

lemma defaults_of_tells (tells : r.Tells n name d o) (own : β) :
    Defaults r n name d own f (f (o.getD own)) := by
  cases o with
  | none => exact .omitted (tells.eq_none.mp rfl)
  | some b => exact .given ((tells.eq_some b).mp rfl)

end Bodies

/-! ### Rules -/

lemma requireText_eq_ok {field value : String} :
    requireText field value = .ok () ↔ isBlank value = false := by
  rw [requireText]
  cases isBlank value <;> simp

lemma requirePort_eq_ok {port : Option Int32} :
    requirePort port = .ok () ↔ ∀ p, port = some p → 1 ≤ p ∧ p ≤ 65535 := by
  cases port with
  | none => simp [requirePort]
  | some p =>
    rw [requirePort]
    by_cases fits : 1 ≤ p ∧ p ≤ 65535 <;> simp [fits]

/-- What a document tells is fine unless the document is objectionable. -/
lemma not_objectionable_iff {α : Type} {r : Layout α} {n : Node} {name hostname : Option String}
    {port : Option Int32} (one : r.Tells n "name" Decoder.string name)
    (two : r.Tells n "hostname" Decoder.string hostname)
    (three : r.Tells n "port" Decoder.int32 port) :
    ¬Objectionable r n ↔ (∀ t, name = some t → isBlank t = false) ∧
      (∀ t, hostname = some t → isBlank t = false) ∧
      ∀ p, port = some p → 1 ≤ p ∧ p ≤ 65535 := by
  simp only [Objectionable, List.mem_cons, List.not_mem_nil, or_false, exists_eq_or_imp,
    exists_eq_left, ← one.eq_some, ← two.eq_some, ← three.eq_some, not_or, not_exists,
    not_and, Classical.not_imp, Bool.not_eq_true, Classical.not_not, and_assoc]

/-! ### Registration -/

/-- What is bound for a host that is registered by a document. -/
structure Registered (n : Node) (v : Bound) : Prop where
  name : ∃ t, Registration.layout.Gives n "name" Decoder.string t ∧ v.name = .text (trim t)
  hostname :
    ∃ t, Registration.layout.Gives n "hostname" Decoder.string t ∧ v.hostname = .text (trim t)
  port : Defaults Registration.layout n "port" Decoder.int32 5201 .ofInt32 v.port
  category :
    ∃ k, Registration.layout.Gives n "category" Category.decoder k ∧ v.category = Store.ofCategory k
  active : Defaults Registration.layout n "active" Decoder.bool true .bool v.active
  description : Binds Registration.layout n "description" Decoder.string .text v.description
  taken : ∀ column ∈ v.row, Store.TakesHost column.1 column.2

namespace Registration

/-- The values that are bound for a registration. -/
def bound (given : Registration) : Bound :=
  ⟨.text given.name, .text given.hostname, .ofInt32 (given.port.getD defaultPort),
    Store.ofCategory given.category, .bool (given.active.getD true),
    .ofOption .text given.description⟩

lemma parameters_createHost (given : Registration) :
    (Statement.createHost given).parameters = given.bound.row.map Prod.snd := rfl

/-- A registration is what a document tells. -/
structure Told (n : Node) (given : Registration) : Prop where
  name : layout.Gives n "name" Decoder.string given.name
  hostname : layout.Gives n "hostname" Decoder.string given.hostname
  port : layout.Tells n "port" Decoder.int32 given.port
  category : layout.Gives n "category" Category.decoder given.category
  active : layout.Tells n "active" Decoder.bool given.active
  description : layout.Tells n "description" Decoder.string given.description

lemma layout_lists : layout.Lists [false, false, false, false, false, false] :=
  (((((Layout.Lists.required.map _).seq .required).seq .optional).seq .required).seq .optional).seq
    .optional

lemma told_of_decoder {n : Node} {given : Registration} (read : decoder n = .ok given) :
    Told n given := by
  have built := Layout.build_of_decoder layout_lists (by decide) read
  simp only [layout, Layout.build_seq, Layout.build_map] at built
  obtain ⟨_, description, ⟨_, active, ⟨_, category, ⟨_, port, ⟨_, hostname, ⟨name, h₁, rfl⟩, h₂,
    rfl⟩, h₃, rfl⟩, h₄, rfl⟩, h₅, rfl⟩, h₆, rfl⟩ := built
  exact ⟨Layout.gives_of_required h₁, Layout.gives_of_required h₂,
    Layout.tells_of_optional nofun h₃, Layout.gives_of_required h₄,
    Layout.tells_of_optional nofun h₅, Layout.tells_of_optional nofun h₆⟩

lemma check_eq_ok {given : Registration} :
    given.check = .ok () ↔ isBlank given.name = false ∧ isBlank given.hostname = false ∧
      ∀ p, given.port = some p → 1 ≤ p ∧ p ≤ 65535 := by
  simp [check, bind_eq_ok, Unique.exists_iff, requireText_eq_ok, requirePort_eq_ok]

/-- What is read is refused only if the document is objectionable. -/
lemma check_iff {n : Node} {given : Registration} (told : Told n given) :
    given.check ≠ .ok () ↔ Objectionable layout n := by
  have fine := not_objectionable_iff (told.name.tells nofun) (told.hostname.tells nofun) told.port
  simp only [Option.some.injEq, forall_eq'] at fine
  rw [Ne, check_eq_ok, ← fine, Classical.not_not]

/-- What is bound for a registration that passes the check. -/
lemma registered {n : Node} {given : Registration} (told : Told n given)
    (checked : given.check = .ok ()) : Registered n given.trimmed.bound := by
  obtain ⟨name, hostname, port⟩ := check_eq_ok.mp checked
  refine ⟨⟨_, told.name, rfl⟩, ⟨_, told.hostname, rfl⟩, defaults_of_tells told.port _,
    ⟨_, told.category, rfl⟩, defaults_of_tells told.active _, binds_of_tells told.description, ?_⟩
  intro column mem
  have range : 1 ≤ given.port.getD defaultPort ∧ given.port.getD defaultPort ≤ 65535 := by
    cases eq : given.port with
    | none => decide
    | some p => exact port p eq
  simp only [Bound.row, bound, List.mem_cons, List.not_mem_nil, or_false] at mem
  rcases mem with rfl | rfl | rfl | rfl | rfl | rfl
  · exact .name (neat_trim name)
  · exact .hostname (neat_trim hostname)
  · exact .port range.1 range.2
  · exact Store.takesHost_category _
  · exact .active
  · exact Store.takesHost_description _

end Registration

/-! ### Changes -/

/-- What is bound for a change that a document tells. `set` says whether there is a new description
at all. -/
structure Changed (n : Node) (v : Bound) (set : Bool) : Prop where
  name : Binds Change.layout n "name" Decoder.string (fun t => .text (trim t)) v.name
  hostname : Binds Change.layout n "hostname" Decoder.string (fun t => .text (trim t)) v.hostname
  port : Binds Change.layout n "port" Decoder.int32 .ofInt32 v.port
  category : Binds Change.layout n "category" Category.decoder Store.ofCategory v.category
  active : Binds Change.layout n "active" Decoder.bool .bool v.active
  description :
    Change.layout.part? "description" n = none ∧ set = false ∧ v.description = .null ∨
      Change.layout.part? "description" n = some .null ∧ set = true ∧ v.description = .null ∨
      ∃ t, Change.layout.part? "description" n = some (.text (.ok t)) ∧ set = true ∧
        v.description = .text t
  taken : ∀ column ∈ v.row, column.2 = .null ∨ Store.TakesHost column.1 column.2
  unset : ∀ column ∈ v.row, column.1 ≠ "description" →
    (column.2 = .null ↔ Change.layout.Omits n column.1)

namespace Change

/-- The values that are bound for a change. -/
def bound (given : Change) : Bound :=
  ⟨.ofOption .text given.name, .ofOption .text given.hostname, .ofOption .ofInt32 given.port,
    .ofOption Store.ofCategory given.category, .ofOption .bool given.active,
    .ofOption .text given.description.join⟩

/-- A change is what a document tells. -/
structure Told (n : Node) (given : Change) : Prop where
  name : layout.Tells n "name" Decoder.string given.name
  hostname : layout.Tells n "hostname" Decoder.string given.hostname
  port : layout.Tells n "port" Decoder.int32 given.port
  category : layout.Tells n "category" Category.decoder given.category
  active : layout.Tells n "active" Decoder.bool given.active
  description :
    layout.part? "description" n = none ∧ given.description = none ∨
      layout.part? "description" n = some .null ∧ given.description = some none ∨
      ∃ t, layout.part? "description" n = some (.text (.ok t)) ∧ given.description = some (some t)

lemma layout_lists : layout.Lists [false, false, false, false, false, true] :=
  (((((Layout.Lists.optional.map _).seq .optional).seq .optional).seq .optional).seq .optional).seq
    .defaulted

lemma told_of_decoder {n : Node} {given : Change} (read : decoder n = .ok given) :
    Told n given := by
  have built := Layout.build_of_decoder layout_lists (by decide) read
  simp only [layout, Layout.build_seq, Layout.build_map] at built
  obtain ⟨_, description, ⟨_, active, ⟨_, category, ⟨_, port, ⟨_, hostname, ⟨name, h₁, rfl⟩, h₂,
    rfl⟩, h₃, rfl⟩, h₄, rfl⟩, h₅, rfl⟩, h₆, rfl⟩ := built
  refine ⟨Layout.tells_of_optional nofun h₁, Layout.tells_of_optional nofun h₂,
    Layout.tells_of_optional nofun h₃, Layout.tells_of_optional nofun h₄,
    Layout.tells_of_optional nofun h₅, ?_⟩
  rcases Layout.build_field.mp h₆ with ⟨m, there, value⟩ | ⟨missing, none⟩
  · obtain ⟨o, inner, rfl⟩ := map_eq_ok.mp value
    by_cases null : m = .null
    · subst null
      cases inner
      exact .inr (.inl ⟨there, rfl⟩)
    · rw [Decoder.option_of_ne_null null, map_eq_ok] at inner
      obtain ⟨t, text, rfl⟩ := inner
      obtain rfl := Decoder.string_eq_ok.mp text
      exact .inr (.inr ⟨t, there, rfl⟩)
  · cases none
    exact .inl ⟨missing, rfl⟩

lemma check_eq_ok {given : Change} :
    given.check = .ok () ↔ (∀ t, given.name = some t → isBlank t = false) ∧
      (∀ t, given.hostname = some t → isBlank t = false) ∧
      ∀ p, given.port = some p → 1 ≤ p ∧ p ≤ 65535 := by
  obtain ⟨name, hostname, port, _, _, _⟩ := given
  cases name <;> cases hostname <;>
    simp [check, bind_eq_ok, Unique.exists_iff, requireText_eq_ok, requirePort_eq_ok]

/-- What is read is refused only if the document is objectionable. -/
lemma check_iff {n : Node} {given : Change} (told : Told n given) :
    given.check ≠ .ok () ↔ Objectionable layout n := by
  rw [Ne, check_eq_ok, ← not_objectionable_iff told.name told.hostname told.port,
    Classical.not_not]

/-- The values of a change that passes the check. -/
lemma taken {given : Change} (checked : given.check = .ok ()) :
    ∀ column ∈ given.trimmed.bound.row, column.2 = .null ∨ Store.TakesHost column.1 column.2 := by
  obtain ⟨name, hostname, port⟩ := check_eq_ok.mp checked
  intro column mem
  simp only [Bound.row, bound, trimmed, List.mem_cons, List.not_mem_nil, or_false] at mem
  rcases mem with rfl | rfl | rfl | rfl | rfl | rfl
  · cases eq : given.name with
    | none => exact .inl rfl
    | some t => exact .inr (.name (neat_trim (name t eq)))
  · cases eq : given.hostname with
    | none => exact .inl rfl
    | some t => exact .inr (.hostname (neat_trim (hostname t eq)))
  · cases eq : given.port with
    | none => exact .inl rfl
    | some p => exact .inr (.port (port p eq).1 (port p eq).2)
  · cases given.category with
    | none => exact .inl rfl
    | some k => exact .inr (Store.takesHost_category k)
  · cases given.active with
    | none => exact .inl rfl
    | some b => exact .inr .active
  · exact .inr (Store.takesHost_description _)

/-- Null stands exactly for the fields that are omitted, but for the description. -/
lemma unset {n : Node} {given : Change} (told : Told n given) :
    ∀ column ∈ given.trimmed.bound.row, column.1 ≠ "description" →
      (column.2 = .null ↔ layout.Omits n column.1) := by
  intro column mem other
  simp only [Bound.row, bound, trimmed, Value.ofOption_map, List.mem_cons, List.not_mem_nil,
    or_false] at mem
  rcases mem with rfl | rfl | rfl | rfl | rfl | rfl
  · exact eq_null_iff told.name nofun
  · exact eq_null_iff told.hostname nofun
  · exact eq_null_iff told.port nofun
  · exact eq_null_iff told.category nofun
  · exact eq_null_iff told.active nofun
  · exact absurd rfl other

/-- What is bound for a change that passes the check. -/
lemma changed {n : Node} {given : Change} (told : Told n given) (checked : given.check = .ok ()) :
    Changed n given.trimmed.bound given.description.isSome := by
  refine ⟨?_, ?_, binds_of_tells told.port, binds_of_tells told.category,
    binds_of_tells told.active, ?_, taken checked, unset told⟩
  · rw [bound, trimmed, Value.ofOption_map]
    exact binds_of_tells told.name
  · simp only [bound, trimmed, Value.ofOption_map]
    exact binds_of_tells told.hostname
  · simp only [bound, trimmed]
    rcases told.description with ⟨missing, eq⟩ | ⟨null, eq⟩ | ⟨t, text, eq⟩
    · exact .inl ⟨missing, by rw [eq]; rfl, by rw [eq]; rfl⟩
    · exact .inr (.inl ⟨null, by rw [eq]; rfl, by rw [eq]; rfl⟩)
    · exact .inr (.inr ⟨t, text, by rw [eq]; rfl, by rw [eq]; rfl⟩)

/-- The members of a written change. -/
def parts (c : Change) : List (String × Option Json) :=
  [ ("name", some (.ofOption .text c.name)),
    ("hostname", some (.ofOption .text c.hostname)),
    ("port", some (.ofOption .int32 c.port)),
    ("category", some (.ofOption Category.toJson c.category)),
    ("active", some (.ofOption .bool c.active)),
    ("description", c.description.map (.ofOption .text)) ]

lemma toJson_eq (c : Change) : c.toJson = .object (present c.parts) := by
  obtain ⟨_, _, _, _, _, description⟩ := c
  cases description <;> rfl

lemma reads_parts (c : Change) : Reads layout (under (c.parts.map spelledPart)) c := by
  obtain ⟨name, hostname, port, category, active, description⟩ := c
  refine .seq (.seq (.seq (.seq (.seq (.map (reads_nullableText rfl) _) (reads_nullableText rfl))
    (reads_nullable rfl (fun p _ => Json.decode_int32 p) nofun))
    (reads_nullable rfl (fun k _ => Json.decode_category k) nofun))
    (reads_nullable rfl (fun b _ => Json.decode_bool b) nofun)) ?_
  cases description with
  | none => exact .absent rfl
  | some o => cases o <;> exact .field rfl rfl

/-- A written change is decoded as itself. -/
theorem decode_toJson (c : Change) : decoder (spelled c.toJson) = .ok c := by
  rw [toJson_eq]
  exact Json.decode_object (by simp [parts]) (reads_parts c)

lemma nesting_toJson (c : Change) : Json.nesting c.toJson = 1 := by
  simp [toJson, Json.nesting, Json.nestingMembers, Json.int32,
    Json.nesting_ofOption (f := Category.toJson) fun _ => rfl,
    Json.nesting_ofOption Json.nesting_text, Json.nesting_ofOption Json.nesting_bool,
    Json.nestingMembers_memberIf (Json.nesting_ofOption Json.nesting_text)]

/-- The text of a change is read as the change. -/
lemma read_render (c : Change) : Json.read decoder (Utf8.encode c.toJson.render) = .ok c := by
  rw [Json.read_render _ _ (by rw [nesting_toJson]; decide), decode_toJson]

end Change

end Host

/-! ### Requests -/

namespace Service

open Host (Registration Change Registered Changed Objectionable)

variable {rig : Rig} {r : Web.Request}

/-- The request says that its body is JSON, and the body is not too long to be read. -/
def TakesBody (r : Web.Request) : Prop :=
  (r.contentType.bind Web.MediaType.parse?).any Web.MediaType.isJson = true ∧
    r.body.length ≤ maxBody

/-- A statement about a host is executed if a rule allows it, and the host is shown that comes of
it. Otherwise nothing is asked of anybody. -/
def keepHost (status : ℕ) (allows : Except Problem Unit) (s : Statement) :
    Plan Serving Web.Response :=
  match allows with
  | .ok _ => report status Host.toJson (single (Store.asking s (Store.Reply.first Store.readHost)))
  | .error e => .done (.ofProblem e)

lemma orComplain_allowed (status : ℕ) (allows : Except Problem Unit) (s : Statement) :
    (orComplain (allowed allows) fun _ =>
      report status Host.toJson (single (Store.asking s (Store.Reply.first Store.readHost)))) =
        keepHost status allows s := by
  cases allows <;> rfl

lemma respond_registration {given : Registration}
    (read : Json.read Registration.decoder r.body = .ok given) (routed : Routed r .hosts .post)
    (takes : TakesBody r) :
    respond rig r = keepHost 201 given.check (.createHost given.trimmed) := by
  rw [respond_routed routed (by decide), respondTo, createHost,
    readBody_of_read takes.1 takes.2 read]
  exact orComplain_allowed 201 given.check _

lemma respond_change {given : Change} {written : String} {id : Int64}
    (read : Json.read Change.decoder r.body = .ok given)
    (routed : Routed r (.host written) .patch) (takes : TakesBody r)
    (number : readId "id" written = .ok id) :
    respond rig r = keepHost 200 given.check (.changeHost id given.trimmed) := by
  rw [respond_routed routed (by decide), respondTo, changeHost, pathId, number, mapError_ok,
    orComplain, readBody_of_read takes.1 takes.2 read]
  exact orComplain_allowed 200 given.check _

/-- A body that is read as a host to be registered, or as a change of one, is refused exactly if it
gives a blank name or hostname or a port out of range. Otherwise the values that are bound to the
statement are what the body tells, and the table takes them all. A change that is written and read
again is the same. -/
theorem host_bodies_bind_sound_values (rig : Rig) (r : Web.Request) :
    (∀ given : Registration, Json.read Registration.decoder r.body = .ok given →
      (given.check ≠ .ok () ↔ Objectionable Registration.layout (Json.scan r.body).root) ∧
      (given.check = .ok () →
        ∃ v : Host.Bound, (Statement.createHost given.trimmed).parameters = v.row.map Prod.snd ∧
          Registered (Json.scan r.body).root v) ∧
      (Routed r .hosts .post → TakesBody r →
        respond rig r = keepHost 201 given.check (.createHost given.trimmed))) ∧
    ∀ given : Change, Json.read Change.decoder r.body = .ok given →
      (given.check ≠ .ok () ↔ Objectionable Change.layout (Json.scan r.body).root) ∧
      (given.check = .ok () →
        ∃ (v : Host.Bound) (set : Bool), Changed (Json.scan r.body).root v set ∧
          ∀ id, (Statement.changeHost id given.trimmed).parameters =
            [.integer id, v.name, v.hostname, v.port, v.category, v.active, .bool set,
              v.description]) ∧
      Json.read Change.decoder (Utf8.encode given.toJson.render) = .ok given ∧
      ∀ written id, Routed r (.host written) .patch → TakesBody r → readId "id" written = .ok id →
        respond rig r = keepHost 200 given.check (.changeHost id given.trimmed) := by
  refine ⟨?registration, ?change⟩
  case registration =>
    intro given read
    have told := Registration.told_of_decoder (Json.read_eq_ok.mp read).1
    refine ⟨Registration.check_iff told, ?_, respond_registration read⟩
    intro checked
    exact ⟨_, Registration.parameters_createHost _, Registration.registered told checked⟩
  case change =>
    intro given read
    have told := Change.told_of_decoder (Json.read_eq_ok.mp read).1
    refine ⟨Change.check_iff told, ?_, Change.read_render given, fun _ _ => respond_change read⟩
    intro checked
    exact ⟨_, _, Change.changed told checked, fun _ => rfl⟩

/-- A change of a host: it gets another name and loses its description. -/
def loft : Change := ⟨some " loft ", none, none, none, none, some none⟩

/-- The request to change a host so. -/
def revision : Web.Request :=
  ⟨"PATCH", "/api/v1/hosts/7", some "application/json", Utf8.encode loft.toJson.render⟩

/-- A host is registered and changed. -/
theorem host_bodies_bind_sound_values_loft :
    (∃ v : Host.Bound, Registered (Json.scan enrolment.body).root v ∧
      (Statement.createHost attic.trimmed).parameters = v.row.map Prod.snd ∧
      respond station enrolment = keepHost 201 (.ok ()) (.createHost attic.trimmed)) ∧
    ∃ v : Host.Bound, Changed (Json.scan revision.body).root v true ∧
      respond station revision = keepHost 200 (.ok ()) (.changeHost 7 loft.trimmed) := by
  have first : Json.read Registration.decoder enrolment.body = .ok attic := by
    rw [enrolment, Json.read_render _ _ (by decide)]
    rfl
  have second : Json.read Change.decoder revision.body = .ok loft := Change.read_render loft
  have checked : attic.check = .ok () := by decide
  have checked' : loft.check = .ok () := by decide
  obtain ⟨-, registered, created⟩ := (host_bodies_bind_sound_values station enrolment).1 attic first
  obtain ⟨-, changed, -, altered⟩ := (host_bodies_bind_sound_values station revision).2 loft second
  obtain ⟨v, parameters, registered⟩ := registered checked
  obtain ⟨w, set, changed, bound⟩ := changed checked'
  have seventh := congrArg (fun ps : List Value => ps[6]?) (bound 7)
  obtain rfl : true = set := Value.bool.inj (Option.some.inj seventh)
  rw [checked] at created
  rw [checked'] at altered
  refine ⟨⟨v, registered, parameters, ?_⟩, w, changed, ?_⟩
  · exact created (by constructor <;> decide) ⟨by decide, by decide⟩
  · exact altered "7" 7 (by constructor <;> decide) ⟨by decide, by decide⟩ (by decide)

end Service

end LinkGauge
