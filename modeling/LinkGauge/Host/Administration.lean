import LinkGauge.Host.Basic
import LinkGauge.Problem
import LinkGauge.Text.Blank

/-!
# Administration of hosts

Hosts are registered and changed. Names are kept without blanks around them. A change leaves alone
what it does not mention; a description can also be taken away.
-/

namespace LinkGauge.Host

/-- A text is more than blanks. -/
def requireText (field value : String) : Except Problem Unit :=
  if isBlank value then .error (.badRequest (field ++ " must not be empty")) else .ok ()

/-- A port, if given, is one. -/
def requirePort : Option Int32 → Except Problem Unit
  | some port =>
    if 1 ≤ port ∧ port ≤ 65535 then .ok ()
    else .error (.badRequest ("port " ++ toString port.toInt ++ " is out of range"))
  | none => .ok ()

/-! ### Registration -/

/-- A host to be registered. -/
structure Registration where
  name : String
  hostname : String
  /-- The default port if absent. -/
  port : Option Int32
  category : Category
  /-- Active if absent. -/
  active : Option Bool
  description : Option String
  deriving DecidableEq, Repr

namespace Registration

def layout : Layout Registration :=
  Registration.mk <$> .required "name" Decoder.string
    <*> .required "hostname" Decoder.string
    <*> .optional "port" Decoder.int32
    <*> .required "category" Category.decoder
    <*> .optional "active" Decoder.bool
    <*> .optional "description" Decoder.string

def decoder : Decoder Registration := layout.decoder "HostCreate" false

def toJson (r : Registration) : Json :=
  .object
    [ ("name", .text r.name),
      ("hostname", .text r.hostname),
      ("port", .ofOption .int32 r.port),
      ("category", r.category.toJson),
      ("active", .ofOption .bool r.active),
      ("description", .ofOption .text r.description) ]

/-- Whether the host may be registered. -/
def check (r : Registration) : Except Problem Unit := do
  requireText "name" r.name
  requireText "hostname" r.hostname
  requirePort r.port

/-- The registration without blanks around the names. -/
def trimmed (r : Registration) : Registration :=
  { r with name := trim r.name, hostname := trim r.hostname }

end Registration

/-! ### Changes -/

/-- A change of a host. What is absent stays as it is. -/
structure Change where
  name : Option String
  hostname : Option String
  port : Option Int32
  category : Option Category
  active : Option Bool
  /-- A new description, or `some none` to have none. -/
  description : Option (Option String)
  deriving DecidableEq, Repr

namespace Change

def layout : Layout Change :=
  Change.mk <$> .optional "name" Decoder.string
    <*> .optional "hostname" Decoder.string
    <*> .optional "port" Decoder.int32
    <*> .optional "category" Category.decoder
    <*> .optional "active" Decoder.bool
    <*> .defaulted "description" (fun n => (Decoder.option Decoder.string n).map some) none

def decoder : Decoder Change := layout.decoder "HostUpdate" false

def toJson (c : Change) : Json :=
  .object
    ([ ("name", .ofOption .text c.name),
       ("hostname", .ofOption .text c.hostname),
       ("port", .ofOption .int32 c.port),
       ("category", .ofOption Category.toJson c.category),
       ("active", .ofOption .bool c.active) ] ++
     Json.memberIf "description" (Json.ofOption .text) c.description)

/-- Whether the change may be made. -/
def check (c : Change) : Except Problem Unit := do
  if let some name := c.name then requireText "name" name
  if let some hostname := c.hostname then requireText "hostname" hostname
  requirePort c.port

/-- The change without blanks around the names. -/
def trimmed (c : Change) : Change :=
  { c with name := c.name.map trim, hostname := c.hostname.map trim }

end Change

end LinkGauge.Host
