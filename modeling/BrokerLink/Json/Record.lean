import BrokerLink.Json.Form

/-!
# Forms of structures in documents

The form of a structure is an object with a member for each attribute. It is described
once, as a list of members, and both directions follow from it. Reading starts from a
base value. In a *complete* form only members marked as optional may be missing; in a
*partial* form every missing member keeps what the base has. A structure is also read
from an array of its attributes in order.
-/

namespace BrokerLink

/-- One member of the form of a structure. -/
structure Member (σ : Type) where
  key : String
  /-- What is written; nothing if the member is left out. -/
  write : σ → Option Json
  /-- The structure with the attribute read from a document. -/
  read : Json → σ → Option σ
  /-- Whether the member may be missing in a complete form. -/
  isOptional : Bool

namespace Member

variable {σ τ α : Type}

/-- An attribute that is always written and must be there. -/
def required [JsonForm α] (key : String) (get : σ → α) (set : σ → α → σ) : Member σ where
  key
  write s := some (toJson (get s))
  read j s := (JsonForm.ofJson? j).map (set s)
  isOptional := false

/-- An attribute that is written as null if it is not set. -/
def nullable [JsonForm α] (key : String) (get : σ → Option α) (set : σ → Option α → σ) :
    Member σ :=
  { required key get set with isOptional := true }

/-- An attribute that is left out if it is not set. -/
def omittable [JsonForm α] (key : String) (get : σ → Option α) (set : σ → Option α → σ) :
    Member σ :=
  { nullable key get set with write := fun s => (get s).map toJson }

/-- A list that is left out if it is empty. -/
def listed [JsonForm α] (key : String) (get : σ → List α) (set : σ → List α → σ) : Member σ :=
  { required key get set with
    write := fun s => if (get s).isEmpty then none else some (toJson (get s))
    isOptional := true }

end Member

/-- The form of a structure: its members, and the value of which missing attributes are taken. -/
structure RecordForm (σ : Type) where
  members : List (Member σ)
  base : σ
  /-- Whether every member may be missing. -/
  isPartial : Bool := false

namespace RecordForm

variable {σ : Type}

def write (form : RecordForm σ) (s : σ) : List (String × Json) :=
  form.members.filterMap fun m => (m.write s).map fun j => (m.key, j)

/-- Reads the members of an object over a value. -/
def readMembers (allMissing : Bool) (found : List (String × Json)) :
    List (Member σ) → σ → Option σ
  | [], s => some s
  | m :: ms, s =>
    match Json.find? m.key found with
    | some j => (m.read j s).bind (readMembers allMissing found ms)
    | none => if allMissing || m.isOptional then readMembers allMissing found ms s else none

/-- Reads attributes in order; in a partial form the last ones may be missing. -/
def readItems (allMissing : Bool) : List (Member σ) → List Json → σ → Option σ
  | [], [], s => some s
  | [], _ :: _, _ => none
  | _ :: _, [], s => if allMissing then some s else none
  | m :: ms, j :: js, s => (m.read j s).bind (readItems allMissing ms js)

def read (form : RecordForm σ) : Json → Option σ
  | .object found => readMembers form.isPartial found form.members form.base
  | .array items => readItems form.isPartial form.members items form.base
  | _ => none

/-- Replaces the attributes of a value that a document names. -/
def overlay (form : RecordForm σ) (s : σ) : Json → Option σ
  | .object found => readMembers true found form.members s
  | _ => none

/-- The form of the structure in documents. -/
@[reducible] def toForm (form : RecordForm σ) : JsonForm σ where
  toJson s := .object (form.write s)
  ofJson? := form.read

end RecordForm
end BrokerLink
