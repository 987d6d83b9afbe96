import ComponentFormat.Config.Environment
import ComponentFormat.Host.Encoding
import ComponentFormat.Host.Json
import ComponentFormat.Host.Target

/-! # Requests to the host

The body of a request is a JSON value that is read into what the endpoint works on. Members that an endpoint
does not know are passed over; members of the wrong kind make the body invalid, and the report of an invalid body
shows each of them.
-/
namespace ComponentFormat.Host

inductive Body where
  | absent
  | json (v : Value)
  /-- Not in the format. -/
  | malformed
  /-- Not to be read to the end, whatever it says. -/
  | unreadable

/-- Bytes that are sent as a body. A byte order mark in front of UTF-8 is passed over. -/
def Body.ofBytes (b : Bytes) : Body :=
  let read (t : Text) : Body :=
    match Json.read t with
    | .ok v => .json v
    | .error .malformed => .malformed
    | .error .beyondLimits => .unreadable
  if b.isEmpty then .absent
  else match Encoding.decode b (Encoding.detect b), Encoding.detect b with
    | .ok ('\ufeff' :: t), .utf8 => read t
    | .ok t, _ => read t
    | .error .loneSurrogate, _ => .malformed
    | .error .broken, _ => .unreadable

structure Request where
  method : String
  target : Target
  body : Body

/-- Format a text; the settings of the request stand over those of the environment. -/
structure TextRequest where
  text : Text
  projectRoot : Option String
  settings : Option Settings

/-- Format a file, and write it back when `write` says so. -/
structure FileRequest where
  path : String
  projectRoot : Option String
  write : Bool

/-- What a value is read as, or the values that the report shows. -/
abbrev Checked (α : Type) := Except (List Value) α

namespace Checked

variable {α β γ : Type}

/-- Faults of both sides are reported. -/
def both (f : α → β → γ) : Checked α → Checked β → Checked γ
  | .ok a, .ok b => .ok (f a b)
  | .ok _, .error vs => .error vs
  | .error vs, .ok _ => .error vs
  | .error vs, .error ws => .error (vs ++ ws)

def reading (read : Value → Option α) (v : Value) : Checked α :=
  match read v with
  | some a => .ok a
  | none => .error [v]

end Checked

def member? (name : String) (entries : Layer) : Option Value :=
  Keyed.get? (.str name) entries

/-- A member that must be there; the report of its absence shows the whole body. -/
def required {α : Type} (read : Value → Checked α) (entries : Layer) (name : String) : Checked α :=
  match member? name entries with
  | none => .error [.map entries]
  | some v => read v

/-- A member that may be left out or null. -/
def optional {α : Type} (read : Value → Checked α) (entries : Layer) (name : String) : Checked (Option α) :=
  match member? name entries with
  | none | some (.scalar .null) => .ok none
  | some v => (read v).map some

/-- A member that may be left out but not be null. -/
def defaulting {α : Type} (read : Value → Checked α) (default : α) (entries : Layer) (name : String) : Checked α :=
  match member? name entries with
  | none => .ok default
  | some v => read v

def readWord (v : Value) : Checked String :=
  Checked.reading Value.asWord? v

def flagOfWord? (s : String) : Option Bool :=
  let word := String.ofList (s.toList.map Char.toLower)
  if ["1", "on", "t", "true", "y", "yes"].contains word then some true
  else if ["0", "off", "f", "false", "n", "no"].contains word then some false
  else none

/-- A flag is given as such, as one of the numbers zero and one, or by a word. -/
def flag? : Value → Option Bool
  | .scalar (.str s) => flagOfWord? s
  | .scalar s =>
    match s.integral? with
    | some 0 => some false
    | some 1 => some true
    | _ => none
  | _ => none

def layer? : Value → Option Layer
  | .map entries => some entries
  | _ => none

def readSettings : Value → Checked Settings
  | .map entries =>
    let layer := defaulting (Checked.reading layer?) [] entries
    Checked.both Settings.mk (layer "prettier") (layer "html_format")
  | v => .error [v]

def members : Body → Checked Layer
  | .json (.map entries) => .ok entries
  | .json v => .error [v]
  | .absent | .malformed | .unreadable => .error []

def TextRequest.ofBody (b : Body) : Checked TextRequest := do
  let entries ← members b
  let text := (required readWord entries "text").map String.toList
  let rest := Checked.both Prod.mk (optional readWord entries "project_root") (optional readSettings entries "settings")
  Checked.both (fun text rest => ⟨text, rest.1, rest.2⟩) text rest

def FileRequest.ofBody (b : Body) : Checked FileRequest := do
  let entries ← members b
  let path := required readWord entries "file_path"
  let write := defaulting (Checked.reading flag?) false entries "write"
  let rest := Checked.both Prod.mk (optional readWord entries "project_root") write
  Checked.both (fun path rest => ⟨path, rest.1, rest.2⟩) path rest

end ComponentFormat.Host
