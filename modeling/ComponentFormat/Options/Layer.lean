import ComponentFormat.Number
import ComponentFormat.Options.Basic

/-! # Layers of settings

A layer is taken into a set of options entry by entry. Keys in either spelling name an option, other keys are
passed over, and a value of the wrong kind leaves the option as it was.
-/
namespace ComponentFormat

/-- A key that names an option beside a value that the option cannot hold. -/
structure Rejection where
  key : String
  expected : String
  deriving DecidableEq, Repr

inductive Taken (α : Type) where
  | unknown
  | unusable (expected : String)
  | taken (options : α)

/-- The text of a key, if it can name an option. -/
def Scalar.keyText? : Scalar → Option String
  | .str s => some s
  | _ => none

/-- The scalar can be written as a text, which an integer with too many decimal digits cannot. -/
def Scalar.hasText : Scalar → Bool
  | .int n => n.natAbs < Number.tenTo Number.maxDigits
  | _ => true

namespace Layer

variable {α : Type}

/-- Take the entries in order, with the rejected ones in order. -/
def take (set : α → Text → Value → Taken α) : α → Layer → α × List Rejection
  | o, [] => (o, [])
  | o, (key, value) :: more =>
    match key.keyText? with
    | none => take set o more
    | some k =>
      match set o (Key.snakeCase k.toList) value with
      | .unknown => take set o more
      | .taken o => take set o more
      | .unusable expected =>
        let r := take set o more
        (r.1, ⟨k, expected⟩ :: r.2)

end Layer

/-- A comma-separated text without blanks around its items and without empty items, or a list of texts. -/
def Value.asTags? : Value → Option (List String)
  | .scalar (.str s) =>
    let items := (Text.splitAt (· == ',') s.toList).map Text.strip
    some ((items.filter (!·.isEmpty)).map String.ofList)
  | .list items => items.mapM Value.asWord?
  | _ => none

namespace Taken

variable {α β : Type}

def ofOption (expected : String) (put : β → α) : Option β → Taken α
  | some b => .taken (put b)
  | none => .unusable expected

end Taken

def MarkupOption.ofName? (name : Text) : Option MarkupOption :=
  MarkupOption.all.find? (·.name.toList == name)

def MarkupOptions.set (m : MarkupOptions) (name : Text) (v : Value) : Taken MarkupOptions :=
  match MarkupOption.ofName? name with
  | none => .unknown
  | some .wrapAttributes => .ofOption "str" (fun s => { m with wrapAttributes := s }) v.asWord?
  | some .wrapLineLength => .ofOption "int" (fun n => { m with wrapLineLength := n }) v.asCount?
  | some .unformatted => .ofOption "tuple" (fun ts => { m with unformatted := ts }) v.asTags?
  | some .indentSize => .ofOption "int" (fun n => { m with indentSize := n }) v.asCount?
  | some .indentInnerHtml => .ofOption "bool" (fun b => { m with indentInnerHtml := b }) v.asFlag?
  | some .endWithNewline => .ofOption "bool" (fun b => { m with endWithNewline := b }) v.asFlag?

def WordOption.ofName? (name : Text) : Option WordOption :=
  WordOption.all.find? (·.name.toList == name)

def CountOption.ofName? (name : Text) : Option CountOption :=
  CountOption.all.find? (·.name.toList == name)

def FlagOption.ofName? (name : Text) : Option FlagOption :=
  FlagOption.all.find? (·.name.toList == name)

def Options.set (o : Options) (name : Text) (v : Value) : Taken Options :=
  match WordOption.ofName? name, CountOption.ofName? name, FlagOption.ofName? name with
  | some f, _, _ => .ofOption "str" (o.setWord f) v.asWord?
  | none, some f, _ => .ofOption "int" (o.setCount f) v.asCount?
  | none, none, some f => .ofOption "bool" (o.setFlag f) v.asFlag?
  | none, none, none => .unknown

/-- Lay `html` onto the markup options and `code` onto the others. -/
def Options.build (code html : Layer) (base : Options) : Options × List Rejection :=
  let m := Layer.take MarkupOptions.set base.markup html
  let o := Layer.take Options.set base code
  ({ o.1 with markup := m.1 }, m.2 ++ o.2)

/-- Every key is turned into a text, whether or not it names an option; where one has none, nothing is built. -/
def Options.build? (code html : Layer) (base : Options) : Option (Options × List Rejection) :=
  if (code ++ html).all (·.1.hasText) then some (build code html base) else none

end ComponentFormat
