import ComponentFormat.Value
import ComponentFormat.Yaml.Node

/-! # The value of a YAML text

A node tree becomes a value. When several scalars cannot be converted, the fault reported is the shallowest one,
and of one depth the first.
-/
namespace ComponentFormat.Yaml

namespace Node

structure Visit where
  fault : Option Fault
  later : List Node

namespace Visit

def clean : Visit := ⟨none, []⟩

/-- The faults of a node that show without visiting its children. -/
def ofNode : Node → Visit
  | .scalar tag text =>
    match tag with
    | .seq | .map => ⟨none, [.scalar tag text]⟩
    | _ =>
      match Tagged.value tag text with
      | .ok _ => clean
      | .error f => ⟨some f, []⟩
  | .sequence tag items =>
    match tag with
    | .seq | .map => ⟨none, [.sequence tag items]⟩
    | _ => ⟨some .malformed, []⟩
  | .mapping tag entries =>
    match tag with
    | .seq | .map => ⟨none, [.mapping tag entries]⟩
    | _ => ⟨some .malformed, []⟩

/-- Only scalars are keys. -/
def ofKey (n : Node) : Visit :=
  let v := ofNode n
  if v.later.isEmpty then v else ⟨some .malformed, []⟩

def andThen (v w : Visit) : Visit :=
  match v.fault with
  | some f => ⟨some f, []⟩
  | none => ⟨w.fault, v.later ++ w.later⟩

def all (vs : List Visit) : Visit :=
  vs.foldl andThen clean

end Visit

/-- The entries of a mapping after those of the mappings it merges in. Of several merged mappings the last one
comes first, so that the first one wins. -/
def flatten : Nat → List (Node × Node) → Except Fault (List (Node × Node))
  | 0, _ => .error .malformed
  | fuel + 1, entries => do
    let parts ← entries.mapM fun (k, v) =>
      match k with
      | .scalar .merge _ =>
        match v with
        | .mapping _ es => (flatten fuel es).map fun es => (es, [])
        | .sequence _ items => do
          let merged ← items.mapM fun item =>
            match item with
            | .mapping _ es => flatten fuel es
            | _ => .error .malformed
          return (merged.reverse.flatten, [])
        | _ => .error .malformed
      | .scalar .defaultValue text => .ok ([], [(.scalar .str text, v)])
      | _ => .ok ([], [(k, v)])
    return parts.flatMap Prod.fst ++ parts.flatMap Prod.snd

def visitChildren (fuel : Nat) : Node → Visit
  | .sequence .seq items => Visit.all (items.map Visit.ofNode)
  | .mapping .map entries =>
    match flatten fuel entries with
    | .error f => ⟨some f, []⟩
    | .ok es => Visit.all (es.flatMap fun e => [Visit.ofKey e.1, Visit.ofNode e.2])
  | _ => ⟨some .malformed, []⟩

/-- The shallowest fault below a row of collections. -/
def faultBelow : Nat → List Node → Option Fault
  | 0, _ => some .malformed
  | _ + 1, [] => none
  | fuel + 1, level =>
    let v := Visit.all (level.map (visitChildren fuel))
    match v.fault with
    | some f => some f
    | none => faultBelow fuel v.later

def fault? (fuel : Nat) (n : Node) : Option Fault :=
  let v := Visit.ofNode n
  match v.fault with
  | some f => some f
  | none => faultBelow fuel v.later

def build : Nat → Node → Except Fault Value
  | 0, _ => .error .malformed
  | fuel + 1, n =>
    match n with
    | .scalar tag text => (Tagged.value tag text).map .scalar
    | .sequence _ items => do return .list (← items.mapM (build fuel))
    | .mapping _ entries => do
      let pairs ← (← flatten fuel entries).mapM fun (k, v) => do
        match k with
        | .scalar tag text => return (← Tagged.value tag text, ← build fuel v)
        | _ => throw .malformed
      return .map (Keyed.ofPairs pairs)

def value (fuel : Nat) (n : Node) : Except Fault Value :=
  match fault? fuel n with
  | some f => .error f
  | none => build fuel n

end Node

/-- The value of a text; a text without a document is null. -/
def load (t : Text) : Except Fault Value := do
  let ts := tokens t
  match ← Node.ofTokens ts with
  | none => return .scalar .null
  | some n => n.value (ts.length + 2)

end ComponentFormat.Yaml
