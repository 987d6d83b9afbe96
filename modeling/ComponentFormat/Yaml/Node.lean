import ComponentFormat.Keyed
import ComponentFormat.Yaml.Plain
import ComponentFormat.Yaml.Token

/-! # The node of a YAML text

The tokens of a text form at most one document, a tree of tagged scalars, sequences and mappings. A node is read
from the front of the tokens; a place where a node may stand but none does holds an empty scalar.
-/
namespace ComponentFormat.Yaml

inductive Node where
  | scalar (tag : Tag) (text : Text)
  | sequence (tag : Tag) (items : List Node)
  | mapping (tag : Tag) (entries : List (Node × Node))

namespace Node

/-- What an absent node stands for. -/
def empty : Node := .scalar .null []

/-- What is known while nodes are read: the handles of tags, and the anchors met; an anchor has no node as long
as its own node is being read. -/
structure Context where
  handles : List (Text × Text)
  anchors : List (Text × Option Node)

def defaultHandles : List (Text × Text) :=
  [(['!'], ['!']), (['!', '!'], "tag:yaml.org,2002:".toList)]

/-- The properties in front of a node. A tag is given by its full name. -/
structure Properties where
  anchor : Option Text
  tag : Option Text

abbrev State := List Token × Context

def fullTag (ctx : Context) (handle : Option Text) (suffix : Text) : Except Fault Text :=
  match handle with
  | none => .ok suffix
  | some h =>
    match Keyed.get? h ctx.handles with
    | some lead => .ok (lead ++ suffix)
    | none => .error .malformed

/-- What is wrong when none of the tokens comes that may stand here. -/
def unexpected : List Token → Fault
  | .fault f :: _ => f
  | _ => .malformed

def readProperties (ctx : Context) : List Token → Except Fault (Properties × List Token)
  | .anchor a :: .tag h s :: ts => do return (⟨some a, some (← fullTag ctx h s)⟩, ts)
  | .tag h s :: .anchor a :: ts => do return (⟨some a, some (← fullTag ctx h s)⟩, ts)
  | .tag _ _ :: .fault f :: _ => .error f
  | .anchor a :: ts => .ok (⟨some a, none⟩, ts)
  | .tag h s :: ts => do return (⟨none, some (← fullTag ctx h s)⟩, ts)
  | ts => .ok (⟨none, none⟩, ts)

def isNonSpecific (tag : Option Text) : Bool := tag == none || tag == some ['!']

/-- The tag of a scalar: its own, or by its form if it is plain or tagged as non-specific. -/
def scalarTag (p : Properties) (plain : Bool) (text : Text) : Tag :=
  match p.tag with
  | some name => if name = ['!'] then Plain.tag text else Tag.ofName name
  | none => if plain then Plain.tag text else .str

def collectionTag (p : Properties) (default : Tag) : Tag :=
  match p.tag with
  | some name => if name = ['!'] then default else Tag.ofName name
  | none => default

/-- Announce the anchor of a node. An anchor is given once. -/
def announce (p : Properties) (ctx : Context) : Except Fault Context :=
  match p.anchor with
  | none => .ok ctx
  | some a =>
    match Keyed.get? a ctx.anchors with
    | some _ => .error .malformed
    | none => .ok { ctx with anchors := Keyed.put a none ctx.anchors }

def bindAnchor (p : Properties) (n : Node) (ctx : Context) : Context :=
  match p.anchor with
  | none => ctx
  | some a => { ctx with anchors := Keyed.put a (some n) ctx.anchors }

/-- Which collections may stand at a place: block collections, and sequences without indentation of their own. -/
structure Place where
  block : Bool
  indentless : Bool

def flowPlace : Place := ⟨false, false⟩

def blockPlace : Place := ⟨true, false⟩

def valuePlace : Place := ⟨true, true⟩

def startsWith (stops : List Token) (ts : List Token) : Bool :=
  match ts with
  | [] => true
  | t :: _ => stops.contains t

/-- How deep collections may stand inside each other. -/
def maxDepth : Nat := 490

def descend : Nat → Except Fault Nat
  | 0 => .error (.unconvertible .tooDeep)
  | room + 1 => .ok room

mutual

/-- The node at the front of the tokens. `room` is the number of levels that its collections may have. -/
def read : Nat → Nat → Place → State → Except Fault (Node × State)
  | 0, _, _, _ => .error .malformed
  | fuel + 1, room, place, (ts, ctx) =>
    match ts with
    | .aliasOf a :: ts =>
      match Keyed.get? a ctx.anchors with
      | some (some n) => .ok (n, ts, ctx)
      | _ => .error .malformed
    | _ => do
      let (p, ts) ← readProperties ctx ts
      let finish (n : Node) (ts : List Token) (ctx : Context) : Except Fault (Node × State) :=
        .ok (n, ts, bindAnchor p n ctx)
      let sequence (r : List Node × State) :=
        finish (.sequence (collectionTag p .seq) r.1) r.2.1 r.2.2
      let mapping (r : List (Node × Node) × State) :=
        finish (.mapping (collectionTag p .map) r.1) r.2.1 r.2.2
      match ts with
      | .fault f :: _ => .error f
      | .scalar plain text :: ts => do
        finish (.scalar (scalarTag p plain text) text) ts (← announce p ctx)
      | .flowSequenceStart :: ts => do
        sequence (← readFlowItems fuel (← descend room) true (ts, ← announce p ctx))
      | .flowMappingStart :: ts => do
        mapping (← readFlowEntries fuel (← descend room) true (ts, ← announce p ctx))
      | .blockEntry :: _ =>
        if place.indentless then do
          sequence (← readIndentlessItems fuel (← descend room) (ts, ← announce p ctx))
        else other p ts ctx
      | .blockSequenceStart :: ts' =>
        if place.block then do
          sequence (← readBlockItems fuel (← descend room) (ts', ← announce p ctx))
        else other p ts ctx
      | .blockMappingStart :: ts' =>
        if place.block then do
          mapping (← readBlockEntries fuel (← descend room) (ts', ← announce p ctx))
        else other p ts ctx
      | _ => other p ts ctx
where
  /-- Nothing but properties stands for an empty scalar. -/
  other (p : Properties) (ts : List Token) (ctx : Context) : Except Fault (Node × State) := do
    if p.anchor.isNone && p.tag.isNone then throw .malformed
    let n : Node := .scalar (if isNonSpecific p.tag then .null else collectionTag p .null) []
    return (n, ts, bindAnchor p n (← announce p ctx))

/-- A node, or an empty one in front of a token that ends the place. -/
def readOr : Nat → Nat → List Token → Place → State → Except Fault (Node × State)
  | 0, _, _, _, _ => .error .malformed
  | fuel + 1, room, stops, place, s =>
    if startsWith stops s.1 then .ok (empty, s) else read fuel room place s

def readBlockItems : Nat → Nat → State → Except Fault (List Node × State)
  | 0, _, _ => .error .malformed
  | fuel + 1, room, (ts, ctx) =>
    match ts with
    | .blockEntry :: ts => do
      let (n, s) ← readOr fuel room [.blockEntry, .blockEnd] blockPlace (ts, ctx)
      let (ns, s) ← readBlockItems fuel room s
      return (n :: ns, s)
    | .blockEnd :: ts => .ok ([], ts, ctx)
    | ts => .error (unexpected ts)

def readIndentlessItems : Nat → Nat → State → Except Fault (List Node × State)
  | 0, _, _ => .error .malformed
  | fuel + 1, room, (ts, ctx) =>
    match ts with
    | .blockEntry :: ts => do
      let (n, s) ← readOr fuel room [.blockEntry, .key, .value, .blockEnd] blockPlace (ts, ctx)
      let (ns, s) ← readIndentlessItems fuel room s
      return (n :: ns, s)
    | _ => .ok ([], ts, ctx)

def readBlockEntries : Nat → Nat → State → Except Fault (List (Node × Node) × State)
  | 0, _, _ => .error .malformed
  | fuel + 1, room, (ts, ctx) =>
    match ts with
    | .key :: ts => do
      let (k, s) ← readOr fuel room [.key, .value, .blockEnd] valuePlace (ts, ctx)
      let (v, s) ←
        match s.1 with
        | .value :: ts => readOr fuel room [.key, .value, .blockEnd] valuePlace (ts, s.2)
        | _ => .ok (empty, s)
      let (es, s) ← readBlockEntries fuel room s
      return ((k, v) :: es, s)
    | .blockEnd :: ts => .ok ([], ts, ctx)
    | ts => .error (unexpected ts)

/-- The comma in front of every item of a flow collection but the first. -/
def readFlowItems : Nat → Nat → Bool → State → Except Fault (List Node × State)
  | 0, _, _, _ => .error .malformed
  | fuel + 1, room, isFirst, (ts, ctx) =>
    match ts with
    | .flowSequenceEnd :: ts => .ok ([], ts, ctx)
    | _ => do
      let ts ← if isFirst then .ok ts else
        match ts with
        | .flowEntry :: ts => .ok ts
        | ts => .error (unexpected ts)
      match ts with
      | .flowSequenceEnd :: ts => return ([], ts, ctx)
      | .key :: ts => do
        let inner ← descend room
        let (k, s) ← readOr fuel inner [.value, .flowEntry, .flowSequenceEnd] flowPlace (ts, ctx)
        let (v, s) ←
          match s.1 with
          | .value :: ts => readOr fuel inner [.flowEntry, .flowSequenceEnd] flowPlace (ts, s.2)
          | _ => .ok (empty, s)
        let (ns, s) ← readFlowItems fuel room false s
        return (.mapping .map [(k, v)] :: ns, s)
      | _ => do
        let (n, s) ← read fuel room flowPlace (ts, ctx)
        let (ns, s) ← readFlowItems fuel room false s
        return (n :: ns, s)

def readFlowEntries : Nat → Nat → Bool → State → Except Fault (List (Node × Node) × State)
  | 0, _, _, _ => .error .malformed
  | fuel + 1, room, isFirst, (ts, ctx) =>
    match ts with
    | .flowMappingEnd :: ts => .ok ([], ts, ctx)
    | _ => do
      let ts ← if isFirst then .ok ts else
        match ts with
        | .flowEntry :: ts => .ok ts
        | ts => .error (unexpected ts)
      match ts with
      | .flowMappingEnd :: ts => return ([], ts, ctx)
      | .key :: ts => do
        let (k, s) ← readOr fuel room [.value, .flowEntry, .flowMappingEnd] flowPlace (ts, ctx)
        let (v, s) ←
          match s.1 with
          | .value :: ts => readOr fuel room [.flowEntry, .flowMappingEnd] flowPlace (ts, s.2)
          | _ => .ok (empty, s)
        let (es, s) ← readFlowEntries fuel room false s
        return ((k, v) :: es, s)
      | _ => do
        let (k, s) ← read fuel room flowPlace (ts, ctx)
        let (es, s) ← readFlowEntries fuel room false s
        return ((k, empty) :: es, s)

end

/-- Directives in front of a document: one version directive for version 1, each handle once. -/
def readDirectives : List Token → Bool → List (Text × Text) →
    Except Fault (Bool × List (Text × Text) × List Token)
  | .versionDirective major :: ts, seen, handles =>
    if seen || major != 1 then .error .malformed else readDirectives ts true handles
  | .tagDirective handle lead :: ts, seen, handles =>
    if (Keyed.get? handle handles).isSome then .error .malformed
    else readDirectives ts seen (Keyed.put handle lead handles)
  | .otherDirective :: ts, seen, handles => readDirectives ts seen handles
  | ts, seen, handles => .ok (seen, handles, ts)

def isDirective : Token → Bool
  | .versionDirective _ | .tagDirective .. | .otherDirective => true
  | _ => false

/-- Nothing but ends of documents follows the one document. -/
def single (n : Node) : List Token → Except Fault Node
  | [] => .ok n
  | .documentEnd :: ts => single n ts
  | ts => do
    let (_, _, rest) ← readDirectives ts false []
    throw (unexpected rest)

/-- The node of a text, if it has a document. -/
def ofTokens (ts : List Token) : Except Fault (Option Node) := do
  let fuel := 6 * ts.length + 6
  match ts with
  | [] => return none
  | t :: _ =>
    if isDirective t || t == .documentStart then
      let (_, handles, ts) ← readDirectives ts false []
      match ts with
      | .documentStart :: ts =>
        let absent : Bool := match ts with
          | [] => true
          | t :: _ => isDirective t || t == .documentStart || t == .documentEnd
        if absent then return some (← single empty ts)
        else
          let (n, s) ← read fuel maxDepth blockPlace (ts, ⟨Keyed.override defaultHandles handles, []⟩)
          return some (← single n s.1)
      | ts => throw (unexpected ts)
    else
      let (n, s) ← read fuel maxDepth blockPlace (ts, ⟨defaultHandles, []⟩)
      return some (← single n s.1)

end Node

end ComponentFormat.Yaml
