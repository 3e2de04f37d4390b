import PromptScript.Yaml.Event
import PromptScript.Yaml.Scalar

/-!
# Yaml.Document

The value that a YAML text holds. The events of the first document are collected before any of them
is looked at; a fault in the text is met only where the events before it run out, so a fault in an
earlier value comes first.
-/

namespace PromptScript.Yaml

/-- An event inside a document, with the anchors resolved. -/
inductive Step where
  /-- The value that starts at the event of the given anchor. -/
  | anchored (id : Nat)
  | scalar (tag : Option (List Char)) (text : List Char) (style : ScalarStyle)
  | sequenceStart (tag : Option (List Char))
  | sequenceEnd
  | mappingStart (tag : Option (List Char))
  | mappingEnd
  /-- The value of a text without documents. -/
  | nothing
  deriving DecidableEq, Repr

/-- A step with its line, counted from 0. -/
structure PlacedStep where
  step : Step
  line : Nat
  deriving DecidableEq, Repr

/-- The first document of a text. -/
structure Document where
  steps : List PlacedStep := []
  /-- The line of the fault that ends the document early. -/
  fault : Option Nat := none
  /-- Where the value of each anchor starts; an earlier pair counts before a later one. -/
  anchors : List (Nat × Nat) := []
  /-- Whether the text goes on after the document. -/
  more : Bool := false

namespace Document

abbrev Names := List (List Char × Nat)

/-- Gives an anchor a number: how many names there were before. A name that is used again changes
its number, so that two names may come to share one. -/
def named (names : Names) (name : Option (List Char)) : Names × Option Nat :=
  match name with
  | none => (names, none)
  | some n =>
    let id := names.length
    (if names.any fun e => e.1 == n then names.map fun e => if e.1 == n then (n, id) else e
      else names ++ [(n, id)], some id)

def add (d : Document) (id : Option Nat) (s : Step) (line : Nat) : Document :=
  { d with
    steps := ⟨s, line⟩ :: d.steps
    anchors :=
      match id with
      | some id => (id, d.steps.length) :: d.anchors
      | none => d.anchors }

/-- Collects the events of a document, the last step first. -/
def collect (fault : Option Nat) (names : Names) (d : Document) : List PlacedEvent → Document
  | [] => { d with fault := fault }
  | e :: rest =>
    match e.event with
    | .streamStart => collect fault names d rest
    | .documentStart => collect fault names d rest
    | .streamEnd => if d.steps.isEmpty then d.add none .nothing e.line else d
    | .documentEnd =>
      match rest with
      | ⟨.streamEnd, _⟩ :: _ => d
      | _ => { d with more := true }
    | .aliasName name =>
      match names.find? fun n => n.1 == name with
      | some (_, id) => collect fault names (d.add none (.anchored id) e.line) rest
      | none => { d with fault := some e.line }
    | .scalar p text style =>
      let (names, id) := named names p.anchor
      collect fault names (d.add id (.scalar p.tag text style) e.line) rest
    | .sequenceStart p =>
      let (names, id) := named names p.anchor
      collect fault names (d.add id (.sequenceStart p.tag) e.line) rest
    | .mappingStart p =>
      let (names, id) := named names p.anchor
      collect fault names (d.add id (.mappingStart p.tag) e.line) rest
    | .sequenceEnd => collect fault names (d.add none .sequenceEnd e.line) rest
    | .mappingEnd => collect fault names (d.add none .mappingEnd e.line) rest

/-- The first document of a text. -/
def ofText (cs : List Char) : Document :=
  let (found, fault) := events cs
  let d := collect fault [] {} found
  { d with steps := d.steps.reverse }

end Document

/-- Why a text has no value: a fault on a line counted from 0, or one without a line. -/
inductive Fault where
  | onLine (line : Nat)
  | nowhere
  deriving DecidableEq, Repr

/-- How far a document has been read: the number of the next step, and how often an alias has been
followed. -/
structure Progress where
  position : Nat := 0
  jumps : Nat := 0

/-- The tag that marks a value: one that begins with an exclamation mark, without it and without a
second one before other characters. -/
def localTag? : Option (List Char) → Option (List Char)
  | some ('!' :: '!' :: c :: tag) => some (c :: tag)
  | some ('!' :: tag) => some tag
  | _ => none

/-- The deepest nesting of sequences and mappings. -/
def deepest : Nat := 128

/-- Aliases may be followed this many times for each step of the document. -/
def jumpsPerStep : Nat := 100

structure Layout where
  steps : Array PlacedStep
  anchors : List (Nat × Nat)
  fault : Option Nat

namespace Layout

def exhausted (d : Layout) : Fault :=
  match d.fault with
  | some line => .onLine line
  | none => .nowhere

/-- The value of a scalar. A tag that has been taken as a mark of the value does not count. -/
def scalarNode? (marked : Bool) (tag : Option (List Char)) (text : List Char)
    (style : ScalarStyle) : Option Node :=
  match if marked then none else tag with
  | some tag => Scalar.ofTagged? tag text
  | none => if style = .plain then Scalar.ofPlain? text else some (.text (String.ofList text))

mutual

/-- The value that starts at a step. `marked` says that its tag has been taken, or that tags of keys
do not count. -/
def node (d : Layout) : Nat → Nat → Bool → Progress → Except Fault (Node × Progress)
  | 0, _, _, _ => .error .nowhere
  | fuel + 1, depth, marked, p =>
    match d.steps[p.position]? with
    | none => .error d.exhausted
    | some ⟨step, line⟩ =>
      let after : Progress := { p with position := p.position + 1 }
      let tag :=
        match step with
        | .scalar tag .. => tag
        | .sequenceStart tag => tag
        | .mappingStart tag => tag
        | _ => none
      match if marked then none else localTag? tag with
      | some [] => .error (.onLine line)
      | some mark =>
        (node d fuel depth true p).map fun (n, p) => (.tagged (String.ofList mark) n, p)
      | none =>
        match step with
        | .nothing => .ok (.null, after)
        | .sequenceEnd => .ok (.null, after)
        | .mappingEnd => .ok (.null, after)
        | .scalar tag text style =>
          match scalarNode? marked tag text style with
          | some n => .ok (n, after)
          | none => .error (.onLine line)
        | .anchored id =>
          if jumpsPerStep * d.steps.size < p.jumps + 1 then .error .nowhere
          else
            match d.anchors.lookup id with
            | none => .error .nowhere
            | some position =>
              match node d fuel depth false ⟨position, p.jumps + 1⟩ with
              | .error f => .error f
              | .ok (n, q) => .ok (n, ⟨p.position + 1, q.jumps⟩)
        | .sequenceStart _ =>
          match depth with
          | 0 => .error (.onLine line)
          | depth + 1 =>
            match items d fuel depth after with
            | .error f => .error f
            | .ok (ns, p) => .ok (.sequence ns, p)
        | .mappingStart _ =>
          match depth with
          | 0 => .error (.onLine line)
          | depth + 1 =>
            match entries d fuel depth marked line [] after with
            | .error f => .error f
            | .ok (es, p) => .ok (.mapping es, p)

def items (d : Layout) : Nat → Nat → Progress → Except Fault (List Node × Progress)
  | 0, _, _ => .error .nowhere
  | fuel + 1, depth, p =>
    match d.steps[p.position]? with
    | none => .error d.exhausted
    | some ⟨step, _⟩ =>
      if step = .sequenceEnd then .ok ([], { p with position := p.position + 1 })
      else
        match node d fuel depth false p with
        | .error f => .error f
        | .ok (n, p) =>
          match items d fuel depth p with
          | .error f => .error f
          | .ok (ns, p) => .ok (n :: ns, p)

/-- The entries of a mapping up to its end; `found` are those before, the last one first. A key that
is found twice is a fault of the mapping. -/
def entries (d : Layout) : Nat → Nat → Bool → Nat → List (Node × Node) → Progress →
    Except Fault (List (Node × Node) × Progress)
  | 0, _, _, _, _, _ => .error .nowhere
  | fuel + 1, depth, marked, line, found, p =>
    match d.steps[p.position]? with
    | none => .error d.exhausted
    | some ⟨step, _⟩ =>
      if step = .mappingEnd then .ok (found.reverse, { p with position := p.position + 1 })
      else
        match node d fuel depth marked p with
        | .error f => .error f
        | .ok (k, p) =>
          if found.any fun e => k.same e.1 then .error (.onLine line)
          else
            match node d fuel depth false p with
            | .error f => .error f
            | .ok (v, p) => entries d fuel depth marked line ((k, v) :: found) p

end

end Layout

/-- The value of a text. A fault after the value, or a second document, is a fault of the text. -/
def read (cs : List Char) : Except Fault Node :=
  let d := Document.ofText cs
  let layout : Layout := ⟨d.steps.toArray, d.anchors, d.fault⟩
  match layout.node (200 * (d.steps.length + 3)) deepest false {} with
  | .error f => .error f
  | .ok (n, _) =>
    match d.fault with
    | some line => .error (.onLine line)
    | none => if d.more then .error .nowhere else .ok n

end PromptScript.Yaml
