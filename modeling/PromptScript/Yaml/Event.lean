import PromptScript.Yaml.Token.Scan

/-!
# Yaml.Event

The structure of a YAML text as a sequence of events: the starts and ends of documents, sequences
and mappings, with scalars and aliases between them. `next` gives the event that follows in each
state; the states of the enclosing structures wait on a stack.
-/

namespace PromptScript.Yaml

/-- What may stand before a node. -/
structure Properties where
  anchor : Option (List Char) := none
  tag : Option (List Char) := none
  deriving DecidableEq, Repr

inductive Event where
  | streamStart
  | streamEnd
  | documentStart
  | documentEnd
  | aliasName (name : List Char)
  | scalar (properties : Properties) (text : List Char) (style : ScalarStyle)
  | sequenceStart (properties : Properties)
  | sequenceEnd
  | mappingStart (properties : Properties)
  | mappingEnd
  deriving DecidableEq, Repr

/-- An event with the line it starts on, counted from 0. -/
structure PlacedEvent where
  event : Event
  line : Nat
  deriving DecidableEq, Repr

inductive Expectation where
  | streamStart
  /-- A document; the first one may lack its mark. -/
  | document (first : Bool)
  | documentContent
  | documentEnd
  | blockNode
  | blockSequenceEntry
  | indentlessEntry
  | blockMappingKey
  | blockMappingValue
  | flowSequenceEntry (first : Bool)
  /-- The key of a mapping of one entry inside a sequence. -/
  | pairKey
  | pairValue
  | pairEnd
  | flowMappingKey (first : Bool)
  | flowMappingValue
  /-- The value of a key without a colon. -/
  | flowMappingNoValue
  | nothing
  deriving DecidableEq, Repr

structure EventReader where
  tokens : List PlacedToken
  expected : Expectation := .streamStart
  /-- What is expected after the structures that are open. -/
  waiting : List Expectation := []
  /-- What the handles of tags stand for. -/
  handles : List (List Char × List Char) := []

inductive EventFault where
  /-- The tokens are used up. -/
  | noToken
  /-- A token on the given line does not fit. -/
  | misplaced (line : Nat)
  deriving DecidableEq, Repr

/-- The next event and the state after it. -/
abbrev NextEvent := Except EventFault (PlacedEvent × EventReader)

namespace EventReader

def standardHandles : List (List Char × List Char) :=
  [(['!'], ['!']), (['!', '!'], "tag:yaml.org,2002:".toList)]

/-- The reader after its first token. -/
def skip (r : EventReader) : EventReader := { r with tokens := r.tokens.drop 1 }

def resume (r : EventReader) : EventReader :=
  match r.waiting with
  | [] => { r with expected := .nothing }
  | e :: waiting => { r with expected := e, waiting := waiting }

/-- The reader that expects `e` once the structure that starts now has ended. -/
def wait (r : EventReader) (e : Expectation) : EventReader := { r with waiting := e :: r.waiting }

def emit (r : EventReader) (e : Event) (line : Nat) (expected : Expectation) : NextEvent :=
  .ok (⟨e, line⟩, { r with expected := expected })

/-- An event after which the enclosing structure goes on. -/
def close (r : EventReader) (e : Event) (line : Nat) : NextEvent := .ok (⟨e, line⟩, r.resume)

/-- The event of a scalar that is not written. -/
def emptyScalar : Event := .scalar {} [] .plain

/-- The tag of a handle and a suffix; an empty handle leaves the suffix alone. -/
def tagOf? (r : EventReader) (handle suffix : List Char) : Option (List Char) :=
  if handle.isEmpty then some suffix
  else (r.handles.find? fun (h, _) => h == handle).map fun (_, start) => start ++ suffix

/-- A node before whose first token its properties stood. -/
def nodeContent (r : EventReader) (block indentless : Bool) (p : Properties) (line : Option Nat) :
    NextEvent :=
  match r.tokens with
  | [] => .error .noToken
  | t :: _ =>
    let line := line.getD t.line
    match t.token with
    | .blockEntry =>
      if indentless then r.emit (.sequenceStart p) line .indentlessEntry
      else bare line t.line
    | .scalar text style =>
      let p := if p.tag = some ['!'] then { p with tag := none } else p
      r.skip.close (.scalar p text style) line
    | .flowSequenceStart => r.skip.emit (.sequenceStart p) line (.flowSequenceEntry true)
    | .flowMappingStart => r.skip.emit (.mappingStart p) line (.flowMappingKey true)
    | .blockSequenceStart =>
      if block then r.skip.emit (.sequenceStart p) line .blockSequenceEntry
      else bare line t.line
    | .blockMappingStart =>
      if block then r.skip.emit (.mappingStart p) line .blockMappingKey
      else bare line t.line
    | _ => bare line t.line
where
  /-- A node that has properties but no content. -/
  bare (line tokenLine : Nat) : NextEvent :=
    if p.anchor.isSome || p.tag.isSome then r.close (.scalar p [] .plain) line
    else .error (.misplaced tokenLine)

def nodeTag (r : EventReader) (block indentless : Bool) (anchor : Option (List Char))
    (line : Option Nat) : NextEvent :=
  match r.tokens with
  | [] => .error .noToken
  | ⟨.tag handle suffix, tagLine⟩ :: rest =>
    match rest with
    | [] => .error .noToken
    | ⟨.anchor name, _⟩ :: more =>
      if anchor.isSome then resolved handle suffix tagLine anchor rest
      else
        match more with
        | [] => .error .noToken
        | _ => resolved handle suffix tagLine (some name) more
    | _ => resolved handle suffix tagLine anchor rest
  | _ => r.nodeContent block indentless { anchor := anchor } line
where
  /-- The node once its tag is known. -/
  resolved (handle suffix : List Char) (tagLine : Nat) (anchor : Option (List Char))
      (rest : List PlacedToken) : NextEvent :=
    match r.tagOf? handle suffix with
    | none => .error (.misplaced tagLine)
    | some tag =>
      { r with tokens := rest }.nodeContent block indentless ⟨anchor, some tag⟩
        (some (line.getD tagLine))

/-- A node: an alias, or properties in either order followed by content. -/
def node (r : EventReader) (block indentless : Bool) : NextEvent :=
  match r.tokens with
  | [] => .error .noToken
  | ⟨.aliasName name, line⟩ :: _ => r.skip.close (.aliasName name) line
  | ⟨.anchor name, line⟩ :: _ => r.skip.nodeTag block indentless (some name) (some line)
  | _ => r.nodeTag block indentless none none

/-- A node, unless one of the tokens follows that end it before it starts; `expected` is what comes
after it, and `line` where an empty one stands. -/
def nodeUnless (r : EventReader) (block indentless : Bool) (ends : Token → Bool)
    (expected : Expectation) (line : Option Nat) : NextEvent :=
  match r.tokens with
  | [] => .error .noToken
  | t :: _ =>
    if ends t.token then r.emit emptyScalar (line.getD t.line) expected
    else (r.wait expected).node block indentless

/-- The directives before a document. Each version and each handle may be set once. -/
def directives (version : Bool) (own : List (List Char × List Char)) :
    List PlacedToken → Except EventFault (List (List Char × List Char) × List PlacedToken)
  | [] => .error .noToken
  | ⟨.versionDirective major minor, line⟩ :: rest =>
    if version || major ≠ 1 || (minor ≠ 1 && minor ≠ 2) then .error (.misplaced line)
    else directives true own rest
  | ⟨.tagDirective handle start, line⟩ :: rest =>
    if own.any fun (h, _) => h == handle then .error (.misplaced line)
    else directives version (own ++ [(handle, start)]) rest
  | tokens => .ok (own, tokens)

/-- The tokens after the marks of a document's end. -/
def skipDocumentEnds : List PlacedToken → List PlacedToken
  | ⟨.documentEnd, _⟩ :: rest => skipDocumentEnds rest
  | tokens => tokens

/-- The start of a document, or the end of the text. -/
def document (r : EventReader) (first : Bool) : NextEvent :=
  let r := if first then r else { r with tokens := skipDocumentEnds r.tokens }
  match r.tokens with
  | [] => .error .noToken
  | t :: _ =>
    match t.token with
    | .streamEnd => r.skip.emit .streamEnd t.line .nothing
    | .versionDirective .. | .tagDirective .. | .documentStart => explicit r t.line
    | _ =>
      if first then
        ({ r with handles := standardHandles }.wait .documentEnd).emit .documentStart t.line
          .blockNode
      else explicit r t.line
where
  /-- A document with directives or a mark. -/
  explicit (r : EventReader) (line : Nat) : NextEvent :=
    match directives false [] r.tokens with
    | .error f => .error f
    | .ok (own, ⟨.documentStart, _⟩ :: rest) =>
      ({ r with tokens := rest, handles := own ++ standardHandles }.wait .documentEnd).emit
        .documentStart line .documentContent
    | .ok (_, t :: _) => .error (.misplaced t.line)
    | .ok (_, []) => .error .noToken

/-- Whether a token ends a document before its content. -/
def endsDocument : Token → Bool
  | .versionDirective .. | .tagDirective .. | .documentStart | .documentEnd | .streamEnd => true
  | _ => false

/-- Whether an element of a block sequence is empty before the token. -/
def endsEntry : Token → Bool
  | .blockEntry | .blockEnd => true
  | _ => false

/-- Whether an element of a sequence without indentation is empty before the token. -/
def endsIndentlessEntry : Token → Bool
  | .blockEntry | .key | .value | .blockEnd => true
  | _ => false

/-- Whether a part of a block mapping is empty before the token. -/
def endsMappingPart : Token → Bool
  | .key | .value | .blockEnd => true
  | _ => false

/-- Whether a value inside a flow sequence is empty before the token. -/
def endsPairValue : Token → Bool
  | .flowEntry | .flowSequenceEnd => true
  | _ => false

/-- Whether a key of a flow mapping is empty before the token. -/
def endsFlowKey : Token → Bool
  | .value | .flowEntry | .flowMappingEnd => true
  | _ => false

/-- Whether a value of a flow mapping is empty before the token. -/
def endsFlowValue : Token → Bool
  | .flowEntry | .flowMappingEnd => true
  | _ => false

/-- An element of a flow sequence, or its end. After the first element a comma comes before each. -/
def flowSequenceEntry (r : EventReader) (first : Bool) : NextEvent :=
  match r.tokens with
  | [] => .error .noToken
  | t :: rest =>
    if t.token = .flowSequenceEnd then r.skip.close .sequenceEnd t.line
    else if first then element r t
    else if t.token = .flowEntry then
      match rest with
      | [] => .error .noToken
      | u :: _ =>
        if u.token = .flowSequenceEnd then r.skip.skip.close .sequenceEnd u.line
        else element r.skip u
    else .error (.misplaced t.line)
where
  /-- An element that begins with the given token. -/
  element (r : EventReader) (t : PlacedToken) : NextEvent :=
    if t.token = .key then r.skip.emit (.mappingStart {}) t.line .pairKey
    else (r.wait (.flowSequenceEntry false)).node false false

/-- A key of a flow mapping, or its end. After the first key a comma comes before each. -/
def flowMappingKey (r : EventReader) (first : Bool) : NextEvent :=
  match r.tokens with
  | [] => .error .noToken
  | t :: rest =>
    if t.token = .flowMappingEnd then r.skip.close .mappingEnd t.line
    else if first then element r t
    else if t.token = .flowEntry then
      match rest with
      | [] => .error .noToken
      | u :: _ =>
        if u.token = .flowMappingEnd then r.skip.skip.close .mappingEnd u.line
        else element r.skip u
    else .error (.misplaced t.line)
where
  /-- A key that begins with the given token. -/
  element (r : EventReader) (t : PlacedToken) : NextEvent :=
    if t.token = .key then r.skip.nodeUnless false false endsFlowKey .flowMappingValue none
    else (r.wait .flowMappingNoValue).node false false

/-- The value after a colon; without a colon it is empty. -/
def valuePart (r : EventReader) (block indentless : Bool) (ends : Token → Bool)
    (expected : Expectation) : NextEvent :=
  match r.tokens with
  | [] => .error .noToken
  | t :: _ =>
    if t.token = .value then
      r.skip.nodeUnless block indentless ends expected (if block then some t.line else none)
    else r.emit emptyScalar t.line expected

def next (r : EventReader) : NextEvent :=
  match r.tokens with
  | [] => .error .noToken
  | t :: _ =>
    match r.expected with
    | .streamStart => r.skip.emit .streamStart t.line (.document true)
    | .document first => r.document first
    | .documentContent =>
      if endsDocument t.token then r.close emptyScalar t.line else r.node true false
    | .documentEnd =>
      let r := if t.token = .documentEnd then r.skip else r
      r.emit .documentEnd t.line (.document false)
    | .blockNode => r.node true false
    | .blockSequenceEntry =>
      match t.token with
      | .blockEntry => r.skip.nodeUnless true false endsEntry .blockSequenceEntry (some t.line)
      | .blockEnd => r.skip.close .sequenceEnd t.line
      | _ => .error (.misplaced t.line)
    | .indentlessEntry =>
      if t.token = .blockEntry then
        r.skip.nodeUnless true false endsIndentlessEntry .indentlessEntry (some t.line)
      else r.close .sequenceEnd t.line
    | .blockMappingKey =>
      match t.token with
      | .key => r.skip.nodeUnless true true endsMappingPart .blockMappingValue (some t.line)
      | .blockEnd => r.skip.close .mappingEnd t.line
      | _ => .error (.misplaced t.line)
    | .blockMappingValue => r.valuePart true true endsMappingPart .blockMappingKey
    | .flowSequenceEntry first => r.flowSequenceEntry first
    | .pairKey =>
      match t.token with
      | .value | .flowEntry | .flowSequenceEnd => r.skip.emit emptyScalar t.line .pairValue
      | _ => (r.wait .pairValue).node false false
    | .pairValue => r.valuePart false false endsPairValue .pairEnd
    | .pairEnd => r.emit .mappingEnd t.line (.flowSequenceEntry false)
    | .flowMappingKey first => r.flowMappingKey first
    | .flowMappingValue => r.valuePart false false endsFlowValue (.flowMappingKey false)
    | .flowMappingNoValue => r.emit emptyScalar t.line (.flowMappingKey false)
    | .nothing => .error .noToken

/-- The events that follow, at most `fuel` of them, and the fault that ends them if it is not the end
of the text. -/
def run : Nat → EventReader → List PlacedEvent × Option EventFault
  | 0, _ => ([], none)
  | fuel + 1, r =>
    match r.next with
    | .error f => ([], some f)
    | .ok (e, r) =>
      if e.event = .streamEnd then ([e], none)
      else
        let (more, fault) := run fuel r
        (e :: more, fault)

end EventReader

/-- The events of a text. If the text is wrong, these are the events before the fault, and the line
of the fault counted from 0 comes with them. -/
def events (cs : List Char) : List PlacedEvent × Option Nat :=
  let (tokens, fault) := scan cs
  match EventReader.run (4 * tokens.length + 8) { tokens := tokens } with
  | (found, none) => (found, none)
  | (found, some (.misplaced line)) => (found, some line)
  | (found, some .noToken) => (found, some (fault.getD 0))

end PromptScript.Yaml
