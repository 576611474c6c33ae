import EnumExport.Yaml.Tag
import EnumExport.Yaml.Token
import EnumExport.Assoc

/-!
# Nodes

The tokens of a text put together into the tree of its one document. An alias stands for the node
that its anchor marks, so the tree holds that node again.
-/

namespace EnumExport.Yaml

/-- A node of a document. -/
inductive Node
  /-- a scalar -/
  | scalar (tag : Tag) (text : String)
  /-- a sequence -/
  | seq (tag : Tag) (items : List Node)
  /-- a mapping -/
  | map (tag : Tag) (pairs : List (Node × Node))
  deriving Repr

instance : Inhabited Node := ⟨.scalar .null ""⟩

namespace Node

/-- The tag of a node. -/
def tag : Node → Tag
  | .scalar t _ | .seq t _ | .map t _ => t

/-- The node that stands where nothing is written. -/
def empty : Node := .scalar .null ""

end Node

/-- The state of putting tokens together. -/
structure Builder where
  /-- the tokens that are left -/
  rest : List Token
  /-- the nodes marked so far -/
  anchors : List (String × Node) := []
  /-- what the handles of tags stand for -/
  handles : List (String × String) := []

namespace Builder

/-- The next token. -/
def peek (b : Builder) : Option Token := b.rest.head?

/-- The builder behind the next token. -/
def next (b : Builder) : Builder := { b with rest := b.rest.tail }

/-- What the handles stand for unless a directive says otherwise. -/
def defaultHandles : List (String × String) := [("!", "!"), ("!!", "tag:yaml.org,2002:")]

/-- The properties before a node. -/
structure Marks where
  /-- its anchor -/
  anchor : Option String
  /-- its tag as a resource name -/
  uri : Option String

/-- A tag with its handle replaced. -/
def expand (b : Builder) : Option String → String → Option String
  | none, suffix => some suffix
  | some h, suffix => (Assoc.get? h b.handles).map (· ++ suffix)

/-- The anchor and the tag before a node, in either order. -/
def marks (b : Builder) : Option (Marks × Builder) :=
  match b.rest with
  | .anchor a :: .tag h s :: _ => do
    return (⟨some a, some (← b.expand h s)⟩, b.next.next)
  | .tag h s :: .anchor a :: _ => do
    return (⟨some a, some (← b.expand h s)⟩, b.next.next)
  | .anchor a :: _ => some (⟨some a, none⟩, b.next)
  | .tag h s :: _ => do return (⟨none, some (← b.expand h s)⟩, b.next)
  | _ => some (⟨none, none⟩, b)

/-- The tag of a node: the one it is marked with, or the one that it has by itself. -/
def Marks.tagOr (m : Marks) (own : Tag) : Tag :=
  match m.uri with
  | none | some "!" => own
  | some uri => .ofUri uri

/-- Marks a node; an anchor may be used once only. -/
def register (b : Builder) (m : Marks) (n : Node) : Option (Node × Builder) :=
  match m.anchor with
  | none => some (n, b)
  | some a =>
    if Assoc.has a b.anchors then none
    else some (n, { b with anchors := b.anchors ++ [(a, n)] })

/-- Whether the next token is one of some. -/
def at? (b : Builder) (ts : List Token) : Bool :=
  match b.peek with
  | some t => ts.contains t
  | none => false

mutual

/-- A node. In a block, sequences and mappings by indentation are nodes; behind a key a sequence
need not be indented. -/
def node (inBlock loose : Bool) : Nat → Builder → Option (Node × Builder)
  | 0, _ => none
  | fuel + 1, b =>
    match b.peek with
    | some (.alias a) => do
      let n ← Assoc.get? a b.anchors
      return (n, b.next)
    | _ => do
      let (m, b) ← b.marks
      match b.peek with
      | some (.scalar style text) =>
        let tag := match m.uri, style with
          | none, .plain | some "!", _ => Tag.ofPlain text
          | none, .quoted => .str
          | some uri, _ => .ofUri uri
        b.next.register m (.scalar tag text)
      | some .flowSequence =>
        let (items, b) ← flowItems true fuel b.next
        b.register m (.seq (m.tagOr .seq) items)
      | some .flowMapping =>
        let (pairs, b) ← flowPairs true fuel b.next
        b.register m (.map (m.tagOr .map) pairs)
      | some .blockEntry =>
        if loose then
          let (items, b) ← looseItems fuel b
          b.register m (.seq (m.tagOr .seq) items)
        else emptyNode m b
      | some .blockSequence =>
        if inBlock then
          let (items, b) ← blockItems fuel b.next
          b.register m (.seq (m.tagOr .seq) items)
        else emptyNode m b
      | some .blockMapping =>
        if inBlock then
          let (pairs, b) ← blockPairs fuel b.next
          b.register m (.map (m.tagOr .map) pairs)
        else emptyNode m b
      | _ => emptyNode m b

/-- A node of which only its marks are written. -/
def emptyNode (m : Marks) (b : Builder) : Option (Node × Builder) :=
  if m.anchor.isNone && m.uri.isNone then none
  else
    b.register m (.scalar (m.tagOr .null) "")

/-- A node, or the empty one before one of some tokens. -/
def nodeUnless (stop : List Token) (inBlock loose : Bool) :
    Nat → Builder → Option (Node × Builder)
  | 0, _ => none
  | fuel + 1, b =>
    if b.at? stop then some (.empty, b) else node inBlock loose fuel b

/-- The entries of a sequence by indentation. -/
def blockItems : Nat → Builder → Option (List Node × Builder)
  | 0, _ => none
  | fuel + 1, b =>
    match b.peek with
    | some .blockEntry => do
      let (n, b) ← nodeUnless [.blockEntry, .blockEnd] true false fuel b.next
      let (ns, b) ← blockItems fuel b
      return (n :: ns, b)
    | some .blockEnd => some ([], b.next)
    | _ => none

/-- The entries of a sequence that is not indented. -/
def looseItems : Nat → Builder → Option (List Node × Builder)
  | 0, _ => none
  | fuel + 1, b =>
    match b.peek with
    | some .blockEntry => do
      let (n, b) ← nodeUnless [.blockEntry, .key, .value, .blockEnd] true false fuel b.next
      let (ns, b) ← looseItems fuel b
      return (n :: ns, b)
    | _ => some ([], b)

/-- The pairs of a mapping by indentation. -/
def blockPairs : Nat → Builder → Option (List (Node × Node) × Builder)
  | 0, _ => none
  | fuel + 1, b =>
    let valueOf (b : Builder) : Option (Node × Builder) :=
      match b.peek with
      | some .value => nodeUnless [.key, .value, .blockEnd] true true fuel b.next
      | _ => some (.empty, b)
    match b.peek with
    | some .key => do
      let (k, b) ← nodeUnless [.key, .value, .blockEnd] true true fuel b.next
      let (v, b) ← valueOf b
      let (ps, b) ← blockPairs fuel b
      return ((k, v) :: ps, b)
    | some .blockEnd => some ([], b.next)
    | some .value => do
      let (v, b) ← valueOf b
      let (ps, b) ← blockPairs fuel b
      return ((.empty, v) :: ps, b)
    | _ => none

/-- The entries of a sequence between brackets. -/
def flowItems (first : Bool) : Nat → Builder → Option (List Node × Builder)
  | 0, _ => none
  | fuel + 1, b =>
    if b.peek = some .flowSequenceEnd then some ([], b.next)
    else do
      let b ← if first then some b else if b.peek = some .flowEntry then some b.next else none
      match b.peek with
      | some .key => do
        let (k, b) ← nodeUnless [.value, .flowEntry, .flowSequenceEnd] false false fuel b.next
        let (v, b) ← match b.peek with
          | some .value => nodeUnless [.flowEntry, .flowSequenceEnd] false false fuel b.next
          | _ => some (.empty, b)
        let (ns, b) ← flowItems false fuel b
        return (.map .map [(k, v)] :: ns, b)
      | some .flowSequenceEnd => some ([], b.next)
      | _ => do
        let (n, b) ← node false false fuel b
        let (ns, b) ← flowItems false fuel b
        return (n :: ns, b)

/-- The pairs of a mapping between braces. -/
def flowPairs (first : Bool) : Nat → Builder → Option (List (Node × Node) × Builder)
  | 0, _ => none
  | fuel + 1, b =>
    if b.peek = some .flowMappingEnd then some ([], b.next)
    else do
      let b ← if first then some b else if b.peek = some .flowEntry then some b.next else none
      match b.peek with
      | some .key => do
        let (k, b) ← nodeUnless [.value, .flowEntry, .flowMappingEnd] false false fuel b.next
        let (v, b) ← match b.peek with
          | some .value => nodeUnless [.flowEntry, .flowMappingEnd] false false fuel b.next
          | _ => some (.empty, b)
        let (ps, b) ← flowPairs false fuel b
        return ((k, v) :: ps, b)
      | some .flowMappingEnd => some ([], b.next)
      | _ => do
        let (k, b) ← node false false fuel b
        let (ps, b) ← flowPairs false fuel b
        return ((k, .empty) :: ps, b)

end

/-- The directives before a document, as handles of tags. -/
def directives (seenVersion : Bool) (handles : List (String × String)) :
    List Token → Option (List (String × String) × List Token)
  | .version major _ :: rest =>
    if seenVersion || major != 1 then none else directives true handles rest
  | .tagHandle h e :: rest =>
    if Assoc.has h handles then none else directives seenVersion (handles ++ [(h, e)]) rest
  | .directive :: rest => directives seenVersion handles rest
  | rest => some (handles, rest)

/-- The tokens behind the markers of ended documents. -/
def skipEnds : List Token → List Token
  | .documentEnd :: rest => skipEnds rest
  | rest => rest

/-- The content of a document. -/
def content (b : Builder) : Option (Node × Builder) :=
  match b.peek with
  | none | some .documentStart | some .documentEnd | some .directive | some (.version _ _)
  | some (.tagHandle _ _) => some (.empty, b)
  | _ => node true false (3 * b.rest.length + 3) b

/-- The handles of a document: its own and the default ones. -/
def withDefaults (handles : List (String × String)) : List (String × String) :=
  handles ++ defaultHandles.filter fun p => !Assoc.has p.1 handles

/-- Whether the next token belongs to a directive. -/
def atDirective : List Token → Bool
  | .directive :: _ | .version _ _ :: _ | .tagHandle _ _ :: _ => true
  | _ => false

/-- The one document of some tokens, or none when there is nothing at all; nothing where the tokens
do not fit together or there is a second document. -/
def document (ts : List Token) : Option (Option Node) :=
  let finish (n : Node) (b : Builder) : Option (Option Node) :=
    let rest := match b.rest with
      | .documentEnd :: r => r
      | r => r
    if (skipEnds rest).isEmpty then some (some n) else none
  if ts.isEmpty then some none
  else if ts.head? = some .documentStart || atDirective ts then do
    let (handles, rest) ← directives false [] ts
    match rest with
    | .documentStart :: rest => do
      let (n, b) ← content { rest, handles := withDefaults handles }
      finish n b
    | _ => none
  else do
    let (n, b) ← node true false (3 * ts.length + 3)
      { rest := ts, handles := defaultHandles }
    finish n b

end Builder

/-- The tree of a text's one document, or none when the text is empty; nothing where the text is
malformed. -/
def document? (s : String) : Option (Option Node) := do
  Builder.document (← tokens? s)

end EnumExport.Yaml
