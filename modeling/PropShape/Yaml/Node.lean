import PropShape.Yaml.Token.Basic

/-!
# `PropShape.Yaml.Node`: the tree of a YAML text

`Tree.ofTokens?` finds the one document of a token list. Nodes may carry a tag
and an anchor; an alias stands for the node that carries its anchor, and is
followed only later, when the tree is read.

Anchors are numbered by how many different names there are when one is set,
and an alias keeps the number that its name has at that point. Setting a name
again gives it a new number, which the next new name may get as well; a number
then means the last node that was given it. Nodes are told apart by how many
tree events (scalars, aliases, starts and ends of collections) come before
them.
-/

set_option autoImplicit false

namespace PropShape.Yaml

/-- A node of a document. -/
inductive Node
  | scalar (style : Style) (tag : Option Tag) (text : String)
  | sequence (tag : Option Tag) (items : List Node)
  | mapping (tag : Option Tag) (pairs : List (Node × Node))
  /-- The node with a numbered anchor. -/
  | alias (number : Nat)
  deriving Inhabited

namespace Node

/-- The node that is not written: an empty plain scalar. -/
def blank : Node := .scalar .plain none ""

end Node

/-- What has been met on the way through a document. -/
structure Anchors where
  /-- The number of tree events so far. -/
  events : Nat
  /-- The number that each name has now. -/
  numbers : List (String × Nat)
  /-- The events before the node with a number; the latest comes first. -/
  places : List (Nat × Nat)
  /-- The anchored nodes by the events before them. -/
  nodes : List (Nat × Node)
  deriving Inhabited

namespace Anchors

/-- Nothing has been met. -/
def start : Anchors := ⟨0, [], [], []⟩

/-- One more event. -/
def event (a : Anchors) : Anchors := { a with events := a.events + 1 }

/-- Sets an anchor on the node that comes next. -/
def set (a : Anchors) : Option String → Anchors
  | none => a
  | some name =>
    let number := a.numbers.length
    { a with
      numbers := (name, number) :: a.numbers.filter (fun entry => entry.1 != name)
      places := (number, a.events) :: a.places }

/-- Keeps an anchored node by the events before it. -/
def keep (a : Anchors) (anchor : Option String) (place : Nat) (node : Node) : Anchors :=
  if anchor.isSome then { a with nodes := (place, node) :: a.nodes } else a

/-- The node with a number. -/
def node? (a : Anchors) (number : Nat) : Option Node :=
  (a.places.lookup number).bind fun place => a.nodes.lookup place

end Anchors

/-- A document: its root, if it has one, and its anchors. -/
structure Tree where
  root : Option Node
  anchors : Anchors

/-- A step through the tokens: what was read, the rest, and what was met. -/
abbrev Step (α : Type) := Option (α × List Token × Anchors)

/-- The tag handles of a document, by what they abbreviate. -/
abbrev Handles := List (String × Tag)

/-- What stands before the content of a node. -/
structure Properties where
  anchor : Option String
  tag : Option (String × Tag)

/-- Reads the anchor and the tag of a node, in either order. -/
def Properties.read : List Token → Properties × List Token
  | .anchor name :: .tag handle suffix :: rest => (⟨some name, some (handle, suffix)⟩, rest)
  | .anchor name :: rest => (⟨some name, none⟩, rest)
  | .tag handle suffix :: .anchor name :: rest => (⟨some name, some (handle, suffix)⟩, rest)
  | .tag handle suffix :: rest => (⟨none, some (handle, suffix)⟩, rest)
  | tokens => (⟨none, none⟩, tokens)

/-- The tag that a handle and a suffix stand for; an unknown handle is an
error. -/
def resolveTag? (handles : Handles) : Option (String × Tag) → Option (Option Tag)
  | none => some none
  | some (handle, suffix) =>
    if handle.isEmpty then some (some suffix)
    else (handles.lookup handle).map fun expansion => some (expansion.append suffix)

/-- Whether an item or value is left out before a token. -/
def endsBlockItem : List Token → Bool
  | [] => true
  | .blockEntry :: _ | .blockEnd :: _ => true
  | _ => false

/-- Whether there is no node in place of a key or value, so that a block mapping goes on or
ends. -/
def endsBlockPart : List Token → Bool
  | [] => true
  | .key :: _ | .value :: _ | .blockEnd :: _ => true
  | _ => false

namespace Node

mutual

/-- Reads a node. In a block it may be a block collection; as a part of a
block mapping it may also be a sequence that is not indented further. -/
def read? (handles : Handles) (block unindented : Bool) :
    (fuel : Nat) → List Token → Anchors → Step Node
  | 0, _, _ => none
  | _ + 1, .alias name :: rest, a =>
    (a.numbers.lookup name).map fun number => (.alias number, rest, a.event)
  | fuel + 1, tokens, a =>
    let (properties, tokens) := Properties.read tokens
    match resolveTag? handles properties.tag with
    | none => none
    | some tag =>
      let place := a.events
      let a := (a.set properties.anchor).event
      let done (read : Step Node) : Step Node :=
        read.map fun (node, rest, a) => (node, rest, a.keep properties.anchor place node)
      let sequence (read : Step (List Node)) : Step Node :=
        done (read.map fun (items, rest, a) => (.sequence tag items, rest, a.event))
      let mapping (read : Step (List (Node × Node))) : Step Node :=
        done (read.map fun (pairs, rest, a) => (.mapping tag pairs, rest, a.event))
      match tokens with
      | .scalar style text :: rest => done (some (.scalar style tag text, rest, a))
      | .flowSequenceStart :: rest => sequence (flowItems? handles true fuel rest a)
      | .flowMappingStart :: rest => mapping (flowPairs? handles true fuel rest a)
      | .blockSequenceStart :: rest =>
        if block then sequence (blockItems? handles fuel rest a) else none
      | .blockMappingStart :: rest =>
        if block then mapping (blockPairs? handles fuel rest a) else none
      | .blockEntry :: rest =>
        if unindented then sequence (unindentedItems? handles fuel (.blockEntry :: rest) a)
        else if properties.anchor.isSome || tag.isSome then
          done (some (.scalar .plain tag "", .blockEntry :: rest, a))
        else none
      | rest =>
        if properties.anchor.isSome || tag.isSome then
          done (some (.scalar .plain tag "", rest, a))
        else none

/-- Reads the items of a block sequence and its end. -/
def blockItems? (handles : Handles) : (fuel : Nat) → List Token → Anchors → Step (List Node)
  | fuel + 1, .blockEntry :: rest, a =>
    match (if endsBlockItem rest then some (blank, rest, a.event)
      else read? handles true false fuel rest a) with
    | none => none
    | some (item, rest, a) =>
      (blockItems? handles fuel rest a).map fun (items, rest, a) => (item :: items, rest, a)
  | _, .blockEnd :: rest, a => some ([], rest, a)
  | _, _, _ => none

/-- Reads the items of a sequence that is not indented further than the
mapping it is a part of. -/
def unindentedItems? (handles : Handles) :
    (fuel : Nat) → List Token → Anchors → Step (List Node)
  | fuel + 1, .blockEntry :: rest, a =>
    match (if endsBlockItem rest || endsBlockPart rest then some (blank, rest, a.event)
      else read? handles true false fuel rest a) with
    | none => none
    | some (item, rest, a) =>
      (unindentedItems? handles fuel rest a).map fun (items, rest, a) => (item :: items, rest, a)
  | 0, _, _ => none
  | _, rest, a => some ([], rest, a)

/-- Reads the pairs of a block mapping and its end. A key or a value may be
left out. -/
def blockPairs? (handles : Handles) :
    (fuel : Nat) → List Token → Anchors → Step (List (Node × Node))
  | fuel + 1, .key :: rest, a =>
    match (if endsBlockPart rest then some (blank, rest, a.event)
      else read? handles true true fuel rest a) with
    | none => none
    | some (key, rest, a) =>
      match blockValue? handles fuel rest a with
      | none => none
      | some (value, rest, a) =>
        (blockPairs? handles fuel rest a).map fun (pairs, rest, a) =>
          ((key, value) :: pairs, rest, a)
  | _, .blockEnd :: rest, a => some ([], rest, a)
  | _, _, _ => none

/-- Reads the value of a pair of a block mapping. -/
def blockValue? (handles : Handles) : (fuel : Nat) → List Token → Anchors → Step Node
  | 0, _, _ => none
  | fuel + 1, .value :: rest, a =>
    if endsBlockPart rest then some (blank, rest, a.event)
    else read? handles true true fuel rest a
  | _ + 1, rest, a => some (blank, rest, a.event)

/-- Reads the items of a flow sequence and its closing bracket. An item may be
a single pair without braces around it. -/
def flowItems? (handles : Handles) (first : Bool) :
    (fuel : Nat) → List Token → Anchors → Step (List Node)
  | 0, _, _ => none
  | _ + 1, .flowSequenceEnd :: rest, a => some ([], rest, a)
  | fuel + 1, tokens, a =>
    match (if first then some tokens
      else match tokens with
        | .flowEntry :: rest => some rest
        | _ => none) with
    | none => none
    | some (.flowSequenceEnd :: rest) => some ([], rest, a)
    | some (.key :: rest) =>
      match flowPair? handles fuel rest a.event with
      | none => none
      | some (pair, rest, a) =>
        (flowItems? handles false fuel rest a.event).map fun (items, rest, a) =>
          (.mapping none [pair] :: items, rest, a)
    | some rest =>
      match read? handles false false fuel rest a with
      | none => none
      | some (item, rest, a) =>
        (flowItems? handles false fuel rest a).map fun (items, rest, a) => (item :: items, rest, a)

/-- Reads a pair without braces, behind the mark of its key. Where the key is
left out, the next token is taken for it. -/
def flowPair? (handles : Handles) : (fuel : Nat) → List Token → Anchors → Step (Node × Node)
  | 0, _, _ => none
  | fuel + 1, tokens, a =>
    match (match tokens with
      | .value :: rest | .flowEntry :: rest | .flowSequenceEnd :: rest =>
        some (blank, rest, a.event)
      | rest => read? handles false false fuel rest a) with
    | none => none
    | some (key, rest, a) =>
      match rest with
      | .value :: .flowEntry :: rest => some ((key, blank), .flowEntry :: rest, a.event)
      | .value :: .flowSequenceEnd :: rest => some ((key, blank), .flowSequenceEnd :: rest, a.event)
      | .value :: rest =>
        (read? handles false false fuel rest a).map fun (value, rest, a) => ((key, value), rest, a)
      | rest => some ((key, blank), rest, a.event)

/-- Reads the pairs of a flow mapping and its closing bracket. A node without
the mark of a key is a key without a value. -/
def flowPairs? (handles : Handles) (first : Bool) :
    (fuel : Nat) → List Token → Anchors → Step (List (Node × Node))
  | 0, _, _ => none
  | _ + 1, .flowMappingEnd :: rest, a => some ([], rest, a)
  | fuel + 1, tokens, a =>
    match (if first then some tokens
      else match tokens with
        | .flowEntry :: rest => some rest
        | _ => none) with
    | none => none
    | some (.flowMappingEnd :: rest) => some ([], rest, a)
    | some (.key :: rest) =>
      match (match rest with
        | .value :: _ | .flowEntry :: _ | .flowMappingEnd :: _ => some (blank, rest, a.event)
        | rest => read? handles false false fuel rest a) with
      | none => none
      | some (key, rest, a) =>
        match (match rest with
          | .value :: .flowEntry :: rest => some (blank, .flowEntry :: rest, a.event)
          | .value :: .flowMappingEnd :: rest => some (blank, .flowMappingEnd :: rest, a.event)
          | .value :: rest => read? handles false false fuel rest a
          | rest => some (blank, rest, a.event)) with
        | none => none
        | some (value, rest, a) =>
          (flowPairs? handles false fuel rest a).map fun (pairs, rest, a) =>
            ((key, value) :: pairs, rest, a)
    | some rest =>
      match read? handles false false fuel rest a with
      | none => none
      | some (key, rest, a) =>
        (flowPairs? handles false fuel rest a.event).map fun (pairs, rest, a) =>
          ((key, blank) :: pairs, rest, a)

end

end Node

namespace Tree

/-- Reads the directives before a document. A version other than 1.1 and 1.2,
a second version and a handle defined twice are errors. -/
def directives? (version : Bool) (handles : Handles) :
    List Token → Option (Handles × List Token)
  | .versionDirective major minor :: rest =>
    if version || major != 1 || (minor != 1 && minor != 2) then none
    else directives? true handles rest
  | .tagDirective handle expansion :: rest =>
    if (handles.lookup handle).isSome then none
    else directives? version ((handle, expansion) :: handles) rest
  | tokens => some (handles, tokens)

/-- The handles that need no directive. -/
def standardHandles : Handles := [("!", .ofText "!"), ("!!", .ofText Tag.coreStart)]

/-- Drops the markers at the end of a document. -/
def dropEnds : List Token → List Token
  | .documentEnd :: rest => dropEnds rest
  | tokens => tokens

/-- Reads the root of a document and checks that no other document follows. -/
def ofRoot? (read : Step Node) : Option Tree :=
  match read with
  | none => none
  | some (root, rest, anchors) =>
    if (dropEnds rest).isEmpty then some ⟨some root, anchors⟩ else none

/-- The document of a token list. Without any token there is no root. -/
def ofTokens? (tokens : List Token) : Option Tree :=
  let fuel := 2 * tokens.length + 2
  let root? (handles : Handles) (tokens : List Token) : Step Node :=
    match tokens with
    | [] => some (.blank, [], Anchors.start.event)
    | .documentEnd :: rest => some (.blank, .documentEnd :: rest, Anchors.start.event)
    | .documentStart :: rest => some (.blank, .documentStart :: rest, Anchors.start.event)
    | .versionDirective major minor :: rest =>
      some (.blank, .versionDirective major minor :: rest, Anchors.start.event)
    | .tagDirective handle expansion :: rest =>
      some (.blank, .tagDirective handle expansion :: rest, Anchors.start.event)
    | tokens => Node.read? handles true false fuel tokens .start
  match tokens with
  | [] => some ⟨none, .start⟩
  | .versionDirective _ _ :: _ | .tagDirective _ _ :: _ | .documentStart :: _ =>
    match directives? false [] tokens with
    | some (handles, .documentStart :: rest) => ofRoot? (root? (handles ++ standardHandles) rest)
    | _ => none
  | tokens => ofRoot? (Node.read? standardHandles true false fuel tokens .start)

end Tree

end PropShape.Yaml
