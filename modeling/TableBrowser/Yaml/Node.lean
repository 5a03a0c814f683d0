import TableBrowser.Yaml.Kind
import TableBrowser.Yaml.TokenRow
/-!
# Nodes

A document is a tree of nodes. References have been replaced by the nodes they
refer to, and what was left out by empty plain scalars.
-/

namespace TableBrowser.Yaml

inductive Node where
  | scalar (kind : Kind) (text : String)
  | sequence (kind : Kind) (items : List Node)
  | mapping (kind : Kind) (entries : List (Node × Node))

namespace Node

def kind : Node → Kind
  | .scalar kind _ => kind
  | .sequence kind _ => kind
  | .mapping kind _ => kind

/-- What stands where a node was left out. -/
def absent : Node := .scalar .null ""

end Node

/-! ## Reading nodes from tokens -/

/-- What is known while a document is read. -/
structure NodeReader where
  tokens : List Token
  /-- The handles of tags, and what they stand for. -/
  handles : List (String × String)
  /-- The nodes with anchors; those not yet complete have none. -/
  anchors : List (String × Option Node) := []

abbrev NodeStep (α : Type) := StateT NodeReader (Except Problem) α

namespace NodeReader

def stop {α : Type} : NodeStep α := fun _ => fails

def peek? : NodeStep (Option Token) := do return (← get).tokens.head?

def skip : NodeStep Unit := modify fun reader => { reader with tokens := reader.tokens.tail }

/-- Passes a token when it comes next, and says whether it did. -/
def accept (token : Token) : NodeStep Bool := do
  if (← peek?) = some token then
    skip
    return true
  else return false

def require (token : Token) : NodeStep Unit := do
  if !(← accept token) then stop

def isAt (tokens : List Token) : NodeStep Bool := do
  match ← peek? with
  | some token => return tokens.contains token
  | none => return false

/-! ## Anchors and tags -/

def anchor? : NodeStep (Option String) := do
  match ← peek? with
  | some (.anchor name) =>
      skip
      return some name
  | _ => return none

def tag? : NodeStep (Option String) := do
  match ← peek? with
  | some (.tag handle suffix) =>
      skip
      match handle with
      | none => return some suffix
      | some handle =>
          match (← get).handles.lookup handle with
          | some expansion => return some (expansion ++ suffix)
          | none => stop
  | _ => return none

/-- Anchor and tag in front of a node, in either order. -/
def properties : NodeStep (Option String × Option String) := do
  match ← anchor? with
  | some anchor => return (some anchor, ← tag?)
  | none =>
      let tag ← tag?
      return (← if tag.isSome then anchor? else pure none, tag)

/-- Notes an anchor whose node is being read; each name is used once. -/
def openAnchor (anchor : Option String) : NodeStep Unit := do
  match anchor with
  | some name =>
      if ((← get).anchors.lookup name).isSome then stop
      modify fun reader => { reader with anchors := (name, none) :: reader.anchors }
  | none => return

def closeAnchor (anchor : Option String) (node : Node) : NodeStep Node := do
  match anchor with
  | some name =>
      modify fun reader => { reader with anchors := (name, some node) :: reader.anchors }
      return node
  | none => return node

/-- The node that a name refers to, which must be complete. -/
def referenced (name : String) : NodeStep Node := do
  match (← get).anchors.lookup name with
  | some (some node) => return node
  | _ => stop

/-- A lone exclamation mark leaves the kind to the text. -/
def kindOf (tag : Option String) (untagged : Kind) : Kind :=
  match tag with
  | none | some "!" => untagged
  | some tag => .ofTag tag

/-- A scalar; an exclamation mark makes a quoted one count as plain. -/
def scalarOf (tag : Option String) (text : String) (plain : Bool) : Node :=
  .scalar (kindOf tag (if plain || tag = some "!" then .ofPlain text else .text)) text

/-- An empty node; only its properties can show that there is one. -/
def emptyNode (tag : Option String) (hasProperties : Bool) : NodeStep Node := do
  if hasProperties then return scalarOf tag "" true else stop

/-! ## Collections -/

mutual

/--
A node. Block collections, and a sequence that is set no deeper than its key,
may stand only in some places.
-/
def node (block flush : Bool) : Nat → NodeStep Node
  | 0 => stop
  | fuel + 1 => do
      if let some (.reference name) := ← peek? then
        skip
        return ← referenced name
      let (anchor, tag) ← properties
      openAnchor anchor
      closeAnchor anchor (← content block flush tag (anchor.isSome || tag.isSome) fuel)

def content (block flush : Bool) (tag : Option String) (hasProperties : Bool) :
    Nat → NodeStep Node
  | 0 => stop
  | fuel + 1 => do
      match ← peek? with
      | some (.scalar text plain) =>
          skip
          return scalarOf tag text plain
      | some .flowSequence =>
          skip
          return .sequence (kindOf tag .sequence) (← flowItems true fuel)
      | some .flowMapping =>
          skip
          return .mapping (kindOf tag .mapping) (← flowEntries true fuel)
      | some .item =>
          if flush then return .sequence (kindOf tag .sequence) (← flushItems fuel)
          else emptyNode tag hasProperties
      | some .blockSequence =>
          if block then
            skip
            return .sequence (kindOf tag .sequence) (← blockItems fuel)
          else emptyNode tag hasProperties
      | some .blockMapping =>
          if block then
            skip
            return .mapping (kindOf tag .mapping) (← blockEntries fuel)
          else emptyNode tag hasProperties
      | _ => emptyNode tag hasProperties

/-- A node, unless one of these tokens shows that it was left out. -/
def nodeUnless (ends : List Token) (block flush : Bool) : Nat → NodeStep Node
  | 0 => stop
  | fuel + 1 => do
      if ← isAt ends then return .absent else node block flush fuel

/-- A value, when the sign of one comes. -/
def valueUnless (ends : List Token) (block flush : Bool) : Nat → NodeStep Node
  | 0 => stop
  | fuel + 1 => do
      if ← accept .value then nodeUnless ends block flush fuel else return .absent

def blockItems : Nat → NodeStep (List Node)
  | 0 => stop
  | fuel + 1 => do
      if ← accept .item then
        let item ← nodeUnless [.item, .blockEnd] true false fuel
        return item :: (← blockItems fuel)
      require .blockEnd
      return []

/-- The items of a sequence that is set no deeper than its key. -/
def flushItems : Nat → NodeStep (List Node)
  | 0 => stop
  | fuel + 1 => do
      if ← accept .item then
        let item ← nodeUnless [.item, .key, .value, .blockEnd] true false fuel
        return item :: (← flushItems fuel)
      return []

def blockEntries : Nat → NodeStep (List (Node × Node))
  | 0 => stop
  | fuel + 1 => do
      if ← accept .key then
        let key ← nodeUnless [.key, .value, .blockEnd] true true fuel
        let value ← valueUnless [.key, .value, .blockEnd] true true fuel
        return (key, value) :: (← blockEntries fuel)
      require .blockEnd
      return []

/-- The items of a sequence in brackets; a key makes an item a mapping with one entry. -/
def flowItems (first : Bool) : Nat → NodeStep (List Node)
  | 0 => stop
  | fuel + 1 => do
      if ← accept .flowSequenceEnd then return []
      if !first then
        require .separator
        if ← accept .flowSequenceEnd then return []
      let item ← if ← accept .key then do
          let (key, value) ← flowEntry .flowSequenceEnd fuel
          pure (Node.mapping .mapping [(key, value)])
        else node false false fuel
      return item :: (← flowItems false fuel)

def flowEntries (first : Bool) : Nat → NodeStep (List (Node × Node))
  | 0 => stop
  | fuel + 1 => do
      if ← accept .flowMappingEnd then return []
      if !first then
        require .separator
        if ← accept .flowMappingEnd then return []
      let entry ← if ← accept .key then flowEntry .flowMappingEnd fuel
        else do pure (← node false false fuel, .absent)
      return entry :: (← flowEntries false fuel)

def flowEntry (closing : Token) : Nat → NodeStep (Node × Node)
  | 0 => stop
  | fuel + 1 => do
      let key ← nodeUnless [.value, .separator, closing] false false fuel
      let value ← valueUnless [.separator, closing] false false fuel
      return (key, value)

end

/-! ## Documents -/

def standardHandles : List (String × String) := [("!", "!"), ("!!", Kind.standardTags)]

/-- The directives before a document; each is given once. -/
def directives (versioned : Bool) (handles : List (String × String)) :
    List Token → Attempt (List (String × String) × List Token)
  | .directive (.version major) :: rest => do
      expect (!versioned && major = 1)
      directives true handles rest
  | .directive (.tagHandle handle expansion) :: rest => do
      expect (handles.lookup handle).isNone
      directives versioned ((handle, expansion) :: handles) rest
  | .directive .unknown :: rest => directives versioned handles rest
  | rest => return (handles ++ standardHandles, rest)

def document (tokens : List Token) : Attempt (Node × List Token) := do
  let fuel := 4 * (tokens.length + 1)
  let explicit := match tokens.head? with
    | some (.directive _) | some .documentStart => true
    | _ => false
  let (handles, rest) ← directives false [] tokens
  let rest ← match explicit, rest with
    | false, rest => pure rest
    | true, .documentStart :: rest => pure rest
    | true, _ => fails
  let ends := match rest.head? with
    | none | some (.directive _) | some .documentStart | some .documentEnd => explicit
    | _ => false
  if ends then return (.absent, rest)
  let (node, reader) ← node true false fuel { tokens := rest, handles }
  return (node, reader.tokens)

end NodeReader

/-- The only node of a text that has at most one document. -/
def Node.ofText (text : String) : Attempt Node := do
  match ← tokens text with
  | [] => return .absent
  | tokens => do
      let (node, rest) ← NodeReader.document tokens
      expect (rest.all (· = .documentEnd))
      return node

end TableBrowser.Yaml
