import TensorGraph.Yaml.Node
import TensorGraph.Yaml.Token.Stream

/-!
# Yaml/Document — the first document of a text

The grammar reads tokens into nodes.  Every function takes a bound on the depth of its calls, which
is computed from the number of tokens.
-/

namespace TensorGraph.Yaml

/-- An anchor in sight: the number and the tag of the node that carries it. -/
structure Anchor where
  name : String
  number : Nat
  tag : String

/-- What is left to read, and what is known from before: tag handles, anchors, the nodes that carry
them, and the number of aliases. -/
structure Reading where
  tokens : List Token
  fault? : Option SyntaxFault
  handles : List (String × String) := []
  anchors : List Anchor := []
  anchored : List (Nat × Node) := []
  aliases : Nat := 0

/-- Reading with a state and a fault. -/
abbrev Reader := StateT Reading (Except SyntaxFault)

namespace Reader

/-- The next token. -/
def peek : Reader Token := do
  let s ← get
  match s.tokens with
  | t :: _ => return t
  | [] => throw (s.fault?.getD .unexpectedEnd)

/-- Passes over the next token. -/
def skip : Reader Unit := modify fun s => { s with tokens := s.tokens.tail }

/-- A plain scalar with nothing in it. -/
def emptyNode (line : Nat) : Node := .scalar (.plain (line + 1) "")

/-- The tags of the common vocabulary, by their long form. -/
def longTagStart : String := "tag:yaml.org,2002:"

/-- A tag in its short form. -/
def shortTag (tag : String) : String :=
  let long := longTagStart.toList
  if long.isPrefixOf tag.toList then "!!" ++ String.ofList (tag.toList.drop long.length) else tag

/-- The tag that a handle and a suffix name. -/
def resolveTag (handle suffix : String) : Reader String := do
  if handle = "" then return suffix
  match (← get).handles.lookup handle with
  | some replacement =>
    let tag := replacement ++ suffix
    if tag = "" then throw .undefinedHandle else return tag
  | none => throw .undefinedHandle

/-- The tag and the anchor before a node. -/
structure Properties where
  line : Nat
  tag? : Option String := none
  anchor? : Option String := none

/-- Reads a tag and an anchor, in either order. -/
def properties : Reader Properties := do
  let t ← peek
  match t.lexeme with
  | .anchor name =>
    skip
    match (← peek).lexeme with
    | .tag handle suffix =>
      skip
      return ⟨t.line, some (← resolveTag handle suffix), some name⟩
    | _ => return ⟨t.line, none, some name⟩
  | .tag handle suffix =>
    skip
    match (← peek).lexeme with
    | .anchor name =>
      skip
      return ⟨t.line, some (← resolveTag handle suffix), some name⟩
    | _ => return ⟨t.line, some (← resolveTag handle suffix), none⟩
  | _ => return ⟨t.line, none, none⟩

/-- The explicit tag of a node; the mark alone is none. -/
def Properties.explicit? (p : Properties) : Option String :=
  match p.tag? with
  | none => none
  | some t => if t = "!" then none else some (shortTag t)

/-- Gives the anchor before a node a number, from where its content starts. -/
def openAnchor (p : Properties) (tag : String) : Reader (Option Nat) := do
  match p.anchor? with
  | none => return none
  | some name =>
    let s ← get
    let number := s.anchors.length
    set { s with anchors := ⟨name, number, tag⟩ :: s.anchors }
    return some number

/-- Notes the node that carries an anchor. -/
def closeAnchor (number? : Option Nat) (n : Node) : Reader Node := do
  if let some number := number? then
    modify fun s => { s with anchored := (number, n) :: s.anchored }
  return n

/-- An alias for the last node with an anchor of that name. -/
def referenceNode (line : Nat) (name : String) : Reader Node := do
  let s ← get
  match s.anchors.find? (·.name == name) with
  | some a =>
    set { s with aliases := s.aliases + 1 }
    return .reference (line + 1) name a.number a.tag s.aliases
  | none => throw (.undefinedAnchor name)

/-- A scalar with its properties. -/
def scalarNode (p : Properties) (text : String) (quoted : Bool) : Reader Node := do
  let s : Scalar := ⟨p.line + 1, p.explicit?, text, quoted⟩
  let number? ← openAnchor p s.tag
  closeAnchor number? (.scalar s)

mutual

/-- Reads a node.  Block collections are read where `block` holds, and a sequence without
indentation of its own where `indentless` holds. -/
def node (block indentless : Bool) : Nat → Reader Node
  | 0 => throw .nodeContent
  | depth + 1 => do
    let t ← peek
    if let .reference name := t.lexeme then
      skip
      return ← referenceNode t.line name
    let p ← properties
    let sequenceOf (items : Reader (List Node)) : Reader Node := do
      let number? ← openAnchor p (p.explicit?.getD "!!seq")
      closeAnchor number? (.sequence (p.line + 1) p.explicit? (← items))
    let mappingOf (entries : Reader (List (Node × Node))) : Reader Node := do
      let number? ← openAnchor p (p.explicit?.getD "!!map")
      closeAnchor number? (.mapping (p.line + 1) p.explicit? (← entries))
    match (← peek).lexeme with
    | .scalar text quoted =>
      skip
      scalarNode p text quoted
    | .flowSequenceStart =>
      skip
      sequenceOf (flowItems true depth)
    | .flowMappingStart =>
      skip
      mappingOf (flowEntries true depth)
    | .blockEntry =>
      if indentless then sequenceOf (indentlessItems depth) else emptyOrFault p
    | .blockSequenceStart =>
      if block then do
        skip
        sequenceOf (blockItems depth)
      else emptyOrFault p
    | .blockMappingStart =>
      if block then do
        skip
        mappingOf (blockEntries depth)
      else emptyOrFault p
    | _ => emptyOrFault p

/-- A node with properties may be empty. -/
def emptyOrFault (p : Properties) : Reader Node :=
  if p.tag?.isSome || p.anchor?.isSome then scalarNode p "" false else throw .nodeContent

/-- Reads the items of a block sequence up to its end. -/
def blockItems : Nat → Reader (List Node)
  | 0 => throw .blockEntryExpected
  | depth + 1 => do
    let t ← peek
    match t.lexeme with
    | .blockEntry =>
      skip
      let item ← match (← peek).lexeme with
        | .blockEntry | .blockEnd => pure (emptyNode t.line)
        | _ => node true false depth
      return item :: (← blockItems depth)
    | .blockEnd =>
      skip
      return []
    | _ => throw .blockEntryExpected

/-- Reads the items of a sequence that has no indentation of its own. -/
def indentlessItems : Nat → Reader (List Node)
  | 0 => throw .blockEntryExpected
  | depth + 1 => do
    let t ← peek
    match t.lexeme with
    | .blockEntry =>
      skip
      let item ← match (← peek).lexeme with
        | .blockEntry | .key | .value | .blockEnd => pure (emptyNode t.line)
        | _ => node true false depth
      return item :: (← indentlessItems depth)
    | _ => return []

/-- Reads what stands after a key or value indicator of a block mapping. -/
def blockPart (line : Nat) : Nat → Reader Node
  | 0 => throw .keyExpected
  | depth + 1 => do
    match (← peek).lexeme with
    | .key | .value | .blockEnd => return emptyNode line
    | _ => node true true depth

/-- Reads the entries of a block mapping up to its end. -/
def blockEntries : Nat → Reader (List (Node × Node))
  | 0 => throw .keyExpected
  | depth + 1 => do
    let t ← peek
    match t.lexeme with
    | .key =>
      skip
      let key ← blockPart t.line depth
      let v ← peek
      let value ← match v.lexeme with
        | .value => do
          skip
          blockPart v.line depth
        | _ => pure (emptyNode v.line)
      return (key, value) :: (← blockEntries depth)
    | .blockEnd =>
      skip
      return []
    | _ => throw .keyExpected

/-- Reads the items of a flow sequence up to its closing bracket. -/
def flowItems (first : Bool) : Nat → Reader (List Node)
  | 0 => throw .flowSequenceEnd
  | depth + 1 => do
    let t ← peek
    match t.lexeme with
    | .flowSequenceEnd =>
      skip
      return []
    | .flowEntry =>
      if first then do
        let item ← flowItem depth
        return item :: (← flowItems false depth)
      else do
        skip
        match (← peek).lexeme with
        | .flowSequenceEnd =>
          skip
          return []
        | _ =>
          let item ← flowItem depth
          return item :: (← flowItems false depth)
    | _ =>
      if first then do
        let item ← flowItem depth
        return item :: (← flowItems false depth)
      else throw .flowSequenceEnd

/-- Reads one item of a flow sequence; a key makes it a mapping with one entry. -/
def flowItem : Nat → Reader Node
  | 0 => throw .nodeContent
  | depth + 1 => do
    let t ← peek
    match t.lexeme with
    | .key =>
      skip
      let k ← peek
      let key ← match k.lexeme with
        | .value | .flowEntry | .flowSequenceEnd => do
          skip
          pure (emptyNode k.line)
        | _ => node false false depth
      let v ← peek
      let value ← match v.lexeme with
        | .value => do
          skip
          let w ← peek
          match w.lexeme with
          | .flowEntry | .flowSequenceEnd => pure (emptyNode w.line)
          | _ => node false false depth
        | _ => pure (emptyNode v.line)
      return .mapping (t.line + 1) none [(key, value)]
    | _ => node false false depth

/-- Reads the entries of a flow mapping up to its closing brace. -/
def flowEntries (first : Bool) : Nat → Reader (List (Node × Node))
  | 0 => throw .flowMappingEnd
  | depth + 1 => do
    match (← peek).lexeme with
    | .flowMappingEnd =>
      skip
      return []
    | lexeme =>
      if !first then
        if lexeme = .flowEntry then skip else throw .flowMappingEnd
      match (← peek).lexeme with
      | .flowMappingEnd =>
        if first then throw .nodeContent
        skip
        return []
      | _ =>
        let entry ← flowPair depth
        return entry :: (← flowEntries false depth)

/-- Reads one entry of a flow mapping; a node without a colon has an empty value. -/
def flowPair : Nat → Reader (Node × Node)
  | 0 => throw .nodeContent
  | depth + 1 => do
    match (← peek).lexeme with
    | .key =>
      skip
      let k ← peek
      let key ← match k.lexeme with
        | .value | .flowEntry | .flowMappingEnd => pure (emptyNode k.line)
        | _ => node false false depth
      let v ← peek
      match v.lexeme with
      | .value =>
        skip
        let w ← peek
        match w.lexeme with
        | .flowEntry | .flowMappingEnd => return (key, emptyNode w.line)
        | _ => return (key, ← node false false depth)
      | _ => return (key, emptyNode v.line)
    | _ =>
      let key ← node false false depth
      return (key, emptyNode (← peek).line)

end

/-! ## Documents -/

/-- Reads the directives before a document. -/
def directives (versionSeen : Bool) (handles : List (String × String)) :
    Nat → Reader (List (String × String))
  | 0 => throw .documentStart
  | depth + 1 => do
    match (← peek).lexeme with
    | .version major minor =>
      if versionSeen then throw .repeatedVersion
      if major ≠ 1 ∨ minor ≠ 1 then throw .incompatibleVersion
      skip
      directives true handles depth
    | .tagHandle handle replacement =>
      if (handles.lookup handle).isSome then throw .repeatedHandle
      skip
      directives versionSeen ((handle, replacement) :: handles) depth
    | _ => return handles

/-- The handles known without a directive. -/
def commonHandles : List (String × String) := [("!", "!"), ("!!", longTagStart)]

/-- Reads the root of a document that has an explicit start. -/
def documentContent (depth : Nat) : Reader Node := do
  let t ← peek
  match t.lexeme with
  | .version .. | .tagHandle .. | .documentStart | .documentEnd | .streamEnd =>
    return emptyNode t.line
  | _ => node true false depth

/-- Checks that the text can be read up to two tokens after the end of the document. -/
def documentEnd : Reader Unit := do
  let s ← get
  let t ← peek
  if let some e := s.fault? then
    if t.undecided || s.tokens.length < 3 then throw e

/-- Reads the first document; a stream without tokens has none. -/
def document (depth : Nat) : Reader (Option Document) := do
  let t ← peek
  match t.lexeme with
  | .streamEnd => return none
  | .version .. | .tagHandle .. | .documentStart =>
    let handles ← directives false [] depth
    modify fun s => { s with handles := handles ++ commonHandles }
    match (← peek).lexeme with
    | .documentStart => skip
    | _ => throw .documentStart
    let root ← documentContent depth
    documentEnd
    return some ⟨root, (← get).anchored, depth⟩
  | _ =>
    modify fun s => { s with handles := commonHandles }
    let root ← node true false depth
    documentEnd
    return some ⟨root, (← get).anchored, depth⟩

end Reader

/-- The first document of a text, if it has one. -/
def Document.first? (text : String) : Except SyntaxFault (Option Document) :=
  let stream := TokenStream.ofText text
  (Reader.document (4 * stream.tokens.length + 8)).run'
    { tokens := stream.tokens, fault? := stream.fault? }

end TensorGraph.Yaml
