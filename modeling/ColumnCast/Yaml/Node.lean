import ColumnCast.Document
import ColumnCast.Yaml.Token

/-!
# `ColumnCast.Yaml.Node`: from tokens to documents

A `Node` is a scalar, a list, a record or an alias. Anchors are numbered,
and an alias stands for the node of its number; `Root` keeps the whole
text beside a node so that an alias can be followed when it is looked at.
An alias may so stand for a node it is a part of.

`Root.ofText?` reads a text that holds exactly one document.
-/

set_option autoImplicit false

namespace ColumnCast.Yaml

/-- A scalar of a document. -/
structure Scalar where
  text : String
  style : Style
  tag : Option String
  deriving DecidableEq, Repr

/-- A part of a document. -/
inductive Node
  | scalar (s : Scalar)
  | list (items : List Node)
  | record (fields : List (Node × Node))
  | alias (number : Nat)
  | anchored (number : Nat) (node : Node)

/-- What stands where nothing is written. -/
def Node.absent (tag : Option String) : Node := .scalar ⟨"", .plain, tag⟩

/-! ### Reading tokens -/

/-- The tokens still to be read, and the numbers of the anchors so far. -/
structure Tokens where
  rest : List Token
  anchors : List (List Char × Nat) := []

/-- A part of the reading of a document. -/
abbrev Reading := StateT Tokens Option

namespace Reading

/-- The next token. -/
def peek : Reading (Option Token) := do return (← get).rest.head?

/-- Passes over the next token. -/
def advance : Reading Unit := modify fun tokens => { tokens with rest := tokens.rest.drop 1 }

/-- Is the next token one of these? -/
def isNext (tokens : List Token) : Reading Bool := do
  return (← peek).any tokens.contains

/-- Passes over the next token if it is this one, and tells whether it was. -/
def accept (token : Token) : Reading Bool := do
  if ← isNext [token] then
    advance
    return true
  else return false

/-- Passes over the next token, which must be this one. -/
def expect (token : Token) : Reading Unit := do
  if ← accept token then return ()
  else failure

/-- Gives an anchor its number: how many names there are before it. -/
def nameAnchor (name : List Char) : Reading Nat := do
  let tokens ← get
  let number := tokens.anchors.length
  let others := tokens.anchors.filter fun anchor => anchor.1 != name
  set { tokens with anchors := (name, number) :: others }
  return number

/-- Passes over an anchor, if one is next. -/
def acceptAnchor : Reading (Option (List Char)) := do
  match ← peek with
  | some (.anchor name) =>
    advance
    return some name
  | _ => return none

/-- Passes over a tag, if one is next. -/
def acceptTag : Reading (Option TagName) := do
  match ← peek with
  | some (.tag name) =>
    advance
    return some name
  | _ => return none

/-- Anchor and tag of a node, in either order. -/
def acceptProperties : Reading (Option (List Char) × Option TagName) := do
  match ← acceptAnchor with
  | some name => return (some name, ← acceptTag)
  | none =>
    match ← acceptTag with
    | some tag => return (← acceptAnchor, some tag)
    | none => return (none, none)

end Reading

/-- What the handles of tags stand for. -/
abbrev TagHandles := List (List Char × List Char)

/-- The handles that need no directive. -/
def defaultHandles : TagHandles :=
  [(['!'], ['!']), (['!', '!'], "tag:yaml.org,2002:".toList)]

/-- The whole tag of a name; none if its handle stands for nothing. -/
def TagName.expand? (handles : TagHandles) (name : TagName) : Option (List Char) :=
  if name.handle.isEmpty then some name.suffix
  else (handles.lookup name.handle).map (· ++ name.suffix)

/-- A node with its number, if it has an anchor. -/
def Node.withNumber (number : Option Nat) (node : Node) : Node :=
  match number with
  | some number => .anchored number node
  | none => node

/-- Where a node stands. -/
inductive Setting
  /-- Within brackets. -/
  | flow
  /-- In a block. -/
  | block
  /-- In a record of a block, where a list need not be indented. -/
  | pair
  deriving DecidableEq

open Reading in
mutual

/-- Reads a node. -/
def readNode (handles : TagHandles) : (rounds : Nat) → Setting → Reading Node
  | 0, _ => failure
  | rounds + 1, setting => do
    match ← peek with
    | some (.alias name) =>
      advance
      match (← get).anchors.lookup name with
      | some number => return .alias number
      | none => failure
    | _ =>
      let (anchor, tagName) ← acceptProperties
      let tag ← tagName.mapM fun name => (name.expand? handles : Option _)
      let tag := tag.map String.ofList
      let number ← anchor.mapM nameAnchor
      return Node.withNumber number
        (← readContent handles rounds setting tag (anchor.isSome || tag.isSome))

/-- Reads what follows the anchor and the tag of a node. After either of them it may be
missing. -/
def readContent (handles : TagHandles) :
    (rounds : Nat) → Setting → (tag : Option String) → (mayMiss : Bool) → Reading Node
  | 0, _, _, _ => failure
  | rounds + 1, setting, tag, mayMiss => do
    match setting, ← peek with
    | _, some (.scalar text style) =>
      advance
      -- A lone exclamation mark asks for the text as it is, which needs no tag.
      return .scalar ⟨String.ofList text, style, if tag = some "!" then none else tag⟩
    | _, some .flowSequenceStart =>
      advance
      return .list (← readFlowItems handles rounds true)
    | _, some .flowMappingStart =>
      advance
      return .record (← readFlowPairs handles rounds true)
    | .pair, some .blockEntry => return .list (← readLooseItems handles rounds)
    | .block, some .blockSequenceStart | .pair, some .blockSequenceStart =>
      advance
      return .list (← readItems handles rounds)
    | .block, some .blockMappingStart | .pair, some .blockMappingStart =>
      advance
      return .record (← readPairs handles rounds)
    | _, _ => if mayMiss then return Node.absent tag else failure

/-- Reads a node of a block unless one of the tokens is next that show that it is missing. -/
def readUnless (handles : TagHandles) :
    (rounds : Nat) → Setting → (ends : List Token) → Reading Node
  | 0, _, _ => failure
  | rounds + 1, setting, ends => do
    if ← isNext ends then return Node.absent none
    else readNode handles rounds setting

/-- Reads the items of a block list to its end. -/
def readItems (handles : TagHandles) : (rounds : Nat) → Reading (List Node)
  | 0 => failure
  | rounds + 1 => do
    if ← accept .blockEntry then
      let item ← readUnless handles rounds .block [.blockEntry, .blockEnd]
      return item :: (← readItems handles rounds)
    else
      expect .blockEnd
      return []

/-- Reads the items of a list that is not indented, as long as there are any. -/
def readLooseItems (handles : TagHandles) : (rounds : Nat) → Reading (List Node)
  | 0 => failure
  | rounds + 1 => do
    if ← accept .blockEntry then
      let item ← readUnless handles rounds .block [.blockEntry, .key, .value, .blockEnd]
      return item :: (← readLooseItems handles rounds)
    else return []

/-- Reads the fields of a block record to its end. -/
def readPairs (handles : TagHandles) : (rounds : Nat) → Reading (List (Node × Node))
  | 0 => failure
  | rounds + 1 => do
    if ← accept .key then
      let ends := [.key, .value, .blockEnd]
      let name ← readUnless handles rounds .pair ends
      let value ←
        if ← accept .value then readUnless handles rounds .pair ends
        else pure (Node.absent none)
      return (name, value) :: (← readPairs handles rounds)
    else
      expect .blockEnd
      return []

/-- Reads the items of a list in brackets to its end. -/
def readFlowItems (handles : TagHandles) :
    (rounds : Nat) → (first : Bool) → Reading (List Node)
  | 0, _ => failure
  | rounds + 1, first => do
    if ← accept .flowSequenceEnd then return []
    else
      if !first then expect .flowEntry
      if ← accept .flowSequenceEnd then return []
      else
        let item ←
          if ← accept .key then pure (.record [← readFlowPair handles rounds])
          else readNode handles rounds .flow
        return item :: (← readFlowItems handles rounds false)

/-- Reads the field of a record that is an item of a list in brackets. Where its name is
missing, the token that shows so is passed over. -/
def readFlowPair (handles : TagHandles) : (rounds : Nat) → Reading (Node × Node)
  | 0 => failure
  | rounds + 1 => do
    let name ←
      if ← isNext [.value, .flowEntry, .flowSequenceEnd] then
        advance
        pure (Node.absent none)
      else readNode handles rounds .flow
    let value ←
      if ← accept .value then readUnless handles rounds .flow [.flowEntry, .flowSequenceEnd]
      else pure (Node.absent none)
    return (name, value)

/-- Reads the fields of a record in brackets to its end. -/
def readFlowPairs (handles : TagHandles) :
    (rounds : Nat) → (first : Bool) → Reading (List (Node × Node))
  | 0, _ => failure
  | rounds + 1, first => do
    if ← accept .flowMappingEnd then return []
    else
      if !first then expect .flowEntry
      if ← accept .flowMappingEnd then return []
      else
        let field ←
          if ← accept .key then
            let name ← readUnless handles rounds .flow [.value, .flowEntry, .flowMappingEnd]
            let value ←
              if ← accept .value then
                readUnless handles rounds .flow [.flowEntry, .flowMappingEnd]
              else pure (Node.absent none)
            pure (name, value)
          else pure (← readNode handles rounds .flow, Node.absent none)
        return field :: (← readFlowPairs handles rounds false)

end

/-! ### Documents -/

/-- Reads the directives of a document: at most one version, 1.1 or 1.2, and tag handles,
each at most once. -/
def readDirectives? (versioned : Bool) (handles : TagHandles) :
    List Token → Option (TagHandles × List Token)
  | .versionDirective major minor :: rest =>
    if versioned || major != 1 || !(minor == 1 || minor == 2) then none
    else readDirectives? true handles rest
  | .tagDirective handle replacement :: rest =>
    if (handles.lookup handle).isSome then none
    else readDirectives? versioned ((handle, replacement) :: handles) rest
  | rest => some (handles ++ defaultHandles, rest)

/-- Reads the document that a text begins with: its directives and `---`, or nothing of
both, and then its node. -/
def readDocument? (tokens : List Token) : Option (Node × List Token) := do
  let read (handles : TagHandles) (tokens : List Token) : Option (Node × List Token) := do
    let (node, rest) ← (readNode handles (4 * tokens.length + 4) .block).run ⟨tokens, []⟩
    return (node, rest.rest)
  match tokens with
  | .versionDirective .. :: _ | .tagDirective .. :: _ | .documentStart :: _ =>
    let (handles, rest) ← readDirectives? false [] tokens
    match rest with
    | .documentStart :: rest =>
      -- A document may be empty once it has begun.
      match rest with
      | [] | .versionDirective .. :: _ | .tagDirective .. :: _ | .documentStart :: _
      | .documentEnd :: _ => return (Node.absent none, rest)
      | _ => read handles rest
    | _ => none
  | _ => read defaultHandles tokens

/-! ### Aliases -/

mutual

/-- The nodes with an anchor and their numbers, in the order in which they begin. -/
def Node.anchors : Node → List (Nat × Node)
  | .scalar _ => []
  | .alias _ => []
  | .anchored number node => (number, node) :: node.anchors
  | .list items => anchorsOfItems items
  | .record fields => anchorsOfFields fields

/-- The nodes with an anchor among the items and in them. -/
def anchorsOfItems : List Node → List (Nat × Node)
  | [] => []
  | item :: items => item.anchors ++ anchorsOfItems items

/-- The nodes with an anchor among names and values and in them. -/
def anchorsOfFields : List (Node × Node) → List (Nat × Node)
  | [] => []
  | (name, value) :: fields => name.anchors ++ value.anchors ++ anchorsOfFields fields

end

/-- A node with the anchors of the document that it is a part of. -/
structure Root where
  /-- The node of each number; of two with one number the first in the list. -/
  anchors : List (Nat × Node)
  node : Node

namespace Root

/-- The node that is meant, when an alias is followed. A node with an anchor is no alias. -/
def target (root : Root) : Node :=
  match root.node with
  | .alias number => (root.anchors.lookup number).getD root.node
  | .anchored _ node => node
  | node => node

/-- The document of a text that has exactly one. -/
def ofText? (text : String) : Option Root := do
  let tokens ← Token.ofChars? text.toList
  let (node, rest) ← readDocument? tokens
  if rest.all (· == .documentEnd) then return ⟨node.anchors.reverse, node⟩ else none

end Root

/-! ### What scalars can be read as -/

/-- A tag that the YAML type repository names. -/
def coreTag (name : String) : String := "tag:yaml.org,2002:" ++ name

/-- The words for nothing. -/
def nullWords : List String := ["null", "Null", "NULL", "~"]

/-- The digits of a base from 2 to 16 as a number, one digit at least. -/
def numberOfBase? (base : Nat) (digits : List Char) : Option Nat :=
  if digits.isEmpty then none
  else
    digits.foldlM
      (fun number c => (hexDigit? c).bind fun digit =>
        if digit < base then some (base * number + digit) else none)
      0

/-- The number without a sign that a bare word stands for. A number of several decimal digits
does not begin with a zero. -/
def countOfWord? (word : List Char) : Option Nat :=
  let digits :=
    match word with
    | '+' :: rest => rest
    | _ => word
  match digits with
  | '0' :: 'x' :: rest => numberOfBase? 16 rest
  | '0' :: 'o' :: rest => numberOfBase? 8 rest
  | '0' :: 'b' :: rest => numberOfBase? 2 rest
  | '0' :: _ :: _ => none
  | _ => numberOfBase? 10 digits

namespace Scalar

/-- Does the scalar stand for nothing? A tag for nothing on any other word is refused. -/
def isMissing? (s : Scalar) : Option Bool :=
  if s.style ≠ .plain then some false
  else if s.tag = some (coreTag "null") then
    if nullWords.contains s.text then some true else none
  else some (s.text.isEmpty || (s.tag.isNone && nullWords.contains s.text))

/-- The number of the scalar. Only a bare word has one, or a block that is tagged so. -/
def count? (s : Scalar) : Option Nat :=
  if s.style = .plain ∨ (s.style = .literal ∧ s.tag = some (coreTag "int")) then
    countOfWord? s.text.toList
  else none

/-- The ways in which a scalar can be read. -/
def atom (s : Scalar) : Atom where
  text? := some s.text
  count? := s.count?
  isMissing? := s.isMissing?
  isVoid := s.style == .plain && s.text.isEmpty

end Scalar

instance : Document Root where
  view root :=
    match root.target with
    | .scalar s => .atom s.atom
    | .list items => .list (items.map fun item => ⟨root.anchors, item⟩)
    | .record fields =>
      .record (fields.map fun (name, value) => (⟨root.anchors, name⟩, ⟨root.anchors, value⟩))
    | .alias _ | .anchored .. => .atom { isMissing? := none }

end ColumnCast.Yaml
