import SkillKit.Yaml.Token

/-!
# Nodes of YAML documents

A node is a scalar, a sequence or a mapping with its tag; a scalar or collection without one is
tagged by what it looks like.  The nodes of a document are numbered by their places.  An alias
stands for the place that its anchor marks, which may be that of a collection around it.
-/

namespace SkillKit.Yaml

open Text

/-! ## Tags -/

def standardTag (name : String) : String := "tag:yaml.org,2002:" ++ name

/-! ## What plain scalars look like -/

def isDigitOrLow (c : Char) : Bool := c.isDigit || c == '_'

def unsigned (cs : List Char) : List Char :=
  match cs with
  | '+' :: r => r
  | '-' :: r => r
  | r => r

/-- Whether the list is a part `:d` or `:dd` below sixty, repeated at least once. -/
def isSexagesimalTail (cs : List Char) : Bool :=
  match splitWhen (· == ':') cs with
  | [] :: p :: ps => (p :: ps).all fun part =>
      match part with
      | [d] => d.isDigit
      | [a, b] => '0' ≤ a && a ≤ '5' && b.isDigit
      | _ => false
  | _ => false

def isExponentOrNone (cs : List Char) : Bool :=
  match cs with
  | [] => true
  | e :: sign :: d :: ds =>
    (e == 'e' || e == 'E') && (sign == '+' || sign == '-') && (d :: ds).all Char.isDigit
  | _ => false

def looksFloat (cs : List Char) : Bool :=
  let body := unsigned cs
  let head := body.head?.getD ' '
  let whole := body.takeWhile isDigitOrLow
  let rest := body.dropWhile isDigitOrLow
  let frac := (rest.drop 1).dropWhile isDigitOrLow
  -- digits, a point, digits, an exponent
  (head.isDigit && rest.head? == some '.' && isExponentOrNone frac)
  -- a point and digits, without a sign
    || (match cs with
      | '.' :: d :: ds => d.isDigit && isExponentOrNone (ds.dropWhile isDigitOrLow)
      | _ => false)
  -- sixties with a point
    || (head.isDigit && !whole.isEmpty &&
      let sixties := rest.takeWhile (· != '.')
      let tail := rest.dropWhile (· != '.')
      isSexagesimalTail sixties && tail.head? == some '.' && (tail.drop 1).all isDigitOrLow)
    || [".inf", ".Inf", ".INF"].contains (String.ofList body)
    || [".nan", ".NaN", ".NAN"].contains (String.ofList cs)

def looksInt (cs : List Char) : Bool :=
  match unsigned cs with
  | '0' :: 'b' :: d :: ds => (d :: ds).all fun c => c == '0' || c == '1' || c == '_'
  | '0' :: 'x' :: d :: ds => (d :: ds).all fun c => (Json.hexValue? c).isSome || c == '_'
  | ['0'] => true
  | '0' :: ds => ds.all fun c => ('0' ≤ c && c ≤ '7') || c == '_'
  | d :: ds =>
    '1' ≤ d && d ≤ '9' &&
      let rest := ds.dropWhile isDigitOrLow
      rest.isEmpty || isSexagesimalTail rest
  | [] => false

def oneOrTwoDigits (cs : List Char) : Option (List Char × List Char) :=
  match cs with
  | a :: b :: r =>
    if a.isDigit && b.isDigit then some ([a, b], r)
    else if a.isDigit then some ([a], b :: r)
    else none
  | [a] => if a.isDigit then some ([a], []) else none
  | [] => none

def exactDigits (n : Nat) (cs : List Char) : Option (List Char × List Char) :=
  if (cs.take n).length == n && (cs.take n).all Char.isDigit then some (cs.take n, cs.drop n)
  else none

structure StampParts where
  year : Nat
  month : Nat
  day : Nat
  time : Option (Nat × Nat × Nat) := none
  fraction : List Char := []
  offset : Option Int := none

def stampOffset? (cs : List Char) : Option (Option Int) :=
  match cs.dropWhile fun c => c == ' ' || c == '\t' with
  | [] => if cs.isEmpty then some none else none
  | ['Z'] => some (some 0)
  | sign :: rest =>
    if sign == '+' || sign == '-' then do
      let (hour, rest) ← oneOrTwoDigits rest
      let minutes ← match rest with
        | [] => some 0
        | ':' :: m => do
          let (m, end?) ← exactDigits 2 m
          if end?.isEmpty then some (Json.digitsValue m) else none
        | _ => none
      let n : Int := Json.digitsValue hour * 60 + minutes
      some (some (if sign == '-' then -n else n))
    else none

/-- Reads a timestamp: a date, possibly with a time, a fraction and an offset.  A date alone
has two digits for month and day when `strict`. -/
def stampParts? (strict : Bool) (cs : List Char) : Option StampParts := do
  let (year, cs) ← exactDigits 4 cs
  let cs ← dropPrefix? ['-'] cs
  let (month, cs) ← oneOrTwoDigits cs
  let cs ← dropPrefix? ['-'] cs
  let (day, cs) ← oneOrTwoDigits cs
  let parts : StampParts :=
    ⟨Json.digitsValue year, Json.digitsValue month, Json.digitsValue day, none, [], none⟩
  match cs with
  | [] => if strict && !(month.length == 2 && day.length == 2) then none else some parts
  | c :: rest =>
    let rest ←
      if c == 'T' || c == 't' then some rest
      else if c == ' ' || c == '\t' then some (rest.dropWhile fun c => c == ' ' || c == '\t')
      else none
    let (hour, rest) ← oneOrTwoDigits rest
    let rest ← dropPrefix? [':'] rest
    let (minute, rest) ← exactDigits 2 rest
    let rest ← dropPrefix? [':'] rest
    let (second, rest) ← exactDigits 2 rest
    let (fraction, rest) := match rest with
      | '.' :: r => (r.takeWhile Char.isDigit, r.dropWhile Char.isDigit)
      | r => ([], r)
    let offset ← stampOffset? rest
    some { parts with
      time := some (Json.digitsValue hour, Json.digitsValue minute, Json.digitsValue second)
      fraction, offset }

def truthWords : List (String × Bool) :=
  [("yes", true), ("no", false), ("true", true), ("false", false), ("on", true), ("off", false)]

def looksBool (s : String) : Bool :=
  truthWords.any fun (w, _) => s == w || s == w.capitalize || s == w.toUpper

/-- The tag of a plain scalar, by what it looks like; a line feed behind something else does not
count. -/
def plainTag (text : String) : String :=
  let cs := if text == "\n" then ['\n'] else dropFinalBreak text.toList
  let s := String.ofList cs
  standardTag <|
    if looksBool s then "bool"
    else if looksFloat cs then "float"
    else if looksInt cs then "int"
    else if s == "<<" then "merge"
    else if ["", "~", "null", "Null", "NULL"].contains s then "null"
    else if (stampParts? true cs).isSome then "timestamp"
    else if s == "=" then "value"
    else if ["!", "&", "*"].contains s then "yaml"
    else "str"

/-! ## Nodes -/

/-- A node with its tag; the nodes in a collection are given by their places. -/
inductive Node where
  | scalar (tag : String) (text : String)
  | seq (tag : String) (items : List Nat)
  | map (tag : String) (entries : List (Nat × Nat))

instance : Inhabited Node := ⟨.scalar "" ""⟩

def Node.tag : Node → String
  | .scalar tag _ => tag
  | .seq tag _ => tag
  | .map tag _ => tag

def Node.withTag (tag : String) : Node → Node
  | .scalar _ text => .scalar tag text
  | .seq _ items => .seq tag items
  | .map _ entries => .map tag entries

/-- What is known while the nodes of a document are read. -/
structure Reading where
  tokens : List Token
  handles : List (String × String) := [("!", "!"), ("!!", standardTag "")]
  nodes : Array Node := #[]
  anchors : List (String × Nat) := []
  depth : Nat := 0

namespace Reading

def head (s : Reading) : Token :=
  s.tokens.headD .streamEnd

def tail (s : Reading) : Reading :=
  { s with tokens := s.tokens.tail }

def add (s : Reading) (node : Node) : Nat × Reading :=
  (s.nodes.size, { s with nodes := s.nodes.push node })

def put (s : Reading) (place : Nat) (node : Node) : Reading :=
  { s with nodes := s.nodes.setIfInBounds place node }

end Reading

def properties (s : Reading) : Option String × Option (Option String × String) × Reading :=
  match s.tokens with
  | .anchor a :: .tag h t :: rest => (some a, some (h, t), { s with tokens := rest })
  | .tag h t :: .anchor a :: rest => (some a, some (h, t), { s with tokens := rest })
  | .anchor a :: rest => (some a, none, { s with tokens := rest })
  | .tag h t :: rest => (none, some (h, t), { s with tokens := rest })
  | _ => (none, none, s)

def fullTag (s : Reading) : Option (Option String × String) → Except Fault (Option String)
  | none => .ok none
  | some (none, suffix) => .ok (some suffix)
  | some (some handle, suffix) =>
    match s.handles.lookup handle with
    | some start => .ok (some (start ++ suffix))
    | none => .error .badYaml

def tagOr (tag : Option String) (other : String) : String :=
  match tag with
  | some t => if t == "!" then other else t
  | none => other

def emptyNode : Node := .scalar (standardTag "null") ""

def endsEntry : Token → Bool
  | .blockEntry => true
  | .blockEnd => true
  | _ => false

/-- Whether a token ends the content of an entry of a sequence without indentation of its
own. -/
def endsLooseEntry : Token → Bool
  | .blockEntry => true
  | .key => true
  | .value => true
  | .blockEnd => true
  | _ => false

def endsField : Token → Bool
  | .key => true
  | .value => true
  | .blockEnd => true
  | _ => false

def endsFlowKey : Token → Bool
  | .value => true
  | .flowEntry => true
  | .flowMappingEnd => true
  | .flowSequenceEnd => true
  | _ => false

def endsFlowValue : Token → Bool
  | .flowEntry => true
  | .flowMappingEnd => true
  | .flowSequenceEnd => true
  | _ => false

def deepest : Nat := 488

mutual

/-- The place of a node.  In a block it may be a block collection, and after a key a sequence
without indentation of its own.  An anchor marks the place before the content is read. -/
def readNode : (fuel : Nat) → (block loose : Bool) → Reading → Except Fault (Nat × Reading)
  | 0, _, _, _ => .error .badYaml
  | fuel + 1, block, loose, s =>
    match s.head with
    | .aliasOf name =>
      match s.anchors.lookup name with
      | some place => .ok (place, s.tail)
      | none => .error .badYaml
    | _ => do
      let (anchor, tag, s) := properties s
      let tag ← fullTag s tag
      if deepest < s.depth then throw .tooDeep
      let (place, s) := s.add emptyNode
      let s ← match anchor with
        | some a =>
          require !(s.anchors.any (·.1 == a))
          pure { s with anchors := (a, place) :: s.anchors }
        | none => pure s
      let depth := s.depth
      let inner := { s with depth := depth + 1 }
      let (node, s) ← readContent fuel block loose (anchor.isSome || tag.isSome) tag inner
      return (place, { s.put place node with depth })

def readContent : (fuel : Nat) → (block loose hasProperties : Bool) → (tag : Option String) →
    Reading → Except Fault (Node × Reading)
  | 0, _, _, _, _, _ => .error .badYaml
  | fuel + 1, block, loose, hasProperties, tag, s =>
    let seqTag := tagOr tag (standardTag "seq")
    let mapTag := tagOr tag (standardTag "map")
    match s.head with
    | .scalar text plain =>
      let byLook := (plain && tag.isNone) || tag == some "!"
      let tag := if byLook then plainTag text else tagOr tag (standardTag "str")
      .ok (.scalar tag text, s.tail)
    | .flowSequenceStart => do
      let (items, s) ← readFlowItems fuel true s.tail
      return (.seq seqTag items, s)
    | .flowMappingStart => do
      let (entries, s) ← readFlowEntries fuel true s.tail
      return (.map mapTag entries, s)
    | .blockEntry =>
      if loose then do
        let (items, s) ← readLooseItems fuel s
        return (.seq seqTag items, s)
      else emptyOr hasProperties tag s
    | .blockSequenceStart =>
      if block then do
        let (items, s) ← readBlockItems fuel s.tail
        return (.seq seqTag items, s)
      else emptyOr hasProperties tag s
    | .blockMappingStart =>
      if block then do
        let (entries, s) ← readBlockEntries fuel s.tail
        return (.map mapTag entries, s)
      else emptyOr hasProperties tag s
    | _ => emptyOr hasProperties tag s

def emptyOr (hasProperties : Bool) (tag : Option String) (s : Reading) :
    Except Fault (Node × Reading) :=
  if hasProperties then
    .ok (.scalar (if tag.isNone || tag == some "!" then plainTag "" else tagOr tag "") "", s)
  else .error .badYaml

def readBlockItems : (fuel : Nat) → Reading → Except Fault (List Nat × Reading)
  | 0, _ => .error .badYaml
  | fuel + 1, s =>
    match s.head with
    | .blockEntry => do
      let s := s.tail
      let (item, s) ←
        if endsEntry s.head then pure (s.add emptyNode) else readNode fuel true false s
      let (items, s) ← readBlockItems fuel s
      return (item :: items, s)
    | .blockEnd => .ok ([], s.tail)
    | _ => .error .badYaml

def readLooseItems : (fuel : Nat) → Reading → Except Fault (List Nat × Reading)
  | 0, _ => .error .badYaml
  | fuel + 1, s =>
    match s.head with
    | .blockEntry => do
      let s := s.tail
      let (item, s) ←
        if endsLooseEntry s.head then pure (s.add emptyNode) else readNode fuel true false s
      let (items, s) ← readLooseItems fuel s
      return (item :: items, s)
    | _ => .ok ([], s)

def readBlockEntries : (fuel : Nat) → Reading → Except Fault (List (Nat × Nat) × Reading)
  | 0, _ => .error .badYaml
  | fuel + 1, s =>
    match s.head with
    | .key => do
      let s := s.tail
      let (key, s) ←
        if endsField s.head then pure (s.add emptyNode) else readNode fuel true true s
      let (value, s) ← readBlockValue fuel s
      let (entries, s) ← readBlockEntries fuel s
      return ((key, value) :: entries, s)
    | .blockEnd => .ok ([], s.tail)
    | _ => .error .badYaml

def readBlockValue : (fuel : Nat) → Reading → Except Fault (Nat × Reading)
  | 0, _ => .error .badYaml
  | fuel + 1, s =>
    match s.head with
    | .value =>
      let s := s.tail
      if endsField s.head then .ok (s.add emptyNode) else readNode fuel true true s
    | _ => .ok (s.add emptyNode)

def readFlowItems : (fuel : Nat) → (first : Bool) → Reading →
    Except Fault (List Nat × Reading)
  | 0, _, _ => .error .badYaml
  | fuel + 1, first, s =>
    match s.head with
    | .flowSequenceEnd => .ok ([], s.tail)
    | _ => do
      let s ← match first, s.head with
        | true, _ => pure s
        | false, .flowEntry => pure s.tail
        | false, _ => throw .badYaml
      match s.head with
      | .key =>
        let s := s.tail
        let (key, s) ←
          if endsFlowKey s.head then pure (s.add emptyNode) else readNode fuel false false s
        let (value, s) ← readFlowValue fuel s
        let (item, s) := s.add (.map (standardTag "map") [(key, value)])
        let (items, s) ← readFlowItems fuel false s
        return (item :: items, s)
      | .flowSequenceEnd => return ([], s.tail)
      | _ =>
        let (item, s) ← readNode fuel false false s
        let (items, s) ← readFlowItems fuel false s
        return (item :: items, s)

def readFlowEntries : (fuel : Nat) → (first : Bool) → Reading →
    Except Fault (List (Nat × Nat) × Reading)
  | 0, _, _ => .error .badYaml
  | fuel + 1, first, s =>
    match s.head with
    | .flowMappingEnd => .ok ([], s.tail)
    | _ => do
      let s ← match first, s.head with
        | true, _ => pure s
        | false, .flowEntry => pure s.tail
        | false, _ => throw .badYaml
      match s.head with
      | .key =>
        let s := s.tail
        let (key, s) ←
          if endsFlowKey s.head then pure (s.add emptyNode) else readNode fuel false false s
        let (value, s) ← readFlowValue fuel s
        let (entries, s) ← readFlowEntries fuel false s
        return ((key, value) :: entries, s)
      | .flowMappingEnd => return ([], s.tail)
      | _ =>
        let (key, s) ← readNode fuel false false s
        let (value, s) := s.add emptyNode
        let (entries, s) ← readFlowEntries fuel false s
        return ((key, value) :: entries, s)

def readFlowValue : (fuel : Nat) → Reading → Except Fault (Nat × Reading)
  | 0, _ => .error .badYaml
  | fuel + 1, s =>
    match s.head with
    | .value =>
      let s := s.tail
      if endsFlowValue s.head then .ok (s.add emptyNode) else readNode fuel false false s
    | _ => .ok (s.add emptyNode)

end

/-! ## Documents -/

def skipEnds : List Token → List Token
  | .documentEnd :: rest => skipEnds rest
  | ts => ts

def readDirectives (versioned : Bool) (handles : List (String × String)) :
    List Token → Except Fault (List (String × String) × List Token)
  | .directive (.version major _) :: rest => do
    require (!versioned && major == 1)
    readDirectives true handles rest
  | .directive (.tagHandle handle start) :: rest => do
    require !(handles.any (·.1 == handle))
    readDirectives versioned ((handle, start) :: handles) rest
  | .directive .other :: rest => readDirectives versioned handles rest
  | rest => .ok (handles, rest)

def endsDocument : Token → Bool
  | .directive _ => true
  | .documentStart => true
  | .documentEnd => true
  | .streamEnd => true
  | _ => false

structure Document where
  nodes : Array Node
  root : Nat

def document (tokens : List Token) : Except Fault (Option Document) := do
  let fuel := 4 * tokens.length + 8
  let start : Reading := { tokens }
  let explicit := match start.head with
    | .directive _ => true
    | .documentStart => true
    | .streamEnd => true
    | _ => false
  let (root, s) ←
    if !explicit then do
      let (root, s) ← readNode fuel true false start
      pure (some root, s)
    else
      match skipEnds tokens with
      | [.streamEnd] => pure (none, { tokens := [.streamEnd] })
      | ts => do
        let (handles, ts) ← readDirectives false [] ts
        match ts with
        | .documentStart :: ts =>
          let known := handles ++ start.handles.filter fun h => !handles.any (·.1 == h.1)
          let s : Reading := { tokens := ts, handles := known }
          let (root, s) ←
            if endsDocument s.head then pure (s.add emptyNode)
            else readNode fuel true false s
          pure (some root, s)
        | _ => throw .badYaml
  match skipEnds s.tokens with
  | [.streamEnd] => return root.map (⟨s.nodes, ·⟩)
  | [] => return root.map (⟨s.nodes, ·⟩)
  | _ => throw .badYaml

end SkillKit.Yaml
