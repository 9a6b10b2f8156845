/-!
# Cutting and joining text

Trimming, splitting, searching and replacing.  The functions on lists of characters carry the
definitions; those on `String` wrap them.
-/

namespace SkillKit.Text

/-! ## Blank characters

White space as it separates words and is trimmed off texts: the Unicode spaces, the line and
paragraph separators, and the information separators of ASCII. -/

def blanks : List Nat :=
  [0x9, 0xa, 0xb, 0xc, 0xd, 0x1c, 0x1d, 0x1e, 0x1f, 0x20, 0x85, 0xa0, 0x1680, 0x2000, 0x2001,
   0x2002, 0x2003, 0x2004, 0x2005, 0x2006, 0x2007, 0x2008, 0x2009, 0x200a, 0x2028, 0x2029, 0x202f,
   0x205f, 0x3000]

def isBlank (c : Char) : Bool :=
  blanks.contains c.toNat

/-- A line break of text: any of the characters and the pair that end a line. -/
def isLineBreak (c : Char) : Bool :=
  [0xa, 0xb, 0xc, 0xd, 0x1c, 0x1d, 0x1e, 0x85, 0x2028, 0x2029].contains c.toNat

/-! ## Lists of characters -/

def trimLeft (p : Char → Bool) (cs : List Char) : List Char :=
  cs.dropWhile p

def trimRight (p : Char → Bool) (cs : List Char) : List Char :=
  (cs.reverse.dropWhile p).reverse

def trim (p : Char → Bool) (cs : List Char) : List Char :=
  trimRight p (trimLeft p cs)

def dropPrefix? : (pre cs : List Char) → Option (List Char)
  | [], cs => some cs
  | _ :: _, [] => none
  | p :: ps, c :: cs => if p == c then dropPrefix? ps cs else none

/-- The parts before and after the first place where `sep` stands. -/
def cutAt? (sep : List Char) : List Char → Option (List Char × List Char)
  | [] => (dropPrefix? sep []).map ([], ·)
  | c :: cs =>
    match dropPrefix? sep (c :: cs) with
    | some rest => some ([], rest)
    | none => (cutAt? sep cs).map fun (front, rest) => (c :: front, rest)

def isInfix (part cs : List Char) : Bool :=
  (cutAt? part cs).isSome

def splitWhen (p : Char → Bool) : List Char → List (List Char)
  | [] => [[]]
  | c :: cs =>
    match p c, splitWhen p cs with
    | true, pieces => [] :: pieces
    | false, piece :: pieces => (c :: piece) :: pieces
    | false, [] => [[c]]

/-- The pieces between the places where `sep` stands, found from the left; `fuel` bounds their
number. -/
def splitAround (sep : List Char) : (fuel : Nat) → List Char → List (List Char)
  | 0, cs => [cs]
  | fuel + 1, cs =>
    match cutAt? sep cs with
    | some (front, rest) => front :: splitAround sep fuel rest
    | none => [cs]

def unifyBreaks : List Char → List Char
  | '\r' :: '\n' :: cs => '\n' :: unifyBreaks cs
  | '\r' :: cs => '\n' :: unifyBreaks cs
  | c :: cs => c :: unifyBreaks cs
  | [] => []

def dropFinalBreak (cs : List Char) : List Char :=
  if cs.getLast? == some '\n' then cs.dropLast else cs

def linesFrom (cur : List Char) : List Char → List (List Char)
  | [] => if cur.isEmpty then [] else [cur.reverse]
  | '\r' :: '\n' :: cs => cur.reverse :: linesFrom [] cs
  | c :: cs => if isLineBreak c then cur.reverse :: linesFrom [] cs else linesFrom (c :: cur) cs

/-! ## Strings -/

def strip (s : String) : String :=
  String.ofList (trim isBlank s.toList)

def stripLeft (s : String) : String :=
  String.ofList (trimLeft isBlank s.toList)

def stripRight (s : String) : String :=
  String.ofList (trimRight isBlank s.toList)

def stripOf (chars s : String) : String :=
  String.ofList (trim (chars.toList.contains ·) s.toList)

def words (s : String) : List String :=
  ((splitWhen isBlank s.toList).filter (!·.isEmpty)).map String.ofList

def splitOnChar (c : Char) (s : String) : List String :=
  (splitWhen (· == c) s.toList).map String.ofList

def splitOnText (sep s : String) : List String :=
  (splitAround sep.toList s.length s.toList).map String.ofList

def cut? (sep s : String) : Option (String × String) :=
  (cutAt? sep.toList s.toList).map fun (a, b) => (String.ofList a, String.ofList b)

def contains (s part : String) : Bool :=
  isInfix part.toList s.toList

def startsWith (s pre : String) : Bool :=
  (dropPrefix? pre.toList s.toList).isSome

def endsWith (s post : String) : Bool :=
  (dropPrefix? post.toList.reverse s.toList.reverse).isSome

def replace (s part new : String) : String :=
  new.intercalate (splitOnText part s)

def unifyLines (s : String) : String :=
  String.ofList (unifyBreaks s.toList)

def lines (s : String) : List String :=
  (linesFrom [] s.toList).map String.ofList

def takeChars (n : Nat) (s : String) : String :=
  String.ofList (s.toList.take n)

def dropChars (n : Nat) (s : String) : String :=
  String.ofList (s.toList.drop n)

def padRight (width : Nat) (s : String) : String :=
  s ++ String.ofList (List.replicate (width - s.length) ' ')

def padLeft (fill : Char) (width : Nat) (s : String) : String :=
  String.ofList (List.replicate (width - s.length) fill) ++ s

def repeated (n : Nat) (s : String) : String :=
  String.join (List.replicate n s)

end SkillKit.Text
