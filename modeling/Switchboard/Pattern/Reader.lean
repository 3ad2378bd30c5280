import Switchboard.Pattern.Search
import Switchboard.Text.Ascii
import Switchboard.Text.Numeral

/-!
The reader of patterns. It goes through the text once and keeps the open groups on a stack; classes in
brackets are read the same way, with the open brackets on a stack. Whatever is not a pattern is refused. The
reader also measures how deep a pattern is nested and how large its automaton would be, and refuses what
goes beyond the bounds.
-/

namespace Switchboard.Pattern

/-- The switches that change how a pattern is read. -/
structure Flags where
  anyCase : Bool := false
  multiLine : Bool := false
  dotAll : Bool := false
  /-- Carriage returns end lines too. -/
  anyLineEnd : Bool := false
  unicode : Bool := true
  /-- Blanks and comments between the parts are ignored. -/
  verbose : Bool := false
  deriving DecidableEq, Repr

/-- A part of a pattern: its tree, how deep it is nested, and whether it is only a change of switches. -/
structure Piece where
  node : Node
  depth : Nat
  isSwitch : Bool := false

/-- A group that is still open, or the whole pattern. -/
structure Frame where
  /-- The finished alternatives, the last first. -/
  alternatives : List Piece := []
  /-- The parts of the current alternative, the last first. -/
  pieces : List Piece := []
  /-- The switches to return to when the group closes. -/
  outer : Flags

/-- The greatest depth of nesting. -/
def nestLimit : Nat := 250

/-! ## Blanks and numbers -/

/-- Skips blanks and comments; `inComment` says that a comment is open. -/
def skipVerbose (inComment : Bool) : List Char → List Char
  | [] => []
  | c :: rest =>
    if inComment then skipVerbose (c != '\n') rest
    else if Text.isBlank c then skipVerbose false rest
    else if c = '#' then skipVerbose true rest
    else c :: rest

/-- Skips blanks and comments where they are ignored. -/
def skipIgnored (verbose : Bool) (cs : List Char) : List Char :=
  if verbose then skipVerbose false cs else cs

/-- The characters of a class at the front, and the rest, ignored text after each of them skipped; so many
at most. -/
def collect (verbose : Bool) (p : Char → Bool) : Nat → List Char → List Char × List Char
  | 0, cs => ([], cs)
  | _, [] => ([], [])
  | n + 1, c :: rest =>
    if p c then
      let (taken, cs) := collect verbose p n (skipIgnored verbose rest)
      (c :: taken, cs)
    else ([], c :: rest)

/-- A decimal number below two to the thirty-second, with blanks around it. -/
def readCount (verbose : Bool) (cs : List Char) : Option (Nat × List Char) :=
  let cs := cs.dropWhile Text.isBlank
  let (digits, cs) := collect verbose Char.isDigit cs.length cs
  let cs := if verbose then skipIgnored true cs else cs.dropWhile Text.isBlank
  (Text.readUnsigned? UInt32.size digits).map fun n => (n, cs)

/-- The character with this number. -/
def charOf? (n : Nat) : Option Char := if h : n.isValidChar then some (Char.ofNatAux n h) else none

/-- The number that hexadecimal digits denote. -/
def readHex? (digits : List Char) : Option Nat :=
  digits.foldlM (fun n c => (Text.hexValue? (UInt8.ofNat c.toNat)).map (n * 16 + ·)) 0

/-- A hexadecimal digit. -/
def isHexChar (c : Char) : Bool := c.toNat < 0x80 && (Text.hexValue? (UInt8.ofNat c.toNat)).isSome

/-! ## Escapes -/

/-- What an escape stands for. -/
inductive Escape where
  /-- A character. -/
  | char (c : Char)
  /-- A character given by two hexadecimal digits, which may mean a byte. -/
  | code (c : Char)
  /-- A class of digits, blanks or word characters. -/
  | kind (letter : Char)
  | property (negated : Bool) (c : CodeClass)
  | look (l : Look)

/-- The characters with a meaning of their own. -/
def metaChars : List Char :=
  ['\\', '.', '+', '*', '?', '(', ')', '|', '[', ']', '\x7b', '\x7d', '^', '$', '#', '&', '-', '~']

/-- A character that stands for itself after a backslash. -/
def isPlainEscape (c : Char) : Bool :=
  metaChars.contains c || (c.toNat < 0x80 && !c.isAlphanum && c != '<' && c != '>')

/-- A character by `size` hexadecimal digits. -/
def readHexDigits (verbose : Bool) (size : Nat) (cs : List Char) : Option (Char × List Char) := do
  let (digits, rest) := collect verbose isHexChar size cs
  if digits.length ≠ size then none
  else some (← charOf? (← readHex? digits), rest)

/-- A character by hexadecimal digits between braces; the opening brace has been read. -/
def readHexBraces (verbose : Bool) (cs : List Char) : Option (Char × List Char) := do
  let (digits, rest) := collect verbose isHexChar cs.length (skipIgnored verbose cs)
  match rest with
  | '\x7d' :: rest =>
    if digits.isEmpty then none
    else
      let n ← readHex? digits
      if n ≥ UInt32.size then none else some (← charOf? n, skipIgnored verbose rest)
  | _ => none

/-- The class of a property: the letter or the name in braces after the `p`. -/
def readProperty (verbose : Bool) (cs : List Char) : Option (CodeClass × List Char) :=
  match skipIgnored verbose cs with
  | [] => none
  | '\x7b' :: rest => do
    let rest := skipIgnored verbose rest
    let (name, rest) := collect verbose (· != '\x7d') rest.length rest
    match rest with
    | [] => none
    | _ :: rest =>
      let name := String.ofList name
      let cut (mark : String) : Option (String × String) :=
        match name.splitOn mark with
        | first :: second :: more => some (first, mark.intercalate (second :: more))
        | _ => none
      let c ← match (cut "!=").orElse fun _ => (cut ":").orElse fun _ => cut "=" with
        | some (name, value) => CodeClass.valued? name value
        | none => CodeClass.named? name
      some (c, rest)
  | c :: rest =>
    if c = '\\' then none
    else (CodeClass.named? (String.ofList [c])).map fun k => (k, skipIgnored verbose rest)

/-- The edge of a word that a name in braces after `\b` stands for. Braces whose first character is no part
of such a name are not read. -/
def readWordEdge (flags : Flags) (cs : List Char) : Option (Look × List Char) :=
  let plain := (Look.wordEdge flags.unicode, cs)
  let isNameChar (c : Char) : Bool := c.isAlpha || c == '-'
  match cs with
  | '\x7b' :: rest =>
    match skipIgnored flags.verbose rest with
    | [] => none
    | c :: rest =>
      if isNameChar c then
        match collect flags.verbose isNameChar (rest.length + 1) (c :: rest) with
        | (name, '\x7d' :: rest) =>
          match String.ofList name with
          | "start" => some (.wordStart flags.unicode, rest)
          | "end" => some (.wordEnd flags.unicode, rest)
          | "start-half" => some (.wordStartHalf flags.unicode, rest)
          | "end-half" => some (.wordEndHalf flags.unicode, rest)
          | _ => none
        | _ => none
      else some plain
  | _ => some plain

/-- An escape; the backslash has been read. -/
def readEscape (flags : Flags) : List Char → Option (Escape × List Char)
  | [] => none
  | c :: rest =>
    match c with
    | 'x' | 'u' | 'U' =>
      match skipIgnored flags.verbose rest with
      | [] => none
      | '\x7b' :: rest => (readHexBraces flags.verbose rest).map fun r => (.char r.1, r.2)
      | rest =>
        let size := if c = 'x' then 2 else if c = 'u' then 4 else 8
        (readHexDigits flags.verbose size rest).map fun r =>
          (if c = 'x' then .code r.1 else .char r.1, r.2)
    | 'p' | 'P' => (readProperty flags.verbose rest).map fun r => (.property (c == 'P') r.1, r.2)
    | 'd' | 'D' | 's' | 'S' | 'w' | 'W' => some (.kind c, rest)
    | 'a' => some (.char '\x07', rest)
    | 'f' => some (.char '\x0C', rest)
    | 't' => some (.char '\t', rest)
    | 'n' => some (.char '\n', rest)
    | 'r' => some (.char '\r', rest)
    | 'v' => some (.char '\x0B', rest)
    | 'A' => some (.look .textStart, rest)
    | 'z' => some (.look .textEnd, rest)
    | 'b' => (readWordEdge flags rest).map fun r => (.look r.1, r.2)
    | 'B' => some (.look (.notWordEdge flags.unicode), rest)
    | '<' => some (.look (.wordStart flags.unicode), rest)
    | '>' => some (.look (.wordEnd flags.unicode), rest)
    | _ => if isPlainEscape c then some (.char c, rest) else none

/-- The class of a letter for digits, blanks or word characters; a capital letter means the others. -/
def kindClass (unicode : Bool) (letter : Char) : CodeClass :=
  let c : CodeClass := match letter.toLower, unicode with
    | 'd', true => .categories ["Nd"]
    | 'd', false => .range 0x30 0x39
    | 's', true => .blank
    | 's', false => .ofRanges [(0x09, 0x0D), (0x20, 0x20)]
    | _, true => .word
    | _, false => .asciiWord
  if letter.isUpper then .not c else c

/-- The class closed under case where case is ignored. -/
def Flags.closeCase (flags : Flags) (c : CodeClass) : CodeClass :=
  if flags.anyCase then (if flags.unicode then .anyCase c else .anyAsciiCase c) else c

/-- The class closed under case where case is ignored, then negated if asked. -/
def Flags.finishClass (flags : Flags) (negated : Bool) (c : CodeClass) : CodeClass :=
  let c := flags.closeCase c
  if negated then .not c else c

/-- A leaf that consumes a character or a byte of a class. -/
def Flags.leaf (flags : Flags) (c : CodeClass) : Node :=
  if flags.unicode then .char c else .byte c

/-- The leaf of one character. Where bytes are meant, a code above ASCII is a byte. -/
def literal (flags : Flags) (c : Char) (isCode : Bool) : Node :=
  let n := c.toNat
  let one := CodeClass.single n
  if flags.unicode then
    .char (if flags.anyCase && (Text.caseClass n).any (· != n) then .anyCase one else one)
  else if n < 0x80 then .byte (flags.closeCase one)
  else if isCode then .byte one
  else .char one

/-! ## Classes in brackets -/

/-- The operations between sets. -/
inductive SetOp where
  | inter
  | diff
  | symmetricDiff

/-- A part of a class with its depth of nesting. -/
structure SetPiece where
  set : CodeClass
  depth : Nat

/-- A bracket that is still open. -/
structure Bracket where
  negated : Bool
  /-- The items of the current operand, the last first. -/
  items : List SetPiece
  /-- The operation that waits for its right operand, with its left one. -/
  pending : Option (SetOp × SetPiece)

/-- The union of the items of an operand. -/
def unionPieces (items : List SetPiece) : SetPiece where
  set := items.foldl (fun c i => .union c i.set) .none
  depth := items.foldl (fun d i => max d i.depth) 0 + (if items.length > 1 then 1 else 0)

/-- The operand so far: the current items, and the operation that waits for them. -/
def Bracket.operand (flags : Flags) (b : Bracket) : SetPiece :=
  let right := unionPieces b.items
  match b.pending with
  | none => right
  | some (op, left) =>
    let l := flags.closeCase left.set
    let r := flags.closeCase right.set
    { set := match op with
        | .inter => .inter l r
        | .diff => l.diff r
        | .symmetricDiff => l.symmetricDiff r
      depth := max left.depth right.depth + 1 }

/-- The whole of a bracket. -/
def Bracket.close (flags : Flags) (b : Bracket) : SetPiece :=
  let operand := b.operand flags
  ⟨flags.finishClass b.negated operand.set, operand.depth + 1⟩

/-- Adds an item to a bracket. -/
def Bracket.add (b : Bracket) (c : CodeClass) (depth : Nat) : Bracket :=
  { b with items := ⟨c, depth⟩ :: b.items }

/-- The start of a bracket: a negation, then dashes and a closing bracket that stand for themselves. The
opening bracket has been read. -/
def readBracketStart (flags : Flags) (cs : List Char) : Option (Bracket × List Char) := do
  let cs := skipIgnored flags.verbose cs
  let (negated, cs) := match cs with
    | '^' :: rest => (true, skipIgnored flags.verbose rest)
    | _ => (false, cs)
  let (dashes, cs) := collect flags.verbose (· == '-') cs.length cs
  let one (c : Char) : SetPiece := ⟨.single c.toNat, 0⟩
  let (items, cs) := match dashes, cs with
    | [], ']' :: rest => ([one ']'], skipIgnored flags.verbose rest)
    | _, _ => (dashes.map one, cs)
  if cs.isEmpty then none else some (⟨negated, items, none⟩, cs)

/-- A named ASCII class, if one stands here; its opening bracket has been read. -/
def readNamedClass (flags : Flags) (cs : List Char) : Option (CodeClass × List Char) :=
  match cs with
  | ':' :: rest => do
    let (negated, rest) := match rest with
      | '^' :: rest => (true, rest)
      | _ => (false, rest)
    let name := rest.takeWhile (· != ':')
    match rest.dropWhile (· != ':') with
    | ':' :: ']' :: rest =>
      some (flags.finishClass negated (← CodeClass.ascii? (String.ofList name)), rest)
    | _ => none
  | _ => none

/-- A member of a class: a character, or a class of its own. -/
inductive SetItem where
  | char (c : Char) (isCode : Bool)
  | set (c : CodeClass)

/-- Reads a member of a class. -/
def readSetItem (flags : Flags) : List Char → Option (SetItem × List Char)
  | [] => none
  | '\\' :: rest => do
    let (e, rest) ← readEscape flags rest
    match e with
    | .char c => some (.char c false, rest)
    | .code c => some (.char c true, rest)
    | .kind letter => some (.set (kindClass flags.unicode letter), rest)
    | .property negated c =>
      if flags.unicode then some (.set (flags.finishClass negated c), rest) else none
    | .look _ => none
  | c :: rest => some (.char c false, rest)

/-- The value of a character as a member: any in Unicode classes, a byte in classes of bytes. -/
def memberValue? (flags : Flags) (c : Char) (isCode : Bool) : Option Nat :=
  if flags.unicode || c.toNat < 0x80 || isCode then some c.toNat else none

/-- The character after the one at the front, ignored text skipped where it is ignored. -/
def peekSecond (flags : Flags) (cs : List Char) : Option Char :=
  (skipIgnored flags.verbose (cs.drop 1)).head?

/-- Reads a member or a range into a bracket. -/
def readSetRange (flags : Flags) (b : Bracket) (cs : List Char) : Option (Bracket × List Char) := do
  let (first, rest) ← readSetItem flags cs
  let rest := skipIgnored flags.verbose rest
  if rest.isEmpty then none
  else
    let second := peekSecond flags rest
    if rest.head? != some '-' || second == some ']' || second == some '-' then
      match first with
      | .char c isCode => some (b.add (.single (← memberValue? flags c isCode)) 0, rest)
      | .set c => some (b.add c 0, rest)
    else
      let rest := skipIgnored flags.verbose (rest.drop 1)
      let (last, rest) ← readSetItem flags rest
      match first, last with
      | .char low lowIsCode, .char high highIsCode =>
        if high < low then none
        else
          let l ← memberValue? flags low lowIsCode
          let h ← memberValue? flags high highIsCode
          some (b.add (.range l h) 0, rest)
      | _, _ => none

/-- Reads a class up to its closing bracket, with so many members at most. The innermost bracket is first on
the stack. -/
def readBrackets (flags : Flags) : Nat → List Bracket → List Char → Option (SetPiece × List Char)
  | 0, _, _ => none
  | _, [], _ => none
  | n + 1, b :: outer, cs =>
    let operator (op : SetOp) (rest : List Char) :=
      readBrackets flags n ({ b with items := [], pending := some (op, b.operand flags) } :: outer) rest
    match skipIgnored flags.verbose cs with
    | [] => none
    | '[' :: rest =>
      match readNamedClass flags rest with
      | some (c, rest) => readBrackets flags n (b.add c 0 :: outer) rest
      | none => do
        let (inner, rest) ← readBracketStart flags rest
        readBrackets flags n (inner :: b :: outer) rest
    | ']' :: rest =>
      let whole := b.close flags
      match outer with
      | [] => some (whole, rest)
      | next :: outer => readBrackets flags n (next.add whole.set whole.depth :: outer) rest
    | '&' :: '&' :: rest => operator .inter rest
    | '-' :: '-' :: rest => operator .diff rest
    | '~' :: '~' :: rest => operator .symmetricDiff rest
    | cs => do
      let (b, rest) ← readSetRange flags b cs
      readBrackets flags n (b :: outer) rest

/-- Reads a class in brackets; the opening bracket has been read. -/
def readClass (flags : Flags) (cs : List Char) : Option (SetPiece × List Char) := do
  let (b, rest) ← readBracketStart flags cs
  readBrackets flags (2 * cs.length + 1) [b] rest

/-! ## Groups -/

/-- Applies a list of switches; those after a dash are turned off. Each may be named once, there is one dash
at most, and it is not the last. -/
def readSwitches (flags : Flags) (seen : List Char) (on : Bool) :
    List Char → Option (Flags × Bool × List Char)
  | [] => none
  | c :: rest =>
    if c = ':' ∨ c = ')' then
      if seen.head? = some '-' then none else some (flags, seen.isEmpty, c :: rest)
    else if seen.contains c then none
    else
      let next (flags : Flags) := readSwitches flags (c :: seen) on rest
      match c with
      | '-' => readSwitches flags (c :: seen) false rest
      | 'i' => next { flags with anyCase := on }
      | 'm' => next { flags with multiLine := on }
      | 's' => next { flags with dotAll := on }
      | 'R' => next { flags with anyLineEnd := on }
      | 'u' => next { flags with unicode := on }
      | 'x' => next { flags with verbose := on }
      | 'U' => next flags
      | _ => none

/-- A character that may stand in the name of a group. -/
def isGroupNameChar (isFirst : Bool) (c : Char) : Bool :=
  c == '_' || Text.isAlphabetic c.toNat ||
    (!isFirst && (c == '.' || c == '[' || c == ']' || Text.hasCategory ["Nd", "Nl", "No"] c.toNat))

/-- The name of a group, up to its closing angle bracket. -/
def readGroupName (cs : List Char) : Option (List Char × List Char) :=
  let name := cs.takeWhile (· != '>')
  match name, cs.dropWhile (· != '>') with
  | first :: more, '>' :: rest =>
    if isGroupNameChar true first && more.all (isGroupNameChar false) then some (name, rest) else none
  | _, _ => none

/-! ## The whole pattern -/

/-- The parts of an alternative in a row. -/
def rowPieces (piecesRev : List Piece) : Piece :=
  match piecesRev with
  | [] => ⟨.empty, 0, false⟩
  | [p] => ⟨p.node, p.depth, false⟩
  | p :: rest =>
    ⟨rest.foldl (fun n q => .seq q.node n) p.node,
      (rest.foldl (fun d q => max d q.depth) p.depth) + 1, false⟩

/-- The alternatives of a group. -/
def Frame.close (f : Frame) : Piece :=
  match f.alternatives with
  | [] => rowPieces f.pieces
  | alternatives =>
    let last := rowPieces f.pieces
    ⟨alternatives.foldl (fun n q => .alt q.node n) last.node,
      (alternatives.foldl (fun d q => max d q.depth) last.depth) + 1, false⟩

/-- Adds a part to the current alternative. -/
def Frame.add (f : Frame) (p : Piece) : Frame := { f with pieces := p :: f.pieces }

/-- Repeats the last part of the current alternative, which must be there and not be a switch. -/
def Frame.repeatLast (f : Frame) (least : Nat) (most : Option Nat) : Option Frame :=
  match f.pieces with
  | p :: rest =>
    if p.isSwitch then none
    else some { f with pieces := ⟨.repeated p.node least most, p.depth + 1, false⟩ :: rest }
  | [] => none

/-- Skips the mark of a repetition that prefers few. -/
def skipLazy (cs : List Char) : List Char :=
  match cs with
  | '?' :: rest => rest
  | _ => cs

/-- A counted repetition; the opening brace has been read. -/
def readRepetition (flags : Flags) (cs : List Char) :
    Option (Nat × Option Nat × List Char) := do
  let cs := skipIgnored flags.verbose cs
  let (least, cs) ← readCount flags.verbose cs
  let (most, cs) ← match cs with
    | ',' :: rest =>
      match skipIgnored flags.verbose rest with
      | [] => none
      | '\x7d' :: rest => some (none, '\x7d' :: rest)
      | rest => do
        let (most, rest) ← readCount flags.verbose rest
        some (some most, rest)
    | _ => some (some least, cs)
  match cs with
  | '\x7d' :: rest =>
    if most.any (· < least) then none
    else some (least, most, skipLazy (skipIgnored flags.verbose rest))
  | _ => none

/-- The state of the reader. -/
structure Reading where
  flags : Flags
  current : Frame
  outer : List Frame
  names : List (List Char)

/-- Adds a leaf to the current group. -/
def Reading.leaf (r : Reading) (n : Node) : Reading := { r with current := r.current.add ⟨n, 0, false⟩ }

/-- Opens a group whose parts are read with the given switches. -/
def Reading.openGroup (r : Reading) (flags : Flags) : Reading :=
  { r with flags, current := { outer := r.flags }, outer := r.current :: r.outer }

/-- Reads what follows an opening parenthesis. -/
def Reading.readGroup (r : Reading) (cs : List Char) : Option (Reading × List Char) :=
  let named (rest : List Char) : Option (Reading × List Char) := do
    let (name, rest) ← readGroupName rest
    if r.names.contains name then none
    else some ({ r.openGroup r.flags with names := name :: r.names }, rest)
  match skipIgnored r.flags.verbose cs with
  | '?' :: '=' :: _ | '?' :: '!' :: _ | '?' :: '<' :: '=' :: _ | '?' :: '<' :: '!' :: _ => none
  | '?' :: 'P' :: '<' :: rest => named rest
  | '?' :: '<' :: rest => named rest
  | '?' :: rest => do
    let (flags, isBare, rest) ← readSwitches r.flags [] true rest
    match rest with
    | ':' :: rest => some (r.openGroup flags, rest)
    | _ :: rest =>
      if isBare then none
      else some ({ r with flags, current := r.current.add ⟨.empty, 0, true⟩ }, rest)
    | [] => none
  | rest => some (r.openGroup r.flags, rest)

/-- Closes the innermost group. -/
def Reading.closeGroup (r : Reading) : Option Reading :=
  match r.outer with
  | [] => none
  | next :: outer =>
    let whole := r.current.close
    some { r with
      flags := r.current.outer
      current := next.add ⟨whole.node, whole.depth + 1, false⟩
      outer }

/-- The class of all characters but the ends of lines, or of all. -/
def Flags.dotClass (flags : Flags) : CodeClass :=
  if flags.dotAll then .any
  else if flags.anyLineEnd then .not (.union (.single 10) (.single 13))
  else .not (.single 10)

/-- Reads the next part of a pattern, which has not ended. -/
def Reading.step (r : Reading) (c : Char) (rest : List Char) : Option (Reading × List Char) :=
  let flags := r.flags
  let repeated (least : Nat) (most : Option Nat) := do
    some ({ r with current := ← r.current.repeatLast least most }, skipLazy rest)
  match c with
  | '(' => r.readGroup rest
  | ')' => r.closeGroup.map (·, rest)
  | '|' =>
    let f := r.current
    some ({ r with current := { f with
      alternatives := rowPieces f.pieces :: f.alternatives, pieces := [] } }, rest)
  | '[' => do
    let (whole, rest) ← readClass flags rest
    some ({ r with current := r.current.add ⟨flags.leaf whole.set, whole.depth, false⟩ }, rest)
  | '?' => repeated 0 (some 1)
  | '*' => repeated 0 none
  | '+' => repeated 1 none
  | '\x7b' => do
    let (least, most, rest) ← readRepetition flags rest
    some ({ r with current := ← r.current.repeatLast least most }, rest)
  | '\\' => do
    let (e, rest) ← readEscape flags rest
    match e with
    | .char c => some (r.leaf (literal flags c false), rest)
    | .code c => some (r.leaf (literal flags c true), rest)
    | .kind letter => some (r.leaf (flags.leaf (kindClass flags.unicode letter)), rest)
    | .property negated c =>
      if flags.unicode then some (r.leaf (.char (flags.finishClass negated c)), rest) else none
    | .look l => some (r.leaf (.look l), rest)
  | '.' => some (r.leaf (flags.leaf flags.dotClass), rest)
  | '^' =>
    some (r.leaf (.look (if flags.multiLine then
      (if flags.anyLineEnd then .anyLineStart else .lineStart) else .textStart)), rest)
  | '$' =>
    some (r.leaf (.look (if flags.multiLine then
      (if flags.anyLineEnd then .anyLineEnd else .lineEnd) else .textEnd)), rest)
  | c => some (r.leaf (literal flags c false), rest)

/-- Reads the rest of a pattern in so many steps at most. -/
def Reading.run : Nat → Reading → List Char → Option Piece
  | 0, _, _ => none
  | n + 1, r, cs =>
    match skipIgnored r.flags.verbose cs with
    | [] => if r.outer.isEmpty then some r.current.close else none
    | c :: rest => do
      let (r, rest) ← r.step c rest
      Reading.run n r rest

/-- The tree of a pattern, if the text is one. Each step takes a character or more. -/
def read? (source : String) : Option Node := do
  let cs := source.toList
  let whole ← Reading.run (cs.length + 1) ⟨{}, { outer := {} }, [], []⟩ cs
  if whole.depth > nestLimit || whole.node.cost > Node.costLimit then none else some whole.node

/-- The test of the texts in which a pattern is found, if the source is a pattern. -/
def language (source : String) : Option (String → Bool) :=
  (read? source).map fun node text => node.foundIn (Text.utf8 text)

end Switchboard.Pattern
