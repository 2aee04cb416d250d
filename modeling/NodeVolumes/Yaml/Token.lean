import NodeVolumes.Yaml.Tag

/-! # Tokens of a YAML text

A text is cut into tokens from left to right. Indentation opens and closes block collections; a
scalar turns out to be a key when a colon follows it on its line, and the tokens that mark the key
are then put in front of it.

* `Scan` is a computation on the text that is left; it fails on malformed text.
* `tokens?` gives the tokens of a whole text, with the directives and marks of its documents. -/

namespace NodeVolumes.Yaml

/-- How a scalar is written. -/
inductive Style where
  | plain
  | quoted
  | block
  deriving DecidableEq, Repr

/-- The tokens of a text. -/
inductive Token where
  | versionDirective (major minor : Nat)
  | tagDirective (handle : String) (expansion : Octets)
  | documentStart
  | documentEnd
  | blockSequenceStart
  | blockMappingStart
  | blockEnd
  | flowSequenceStart
  | flowSequenceEnd
  | flowMappingStart
  | flowMappingEnd
  | blockEntry
  | flowEntry
  | key
  | value
  | reference (name : String)
  | anchor (name : String)
  | tag (handle : String) (suffix : Octets)
  | scalar (text : String) (style : Style)
  deriving DecidableEq, Repr

/-! ### Character classes -/

/-- Line breaks: carriage return, line feed, next line, line and paragraph separator. -/
def isBreak (c : Char) : Bool :=
  c == '\n' || c == '\r' || c == '\u0085' || c == '\u2028' || c == '\u2029'

/-- Space and tab. -/
def isGap (c : Char) : Bool := c == ' ' || c == '\t'

/-- Characters of anchors, tag handles and directive names. -/
def isWord (c : Char) : Bool := c.isAlphanum || c == '_' || c == '-'

/-- The end of the text, a break, a space or a tab. -/
def endsWord (c : Option Char) : Bool :=
  match c with
  | none => true
  | some c => isGap c || isBreak c

/-- The end of the text or a break. -/
def endsLine (c : Option Char) : Bool :=
  match c with
  | none => true
  | some c => isBreak c

/-- The characters that a text may hold. -/
def isAllowed (c : Char) : Bool :=
  let n := c.toNat
  n == 0x09 || n == 0x0A || n == 0x0D || (0x20 ≤ n && n ≤ 0x7E) || n == 0x85 ||
    (0xA0 ≤ n && n ≤ 0xD7FF) || (0xE000 ≤ n && n ≤ 0xFFFD) || 0x10000 ≤ n

/-- The mark of byte order. -/
def byteOrderMark : Char := '\ufeff'

/-! ### The state of a scan -/

/-- A token that becomes a key if a colon follows in time. -/
structure Candidate where
  /-- Whether the indentation leaves no other reading. -/
  required : Bool
  /-- The place of its first token. -/
  token : Nat
  /-- The number of octets in front of it. -/
  index : Nat
  line : Nat
  column : Nat
  deriving Repr

/-- The text that is left and what the text before it has opened. -/
structure Scanner where
  rest : List Char
  /-- The number of octets that have been passed. -/
  index : Nat
  line : Nat
  column : Nat
  /-- The number of open flow collections. -/
  flowLevel : Nat
  /-- The column of the innermost open block collection, -1 outside of all. -/
  indent : Int
  indents : List Int
  /-- Whether a key may start here. -/
  keyAllowed : Bool
  /-- The candidate of each open flow collection, the innermost first. -/
  candidates : List (Option Candidate)
  tokens : Array Token

/-- The number of octets of some characters. -/
def octetCount (cs : List Char) : Nat := cs.foldl (fun n c => n + c.utf8Size) 0

/-- A computation on the text that is left. -/
abbrev Scan := StateT Scanner Option

namespace Scan

/-- The character `n` places ahead. -/
def peek (n : Nat) : Scan (Option Char) := return (← get).rest[n]?

/-- Passes over a number of characters within a line. -/
def pass (n : Nat) : Scan Unit :=
  modify fun s => { s with
    rest := s.rest.drop n
    index := s.index + octetCount (s.rest.take n)
    column := s.column + n }

/-- Passes over one character. -/
def skip : Scan Unit := pass 1

/-- Passes over the characters of one class and gives them. -/
def takeWhile (p : Char → Bool) : Scan (List Char) := do
  let taken := (← get).rest.takeWhile p
  pass taken.length
  return taken

/-- Passes over a line break, if one is next, and gives its normal form: a line feed, but the
separators stay. -/
def takeBreak : Scan (List Char) := do
  let leave (n : Nat) (normal : List Char) : Scan (List Char) := do
    pass n
    modify fun s => { s with line := s.line + 1, column := 0 }
    return normal
  match (← get).rest with
  | '\r' :: '\n' :: _ => leave 2 ['\n']
  | '\u2028' :: _ => leave 1 ['\u2028']
  | '\u2029' :: _ => leave 1 ['\u2029']
  | c :: _ => if isBreak c then leave 1 ['\n'] else return []
  | [] => return []

/-- Appends a token. -/
def put (t : Token) : Scan Unit := modify fun s => { s with tokens := s.tokens.push t }

/-- Puts a token in front of the one at a place. -/
def putAt (place : Nat) (t : Token) : Scan Unit :=
  modify fun s => { s with tokens := s.tokens.insertIdxIfInBounds place t }

/-- Says whether a key may start here. -/
def allowKey (allowed : Bool) : Scan Unit := modify fun s => { s with keyAllowed := allowed }

/-- Tells whether a document mark of three characters is next. -/
def atMark (mark : Char) : Scan Bool := do
  let s ← get
  return s.column == 0 && s.rest.take 3 == [mark, mark, mark] && endsWord s.rest[3]?

/-! ### Blanks and comments -/

/-- Passes over blanks, comments and line breaks. A tab counts as blank where no key may start; a mark
of byte order may start a line and takes up a column of it. -/
def toNextToken : Nat → Scan Unit
  | 0 => return
  | fuel + 1 => do
    if (← get).column == 0 && (← peek 0) == some byteOrderMark then skip
    let s ← get
    let tabs := 0 < s.flowLevel || !s.keyAllowed
    let _ ← takeWhile fun c => c == ' ' || (tabs && c == '\t')
    if (← peek 0) == some '#' then
      let _ ← takeWhile fun c => !isBreak c
    match ← takeBreak with
    | [] => return
    | _ =>
      if (← get).flowLevel == 0 then allowKey true
      toNextToken fuel

/-! ### Candidates for keys -/

/-- Whether a candidate can no longer be a key: a colon has to follow on its line, within 1024
octets. -/
def Candidate.isStale (c : Candidate) (s : Scanner) : Bool :=
  c.line < s.line || c.index + 1024 < s.index

/-- Drops the candidates that can no longer be keys; fails if one of them has to be. -/
def dropStale : Scan Unit := do
  let s ← get
  let stale (c : Option Candidate) : Bool := c.any fun c => Candidate.isStale c s
  if s.candidates.any fun c => stale c && c.any (·.required) then failure
  set { s with candidates := s.candidates.map fun c => if stale c then none else c }

/-- Drops the candidate of the innermost collection; fails if it has to be a key. -/
def dropCandidate : Scan Unit := do
  let s ← get
  match s.candidates with
  | some c :: rest => if c.required then failure else set { s with candidates := none :: rest }
  | _ => return

/-- Makes the next token a candidate, where a key may start. -/
def saveCandidate : Scan Unit := do
  if (← get).keyAllowed then
    dropCandidate
    modify fun s => { s with
      candidates := some {
        required := s.flowLevel == 0 && s.indent == (s.column : Int)
        token := s.tokens.size
        index := s.index
        line := s.line
        column := s.column } :: s.candidates.drop 1 }

/-! ### Indentation -/

/-- Opens a block collection at a column right of the innermost one. -/
def openBlock (column : Nat) (place : Option Nat) (t : Token) : Scan Unit := do
  let s ← get
  if s.flowLevel == 0 && s.indent < (column : Int) then
    set { s with indents := s.indent :: s.indents, indent := (column : Int) }
    match place with
    | none => put t
    | some n => putAt n t

/-- Closes the block collections right of a column. -/
def closeBlocks (column : Int) : Nat → Scan Unit
  | 0 => return
  | fuel + 1 => do
    let s ← get
    if s.flowLevel == 0 && column < s.indent then
      put .blockEnd
      modify fun s => { s with indent := s.indents.headD (-1), indents := s.indents.drop 1 }
      closeBlocks column fuel

/-- Closes the block collections right of a column, all of them for -1. -/
def unroll (column : Int) : Scan Unit := do closeBlocks column (← get).indents.length

/-! ### Scalars -/

/-- The blanks and breaks between two parts of a scalar. -/
structure Fold where
  /-- Whether a line break has been passed. -/
  broken : Bool := false
  spaces : List Char := []
  first : List Char := []
  more : List Char := []

/-- What the blanks and breaks between two parts stand for: a single break is a space, of several
breaks the first is dropped. -/
def Fold.text (f : Fold) : List Char :=
  if f.broken then
    if f.first == ['\n'] then (if f.more.isEmpty then [' '] else f.more) else f.first ++ f.more
  else f.spaces

/-- Passes over blanks and breaks. A tab may not stand in for indentation left of a column. -/
def takeFold (indent : Int) (f : Fold) : Nat → Scan Fold
  | 0 => return f
  | fuel + 1 => do
    match ← peek 0 with
    | some c =>
      if isGap c then
        let column : Int := (← get).column
        if f.broken && column < indent && c == '\t' then failure
        skip
        takeFold indent (if f.broken then f else { f with spaces := f.spaces ++ [c] }) fuel
      else if isBreak c then
        let b ← takeBreak
        takeFold indent
          (if f.broken then { f with more := f.more ++ b }
          else { f with broken := true, spaces := [], first := b }) fuel
      else return f
    | none => return f

/-- The characters that end a plain scalar in a flow collection. -/
def isFlowMark (c : Char) : Bool := c == ',' || c == '[' || c == ']' || c == '{' || c == '}'

/-- Takes the characters of a plain scalar up to a blank or the end of the scalar, in reverse. -/
def plainRun (flow : Bool) (taken : List Char) : Nat → Scan (List Char)
  | 0 => return taken
  | fuel + 1 => do
    match ← peek 0 with
    | none => return taken
    | some c =>
      let next ← peek 1
      if isGap c || isBreak c then return taken
      else if flow && c == ':' && (next.any fun n => isFlowMark n || n == '?') then failure
      else if c == ':' && endsWord next then return taken
      else if flow && isFlowMark c then return taken
      else
        skip
        plainRun flow (c :: taken) fuel

/-- Takes the lines of a plain scalar; gives its text in reverse. -/
def plainLines (indent : Int) (fold : Fold) (text : List Char) : Nat → Scan (List Char × Bool)
  | 0 => return (text, fold.broken)
  | fuel + 1 => do
    if (← atMark '-') || (← atMark '.') || (← peek 0) == some '#' then return (text, fold.broken)
    let s ← get
    match ← plainRun (0 < s.flowLevel) [] s.rest.length with
    | [] => return (text, fold.broken)
    | run =>
      let text := run ++ fold.text.reverse ++ text
      let s ← get
      let fold ← takeFold indent {} s.rest.length
      let t ← get
      if t.index == s.index || (t.flowLevel == 0 && (t.column : Int) < indent) then
        return (text, fold.broken)
      plainLines indent fold text fuel

/-- Takes a plain scalar. -/
def plainScalar : Scan Unit := do
  let s ← get
  let (text, broken) ← plainLines (s.indent + 1) {} [] s.rest.length
  if broken then allowKey true
  put (.scalar (String.ofList text.reverse) .plain)

/-- The value of a digit in base sixteen. -/
def hexValue? (c : Char) : Option Nat :=
  if c.isDigit then some (c.toNat - 48)
  else if 'a' ≤ c && c ≤ 'f' then some (c.toNat - 87)
  else if 'A' ≤ c && c ≤ 'F' then some (c.toNat - 55)
  else none

/-- Takes a character written by a number of digits in base sixteen. -/
def hexEscape (digits : Nat) : Scan Char := do
  let s ← get
  let ds := s.rest.take digits
  if ds.length < digits then failure
  let n ← ds.foldlM (fun n c => do return 16 * n + (← (hexValue? c : Option Nat))) 0
  if h : n.isValidChar then
    pass digits
    return Char.ofNatAux n h
  else failure

/-- Takes the rest of an escape in double quotes. -/
def escape : Scan Char := do
  let c ← peek 0
  skip
  match c with
  | some '0' => return '\x00'
  | some 'a' => return '\x07'
  | some 'b' => return '\x08'
  | some 't' => return '\t'
  | some '\t' => return '\t'
  | some 'n' => return '\n'
  | some 'v' => return '\x0b'
  | some 'f' => return '\x0c'
  | some 'r' => return '\r'
  | some 'e' => return '\x1b'
  | some ' ' => return ' '
  | some '"' => return '"'
  | some '/' => return '/'
  | some '\\' => return '\\'
  | some 'N' => return '\u0085'
  | some '_' => return '\u00a0'
  | some 'L' => return '\u2028'
  | some 'P' => return '\u2029'
  | some 'x' => hexEscape 2
  | some 'u' => hexEscape 4
  | some 'U' => hexEscape 8
  | _ => failure

/-- Takes the characters of a quoted scalar up to a blank or its closing quote, in reverse; tells
whether an escaped line break ended them. -/
def quotedRun (quote : Char) (taken : List Char) : Nat → Scan (List Char × Bool)
  | 0 => return (taken, false)
  | fuel + 1 => do
    match ← peek 0 with
    | none => return (taken, false)
    | some c =>
      let next ← peek 1
      if isGap c || isBreak c then return (taken, false)
      else if quote == '\'' && c == '\'' && next == some '\'' then
        skip
        skip
        quotedRun quote ('\'' :: taken) fuel
      else if c == quote then return (taken, false)
      else if quote == '"' && c == '\\' then
        skip
        if next.any isBreak then
          let _ ← takeBreak
          return (taken, true)
        else
          let e ← escape
          quotedRun quote (e :: taken) fuel
      else
        skip
        quotedRun quote (c :: taken) fuel

/-- Takes the lines of a quoted scalar; gives its text in reverse. -/
def quotedLines (quote : Char) (text : List Char) : Nat → Scan (List Char)
  | 0 => failure
  | fuel + 1 => do
    if (← atMark '-') || (← atMark '.') then failure
    if (← peek 0).isNone then failure
    let s ← get
    let (run, broken) ← quotedRun quote [] s.rest.length
    let text := run ++ text
    if (← peek 0) == some quote then
      skip
      return text
    let fold ← takeFold 0 { broken := broken } (← get).rest.length
    quotedLines quote (fold.text.reverse ++ text) fuel

/-- Takes a quoted scalar. -/
def quotedScalar (quote : Char) : Scan Unit := do
  skip
  let text ← quotedLines quote [] ((← get).rest.length + 1)
  put (.scalar (String.ofList text.reverse) .quoted)

/-- What happens to the line breaks at the end of a block scalar. -/
inductive Chomping where
  | strip
  | clip
  | keep
  deriving DecidableEq

/-- Takes the mark of chomping in the head of a block scalar. -/
def chomping? : Scan (Option Chomping) := do
  match ← peek 0 with
  | some '+' => skip; return some .keep
  | some '-' => skip; return some .strip
  | _ => return none

/-- Takes the mark of indentation in the head of a block scalar; 0 is none. -/
def increment? : Scan Nat := do
  match ← peek 0 with
  | some c =>
    if c.isDigit then
      if c == '0' then failure
      skip
      return c.toNat - 48
    else return 0
  | none => return 0

/-- Takes the empty lines in front of a line of a block scalar. The indentation, 0 while it is not
known, limits the spaces that are passed. Gives the greatest column seen and the breaks. -/
def blockBreaks (indent column : Nat) (breaks : List Char) : Nat → Scan (Nat × List Char)
  | 0 => return (column, breaks)
  | fuel + 1 => do
    let s ← get
    let spaces := (s.rest.takeWhile (· == ' ')).length
    pass (if indent == 0 then spaces else min spaces (indent - s.column))
    let s ← get
    if (indent == 0 || s.column < indent) && s.rest.head? == some '\t' then failure
    match ← takeBreak with
    | [] => return (max column s.column, breaks)
    | b => blockBreaks indent (max column s.column) (breaks ++ b) fuel

/-- Takes the lines of a block scalar; gives its text without the breaks at its end, and these. -/
def blockLines (literal : Bool) (indent : Nat) (text first more : List Char) (gapBefore : Bool) :
    Nat → Scan (List Char × List Char × List Char)
  | 0 => return (text, first, more)
  | fuel + 1 => do
    let s ← get
    if s.column != indent || s.rest.isEmpty then return (text, first, more)
    let gap := s.rest.head?.any isGap
    let joint :=
      if !literal && first == ['\n'] && !gapBefore && !gap then
        (if more.isEmpty then [' '] else []) ++ more
      else first ++ more
    let line ← takeWhile fun c => !isBreak c
    let first ← takeBreak
    let (_, more) ← blockBreaks indent 0 [] ((← get).rest.length + 1)
    blockLines literal indent (text ++ joint ++ line) first more gap fuel

/-- Takes a block scalar. -/
def blockScalar (literal : Bool) : Scan Unit := do
  skip
  let (chomping, increment) ← do
    match ← chomping? with
    | some c => pure (c, ← increment?)
    | none =>
      let n ← increment?
      pure ((← chomping?).getD .clip, n)
  let _ ← takeWhile isGap
  if (← peek 0) == some '#' then
    let _ ← takeWhile fun c => !isBreak c
  if !endsLine (← peek 0) then failure
  let _ ← takeBreak
  let s ← get
  let given := if increment == 0 then 0 else s.indent.toNat + increment
  let (widest, more) ← blockBreaks given 0 [] (s.rest.length + 1)
  let indent := if given == 0 then max widest (max (s.indent + 1).toNat 1) else given
  let (text, first, more) ←
    blockLines literal indent [] [] more false ((← get).rest.length + 1)
  let ending := match chomping with
    | .strip => []
    | .clip => first
    | .keep => first ++ more
  put (.scalar (String.ofList (text ++ ending)) .block)

/-! ### Directives, anchors and tags -/

/-- Takes a number of at most nine digits. -/
def versionNumber : Scan Nat := do
  let ds ← takeWhile Char.isDigit
  if ds.isEmpty || 9 < ds.length then failure
  return ds.foldl (fun n c => 10 * n + (c.toNat - 48)) 0

/-- Takes a tag handle: words between exclamation marks; the second mark may be missing outside of
a directive. -/
def tagHandle (directive : Bool) : Scan (List Char) := do
  if (← peek 0) != some '!' then failure
  skip
  let word ← takeWhile isWord
  if (← peek 0) == some '!' then
    skip
    return '!' :: word ++ ['!']
  else if directive && !word.isEmpty then failure
  else return '!' :: word

/-- The characters of a tag that stand for themselves. -/
def isTagChar (bracketed : Bool) (c : Char) : Bool :=
  isWord c || ";/?:@&=+$.!~*'()".toList.contains c || (bracketed && ",[]".toList.contains c)

/-- Takes an octet written as a percent sign and two digits in base sixteen. -/
def octet : Scan UInt8 := do
  if (← peek 0) != some '%' then failure
  skip
  let high ← (((← peek 0).bind hexValue? : Option Nat))
  skip
  let low ← (((← peek 0).bind hexValue? : Option Nat))
  skip
  return UInt8.ofNat (16 * high + low)

/-- The number of octets that follow one which starts a character. -/
def following? (o : UInt8) : Option Nat :=
  if o < 0x80 then some 0
  else if o < 0xC0 then none
  else if o < 0xE0 then some 1
  else if o < 0xF0 then some 2
  else if o < 0xF8 then some 3
  else none

/-- Takes the octets of a character that are written one by one. Only the form of each octet counts,
so together they need not form a character. -/
def octetRun : Scan Octets := do
  let first ← octet
  let n ← (following? first : Option Nat)
  let others ← (List.range n).mapM fun _ => do
    let o ← octet
    if o < 0x80 || 0xC0 ≤ o then failure
    return o
  return first :: others

/-- Takes characters of a tag. -/
def tagChars (bracketed : Bool) : Nat → Scan Octets
  | 0 => return []
  | fuel + 1 => do
    let plain := Octets.ofString (String.ofList (← takeWhile (isTagChar bracketed)))
    if (← peek 0) == some '%' then
      let os ← octetRun
      return plain ++ os ++ (← tagChars bracketed fuel)
    else return plain

/-- Takes the characters of a tag after a head of which the mark does not count; head and characters
may not both be empty. -/
def tagText (bracketed : Bool) (head : List Char) : Scan Octets := do
  let found ← tagChars bracketed ((← get).rest.length + 1)
  if head.isEmpty && found.isEmpty then failure
  return (Octets.ofString (String.ofList (head.drop 1)) ++ found).untilZero

/-- Takes a directive with the rest of its line. -/
def directive : Scan Unit := do
  skip
  let name ← takeWhile isWord
  if name.isEmpty || !endsWord (← peek 0) then failure
  let _ ← takeWhile isGap
  if name == "YAML".toList then
    let major ← versionNumber
    if (← peek 0) != some '.' then failure
    skip
    let minor ← versionNumber
    put (.versionDirective major minor)
  else if name == "TAG".toList then
    let handle ← tagHandle true
    if !(← peek 0).any isGap then failure
    let _ ← takeWhile isGap
    let expansion ← tagText true []
    if !endsWord (← peek 0) then failure
    put (.tagDirective (String.ofList handle) expansion)
  else failure
  let _ ← takeWhile isGap
  if (← peek 0) == some '#' then
    let _ ← takeWhile fun c => !isBreak c
  if !endsLine (← peek 0) then failure
  let _ ← takeBreak

/-- Takes the name of an anchor or alias. -/
def anchorName : Scan String := do
  skip
  let name ← takeWhile isWord
  let next ← peek 0
  if name.isEmpty || !(endsWord next || next.any fun c => "?:,]\x7d%@`".toList.contains c) then
    failure
  return String.ofList name

/-- Takes a tag. -/
def tag : Scan Unit := do
  let (handle, suffix) ← do
    if (← peek 1) == some '<' then
      skip
      skip
      let suffix ← tagText true []
      if (← peek 0) != some '>' then failure
      skip
      pure ([], suffix)
    else
      let handle ← tagHandle false
      if 1 < handle.length && handle.getLast? == some '!' then
        pure (handle, ← tagText false [])
      else
        match ← tagText false handle with
        | [] => pure ([], Octets.ofString "!")
        | suffix => pure (['!'], suffix)
  let next ← peek 0
  if !(endsWord next || (0 < (← get).flowLevel && next == some ',')) then failure
  put (.tag (String.ofList handle) suffix)

/-! ### Tokens -/

/-- Takes an indicator of one character as a token. -/
def indicator (t : Token) : Scan Unit := do
  skip
  put t

/-- Opens a flow collection. -/
def openFlow (t : Token) : Scan Unit := do
  saveCandidate
  modify fun s => { s with flowLevel := s.flowLevel + 1, candidates := none :: s.candidates }
  allowKey true
  indicator t

/-- Closes a flow collection. -/
def closeFlow (t : Token) : Scan Unit := do
  dropCandidate
  modify fun s => { s with
    flowLevel := s.flowLevel - 1
    candidates := if s.flowLevel == 0 then s.candidates else s.candidates.drop 1 }
  allowKey false
  indicator t

/-- Takes the dash of a block sequence. -/
def blockEntry : Scan Unit := do
  let s ← get
  if s.flowLevel == 0 then
    if !s.keyAllowed then failure
    openBlock s.column none .blockSequenceStart
  dropCandidate
  allowKey true
  indicator .blockEntry

/-- Takes the question mark of a key. -/
def keyMark : Scan Unit := do
  let s ← get
  if s.flowLevel == 0 then
    if !s.keyAllowed then failure
    openBlock s.column none .blockMappingStart
  dropCandidate
  allowKey (s.flowLevel == 0)
  indicator .key

/-- Takes the colon of a value; a candidate in front of it becomes its key. -/
def valueMark : Scan Unit := do
  let s ← get
  match s.candidates with
  | some c :: rest =>
    putAt c.token .key
    openBlock c.column (some c.token) .blockMappingStart
    modify fun s => { s with candidates := none :: rest }
    allowKey false
  | _ =>
    if s.flowLevel == 0 then
      if !s.keyAllowed then failure
      openBlock s.column none .blockMappingStart
    allowKey (s.flowLevel == 0)
  indicator .value

/-- Leaves every block in front of a directive, a document mark or the end. -/
def leaveBlocks : Scan Unit := do
  unroll (-1)
  dropCandidate
  allowKey false

/-- Takes a document mark. -/
def documentMark (t : Token) : Scan Unit := do
  leaveBlocks
  pass 3
  put t

/-- The characters that no plain scalar starts with. -/
def isIndicator (c : Char) : Bool := "-?:,[]\x7b\x7d#&*!|>'\"%@`".toList.contains c

/-- Takes one token; tells whether there was one. -/
def token : Scan Bool := do
  toNextToken ((← get).rest.length + 1)
  dropStale
  unroll (← get).column
  let s ← get
  let flow := 0 < s.flowLevel
  match s.rest with
  | [] =>
    if s.column != 0 then set { s with column := 0, line := s.line + 1 }
    leaveBlocks
    return false
  | c :: after =>
    let next := after.head?
    if s.column == 0 && c == '%' then
      leaveBlocks
      directive
    else if ← atMark '-' then documentMark .documentStart
    else if ← atMark '.' then documentMark .documentEnd
    else if c == '[' then openFlow .flowSequenceStart
    else if c == '{' then openFlow .flowMappingStart
    else if c == ']' then closeFlow .flowSequenceEnd
    else if c == '}' then closeFlow .flowMappingEnd
    else if c == ',' then
      dropCandidate
      allowKey true
      indicator .flowEntry
    else if c == '-' && endsWord next then blockEntry
    else if c == '?' && (flow || endsWord next) then keyMark
    else if c == ':' && (flow || endsWord next) then valueMark
    else if c == '*' then
      saveCandidate
      allowKey false
      put (.reference (← anchorName))
    else if c == '&' then
      saveCandidate
      allowKey false
      put (.anchor (← anchorName))
    else if c == '!' then
      saveCandidate
      allowKey false
      tag
    else if (c == '|' || c == '>') && !flow then
      dropCandidate
      allowKey true
      blockScalar (c == '|')
    else if c == '\'' || c == '"' then
      saveCandidate
      allowKey false
      quotedScalar c
    else if (!isIndicator c && !isGap c) || (c == '-' && !next.any isGap) ||
        (!flow && (c == '?' || c == ':') && !endsWord next) then
      saveCandidate
      allowKey false
      plainScalar
    else failure
    return true

/-- Takes all tokens. -/
def all : Nat → Scan Unit
  | 0 => failure
  | fuel + 1 => do if ← token then all fuel

end Scan

/-- The tokens of a text. -/
def tokens? (text : String) : Option (List Token) :=
  let chars := text.toList
  if !chars.all isAllowed then none
  else
    let start : Scanner := {
      rest := chars, index := 0, line := 0, column := 0, flowLevel := 0, indent := -1,
      indents := [], keyAllowed := true, candidates := [none], tokens := #[] }
    ((Scan.all (chars.length + 2)).run start).map fun (_, s) => s.tokens.toList

end NodeVolumes.Yaml
