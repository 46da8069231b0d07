import FleetSync.Text.Blank
import FleetSync.Text.Letters

/-!
# Patterns

Which texts are regular expressions that an automaton without memory can match: alternatives,
groups with flags or a name, classes of characters, repetitions and anchors. What an automaton
cannot see is refused: look-around, references to groups, and the ends of words where words are
those of all scripts. Where a group asks for bytes, only ASCII may be matched. Repetitions by count
do not occur, for a pattern holds no closing brace.
-/
namespace FleetSync.Text.Pattern

structure Mode where
  /-- Blanks and comments are passed over. -/
  spaced : Bool
  /-- Characters of all scripts are meant, not bytes. -/
  unicode : Bool
  deriving DecidableEq, Repr

/-- The rest of a pattern after what is passed over; a comment ends with its line. -/
def skip (m : Mode) : Nat → List Char → List Char
  | 0, cs => cs
  | fuel + 1, cs =>
    if m.spaced then
      match dropBlanks cs with
      | '#' :: rest => skip m fuel (rest.dropWhile (· ≠ '\n'))
      | rest => rest
    else cs

def skipped (m : Mode) (cs : List Char) : List Char := skip m (cs.length + 1) cs

inductive Escape where
  | literal (c : Char)
  /-- A class of characters; one of bytes may reach beyond ASCII. -/
  | category (beyondAscii : Bool)
  | anchor
  /-- The end of a word. -/
  | wordEnd
  deriving DecidableEq, Repr

def hexDigit? (c : Char) : Option Nat :=
  if c.isDigit then some (c.toNat - '0'.toNat)
  else if 'a' ≤ c.toLower ∧ c.toLower ≤ 'f' then some (c.toLower.toNat - 'a'.toNat + 10)
  else none

/-- The value of so many hexadecimal digits, and what follows them. -/
def hexDigits? (m : Mode) : Nat → Nat → List Char → Option (Nat × List Char)
  | 0, value, cs => some (value, cs)
  | n + 1, value, cs =>
    match skipped m cs with
    | [] => none
    | c :: rest => (hexDigit? c).bind fun d => hexDigits? m n (value * 16 + d) rest

def scalar? (n : Nat) : Option Char := if n.isValidChar then some (Char.ofNat n) else none

def categoryNames : List Char := ['c', 'l', 'm', 'n', 'p', 's', 'z']

def controlNames : List (Char × Char) :=
  [('a', '\x07'), ('f', '\x0c'), ('t', '\t'), ('n', '\n'), ('r', '\r'), ('v', '\x0b')]

/-- The escape whose backslash has been read, and what follows it. -/
def escape? (m : Mode) : List Char → Option (Escape × List Char)
  | [] => none
  | c :: rest =>
    if c = 'x' ∨ c = 'u' ∨ c = 'U' then do
      let size := if c = 'x' then 2 else if c = 'u' then 4 else 8
      let (n, rest) ← hexDigits? m size 0 rest
      return (.literal (← scalar? n), rest)
    else if c = 'p' ∨ c = 'P' then
      match skipped m rest with
      | name :: rest =>
        if categoryNames.contains name.toLower ∧ m.unicode then some (.category true, rest)
        else none
      | [] => none
    else if ['d', 's', 'w'].contains c then some (.category false, rest)
    else if ['D', 'S', 'W'].contains c then some (.category true, rest)
    else if ['A', 'z'].contains c then some (.anchor, rest)
    else if ['b', 'B', '<', '>'].contains c then some (.wordEnd, rest)
    else match controlNames.find? (·.1 = c) with
      | some (_, control) => some (.literal control, rest)
      | none => if c.toNat < 0x80 ∧ ¬c.isAlphanum then some (.literal c, rest) else none

/-- A literal character may stand for itself. -/
def admits (m : Mode) (c : Char) : Bool := m.unicode || c.toNat < 0x80

def asciiNames : List String :=
  ["alnum", "alpha", "ascii", "blank", "cntrl", "digit", "graph", "lower", "print", "punct",
    "space", "upper", "word", "xdigit"]

/-- What follows a class of ASCII characters, whose opening bracket has been read. -/
def asciiClass? : List Char → Option (List Char)
  | ':' :: cs =>
    let cs := match cs with
      | '^' :: rest => rest
      | cs => cs
    let name := cs.takeWhile Char.isAlpha
    match cs.drop name.length with
    | ':' :: ']' :: rest => if asciiNames.contains (String.ofList name) then some rest else none
    | _ => none
  | _ => none

/-- An item of a class, which may be one end of a range, and what follows it. -/
def classItem? (m : Mode) : List Char → Option (Option Char × List Char)
  | [] => none
  | '\\' :: rest => do
    match ← escape? m rest with
    | (.literal c, rest) => if admits m c then some (some c, rest) else none
    | (.category beyondAscii, rest) => if m.unicode || !beyondAscii then some (none, rest) else none
    | _ => none
  | c :: rest => if admits m c then some (some c, rest) else none

/-- What follows an item or a range of a class. -/
def classRange? (m : Mode) (cs : List Char) : Option (List Char) := do
  let (first, rest) ← classItem? m cs
  match skipped m rest with
  | [] => none
  | '-' :: rest =>
    match skipped m rest with
    | ']' :: _ => some ('-' :: rest)
    | '-' :: _ => some ('-' :: rest)
    | after =>
      let (last, rest) ← classItem? m after
      if (← first) ≤ (← last) then some rest else none
  | rest => some rest

/-- The dashes at the front, which stand for themselves. -/
def dropDashes (m : Mode) : Nat → List Char → List Char
  | 0, cs => cs
  | fuel + 1, cs =>
    match skipped m cs with
    | '-' :: rest => dropDashes m fuel rest
    | rest => rest

/-- The inside of a class after its opening bracket, its negation, and the dashes or the bracket
that stand for themselves. -/
def openClass? (m : Mode) (cs : List Char) : Option (List Char) :=
  let (negated, inside) := match skipped m cs with
    | '^' :: rest => (true, skipped m rest)
    | rest => (false, rest)
  let after := dropDashes m (inside.length + 1) inside
  if negated && !m.unicode then none
  else match after with
    | ']' :: rest => if after.length = inside.length then some rest else some after
    | rest => some rest

/-- What follows the bracket that closes the outermost of so many classes. -/
def classEnd? (m : Mode) : Nat → Nat → List Char → Option (List Char)
  | 0, _, _ => none
  | fuel + 1, depth, cs =>
    match skipped m cs with
    | [] => none
    | ']' :: rest => if depth ≤ 1 then some rest else classEnd? m fuel (depth - 1) rest
    | '[' :: rest =>
      match asciiClass? rest with
      | some rest => classEnd? m fuel depth rest
      | none => (openClass? m rest).bind (classEnd? m fuel (depth + 1))
    | '&' :: '&' :: rest => classEnd? m fuel depth rest
    | '-' :: '-' :: rest => classEnd? m fuel depth rest
    | '~' :: '~' :: rest => classEnd? m fuel depth rest
    | rest => (classRange? m rest).bind (classEnd? m fuel depth)

/-- The flags of a group up to its end or its colon, each of them once. -/
def flags? (m : Mode) : List Char → Bool → List Char → Option (Mode × List Char)
  | seen, _, ')' :: rest => if seen.head? = some '-' then none else some (m, ')' :: rest)
  | seen, _, ':' :: rest => if seen.head? = some '-' then none else some (m, ':' :: rest)
  | seen, negated, c :: rest =>
    if seen.contains c then none
    else if c = '-' then flags? m (c :: seen) true rest
    else if c = 'x' then flags? { m with spaced := !negated } (c :: seen) negated rest
    else if c = 'u' then flags? { m with unicode := !negated } (c :: seen) negated rest
    else if ['i', 'm', 's', 'U', 'R'].contains c then flags? m (c :: seen) negated rest
    else none
  | _, _, [] => none

def groupName? (cs : List Char) : Option (String × List Char) :=
  let name := cs.takeWhile (· ≠ '>')
  let mayFollow (c : Char) := isLetterOrDigit c || ['_', '.', '[', ']'].contains c
  match name, cs.drop name.length with
  | c :: rest, _ :: after =>
    if (c = '_' || (isLetterOrDigit c && !c.isDigit)) && rest.all mayFollow then
      some (String.ofList name, after)
    else none
  | _, _ => none

/-- What the parenthesis that opens a group begins. -/
inductive Opening where
  /-- A change of the mode up to the end of the group around it. -/
  | change (mode : Mode)
  | group (mode : Mode) (name : Option String)

def opening? (m : Mode) (cs : List Char) : Option (Opening × List Char) :=
  match skipped m cs with
  | '?' :: 'P' :: '<' :: rest => (groupName? rest).map fun r => (.group m (some r.1), r.2)
  | '?' :: '<' :: '=' :: _ => none
  | '?' :: '<' :: '!' :: _ => none
  | '?' :: '<' :: rest => (groupName? rest).map fun r => (.group m (some r.1), r.2)
  | '?' :: ')' :: _ => none
  | '?' :: rest =>
    match flags? m [] false rest with
    | some (mode, ')' :: rest) => some (.change mode, rest)
    | some (mode, _ :: rest) => some (.group mode none, rest)
    | _ => none
  | rest => some (.group m none, rest)

/-- The rest after a mark that makes a repetition a short one. -/
def dropLazy : List Char → List Char
  | '?' :: rest => rest
  | cs => cs

/-- Reads alternatives up to the end or to a closing parenthesis. It is known which names groups
have so far, and whether there is something to repeat. -/
def alternatives? : Nat → Mode → List String → Bool → List Char →
    Option (List String × List Char)
  | 0, _, _, _, _ => none
  | fuel + 1, m, names, repeatable, cs =>
    match skipped m cs with
    | [] => some (names, [])
    | ')' :: rest => some (names, ')' :: rest)
    | '|' :: rest => alternatives? fuel m names false rest
    | '\x7b' :: _ => none
    | '(' :: rest =>
      match opening? m rest with
      | none => none
      | some (.change mode, rest) => alternatives? fuel mode names false rest
      | some (.group mode name, rest) =>
        if name.any names.contains then none
        else match alternatives? fuel mode (name.toList ++ names) false rest with
          | some (names, ')' :: rest) => alternatives? fuel m names true rest
          | _ => none
    | '[' :: rest =>
      ((openClass? m rest).bind (classEnd? m (rest.length + 1) 1)).bind
        (alternatives? fuel m names true)
    | '\\' :: rest =>
      match escape? m rest with
      | some (.literal c, rest) =>
        if admits m c then alternatives? fuel m names true rest else none
      | some (.category beyondAscii, rest) =>
        if m.unicode || !beyondAscii then alternatives? fuel m names true rest else none
      | some (.anchor, rest) => alternatives? fuel m names true rest
      | some (.wordEnd, rest) => if m.unicode then none else alternatives? fuel m names true rest
      | none => none
    | c :: rest =>
      if c = '*' ∨ c = '+' ∨ c = '?' then
        if repeatable then alternatives? fuel m names true (dropLazy rest) else none
      else if (c = '.' && !m.unicode) || !admits m c then none
      else alternatives? fuel m names true rest

def isPattern (text : String) : Bool :=
  let cs := text.toList
  match alternatives? (cs.length + 1) ⟨false, true⟩ [] false cs with
  | some (_, []) => true
  | _ => false

end FleetSync.Text.Pattern
