import HomeVoice.Json.Decode
import HomeVoice.Toml.Document
import HomeVoice.Toml.Scalar

/-!
# Reading TOML

`Toml.parse?` reads a document as a JSON object. It reads comments, tables, arrays of tables, keys
that are bare, quoted or dotted, scalars, arrays and inline tables. Values without a JSON form,
which are dates, infinities and NaN, are refused, as are strings of several lines and integers in
other bases than ten. So is what goes too deep: a value that nests more than `maxDepth` arrays and
inline tables, and a key of more than `maxDepth` parts.
-/

namespace HomeVoice.Toml

/-- What follows the spaces and tabs that a text begins with. -/
def skipSpaces (cs : List Char) : List Char :=
  cs.dropWhile fun c => c = ' ' || c = '\t'

/-- What follows a comment, if the text begins with one. -/
def skipComment : List Char → List Char
  | '#' :: rest => rest.dropWhile isText
  | cs => cs

/-- What follows the line that ends here, after at most spaces and a comment. -/
def endOfLine? (cs : List Char) : Option (List Char) :=
  match skipComment (skipSpaces cs) with
  | [] => some []
  | '\n' :: rest => some rest
  | '\r' :: '\n' :: rest => some rest
  | _ => none

/-- What follows the empty lines that a text begins with, at most `fuel` of them. -/
def skipLines : (fuel : Nat) → List Char → List Char
  | 0, cs => cs
  | fuel + 1, cs =>
    match cs, endOfLine? cs with
    | [], _ => []
    | _, some rest => skipLines fuel rest
    | _, none => skipSpaces cs

/-- What follows white space, line ends and comments. -/
def skipGaps (cs : List Char) : List Char :=
  skipLines cs.length cs

/-- Whether a character can stand in a bare key. -/
def isBareKey (c : Char) : Bool :=
  c.isAlphanum || c = '_' || c = '-'

/-- A part of a key, and what follows it. -/
def simpleKey? : List Char → Option (String × List Char)
  | '"' :: rest => (scanBasic rest).map fun (cs, after) => (.ofList cs, after)
  | '\'' :: rest => (scanLiteral rest).map fun (cs, after) => (.ofList cs, after)
  | cs =>
    let key := cs.takeWhile isBareKey
    if key.isEmpty then none else some (.ofList key, cs.dropWhile isBareKey)

/-- The parts of a key after the first, at most `fuel` of them, and what follows the key and the
spaces after it. -/
def moreKeys? : (fuel : Nat) → List Char → Option (List String × List Char)
  | 0, _ => none
  | fuel + 1, cs =>
    match skipSpaces cs with
    | '.' :: rest => do
      let (key, cs) ← simpleKey? (skipSpaces rest)
      let (keys, cs) ← moreKeys? fuel cs
      return (key :: keys, cs)
    | cs => some ([], cs)

/-- How many arrays and inline tables a value may nest, and how many parts a key may have. -/
def maxDepth : Nat := 79

/-- A key with its parts, and what follows it and the spaces after it. -/
def key? (cs : List Char) : Option ((String × List String) × List Char) := do
  let (key, cs) ← simpleKey? (skipSpaces cs)
  let (keys, cs) ← moreKeys? maxDepth cs
  return ((key, keys), cs)

mutual

/-- A value that nests at most `depth` arrays and inline tables, and what follows it. Each value,
item and entry takes one of `fuel`. -/
def value? : (fuel depth : Nat) → List Char → Option (Json × List Char)
  | 0, _, _ => none
  | _ + 1, _, '"' :: rest => (scanBasic rest).map fun (cs, after) => (.str (.ofList cs), after)
  | _ + 1, _, '\'' :: rest => (scanLiteral rest).map fun (cs, after) => (.str (.ofList cs), after)
  | _ + 1, 0, '[' :: _ => none
  | fuel + 1, depth + 1, '[' :: rest =>
    (items? fuel depth (skipGaps rest)).map fun (items, after) => (.arr items, after)
  | _ + 1, 0, '\x7b' :: _ => none
  | fuel + 1, depth + 1, '\x7b' :: rest =>
    match skipSpaces rest with
    | '\x7d' :: after => some (.obj [], after)
    | cs => (pairs? fuel depth [] cs).map fun (t, after) => (.obj (entriesToJson t), after)
  | _ + 1, _, cs => (word? (cs.takeWhile isWord)).map fun value => (value, cs.dropWhile isWord)

/-- The items of an array up to its closing bracket, and what follows that. -/
def items? : (fuel depth : Nat) → List Char → Option (List Json × List Char)
  | 0, _, _ => none
  | _ + 1, _, ']' :: after => some ([], after)
  | fuel + 1, depth, cs => do
    let (item, cs) ← value? fuel depth cs
    match skipGaps cs with
    | ',' :: rest =>
      let (items, after) ← items? fuel depth (skipGaps rest)
      return (item :: items, after)
    | ']' :: after => return ([item], after)
    | _ => none

/-- The entries of an inline table up to its closing brace, added to those before them, and what
follows that. -/
def pairs? : (fuel depth : Nat) → Table → List Char → Option (Table × List Char)
  | 0, _, _, _ => none
  | fuel + 1, depth, t, cs => do
    let ((key, path), cs) ← key? cs
    match cs with
    | '=' :: rest =>
      let (value, cs) ← value? fuel depth (skipSpaces rest)
      let t ← t.setValue? value key path
      match skipSpaces cs with
      | ',' :: rest => pairs? fuel depth t rest
      | '\x7d' :: after => return (t, after)
      | _ => none
    | _ => none

end

/-- A document that is being read: what it holds so far, and the table that is open. -/
structure Draft where
  root : Table
  path : List String

/-- The draft after a header for the table at a path, and what follows the brackets. -/
def Draft.header? (d : Draft) (open? : String → Table → Option Table) (key : String)
    (path : List String) : Option Draft := do
  let keys := key :: path
  let last ← keys.getLast?
  let root ← d.root.within? (open? last) keys.dropLast
  return ⟨root, keys⟩

/-- The draft after a line, and what follows what the line says. -/
def Draft.line? (d : Draft) : List Char → Option (Draft × List Char)
  | '[' :: '[' :: rest => do
    let ((key, path), cs) ← key? rest
    match cs with
    | ']' :: ']' :: after => return (← d.header? Table.openItem? key path, after)
    | _ => none
  | '[' :: rest => do
    let ((key, path), cs) ← key? rest
    match cs with
    | ']' :: after => return (← d.header? Table.openTable? key path, after)
    | _ => none
  | cs => do
    let ((key, path), cs) ← key? cs
    match cs with
    | '=' :: rest =>
      let (value, after) ← value? (rest.length + 1) maxDepth (skipSpaces rest)
      return (⟨← d.root.within? (Table.setValue? value key path) d.path, d.path⟩, after)
    | _ => none

/-- The draft after the lines of a text, at most `fuel` of them. -/
def Draft.lines? : (fuel : Nat) → Draft → List Char → Option Draft
  | 0, _, _ => none
  | fuel + 1, d, cs =>
    match skipGaps cs with
    | [] => some d
    | cs => do
      let (d, cs) ← d.line? cs
      lines? fuel d (← endOfLine? cs)

/-- What structures and choices may look like in a document. Where nothing is to be said, there is
an empty array or table. -/
def format : DataFormat where
  allowsSurplus := true
  saysNothing
    | .arr [] | .obj [] => true
    | _ => false

/-- The object that a document is. -/
def parse? (s : String) : Option Json :=
  (Draft.lines? (s.length + 1) ⟨[], []⟩ s.toList).map fun d => .obj (entriesToJson d.root)

end HomeVoice.Toml
