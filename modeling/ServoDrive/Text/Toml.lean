import ServoDrive.Text.Toml.Scalar
import ServoDrive.Text.Toml.Tree

/-!
# TOML documents

A reader for TOML 1.0 documents, dates and times apart. A document is a sequence of lines, each
blank, a comment, a key-value pair or a table header, each of them followed by an optional
comment:

- a key is bare (`A-Z a-z 0-9 _ -`) or quoted, or several of them joined by dots, with blanks
  allowed around the dots; `a.b = 1` puts `b = 1` into the table `a`;
- a value is a string, an integer, a float, a boolean, an array `[v, …]` (over several lines if
  need be, comments allowed, a trailing comma too), or an inline table `{k = v, …}` on one line;
- `[a.b]` names the table that the key-value lines that follow go to, and `[[a.b]]` adds a table
  to the array of tables `a.b` and names it.

Which table may be named, extended or given a key is settled in `ServoDrive.Toml.Tree`. A byte
order mark may open the document. A date or a time is refused: no reader of this library needs
one.
-/

namespace ServoDrive.Toml

mutual

/-- The rest after blanks, line ends and comments. -/
def skipGap : List Char → Option (List Char)
  | ' ' :: rest | '\t' :: rest | '\n' :: rest => skipGap rest
  | '\r' :: '\n' :: rest => skipGap rest
  | '#' :: rest => skipComment rest
  | cs => some cs

/-- The rest after a comment's text, its line end, and any gap after it. -/
def skipComment : List Char → Option (List Char)
  | [] => some []
  | '\n' :: rest => skipGap rest
  | '\r' :: '\n' :: rest => skipGap rest
  | c :: rest => if isTextChar c then skipComment rest else none

end

/-- A bare or quoted key at the front of the text. -/
def simpleKey? (cs : List Char) : Option (String × List Char) :=
  match cs with
  | '"' :: rest => basicBody [] rest
  | '\'' :: rest => literalBody [] rest
  | _ =>
    let name := cs.takeWhile isBareKeyChar
    if name.isEmpty then none else some (String.ofList name, cs.drop name.length)

/-- A dotted key with room for `fuel` more parts: the parts before the last, the last, and the
rest after the blanks that follow. -/
def keyWithin : Nat → List Char → Option (List String × String × List Char)
  | 0, _ => none
  | fuel + 1, cs => do
    let (k, rest) ← simpleKey? cs
    match skipBlanks rest with
    | '.' :: more => do
      let (path, last, rest) ← keyWithin fuel (skipBlanks more)
      some (k :: path, last, rest)
    | rest => some ([], k, rest)

/-- A key at the front of the text: the parts before the last, the last, and the rest after the
blanks that follow. -/
def key? (cs : List Char) : Option (List String × String × List Char) :=
  keyWithin (cs.length + 1) cs

/-- Whether a character ends the spelling of a number or a boolean. -/
def endsBare (c : Char) : Bool :=
  isBlank c || c == '#' || c == '\n' || c == '\r' || c == ',' || c == ']' || c == '}'

mutual

/-- A value at the front of the text, and the rest after it, within `fuel` steps. -/
def valueWithin : Nat → List Char → Option (Value × List Char)
  | 0, _ => none
  | fuel + 1, cs =>
    match cs with
    | '"' :: _ | '\'' :: _ => (fun (s, r) => (Value.string s, r)) <$> string? cs
    | '[' :: rest => arrayWithin fuel [] rest
    | '{' :: rest =>
      match skipBlanks rest with
      | '}' :: after => some (.table [], after)
      | rest => inlineWithin fuel [] rest
    | _ =>
      let token := cs.takeWhile fun c => !endsBare c
      if token.isEmpty then none
      else (fun v => (v, cs.drop token.length)) <$> bareValue? token

/-- The items of an array after its opening bracket or a comma: those read so far, newest first,
then a gap and either the closing bracket or one more item. -/
def arrayWithin : Nat → List Value → List Char → Option (Value × List Char)
  | 0, _, _ => none
  | fuel + 1, items, cs => do
    match ← skipGap cs with
    | ']' :: rest => some (.array items.reverse, rest)
    | cs => do
      let (v, rest) ← valueWithin fuel cs
      match ← skipGap rest with
      | ',' :: rest => arrayWithin fuel (v :: items) rest
      | ']' :: rest => some (.array (v :: items).reverse, rest)
      | _ => none

/-- The entries of an inline table after its opening brace or a comma: one more key-value pair,
then a comma or the closing brace. -/
def inlineWithin : Nat → Entries → List Char → Option (Value × List Char)
  | 0, _, _ => none
  | fuel + 1, es, cs => do
    let (path, k, rest) ← key? (skipBlanks cs)
    let rest ← match rest with
      | '=' :: rest => some (skipBlanks rest)
      | _ => none
    let (v, rest) ← valueWithin fuel rest
    let es ← es.assign path k v .defined
    match skipBlanks rest with
    | ',' :: rest => inlineWithin fuel es rest
    | '}' :: rest => some (.table (Entries.toValues es), rest)
    | _ => none

end

/-- A value at the front of the text, and the rest after it. -/
def value? (cs : List Char) : Option (Value × List Char) :=
  valueWithin (2 * cs.length + 2) cs

/-- A document being read: its tables, and the path of the table that receives key-value lines
(the root table before the first header). -/
structure Reader where
  root : Entries := []
  current : List String := []

/-- The tables of the document from `cs` on, with room for `fuel` more lines; every line
consumes at least one character. -/
def linesWithin : Nat → List Char → Reader → Option Entries
  | 0, _, _ => none
  | fuel + 1, cs, r =>
    match skipBlanks cs with
    | [] => some r.root
    | '\n' :: rest => linesWithin fuel rest r
    | '\r' :: '\n' :: rest => linesWithin fuel rest r
    | '#' :: rest => commentEnd rest >>= fun rest => linesWithin fuel rest r
    | '[' :: '[' :: rest => do
      let (path, k, rest) ← key? (skipBlanks rest)
      let rest ← match rest with
        | ']' :: ']' :: rest => some rest
        | _ => none
      let next ← lineEnd? rest
      let root ← r.root.appendTable path k
      linesWithin fuel next { root, current := path ++ [k] }
    | '[' :: rest => do
      let (path, k, rest) ← key? (skipBlanks rest)
      let rest ← match rest with
        | ']' :: rest => some rest
        | _ => none
      let next ← lineEnd? rest
      let root ← r.root.defineTable path k
      linesWithin fuel next { root, current := path ++ [k] }
    | line => do
      let (path, k, rest) ← key? line
      let rest ← match rest with
        | '=' :: rest => some (skipBlanks rest)
        | _ => none
      let (v, rest) ← value? rest
      let next ← lineEnd? rest
      let root ← r.root.modifyAt false .implicit (fun o es => es.assign path k v o) r.current
        .defined
      linesWithin fuel next { r with root }

/-- The root table of a document, its keys in document order, or none for a text that is not a
document this reader takes. -/
def document? (text : String) : Option (List (String × Value)) :=
  let cs := match text.toList with
    | '\uFEFF' :: rest => rest
    | cs => cs
  Entries.toValues <$> linesWithin (cs.length + 1) cs {}

end ServoDrive.Toml
