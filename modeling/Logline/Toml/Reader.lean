import Logline.Toml.Node
import Logline.Toml.Scalar
import Logline.Toml.Text
/-!
Reading a TOML document as a JSON object. Entries keep the order of the document. Values are nested
and keys are dotted fewer than eighty times.
-/
namespace Logline.Toml

def maxDepth : Nat := 79

/-- Rest of a text behind a comment, which runs up to the end of its line. -/
def skipComment (cs : List Char) : List Char :=
  match cs with
  | '#' :: cs => cs.dropWhile isPrintable
  | cs => cs

/-- What follows the end of a line, blanks and a comment before it left out. -/
def endLine? (cs : List Char) : Option (List Char) :=
  match skipComment (skipBlanks cs) with
  | [] => some []
  | cs => newline? cs

/-- Blanks, comments and line breaks left out. -/
def skipLines (cs : List Char) : List Char :=
  match cs with
  | '#' :: cs => skipLines (cs.dropWhile isPrintable)
  | ' ' :: cs | '\t' :: cs | '\n' :: cs | '\r' :: '\n' :: cs => skipLines cs
  | cs => cs
termination_by cs.length
decreasing_by
  · have := (List.dropWhile_suffix isPrintable : cs.dropWhile isPrintable <:+ cs).length_le
    simp only [List.length_cons]; omega
  all_goals simp +arith

def isKeyChar (c : Char) : Bool :=
  c.isAlphanum || c == '_' || c == '-'

/-- Key that is quoted on one line, or a bare word. -/
def readKey (cs : List Char) : Option (String × List Char) :=
  match cs with
  | '"' :: cs => (readBasic cs).map fun (k, rest) => (String.ofList k, rest)
  | '\x27' :: cs => (readLiteral cs).map fun (k, rest) => (String.ofList k, rest)
  | cs =>
    let key := cs.takeWhile isKeyChar
    if key = [] then none else some (String.ofList key, cs.dropWhile isKeyChar)

/-- Keys between points, blanks around them left out. -/
def readPath (cs : List Char) : Option (List String × List Char) :=
  match readKey (skipBlanks cs) with
  | none => none
  | some (k, rest) =>
    match skipBlanks rest with
    | '.' :: rest =>
      if _h : rest.length < cs.length then
        (readPath rest).map fun (ks, rest) => (k :: ks, rest)
      else none
    | rest => some ([k], rest)
termination_by cs.length

/-- Keys of a header or an entry: those that lead to a table, and the last one. -/
def readKeys (cs : List Char) : Option ((List String × String) × List Char) := do
  let (path, rest) ← readPath cs
  let key ← path.getLast?
  if path.length ≤ maxDepth then some ((path.dropLast, key), rest) else none

/-- A reader of values: the value at the front of a text, and what follows it. -/
abbrev ValueReader := List Char → Option (Node × List Char)

/-- Items of an array behind its bracket, with commas between them and at most one behind them. -/
def readItems (read : ValueReader) (cs : List Char) : Option (List Node × List Char) :=
  match skipLines cs with
  | ']' :: rest => some ([], rest)
  | item =>
    match read item with
    | none => none
    | some (v, rest) =>
      match skipLines rest with
      | ']' :: rest => some ([v], rest)
      | ',' :: rest =>
        if _h : rest.length < cs.length then
          (readItems read rest).map fun (vs, rest) => (v :: vs, rest)
        else none
      | _ => none
termination_by cs.length

/-- Keys, equals sign and value, with the blanks around them left out. -/
def readEntry (read : ValueReader) (cs : List Char) :
    Option ((List String × String) × Node × List Char) := do
  let (keys, rest) ← readKeys cs
  match rest with
  | '=' :: rest =>
    let (v, rest) ← read (skipBlanks rest)
    some (keys, v, skipBlanks rest)
  | _ => none

/-- Entries of a table in braces, with commas between them and none behind them. -/
def readEntries (read : ValueReader) (es : Entries) (cs : List Char) :
    Option (Entries × List Char) :=
  match readEntry read cs with
  | none => none
  | some ((path, key), v, rest) =>
    match es.assign key v path, rest with
    | some es, '\x7d' :: rest => some (es, rest)
    | some es, ',' :: rest =>
      if _h : rest.length < cs.length then readEntries read es rest else none
    | _, _ => none
termination_by cs.length

/-- Value with at most `depth` containers around one another. -/
def readValue (depth : Nat) (cs : List Char) : Option (Node × List Char) :=
  match cs with
  | '"' :: _ | '\x27' :: _ =>
    (readText cs).map fun (s, rest) => (.leaf (.str (String.ofList s)), rest)
  | '[' :: cs =>
    match depth with
    | 0 => none
    | depth + 1 => (readItems (readValue depth) cs).map fun (vs, rest) => (.array vs, rest)
  | '\x7b' :: cs =>
    match depth, skipBlanks cs with
    | 0, _ => none
    | _ + 1, '\x7d' :: rest => some (.table .braces [], rest)
    | depth + 1, cs =>
      (readEntries (readValue depth) [] cs).map fun (es, rest) => (.table .braces es, rest)
  | cs =>
    let (word, rest) := readWord cs
    (scalar? word).map fun v => (.leaf v, rest)

/-- The document so far, and the keys of the open table. -/
structure Progress where
  entries : Entries
  path : List String

/-- Header behind its first bracket. -/
def readHeader (p : Progress) (cs : List Char) : Option (Progress × List Char) :=
  match cs with
  | '[' :: cs => do
    let ((path, key), rest) ← readKeys cs
    match rest with
    | ']' :: ']' :: rest =>
      let entries ← p.entries.alongHeader (·.openElement key) path
      some (⟨entries, path ++ [key]⟩, ← endLine? rest)
    | _ => none
  | cs => do
    let ((path, key), rest) ← readKeys cs
    match rest with
    | ']' :: rest =>
      let entries ← p.entries.alongHeader (·.openTable key) path
      some (⟨entries, path ++ [key]⟩, ← endLine? rest)
    | _ => none

/-- One line at the front of a text that is not empty: a header, an entry, or nothing. -/
def readLine (p : Progress) (cs : List Char) : Option (Progress × List Char) :=
  match skipBlanks cs with
  | '[' :: cs => readHeader p cs
  | [] | '#' :: _ | '\n' :: _ | '\r' :: _ => (endLine? cs).map (p, ·)
  | cs => do
    let ((path, key), v, rest) ← readEntry (readValue maxDepth) cs
    let entries ← p.entries.alongHeader (·.assign key v path) p.path
    some (⟨entries, p.path⟩, ← endLine? rest)

def readLines (p : Progress) (cs : List Char) : Option Entries :=
  match cs with
  | [] => some p.entries
  | c :: cs =>
    match readLine p (c :: cs) with
    | none => none
    | some (p, rest) => if _h : rest.length < (c :: cs).length then readLines p rest else none
termination_by cs.length
decreasing_by exact _h

/-- Object of a whole document; a byte order mark in front of it is passed over. -/
def read? (cs : List Char) : Option Json :=
  let cs := match cs with
    | '\ufeff' :: cs => cs
    | cs => cs
  (readLines ⟨[], []⟩ cs).map fun es => .obj (Node.entriesToJson es)

end Logline.Toml
