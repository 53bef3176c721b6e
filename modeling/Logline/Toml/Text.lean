import Logline.Json.Token
/-!
Quoted text of a TOML document, on one line or over several, with escapes or without. Each reader
starts behind the opening quotes and ends behind the closing ones.
-/
namespace Logline.Toml

def isInlineBlank (c : Char) : Bool :=
  c == ' ' || c == '\t'

def skipBlanks (cs : List Char) : List Char :=
  cs.dropWhile isInlineBlank

/-- Line break at the front: a line feed, with or without a carriage return before it. -/
def newline? : List Char → Option (List Char)
  | '\n' :: cs => some cs
  | '\r' :: '\n' :: cs => some cs
  | _ => none

/-- Characters that may stand in a document besides line breaks. -/
def isPrintable (c : Char) : Bool :=
  c == '\t' || (' ' ≤ c && c != '\x7f')

/-- Character with the code that hexadecimal digits give. -/
def charOfHex? (digits : List Char) : Option Char := do
  let code ← Text.ofDigits? 16 digits
  if h : code.isValidChar then some (Char.ofNatAux code h) else none

/-- Character that a backslash and one letter stand for. -/
def unescape? (c : Char) : Option Char :=
  match c with
  | 'b' => some '\x08'
  | 'f' => some '\x0c'
  | 'n' => some '\n'
  | 'r' => some '\r'
  | 't' => some '\t'
  | '"' => some '"'
  | '\\' => some '\\'
  | _ => none

/-- Escape behind its backslash. -/
def readEscape : List Char → Option (Char × List Char)
  | 'u' :: a :: b :: c :: d :: cs => (charOfHex? [a, b, c, d]).map (·, cs)
  | 'U' :: a :: b :: c :: d :: e :: f :: g :: h :: cs =>
    (charOfHex? [a, b, c, d, e, f, g, h]).map (·, cs)
  | c :: cs => (unescape? c).map (·, cs)
  | [] => none

theorem length_readEscape {cs rest : List Char} {c : Char}
    (h : readEscape cs = some (c, rest)) : rest.length < cs.length := by
  unfold readEscape at h
  split at h <;> simp_all only [Option.map_eq_some_iff, Prod.mk.injEq, List.length_cons,
    reduceCtorEq] <;> grind

/-- Text between single quotes, on one line and as it is. -/
def readLiteral (cs : List Char) : Option (List Char × List Char) :=
  match cs.span (· != '\x27') with
  | (_, []) => none
  | (text, _ :: rest) => if text.all isPrintable then some (text, rest) else none

/-- Text between double quotes, on one line and with escapes. -/
def readBasic (cs : List Char) : Option (List Char × List Char) :=
  match cs with
  | [] => none
  | '"' :: rest => some ([], rest)
  | '\\' :: escape =>
    match _h : readEscape escape with
    | none => none
    | some (c, rest) => Json.prepend c (readBasic rest)
  | c :: rest => if isPrintable c then Json.prepend c (readBasic rest) else none
termination_by cs.length
decreasing_by
  · have := length_readEscape _h
    simp only [List.length_cons]; omega
  · simp

/-- Blanks and line breaks left out. -/
def skipBreaks : List Char → List Char
  | ' ' :: cs | '\t' :: cs | '\n' :: cs | '\r' :: '\n' :: cs => skipBreaks cs
  | cs => cs

theorem length_skipBreaks (cs : List Char) : (skipBreaks cs).length ≤ cs.length := by
  fun_induction skipBreaks cs <;> grind

theorem length_newline? {cs rest : List Char} (h : newline? cs = some rest) :
    rest.length < cs.length := by
  unfold newline? at h
  grind

theorem length_skipBlanks (cs : List Char) : (skipBlanks cs).length ≤ cs.length :=
  (List.dropWhile_suffix _).length_le

/-- What follows a backslash at the end of a line and all blanks and breaks after it. -/
def skipContinuation? (cs : List Char) : Option (List Char) :=
  (newline? (skipBlanks cs)).map skipBreaks

theorem length_skipContinuation? {cs rest : List Char} (h : skipContinuation? cs = some rest) :
    rest.length < cs.length := by
  obtain ⟨after, ha, rfl⟩ := Option.map_eq_some_iff.1 h
  have := length_newline? ha
  have := length_skipBlanks cs
  have := length_skipBreaks after
  omega

/-- Number of quotes at the end of a text over several lines that belong to the text, given what
follows the first three of the run; at most two do. -/
def splitQuotes (quote : Char) : List Char → List Char × List Char
  | a :: b :: cs =>
    if a = quote then (if b = quote then ([a, b], cs) else ([a], b :: cs)) else ([], a :: b :: cs)
  | [a] => if a = quote then ([a], []) else ([], [a])
  | [] => ([], [])

/-- Text between three single quotes, with line breaks and as it is. -/
def readLongLiteral (cs : List Char) : Option (List Char × List Char) :=
  match cs with
  | [] => none
  | '\x27' :: '\x27' :: '\x27' :: rest => some (splitQuotes '\x27' rest)
  | '\n' :: rest => Json.prepend '\n' (readLongLiteral rest)
  | '\r' :: '\n' :: rest => Json.prepend '\n' (readLongLiteral rest)
  | c :: rest => if isPrintable c then Json.prepend c (readLongLiteral rest) else none

/-- Text between three double quotes, with line breaks and escapes. -/
def readLongBasic (cs : List Char) : Option (List Char × List Char) :=
  match cs with
  | [] => none
  | '"' :: '"' :: '"' :: rest => some (splitQuotes '"' rest)
  | '\n' :: rest => Json.prepend '\n' (readLongBasic rest)
  | '\r' :: '\n' :: rest => Json.prepend '\n' (readLongBasic rest)
  | '\\' :: escape =>
    match _hc : skipContinuation? escape with
    | some rest => readLongBasic rest
    | none =>
      match _h : readEscape escape with
      | none => none
      | some (c, rest) => Json.prepend c (readLongBasic rest)
  | c :: rest => if isPrintable c then Json.prepend c (readLongBasic rest) else none
termination_by cs.length
decreasing_by
  · simp
  · simp only [List.length_cons]; omega
  · have := length_skipContinuation? _hc
    simp only [List.length_cons]; omega
  · have := length_readEscape _h
    simp only [List.length_cons]; omega
  · simp

/-- A line break directly behind the opening quotes does not belong to the text. -/
def skipFirstBreak (cs : List Char) : List Char :=
  (newline? cs).getD cs

/-- Quoted text of any kind, with its quotes at the front. -/
def readText : List Char → Option (List Char × List Char)
  | '"' :: '"' :: '"' :: cs => readLongBasic (skipFirstBreak cs)
  | '"' :: cs => readBasic cs
  | '\x27' :: '\x27' :: '\x27' :: cs => readLongLiteral (skipFirstBreak cs)
  | '\x27' :: cs => readLiteral cs
  | _ => none

end Logline.Toml
