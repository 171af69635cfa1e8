/-!
# TOML values and scalars

The values a TOML document holds, and the lexical part of TOML 1.0: blanks, comments, strings
and the bare spellings of numbers and booleans.

- Strings are basic (`"…"`, with escapes), literal (`'…'`), or their multi-line forms; a
  multi-line string drops a newline right after its opening delimiter, and in a basic one a
  backslash at the end of a line removes the line end and the blanks after it.
- An integer is decimal without leading zeros, or `0x`, `0o`, `0b` with no sign; an underscore
  stands only between two digits; an integer outside the signed 64-bit range is refused.
- A float has an integer part and a fraction, an exponent or both, or is `inf` or `nan` with an
  optional sign. Its value is the nearest binary64 value; a spelled-out float whose value is too
  large for binary64 and positive, so that it would round to positive infinity, is refused,
  while one that rounds to negative infinity is kept.
- Comments and strings hold no control character other than a tab.
-/

/-! ## Values

The values a TOML document holds: strings, integers, floats and booleans, arrays of values, and
tables, which map keys to values. A table keeps its keys in the order the document gives them;
each key appears at most once. Dates and times are not among them: the reader refuses a document
that holds one.
-/

namespace ServoDrive.Toml

/-- A value of a TOML document. -/
inductive Value where
  | integer (i : Int)
  | float (x : Float)
  | string (s : String)
  | boolean (b : Bool)
  | array (items : List Value)
  /-- A table, its keys in document order. -/
  | table (entries : List (String × Value))
  deriving Inhabited

namespace Value

/-- Whether the value is an empty array or an empty table. -/
def isEmptyContainer : Value → Bool
  | array [] | table [] => true
  | _ => false

end Value

/-! ## Characters -/

def isBlank (c : Char) : Bool := c == ' ' || c == '\t'

def isBareKeyChar (c : Char) : Bool :=
  ('A' ≤ c && c ≤ 'Z') || ('a' ≤ c && c ≤ 'z') || ('0' ≤ c && c ≤ '9') || c == '_' || c == '-'

/-- Characters allowed in comments and strings: a tab, or no control character. -/
def isTextChar (c : Char) : Bool := c == '\t' || (c.toNat ≥ 0x20 && c.toNat != 0x7f)

def isDecDigit (c : Char) : Bool := '0' ≤ c && c ≤ '9'

def hexDigitValue? (c : Char) : Option Nat :=
  if '0' ≤ c ∧ c ≤ '9' then some (c.toNat - 48)
  else if 'a' ≤ c ∧ c ≤ 'f' then some (c.toNat - 87)
  else if 'A' ≤ c ∧ c ≤ 'F' then some (c.toNat - 55)
  else none

def skipBlanks : List Char → List Char
  | c :: rest => if isBlank c then skipBlanks rest else c :: rest
  | [] => []

/-- The text with blanks and line ends (a line feed, or a carriage return and a line feed) removed
from its front; a carriage return alone ends no line and stays. -/
def skipSpace : List Char → List Char
  | '\r' :: '\n' :: rest => skipSpace rest
  | c :: rest => if isBlank c || c == '\n' then skipSpace rest else c :: rest
  | [] => []

theorem length_skipSpace_le (cs : List Char) : (skipSpace cs).length ≤ cs.length := by
  fun_induction skipSpace cs <;> simp_all <;> omega

/-- The rest after a comment's text and its line end. -/
def commentEnd : List Char → Option (List Char)
  | [] => some []
  | '\n' :: rest => some rest
  | '\r' :: '\n' :: rest => some rest
  | c :: rest => if isTextChar c then commentEnd rest else none

/-- The rest after blanks, an optional comment and a line end, or the end of the text. -/
def lineEnd? (cs : List Char) : Option (List Char) :=
  match skipBlanks cs with
  | [] => some []
  | '\n' :: rest => some rest
  | '\r' :: '\n' :: rest => some rest
  | '#' :: rest => commentEnd rest
  | _ => none

/-! ## Strings -/

/-- The character of a Unicode scalar value given in hexadecimal digits. -/
def scalarOf? (ds : List Char) : Option Char := do
  let n ← ds.foldlM (fun acc d => (acc * 16 + ·) <$> hexDigitValue? d) 0
  if n.isValidChar then some (Char.ofNat n) else none

/-- The body of a basic string after its opening quote: the text up to the closing quote, with
escapes replaced, and the rest after it. -/
def basicBody (acc : List Char) : List Char → Option (String × List Char)
  | [] => none
  | '"' :: rest => some (String.ofList acc.reverse, rest)
  | '\\' :: 'b' :: rest => basicBody ('\x08' :: acc) rest
  | '\\' :: 't' :: rest => basicBody ('\t' :: acc) rest
  | '\\' :: 'n' :: rest => basicBody ('\n' :: acc) rest
  | '\\' :: 'f' :: rest => basicBody ('\x0c' :: acc) rest
  | '\\' :: 'r' :: rest => basicBody ('\r' :: acc) rest
  | '\\' :: '"' :: rest => basicBody ('"' :: acc) rest
  | '\\' :: '\\' :: rest => basicBody ('\\' :: acc) rest
  | '\\' :: 'u' :: a :: b :: c :: d :: rest =>
    match scalarOf? [a, b, c, d] with
    | some ch => basicBody (ch :: acc) rest
    | none => none
  | '\\' :: 'U' :: a :: b :: c :: d :: e :: f :: g :: h :: rest =>
    match scalarOf? [a, b, c, d, e, f, g, h] with
    | some ch => basicBody (ch :: acc) rest
    | none => none
  | '\\' :: _ => none
  | c :: rest => if isTextChar c then basicBody (c :: acc) rest else none

/-- The body of a literal string after its opening quote. -/
def literalBody (acc : List Char) : List Char → Option (String × List Char)
  | [] => none
  | '\'' :: rest => some (String.ofList acc.reverse, rest)
  | c :: rest => if isTextChar c then literalBody (c :: acc) rest else none

/-- The body of a multi-line basic string after its opening quotes. -/
def multiBasicBody (acc : List Char) (cs : List Char) : Option (String × List Char) :=
  match cs with
  | [] => none
  | '"' :: '"' :: '"' :: rest =>
    match rest with
    | '"' :: '"' :: '"' :: _ => none
    | '"' :: '"' :: r => some (String.ofList ('"' :: '"' :: acc).reverse, r)
    | '"' :: r => some (String.ofList ('"' :: acc).reverse, r)
    | r => some (String.ofList acc.reverse, r)
  | '\\' :: rest =>
    match skipBlanks rest with
    | '\n' :: _ | '\r' :: '\n' :: _ =>
      have _shorter := length_skipSpace_le rest
      multiBasicBody acc (skipSpace rest)
    | _ =>
      match rest with
      | 'b' :: r => multiBasicBody ('\x08' :: acc) r
      | 't' :: r => multiBasicBody ('\t' :: acc) r
      | 'n' :: r => multiBasicBody ('\n' :: acc) r
      | 'f' :: r => multiBasicBody ('\x0c' :: acc) r
      | 'r' :: r => multiBasicBody ('\r' :: acc) r
      | '"' :: r => multiBasicBody ('"' :: acc) r
      | '\\' :: r => multiBasicBody ('\\' :: acc) r
      | 'u' :: a :: b :: c :: d :: r =>
        match scalarOf? [a, b, c, d] with
        | some ch => multiBasicBody (ch :: acc) r
        | none => none
      | 'U' :: a :: b :: c :: d :: e :: f :: g :: h :: r =>
        match scalarOf? [a, b, c, d, e, f, g, h] with
        | some ch => multiBasicBody (ch :: acc) r
        | none => none
      | _ => none
  | '\r' :: '\n' :: rest => multiBasicBody ('\n' :: acc) rest
  | '\n' :: rest => multiBasicBody ('\n' :: acc) rest
  | c :: rest => if isTextChar c then multiBasicBody (c :: acc) rest else none
termination_by cs.length
decreasing_by all_goals (simp only [List.length_cons]; omega)

/-- The body of a multi-line literal string after its opening quotes. -/
def multiLiteralBody (acc : List Char) : List Char → Option (String × List Char)
  | [] => none
  | '\'' :: '\'' :: '\'' :: rest =>
    match rest with
    | '\'' :: '\'' :: '\'' :: _ => none
    | '\'' :: '\'' :: r => some (String.ofList ('\'' :: '\'' :: acc).reverse, r)
    | '\'' :: r => some (String.ofList ('\'' :: acc).reverse, r)
    | r => some (String.ofList acc.reverse, r)
  | '\r' :: '\n' :: rest => multiLiteralBody ('\n' :: acc) rest
  | '\n' :: rest => multiLiteralBody ('\n' :: acc) rest
  | c :: rest => if isTextChar c then multiLiteralBody (c :: acc) rest else none

/-- A newline right after the opening delimiter of a multi-line string is not part of it. -/
def dropFirstNewline : List Char → List Char
  | '\n' :: rest => rest
  | '\r' :: '\n' :: rest => rest
  | cs => cs

/-- A string value at the front of the text, in any of the four forms. -/
def string? : List Char → Option (String × List Char)
  | '"' :: '"' :: '"' :: rest => multiBasicBody [] (dropFirstNewline rest)
  | '"' :: rest => basicBody [] rest
  | '\'' :: '\'' :: '\'' :: rest => multiLiteralBody [] (dropFirstNewline rest)
  | '\'' :: rest => literalBody [] rest
  | _ => none

/-! ## Numbers -/

/-- The digits of a run of digits in which an underscore stands only between two digits. -/
def digitRun? (isDigit : Char → Bool) (cs : List Char) : Option (List Char) :=
  let startsAndEnds := (cs.head?.map isDigit).getD false && (cs.getLast?.map isDigit).getD false
  let onlyDigits := cs.all fun c => isDigit c || c == '_'
  let noDoubleMark := (cs.zip cs.tail).all fun (a, b) => !(a == '_' && b == '_')
  if startsAndEnds && onlyDigits && noDoubleMark then some (cs.filter (· != '_')) else none

/-- The value of a list of digits in a base. -/
def digitsValue (base : Nat) (ds : List Char) : Nat :=
  ds.foldl (fun acc d => acc * base + ((hexDigitValue? d).getD 0)) 0

/-- A decimal run with no leading zero, unless it is the single digit `0`. -/
def decimalInt? (cs : List Char) : Option (List Char) :=
  match cs with
  | '0' :: _ :: _ => none
  | _ => digitRun? isDecDigit cs

/-- The part of `cs` before the first character satisfying `p`, and the part from it on. -/
def splitAt (p : Char → Bool) (cs : List Char) : List Char × List Char :=
  (cs.takeWhile (fun c => !p c), cs.dropWhile (fun c => !p c))

/-- Positive infinity. -/
def infinity : Float := Float.ofBits 0x7ff0000000000000

/-- The nearest binary64 value to `m * 10 ^ e`; values far outside the binary64 range go to
infinity or zero without computing their power of ten. -/
def scientific (m : Nat) (e : Int) : Float :=
  let size : Int := (toString m).length
  if m = 0 then 0
  else if size + e > 400 then infinity
  else if size + e < -400 then 0
  else if 0 ≤ e then Float.ofScientific m false e.toNat
  else Float.ofScientific m true (-e).toNat

/-- An unsigned decimal float: integer part, then a fraction, an exponent or both. -/
def unsignedFloat? (cs : List Char) : Option Float := do
  let (mantissa, exponentPart) := splitAt (fun c => c == 'e' || c == 'E') cs
  let (whole, fractionPart) := splitAt (· == '.') mantissa
  let intDigits ← decimalInt? whole
  let fracDigits ← match fractionPart with
    | [] => some []
    | _ :: f => digitRun? isDecDigit f
  let exponent : Int ← match exponentPart with
    | [] => some 0
    | _ :: '+' :: ds => (Int.ofNat ∘ digitsValue 10) <$> digitRun? isDecDigit ds
    | _ :: '-' :: ds => (fun v => -Int.ofNat (digitsValue 10 v)) <$> digitRun? isDecDigit ds
    | _ :: ds => (Int.ofNat ∘ digitsValue 10) <$> digitRun? isDecDigit ds
  if fractionPart.isEmpty && exponentPart.isEmpty then none
  else
    some (scientific (digitsValue 10 (intDigits ++ fracDigits)) (exponent - fracDigits.length))

/-- Integers of TOML are signed 64-bit. -/
def inRange (i : Int) : Bool := -Int.ofNat (Nat.pow 2 63) ≤ i && i < Int.ofNat (Nat.pow 2 63)

/-- The number, boolean or special float spelled by a bare token. -/
def bareValue? (token : List Char) : Option Value :=
  match token with
  | ['t', 'r', 'u', 'e'] => some (.boolean true)
  | ['f', 'a', 'l', 's', 'e'] => some (.boolean false)
  | ['i', 'n', 'f'] | ['+', 'i', 'n', 'f'] => some (.float infinity)
  | ['-', 'i', 'n', 'f'] => some (.float (-infinity))
  | ['n', 'a', 'n'] | ['+', 'n', 'a', 'n'] | ['-', 'n', 'a', 'n'] =>
    some (.float (Float.ofBits 0x7ff8000000000000))
  | '0' :: 'x' :: ds => (.integer ∘ Int.ofNat ∘ digitsValue 16) <$>
      digitRun? (fun c => (hexDigitValue? c).isSome) ds >>= fun v => checked v
  | '0' :: 'o' :: ds => (.integer ∘ Int.ofNat ∘ digitsValue 8) <$>
      digitRun? (fun c => '0' ≤ c && c ≤ '7') ds >>= fun v => checked v
  | '0' :: 'b' :: ds => (.integer ∘ Int.ofNat ∘ digitsValue 2) <$>
      digitRun? (fun c => c == '0' || c == '1') ds >>= fun v => checked v
  | '+' :: rest => unsigned rest false
  | '-' :: rest => unsigned rest true
  | rest => unsigned rest false
where
  checked (v : Value) : Option Value :=
    match v with
    | .integer i => if inRange i then some v else none
    | _ => some v
  unsigned (cs : List Char) (negative : Bool) : Option Value :=
    if cs.any (fun c => c == '.' || c == 'e' || c == 'E') then do
      let x ← unsignedFloat? cs
      if negative then some (.float (-x))
      else if x == infinity then none
      else some (.float x)
    else do
      let ds ← decimalInt? cs
      let n : Int := digitsValue 10 ds
      checked (.integer (if negative then -n else n))

end ServoDrive.Toml
