import ObjectWire.Derive.Token
import ObjectWire.Text.Identifier
/-!
# Scanning item source text into token trees

The scanner reads text into token trees. Blanks and plain comments are skipped; a doc comment
(`///`, `//!`, `/** */`, `/*! */`) becomes the attribute `#[doc = "..."]` (with `!` for the
inner forms). A literal is a string (plain, raw, byte or C string), a byte, a character or a
number with an optional suffix; a lone quote before an identifier starts a lifetime. Text that
cannot be read this way, or whose delimiters do not pair up, is refused as a whole.
-/

namespace ObjectWire
namespace Derive
namespace Scan

/-- Text as characters. -/
abbrev Chars := List Char

/-- Whether the text starts with a prefix. -/
def startsWith (s : Chars) (p : String) : Bool := p.toList.isPrefixOf s

/-- Whether a character is a blank: Unicode white space, and the two direction marks. -/
def isBlank (c : Char) : Bool :=
  let n := c.toNat
  (0x09 ≤ n && n ≤ 0x0D) || n == 0x20 || n == 0x85 || n == 0xA0 || n == 0x1680 ||
  (0x2000 ≤ n && n ≤ 0x200A) || n == 0x2028 || n == 0x2029 || n == 0x202F || n == 0x205F ||
  n == 0x3000 || n == 0x200E || n == 0x200F

/-- The characters that may be punctuation. -/
def punctChars : List Char := "~!@#$%^&*-=+|;:,<.>/?'".toList

/-- The text up to the end of its line, and what follows (from the line break on); a carriage
return before the line feed belongs to neither. -/
def untilNewline : Chars → Chars × Chars
  | [] => ([], [])
  | '\n' :: rest => ([], '\n' :: rest)
  | '\r' :: '\n' :: rest => ([], '\n' :: rest)
  | c :: rest => let (t, r) := untilNewline rest; (c :: t, r)

/-- A block comment at the start of the text (which starts with `/*`): its text, delimiters
included, and what follows. Comments nest. -/
def blockComment (s : Chars) : Option (Chars × Chars) :=
  go (s.drop 2) 1 ['*', '/']
where
  go : Chars → Nat → Chars → Option (Chars × Chars)
    | '/' :: '*' :: r, d, acc => go r (d + 1) ('*' :: '/' :: acc)
    | '*' :: '/' :: r, d, acc =>
      if d ≤ 1 then some (('/' :: '*' :: acc).reverse, r) else go r (d - 1) ('/' :: '*' :: acc)
    | c :: r, d, acc => go r d (c :: acc)
    | [], _, _ => none

/-- Skips blanks and plain comments; `fuel` bounds the steps. -/
def skipBlank : Nat → Chars → Chars
  | 0, s => s
  | fuel + 1, s =>
    match s with
    | [] => []
    | c :: rest =>
      if c == '/' && startsWith s "//" && (!startsWith s "///" || startsWith s "////") &&
          !startsWith s "//!" then
        skipBlank fuel (untilNewline s).2
      else if startsWith s "/**/" then skipBlank fuel (s.drop 4)
      else if c == '/' && startsWith s "/*" && (!startsWith s "/**" || startsWith s "/***") &&
          !startsWith s "/*!" then
        match blockComment s with
        | some (_, r) => skipBlank fuel r
        | none => s
      else if isBlank c then skipBlank fuel rest
      else s

/-- Whether a comment text has a carriage return that no line feed follows. -/
def bareReturn : Chars → Bool
  | '\r' :: '\n' :: rest => bareReturn rest
  | '\r' :: _ => true
  | _ :: rest => bareReturn rest
  | [] => false

/-- A doc comment at the start of the text: its text, whether it is an inner one, and what
follows. -/
def docComment (s : Chars) : Option (Chars × Bool × Chars) :=
  let found : Option (Chars × Bool × Chars) :=
    if startsWith s "//!" then
      let (t, r) := untilNewline (s.drop 3)
      some (t, true, r)
    else if startsWith s "/*!" then
      (blockComment s).map fun (t, r) => (inner t, true, r)
    else if startsWith s "///" then
      if startsWith (s.drop 3) "/" then none
      else let (t, r) := untilNewline (s.drop 3); some (t, false, r)
    else if startsWith s "/**" && !startsWith (s.drop 3) "*" then
      (blockComment s).map fun (t, r) => (inner t, false, r)
    else none
  found.filter fun (t, _, _) => !bareReturn t
where
  /-- A block comment's text without its three-character opening and two-character close. -/
  inner (t : Chars) : Chars := (t.drop 3).take (t.length - 5)

/-- The tokens of a doc comment: the attribute that holds its text. -/
def docTokens (text : Chars) (isInner : Bool) : List Token :=
  [.punct '#' .alone] ++ (if isInner then [.punct '!' .alone] else []) ++
    [.group .bracket [.ident "doc", .punct '=' .alone, stringLiteral (String.ofList text)]]

/-- An identifier without raw prefix at the start of the text, and what follows. -/
def plainIdent : Chars → Option (Chars × Chars)
  | c :: rest =>
    if Identifier.isStart c then
      let name := rest.takeWhile Identifier.isContinue
      some (c :: name, rest.drop name.length)
    else none
  | [] => none

/-- An identifier, possibly raw, at the start of the text: its name (with the raw prefix) and
what follows. -/
def ident (s : Chars) : Option (String × Chars) :=
  if startsWith s "r#" then
    match plainIdent (s.drop 2) with
    | some (name, r) =>
      let sym := String.ofList name
      if ["_", "super", "self", "Self", "crate"].contains sym then none else some ("r#" ++ sym, r)
    | none => none
  else (plainIdent s).map fun (name, r) => (String.ofList name, r)

/-- Skips an optional suffix (an identifier) after a literal. -/
def suffix (s : Chars) : Chars :=
  match plainIdent s with
  | some (_, r) => r
  | none => s

/-- Whether a character is a hexadecimal digit. -/
def isHex (c : Char) : Bool := c.isDigit || ('a' ≤ c && c ≤ 'f') || ('A' ≤ c && c ≤ 'F')

/-- The value of a hexadecimal digit. -/
def hexValue (c : Char) : Nat :=
  if c.isDigit then c.toNat - '0'.toNat
  else if 'a' ≤ c && c ≤ 'f' then c.toNat - 'a'.toNat + 10
  else c.toNat - 'A'.toNat + 10

/-- After `\x` in a character or string: an octal digit then a hex digit. -/
def escapeX : Chars → Option Chars
  | a :: b :: rest => if '0' ≤ a && a ≤ '7' && isHex b then some rest else none
  | _ => none

/-- After `\x` in a byte or byte string: two hex digits. -/
def escapeXByte : Chars → Option Chars
  | a :: b :: rest => if isHex a && isHex b then some rest else none
  | _ => none

/-- After `\u`: braces around one to six hex digits (underscores allowed after the first) that
name a character; the character and what follows. -/
def escapeU (s : Chars) : Option (Nat × Chars) :=
  match s with
  | '{' :: rest => go rest 0 0
  | _ => none
where
  go : Chars → Nat → Nat → Option (Nat × Chars)
    | '}' :: rest, value, len =>
      if len > 0 && (value < 0xD800 || (0xE000 ≤ value && value ≤ 0x10FFFF)) then some (value, rest)
      else none
    | '_' :: rest, value, len => if len > 0 then go rest value len else none
    | c :: rest, value, len =>
      if isHex c && len < 6 then go rest (value * 16 + hexValue c) (len + 1) else none
    | [], _, _ => none

/-- Skips the blanks after an escaped line break (whose character was `last`); the text from
the first other character on. -/
def continuation : Nat → Chars → Char → Option Chars
  | 0, _, _ => none
  | fuel + 1, s, last =>
    let s' := if last == '\r' then
        match s with
        | '\n' :: r => some r
        | _ => none
      else some s
    match s' with
    | some (c :: r) =>
      if c == ' ' || c == '\t' || c == '\n' || c == '\r' then continuation fuel r c else some (c :: r)
    | _ => none

/-- The rest of a quoted string after its opening quote, up to and past the closing quote.
`bytes` restricts it to a byte string, `cstr` to a C string. -/
def quoted (bytes cstr : Bool) : Nat → Chars → Option Chars
  | 0, _ => none
  | fuel + 1, s =>
    match s with
    | '"' :: rest => some rest
    | '\r' :: '\n' :: rest => quoted bytes cstr fuel rest
    | '\r' :: _ => none
    | '\\' :: 'x' :: rest =>
      let after := if bytes then escapeXByte rest
        else if cstr then (escapeXByte rest).filter fun _ => !(startsWith rest "00")
        else escapeX rest
      match after with
      | some r => quoted bytes cstr fuel r
      | none => none
    | '\\' :: c :: rest =>
      if c == 'n' || c == 'r' || c == 't' || c == '\\' || c == '\'' || c == '"' then
        quoted bytes cstr fuel rest
      else if c == '0' && !cstr then quoted bytes cstr fuel rest
      else if c == 'u' && !bytes then
        match escapeU rest with
        | some (v, r) => if cstr && v == 0 then none else quoted bytes cstr fuel r
        | none => none
      else if c == '\n' || c == '\r' then
        match continuation (rest.length + 1) rest c with
        | some r => quoted bytes cstr fuel r
        | none => none
      else none
    | '\\' :: [] => none
    | c :: rest =>
      if bytes && c.toNat ≥ 0x80 then none
      else if cstr && c.toNat == 0 then none
      else quoted bytes cstr fuel rest
    | [] => none

/-- The hashes that open a raw string (at most 255) and the text after its opening quote. -/
def rawOpening (s : Chars) : Option (Nat × Chars) :=
  let hashes := s.takeWhile (· == '#')
  match s.drop hashes.length with
  | '"' :: rest => if hashes.length ≤ 255 then some (hashes.length, rest) else none
  | _ => none

/-- The text after the closing quote and hashes of a raw string. -/
def rawBody (bytes cstr : Bool) (hashes : Nat) : Chars → Option Chars
  | '"' :: rest =>
    if (rest.take hashes).length == hashes && (rest.take hashes).all (· == '#') then
      some (rest.drop hashes)
    else rawBody bytes cstr hashes rest
  | '\r' :: '\n' :: rest => rawBody bytes cstr hashes rest
  | '\r' :: _ => none
  | c :: rest =>
    if bytes && c.toNat ≥ 0x80 then none
    else if cstr && c.toNat == 0 then none
    else rawBody bytes cstr hashes rest
  | [] => none

/-- A raw string after its prefix letter(s). -/
def rawString (bytes cstr : Bool) (s : Chars) : Option Chars :=
  match rawOpening s with
  | some (hashes, rest) => (rawBody bytes cstr hashes rest).map suffix
  | none => none

/-- A string literal of any kind; what follows it. -/
def stringLike (s : Chars) : Option Chars :=
  let cooked (bytes cstr : Bool) (r : Chars) := (quoted bytes cstr (r.length + 1) r).map suffix
  if startsWith s "\"" then cooked false false (s.drop 1)
  else if startsWith s "r" then rawString false false (s.drop 1)
  else if startsWith s "b\"" then cooked true false (s.drop 2)
  else if startsWith s "br" then rawString true false (s.drop 2)
  else if startsWith s "c\"" then cooked false true (s.drop 2)
  else if startsWith s "cr" then rawString false true (s.drop 2)
  else none

/-- A byte literal `b'.'`; what follows it. -/
def byteLit (s : Chars) : Option Chars :=
  if !startsWith s "b'" then none else
  let body := s.drop 2
  let afterChar : Option Chars :=
    match body with
    | '\\' :: 'x' :: rest => escapeXByte rest
    | '\\' :: c :: rest =>
      if c == 'n' || c == 'r' || c == 't' || c == '\\' || c == '0' || c == '\'' || c == '"' then
        some rest else none
    | c :: rest => if c.toNat < 0x80 then some rest else none
    | [] => none
  match afterChar with
  | some ('\'' :: rest) => some (suffix rest)
  | _ => none

/-- A character literal `'.'`; what follows it. -/
def charLit (s : Chars) : Option Chars :=
  match s with
  | '\'' :: body =>
    let afterChar : Option Chars :=
      match body with
      | '\\' :: 'x' :: rest => escapeX rest
      | '\\' :: 'u' :: rest => (escapeU rest).map (·.2)
      | '\\' :: c :: rest =>
        if c == 'n' || c == 'r' || c == 't' || c == '\\' || c == '0' || c == '\'' || c == '"' then
          some rest else none
      | _ :: rest => some rest
      | [] => none
    match afterChar with
    | some ('\'' :: rest) => some (suffix rest)
    | _ => none
  | _ => none

/-- Fails when an identifier character follows a number. -/
def wordBreak (s : Chars) : Option Chars :=
  match s with
  | c :: _ => if Identifier.isContinue c then none else some s
  | [] => some s

/-- The digits of a float: digits with an optional fraction and exponent, at least one of the
two. The number of characters taken; an exponent without digits leaves the float before it
(when there is a fraction). -/
def floatDigits (s : Chars) : Option Nat :=
  match s with
  | c :: rest => if c.isDigit then mantissa rest 1 false else none
  | [] => none
where
  mantissa : Chars → Nat → Bool → Option Nat
    | c :: rest, len, dot =>
      if c.isDigit || c == '_' then mantissa rest (len + 1) dot
      else if c == '.' then
        if dot then some len
        else match rest with
          | d :: _ => if d == '.' || Identifier.isStart d then none else mantissa rest (len + 1) true
          | [] => mantissa rest (len + 1) true
      else if c == 'e' || c == 'E' then
        exponent rest (len + 1) (if dot then some len else none) false false
      else if dot then some len else none
    | [], len, dot => if dot then some len else none
  exponent : Chars → Nat → Option Nat → Bool → Bool → Option Nat
    | c :: rest, len, before, sign, value =>
      if c == '+' || c == '-' then
        if value then some len
        else if sign then before
        else exponent rest (len + 1) before true value
      else if c.isDigit then exponent rest (len + 1) before sign true
      else if c == '_' then exponent rest (len + 1) before sign value
      else if value then some len else before
    | [], len, before, _, value => if value then some len else before

/-- A float literal; what follows it. -/
def floatLit (s : Chars) : Option Chars :=
  match floatDigits s with
  | some len =>
    let rest := s.drop len
    let rest := match rest with
      | c :: _ => if Identifier.isStart c then suffix rest else rest
      | [] => rest
    wordBreak rest
  | none => none

/-- The digits of an integer in its base (after an optional `0x`, `0o` or `0b`); the number of
characters taken, or nothing when a digit is too large for the base. -/
def intDigits (s : Chars) : Option Nat :=
  let (base, body, skip) :=
    if startsWith s "0x" then (16, s.drop 2, 2)
    else if startsWith s "0o" then (8, s.drop 2, 2)
    else if startsWith s "0b" then (2, s.drop 2, 2)
    else (10, s, 0)
  (go base body 0 true).map (· + skip)
where
  go (base : Nat) : Chars → Nat → Bool → Option Nat
    | c :: rest, len, empty =>
      if c.isDigit then
        if c.toNat - '0'.toNat ≥ base then none else go base rest (len + 1) false
      else if ('a' ≤ c && c ≤ 'f') || ('A' ≤ c && c ≤ 'F') then
        if base ≤ 10 then (if empty then none else some len) else go base rest (len + 1) false
      else if c == '_' then
        if empty && base == 10 then none else go base rest (len + 1) empty
      else if empty then none else some len
    | [], len, empty => if empty then none else some len

/-- An integer literal; what follows it. -/
def intLit (s : Chars) : Option Chars :=
  match intDigits s with
  | some len =>
    let rest := s.drop len
    let rest := match rest with
      | c :: _ => if Identifier.isStart c then suffix rest else rest
      | [] => rest
    wordBreak rest
  | none => none

/-- A literal of any kind: its text and what follows it. -/
def literal (s : Chars) : Option (String × Chars) :=
  let found := (stringLike s).orElse fun _ => (byteLit s).orElse fun _ => (charLit s).orElse
    fun _ => (floatLit s).orElse fun _ => intLit s
  found.map fun rest => (String.ofList (s.take (s.length - rest.length)), rest)

/-- Whether the text starts with a punctuation character (not the start of a comment). -/
def startsPunct (s : Chars) : Bool :=
  match s with
  | c :: _ => punctChars.contains c && !startsWith s "//" && !startsWith s "/*"
  | [] => false

/-- A punctuation character: joint when punctuation follows; a quote only before an
identifier that no quote follows (a lifetime). -/
def punct (s : Chars) : Option (Token × Chars) :=
  if !startsPunct s then none else
  match s with
  | '\'' :: rest =>
    match ident rest with
    | some (_, after) =>
      if startsWith after "'" || (startsWith after "#" && !startsWith rest "r#") then none
      else some (.punct '\'' .joint, rest)
    | none => none
  | c :: rest => some (.punct c (if startsPunct rest then .joint else .alone), rest)
  | [] => none

/-- The prefixes of literals, which never start an identifier. -/
def literalPrefixes : List String :=
  ["r\"", "r#\"", "r##", "b\"", "b'", "br\"", "br#", "c\"", "cr\"", "cr#"]

/-- One token that is not a delimiter. -/
def leaf (s : Chars) : Option (Token × Chars) :=
  match literal s with
  | some (text, rest) => some (.literal text, rest)
  | none =>
    match punct s with
    | some r => some r
    | none =>
      if literalPrefixes.any (startsWith s ·) then none
      else (ident s).map fun (name, rest) => (.ident name, rest)

/-- A delimiter by its opening character. -/
def openingOf : Char → Option Delimiter
  | '(' => some .paren
  | '[' => some .bracket
  | '{' => some .brace
  | _ => none

/-- A delimiter by its closing character. -/
def closingOf : Char → Option Delimiter
  | ')' => some .paren
  | ']' => some .bracket
  | '}' => some .brace
  | _ => none

/-- Scans token trees: `pending` holds the groups opened and not yet closed (their delimiter and
the trees before them), `trees` the trees of the innermost one, in reverse. -/
def trees : Nat → Chars → List (Delimiter × List Token) → List Token → Option (List Token)
  | 0, _, _, _ => none
  | fuel + 1, s, pending, acc =>
    let s := skipBlank (s.length + 1) s
    match docComment s with
    | some (text, isInner, rest) => trees fuel rest pending ((docTokens text isInner).reverse ++ acc)
    | none =>
      match s with
      | [] => if pending.isEmpty then some acc.reverse else none
      | c :: rest =>
        match openingOf c, closingOf c with
        | some d, _ => trees fuel rest ((d, acc) :: pending) []
        | _, some d =>
          match pending with
          | (d', outer) :: more =>
            if d == d' then trees fuel rest more (.group d acc.reverse :: outer) else none
          | [] => none
        | none, none =>
          match leaf s with
          | some (t, rest) => trees fuel rest pending (t :: acc)
          | none => none

end Scan

/-- The token trees of a text, or nothing when the text cannot be read as tokens. A leading
byte order mark is skipped. -/
def scan (text : String) : Option (List Token) :=
  let cs := text.toList
  let cs := match cs with
    | '\uFEFF' :: rest => rest
    | other => other
  Scan.trees (2 * cs.length + 2) cs [] []

end Derive
end ObjectWire
