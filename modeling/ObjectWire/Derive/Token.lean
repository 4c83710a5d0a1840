import ObjectWire.Text.Printable
/-!
# Token trees of item source text

Item source text is read as a sequence of token trees: identifiers, punctuation characters,
literals (kept as the text they were written with) and groups in parentheses, brackets or
braces. A punctuation character is joint when the next character of the text is punctuation
too, so that `::` is two joint-then-alone characters.

A token sequence is rendered with one space between tokens, except after a joint punctuation
character; a group shows its delimiters around its content, and braces pad a non-empty
content with a space on each side.
-/

/-!
## Quoted text in structural renderings

Structural renderings (the `Type(..)`, `MemberInfo { .. }` texts) quote strings between
double quotes. Inside, the quote, the backslash, NUL, tab, carriage return and line feed get
their short escapes; a character that extends a grapheme or is not printable is written
`\u{..}` with lowercase hex digits; every other character stands as it is.
-/

namespace ObjectWire
namespace Escape

/-- Lowercase hexadecimal digits of a number, without leading zeros. -/
def hexDigits (n : Nat) : String :=
  String.ofList (Nat.toDigits 16 n)

/-- The escaped form of one character inside a quoted string. -/
def char (c : Char) : String :=
  if c = '"' then "\\\""
  else if c = '\\' then "\\\\"
  else if c = '\n' then "\\n"
  else if c = '\r' then "\\r"
  else if c = '\t' then "\\t"
  else if c.toNat = 0 then "\\0"
  else if Printable.isExtend c || !Printable.isPrintable c then
    "\\u\x7b" ++ hexDigits c.toNat ++ "\x7d"
  else String.singleton c

/-- A string between double quotes, escaped. -/
def quote (s : String) : String :=
  "\"" ++ String.join (s.toList.map char) ++ "\""

end Escape
end ObjectWire

namespace ObjectWire
namespace Derive

/-- The delimiters of a group. -/
inductive Delimiter where
  | paren
  | bracket
  | brace
  deriving DecidableEq, Repr

/-- Whether a punctuation character is glued to the next one. -/
inductive Spacing where
  | alone
  | joint
  deriving DecidableEq, Repr

/-- A token tree. -/
inductive Token where
  /-- An identifier or keyword; a raw identifier keeps its `r#` prefix. -/
  | ident (name : String)
  | punct (c : Char) (spacing : Spacing)
  /-- A literal, as written. -/
  | literal (text : String)
  | group (delimiter : Delimiter) (body : List Token)
  deriving Inhabited, Repr, BEq

namespace Delimiter

/-- The opening character. -/
def opening : Delimiter → String
  | .paren => "("
  | .bracket => "["
  | .brace => "\x7b"

/-- The closing character. -/
def closing : Delimiter → String
  | .paren => ")"
  | .bracket => "]"
  | .brace => "\x7d"

end Delimiter

mutual

/-- The text of a token tree. -/
def Token.render : Token → String
  | .ident name => name
  | .punct c _ => String.singleton c
  | .literal text => text
  | .group .brace [] => "\x7b \x7d"
  | .group .brace body => "\x7b " ++ renderTokens body ++ " \x7d"
  | .group d body => d.opening ++ renderTokens body ++ d.closing

/-- The text of a token sequence: tokens apart by one space, except after a joint
punctuation character. -/
def renderTokens : List Token → String
  | [] => ""
  | [t] => t.render
  | t :: rest =>
    match t with
    | .punct c .joint => String.singleton c ++ renderTokens rest
    | _ => t.render ++ " " ++ renderTokens rest

end

/-- A string literal for a text: the text quoted with the escapes of structural renderings,
where a single quote stays as it is and a NUL is `\0` whatever follows it. -/
def stringLiteral (s : String) : Token :=
  .literal (Escape.quote s)

end Derive
end ObjectWire
