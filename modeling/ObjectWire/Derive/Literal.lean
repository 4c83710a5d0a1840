import ObjectWire.Derive.Scan
/-!
# String literals

The string a string literal denotes. A plain literal `"..."` reads its escapes: `\n`, `\r`,
`\t`, `\\`, `\0`, `\'`, `\"`, `\x` with two hex digits, `\u{...}` with up to six hex digits
(underscores allowed among them), and a backslash at the end of a line, which drops the line
break and the blanks after it; a carriage return before a line feed is dropped. A raw literal
`r#"..."#` denotes its text as written. What follows the closing quote (and hashes) is the
literal's suffix.

The scanner has checked the escapes already, so reading them cannot meet a malformed one on
text that it accepted.
-/

namespace ObjectWire
namespace Derive

/-- Whether a literal's text is a string literal, plain or raw. -/
def isStringText (text : String) : Bool :=
  match text.toList with
  | '"' :: _ => true
  | 'r' :: c :: _ => c == '"' || c == '#'
  | _ => false

/-- A string literal: its text as written, the string it denotes and its suffix. -/
structure StrLit where
  text : String
  value : String
  suffix : String
  deriving Inhabited, Repr

namespace StrLit

/-- The hex digits of `\u{...}` up to the closing brace, read into a code point. -/
def unicodeDigits : List Char → Nat → Option (Nat × List Char)
  | '}' :: rest, acc => some (acc, rest)
  | '_' :: rest, acc => unicodeDigits rest acc
  | c :: rest, acc => if Scan.isHex c then unicodeDigits rest (acc * 16 + Scan.hexValue c) else none
  | [], _ => none

/-- Drops the blanks that a line continuation skips. -/
def dropBlank : List Char → List Char
  | c :: rest => if c == ' ' || c == '\t' || c == '\n' || c == '\r' then dropBlank rest else c :: rest
  | [] => []

/-- The characters a plain literal's body denotes up to its closing quote, and what follows
the quote. Each step reads at least one character, so the body's length bounds the steps. -/
def cooked : Nat → List Char → List Char → Option (List Char × List Char)
  | 0, _, _ => none
  | _ + 1, '"' :: rest, acc => some (acc.reverse, rest)
  | n + 1, '\\' :: c :: rest, acc =>
    match c with
    | 'x' =>
      match rest with
      | a :: b :: more => cooked n more (Char.ofNat (Scan.hexValue a * 16 + Scan.hexValue b) :: acc)
      | _ => none
    | 'u' =>
      match rest with
      | '{' :: more =>
        match unicodeDigits more 0 with
        | some (code, after) => cooked n after (Char.ofNat code :: acc)
        | none => none
      | _ => none
    | 'n' => cooked n rest ('\n' :: acc)
    | 'r' => cooked n rest ('\r' :: acc)
    | 't' => cooked n rest ('\t' :: acc)
    | '\\' => cooked n rest ('\\' :: acc)
    | '0' => cooked n rest ('\x00' :: acc)
    | '\'' => cooked n rest ('\'' :: acc)
    | '"' => cooked n rest ('"' :: acc)
    | '\n' => cooked n (dropBlank rest) acc
    | '\r' => cooked n (dropBlank rest) acc
    | _ => none
  | n + 1, '\r' :: '\n' :: rest, acc => cooked n rest ('\n' :: acc)
  | n + 1, c :: rest, acc => cooked n rest (c :: acc)
  | _ + 1, [], _ => none

/-- A raw literal after its `r`: the text between the quotes and the suffix. The closing quote
is the last one; the hashes after it match those before the opening quote. -/
def raw (cs : List Char) : Option (String × String) :=
  let hashes := (cs.takeWhile (· == '#')).length
  match cs.drop hashes with
  | '"' :: body =>
    let tail := body.reverse.findIdx (· == '"')
    if tail < body.length then
      let content := body.take (body.length - tail - 1)
      let after := body.drop (body.length - tail)
      some (String.ofList content, String.ofList (after.drop hashes))
    else none
  | _ => none

/-- The string literal a literal's text is, if it is one. -/
def ofText? (text : String) : Option StrLit :=
  match text.toList with
  | '"' :: body =>
    (cooked (body.length + 1) body []).map fun (v, after) =>
      { text, value := String.ofList v, suffix := String.ofList after }
  | 'r' :: rest =>
    if isStringText text then
      (raw rest).map fun (v, suffix) => { text, value := v, suffix }
    else none
  | _ => none

end StrLit

end Derive
end ObjectWire
