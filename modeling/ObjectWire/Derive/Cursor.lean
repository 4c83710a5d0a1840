import ObjectWire.Derive.Token
/-!
# Reading token trees

A parse reads token trees from the front of the current scope: the whole input, or the content
of a group being read. It fails with a message; a message about the place where the scope
ends is prefixed with `unexpected end of input, `. A scope whose content was read without
reading all of it is remembered (the first one only), and the parse of the whole input then
fails with `unexpected token, expected` and the scope's closing delimiter, unless it failed
otherwise first.

Operators made of several punctuation characters (`::`, `->`, `>>=`) are recognised when each
character but the last is joint to the next. Tokens that a parse hands back are normalised the
same way: the characters of an operator are joint but the last, and single characters alone.
-/

namespace ObjectWire
namespace Derive

/-- The position of a parse: the tokens left in the current scope, and the first leftover
message. -/
structure Cursor where
  toks : List Token
  leftover : Option String := none

/-- Parsing over token trees. -/
abbrev Parse := EStateM String Cursor

/-- The reserved words that cannot stand for an identifier. -/
def keywords : List String :=
  ["_", "abstract", "as", "async", "await", "become", "box", "break", "const", "continue",
   "crate", "do", "dyn", "else", "enum", "extern", "false", "final", "fn", "for", "if", "impl",
   "in", "let", "loop", "macro", "match", "mod", "move", "mut", "override", "priv", "pub", "ref",
   "return", "Self", "self", "static", "struct", "super", "trait", "true", "try", "type",
   "typeof", "unsafe", "unsized", "use", "virtual", "where", "while", "yield"]

/-- Whether a token list starts with an operator. -/
def startsOp : List Char → List Token → Bool
  | [c], .punct d _ :: _ => c == d && c != '\''
  | c :: rest, .punct d .joint :: more => c == d && c != '\'' && !rest.isEmpty && startsOp rest more
  | _, _ => false

/-- The normalised tokens of an operator. -/
def opTokens : List Char → List Token
  | [] => []
  | [c] => [.punct c .alone]
  | c :: rest => .punct c .joint :: opTokens rest

/-- Whether a token list starts with a lifetime: a joint quote and an identifier. -/
def startsLifetime : List Token → Bool
  | .punct '\'' .joint :: .ident _ :: _ => true
  | _ => false

/-- The tokens after the first one, a lifetime counting as one token. -/
def skipToken : List Token → List Token
  | .punct '\'' .joint :: .ident _ :: rest => rest
  | _ :: rest => rest
  | [] => []

/-- The tokens after the first `n` ones. -/
def skipTokens : Nat → List Token → List Token
  | 0, ts => ts
  | n + 1, ts => skipTokens n (skipToken ts)

/-- Whether a token list starts with a keyword. -/
def startsKeyword (kw : String) : List Token → Bool
  | .ident name :: _ => name == kw
  | _ => false

/-- Whether a token list starts with an identifier that is not a reserved word. -/
def startsIdent : List Token → Bool
  | .ident name :: _ => !keywords.contains name
  | _ => false

/-- Whether a token list starts with any identifier. -/
def startsAnyIdent : List Token → Bool
  | .ident _ :: _ => true
  | _ => false

/-- Whether a token list starts with a group of a delimiter. -/
def startsGroup (d : Delimiter) : List Token → Bool
  | .group d' _ :: _ => d == d'
  | _ => false

/-- Whether a token list starts with a literal: a literal token, `true` or `false`, or a minus
sign before a number. -/
def startsLiteral : List Token → Bool
  | .literal _ :: _ => true
  | .ident "true" :: _ => true
  | .ident "false" :: _ => true
  | .punct '-' _ :: .literal text :: _ => (text.toList.head?.map Char.isDigit).getD false
  | _ => false

/-- The number of tokens, those inside groups included, which bounds the steps of a parse. -/
def tokenCount : List Token → Nat
  | [] => 0
  | .group _ inner :: more => 1 + tokenCount inner + tokenCount more
  | _ :: more => 1 + tokenCount more

/-- How a delimiter is named in messages. -/
def Delimiter.noun : Delimiter → String
  | .paren => "parentheses"
  | .bracket => "square brackets"
  | .brace => "curly braces"

namespace Parse

/-- The tokens left in the scope. -/
def rest : Parse (List Token) := do pure (← get).toks

/-- Whether the scope is read to its end. -/
def atEnd : Parse Bool := do pure (← get).toks.isEmpty

/-- Looks at the tokens left. -/
def peeks (p : List Token → Bool) : Parse Bool := do pure (p (← get).toks)

/-- Looks at the tokens after the first `n`. -/
def peeksAt (n : Nat) (p : List Token → Bool) : Parse Bool := do
  pure (p (skipTokens n (← get).toks))

/-- Fails with a message about the current place. -/
def fail (msg : String) : Parse α := do
  if (← get).toks.isEmpty then throw ("unexpected end of input, " ++ msg) else throw msg

/-- Fails naming what was expected, as a lookahead does. -/
def expected (names : List String) : Parse α := do
  match names with
  | [] => if (← atEnd) then throw "unexpected end of input" else throw "unexpected token"
  | [a] => fail ("expected " ++ a)
  | [a, b] => fail ("expected " ++ a ++ " or " ++ b)
  | _ => fail ("expected one of: " ++ ", ".intercalate names)

/-- Takes the first token. -/
def next : Parse Token := do
  match (← get).toks with
  | t :: more => modify (fun c => { c with toks := more }); pure t
  | [] => fail "expected a token"

/-- Whether an operator comes next. -/
def peekOp (op : String) : Parse Bool := peeks (startsOp op.toList)

/-- Takes an operator, normalised. A missing operator is reported without the end-of-input
prefix. -/
def op (op : String) : Parse (List Token) := do
  if ← peekOp op then
    modify fun c => { c with toks := c.toks.drop op.length }
    pure (opTokens op.toList)
  else throw ("expected `" ++ op ++ "`")

/-- Takes an operator if it comes next. -/
def op? (o : String) : Parse (List Token) := do
  if ← peekOp o then op o else pure []

/-- Whether a keyword comes next. -/
def peekKeyword (kw : String) : Parse Bool := peeks (startsKeyword kw)

/-- Takes a keyword. -/
def keyword (kw : String) : Parse (List Token) := do
  if ← peekKeyword kw then
    let _ ← next
    pure [.ident kw]
  else fail ("expected `" ++ kw ++ "`")

/-- Takes a keyword if it comes next. -/
def keyword? (kw : String) : Parse (List Token) := do
  if ← peekKeyword kw then keyword kw else pure []

/-- Takes an identifier that is not a reserved word. -/
def ident : Parse String := do
  match (← get).toks with
  | .ident name :: more =>
    if keywords.contains name then fail ("expected identifier, found keyword `" ++ name ++ "`")
    else
      modify fun c => { c with toks := more }
      pure name
  | _ => fail "expected identifier"

/-- Takes any identifier, reserved words included. -/
def anyIdent : Parse String := do
  match (← get).toks with
  | .ident name :: more =>
    modify fun c => { c with toks := more }
    pure name
  | _ => fail "expected identifier"

/-- Takes a lifetime, normalised. -/
def lifetime : Parse (List Token) := do
  match (← get).toks with
  | .punct '\'' .joint :: .ident name :: more =>
    modify fun c => { c with toks := more }
    pure [.punct '\'' .joint, .ident name]
  | _ => fail "expected lifetime"

/-- Takes a literal token. -/
def literal : Parse Token := do
  match (← get).toks with
  | .literal text :: more =>
    modify fun c => { c with toks := more }
    pure (.literal text)
  | _ => fail "expected literal"

/-- Reads the content of the next group, which must have the delimiter; content left unread
is remembered. -/
def within (d : Delimiter) (body : Parse α) : Parse α := do
  match (← get).toks with
  | .group d' inner :: more =>
    if d != d' then fail ("expected " ++ d.noun) else
    let saved ← get
    set ({ toks := inner, leftover := saved.leftover } : Cursor)
    let out ← body
    let after ← get
    let leftover := match after.leftover with
      | some m => some m
      | none => if after.toks.isEmpty then none
        else some ("unexpected token, expected `" ++ d.closing ++ "`")
    set ({ toks := more, leftover } : Cursor)
    pure out
  | _ => fail ("expected " ++ d.noun)

/-- Reads the next group as `within` does and hands it back with its content as `body` made
it. -/
def group (d : Delimiter) (body : Parse (List Token)) : Parse Token := do
  pure (.group d (← within d body))

/-- Runs a parse over other tokens, as a look-ahead scope: what it leaves unread is not
remembered, and the position afterwards is the one before. -/
def inside (toks : List Token) (p : Parse α) : Parse α := do
  let saved ← get
  set ({ toks } : Cursor)
  let out ← p
  set saved
  pure out

/-- Moves the position to other tokens of the scope. -/
def skipTo (toks : List Token) : Parse Unit := modify fun c => { c with toks }

/-- Runs a parse on its own, to look ahead: its result and where it would leave the scope, or
nothing if it fails. The position is not moved. -/
def attempt (p : Parse α) : Parse (Option (α × Cursor)) := fun c =>
  match p c with
  | .ok a c' => .ok (some (a, c')) c
  | .error _ _ => .ok none c

/-- Runs a parse over a token list as a whole input: the result, or the first failure, a
leftover in a group, or tokens left at the end. -/
def run (p : Parse α) (toks : List Token) : Except String α :=
  match p { toks } with
  | .ok a c =>
    match c.leftover with
    | some m => .error m
    | none => if c.toks.isEmpty then .ok a else .error "unexpected token"
  | .error e _ => .error e

end Parse
end Derive
end ObjectWire
