import ObjectWire.Derive.Item
/-!
# Nested attribute entries

The content of an attribute such as `#[name(key, key = value, key(...))]` is a list of entries
apart by commas, a trailing comma allowed. Each entry starts with a key path (identifiers,
reserved words included, apart by `::`); what follows the key is read by the caller's step,
which sees the key and the state so far. After a step the scope must end or go on with a comma.

A string value of an entry may itself hold code, which is read by `StrLit.parseWith`: the
string's text is scanned and parsed as a whole, and a suffix on the literal is refused after
that parse succeeds.
-/

namespace ObjectWire
namespace Derive

open Parse

/-- The key of an entry. -/
structure KeyPath where
  leadingColon : Bool
  segments : List String
  deriving Inhabited, Repr

/-- Whether the key is the single name, without a leading `::`. -/
def KeyPath.is (k : KeyPath) (name : String) : Bool :=
  !k.leadingColon && k.segments == [name]

/-- Further `::`-separated segments of a key. -/
def keyRest : Nat → Parse (List String)
  | 0 => throw "nesting too deep"
  | n + 1 => do
    if !(← peekOp "::") then return []
    let _ ← op "::"
    let name ← anyIdent
    pure (name :: (← keyRest n))

/-- The key of the next entry. -/
def keyPath (fuel : Nat) : Parse KeyPath := do
  let lead ← op? "::"
  let ts ← rest
  if startsAnyIdent ts then
    let first ← anyIdent
    let more ← keyRest fuel
    pure { leadingColon := !lead.isEmpty, segments := first :: more }
  else if ts.isEmpty then fail "expected nested attribute"
  else if startsLiteral ts then fail "unexpected literal in nested attribute, expected ident"
  else fail "unexpected token in nested attribute, expected ident"

/-- Entries to the end of the scope, each read by `step`. -/
def entryList {σ : Type} : Nat → (σ → KeyPath → Parse σ) → σ → Parse σ
  | 0, _, _ => throw "nesting too deep"
  | n + 1, step, s => do
    let k ← keyPath n
    let s ← step s k
    if ← atEnd then return s
    let _ ← op ","
    if ← atEnd then return s
    entryList n step s

/-- Entries in parentheses right after a key: `key(...)`. -/
def nestedEntries {σ : Type} (fuel : Nat) (step : σ → KeyPath → Parse σ) (s : σ) : Parse σ :=
  within .paren (entryList fuel step s)

/-- The `=` before an entry's value. -/
def valueSign : Parse Unit := do
  let _ ← op "="

/-- A string literal value. -/
def stringValue : Parse StrLit := do
  match (← rest) with
  | .literal text :: more =>
    match StrLit.ofText? text with
    | some l =>
      skipTo more
      pure l
    | none => fail "expected string literal"
  | _ => fail "expected string literal"

/-- Lifts a result into a parse. -/
def Parse.ofExcept (r : Except String α) : Parse α :=
  match r with
  | .ok a => pure a
  | .error e => throw e

/-- How an attribute's path is written in messages. -/
def Attribute.pathText (a : Attribute) : String :=
  (if a.leadingColon then "::" else "") ++ "::".intercalate a.path

/-- Reads an attribute's entries: a list attribute's content, each entry by `step`. An
attribute without a list is refused with the form it should have. -/
def Attribute.entries {σ : Type} (a : Attribute) (step : Nat → σ → KeyPath → Parse σ) (s : σ) :
    Except String σ :=
  match a.args with
  | .word => .error ("expected attribute arguments in parentheses: #[" ++ a.pathText ++ "(...)]")
  | .value => .error ("expected parentheses: #[" ++ a.pathText ++ " = ...]")
  | .list _ toks =>
    if toks.isEmpty then .ok s
    else
      let fuel := parseFuel toks
      Parse.run (entryList fuel (step fuel) s) toks

/-- Reads the text of a string literal as code with a parse. -/
def StrLit.parseWith (l : StrLit) (p : Nat → Parse α) : Except String α := do
  match scan l.value with
  | none => .error "cannot parse string into token stream"
  | some toks =>
    let out ← Parse.run (p (parseFuel toks)) toks
    if l.suffix != "" then .error ("unexpected suffix `" ++ l.suffix ++ "` on string literal")
    else pure out

end Derive
end ObjectWire
