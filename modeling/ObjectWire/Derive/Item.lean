import ObjectWire.Derive.Grammar
/-!
# Item declarations

The declaration a derive reads: outer attributes, a visibility, `struct`, `enum` or `union`, a
name, generic parameters, a where clause, then the fields or the variants. Types are kept as
their normalised tokens; the content of an attribute is kept as written, for the derive to
read with its own rules.

`Item.parse` reads a whole token list as one declaration and reports the first problem with
the message a reader of the language gives for it.
-/

namespace ObjectWire
namespace Derive

/-- What follows an attribute's path. -/
inductive AttrMeta where
  /-- Nothing: `#[name]`. -/
  | word
  /-- A delimited list `#[name(...)]`, its tokens as written. -/
  | list (delimiter : Delimiter) (tokens : List Token)
  /-- A value: `#[name = value]`. -/
  | value
  deriving Inhabited, Repr

/-- An outer attribute `#[...]`. -/
structure Attribute where
  leadingColon : Bool := false
  path : List String
  args : AttrMeta
  deriving Inhabited, Repr

/-- Whether the attribute's path is the single name, without a leading `::`. -/
def Attribute.isNamed (a : Attribute) (name : String) : Bool :=
  !a.leadingColon && a.path == [name]

/-- A field of a struct, union or variant. -/
structure Field where
  attrs : List Attribute
  name : Option String
  ty : List Token
  deriving Inhabited, Repr

/-- The fields of a struct or variant. -/
inductive Fields where
  | named (fields : List Field)
  | unnamed (fields : List Field)
  | unit
  deriving Inhabited, Repr

/-- A variant of an enum. -/
structure Variant where
  attrs : List Attribute
  name : String
  fields : Fields
  deriving Inhabited, Repr

/-- What an item declares. -/
inductive Body where
  | struct (fields : Fields)
  | enum (variants : List Variant)
  | union (fields : List Field)
  deriving Inhabited, Repr

/-- A declaration a derive reads. -/
structure Item where
  attrs : List Attribute
  name : String
  /-- How many generic parameters it declares. -/
  params : Nat
  body : Body
  deriving Inhabited, Repr

open Parse

/-- Whether a literal stands alone at the front: a literal token, `true`, `false` or a negative
number, with nothing after it. -/
def literalAlone : List Token → Bool
  | [.literal _] => true
  | [.ident "true"] => true
  | [.ident "false"] => true
  | [.punct '-' _, .literal text] => (text.toList.head?.map Char.isDigit).getD false
  | _ => false

/-- The tokens of `before` that are not in its tail `after`. -/
def tokensBetween (before after : List Token) : List Token :=
  before.take (before.length - after.length)

mutual

/-- Segments of a module-style path apart by `::`; whether it stopped where a segment was
due. -/
def pathSegments : Nat → Parse (List String × Bool)
  | 0 => throw "nesting too deep"
  | n + 1 => do
    let ts ← rest
    if !(startsIdent ts || startsPathKeyword ts) then return ([], true)
    let name ← anyIdent
    if !(← peekOp "::") then return ([name], false)
    let _ ← op "::"
    let (more, dangling) ← pathSegments n
    pure (name :: more, dangling)

/-- A module-style path: whether it has a leading `::`, and its segments. -/
def modStylePath : Nat → Parse (Bool × List String)
  | 0 => throw "nesting too deep"
  | n + 1 => do
    let lead ← op? "::"
    let (segs, dangling) ← pathSegments n
    if segs.isEmpty then
      let _ ← ident
      throw "expected identifier"
    if dangling then fail "expected path segment after `::`"
    pure (!lead.isEmpty, segs)

/-- The inside of an attribute's brackets. -/
def attributeMeta : Nat → Parse Attribute
  | 0 => throw "nesting too deep"
  | n + 1 => do
    let (leadingColon, path) ← if ← peekKeyword "unsafe" then do
        let _ ← next
        pure (false, ["unsafe"])
      else modStylePath n
    match (← rest) with
    | .group d inner :: more =>
      skipTo more
      pure { leadingColon, path, args := .list d inner }
    | ts =>
      if startsOp ['='] ts then
        let _ ← op "="
        let ts ← rest
        if literalAlone ts then skipTo []
        else if startsOp ['#'] ts && startsGroup .bracket (skipToken ts) then
          fail "unexpected attribute inside of attribute"
        else
          let _ ← expr n true
        pure { leadingColon, path, args := .value }
      else pure { leadingColon, path, args := .word }

/-- Outer attributes, as many as follow. -/
def outerAttributes : Nat → Parse (List Attribute)
  | 0 => throw "nesting too deep"
  | n + 1 => do
    if !(← peekOp "#") then return []
    let _ ← op "#"
    let a ← within .bracket (attributeMeta n)
    pure (a :: (← outerAttributes n))

/-- A visibility: nothing, `pub`, or `pub(crate)`, `pub(self)`, `pub(super)`, `pub(in path)`.
Parentheses holding anything else after `pub` are left for what follows. -/
def visibility : Nat → Parse Unit
  | 0 => throw "nesting too deep"
  | n + 1 => do
    if !(← peekKeyword "pub") then return
    let _ ← next
    match (← rest) with
    | .group .paren inner :: more =>
      if startsKeyword "crate" inner || startsKeyword "self" inner || startsKeyword "super" inner then
        if inner.length == 1 then skipTo more
      else if startsKeyword "in" inner then
        let _ ← inside (inner.drop 1) (modStylePath n)
        skipTo more
    | _ => pure ()

/-- Bounds of a lifetime, up to where they end. -/
def lifetimeBounds : Nat → Bool → Parse Unit
  | 0, _ => throw "nesting too deep"
  | n + 1, inWhere => do
    let ts ← rest
    if ts.isEmpty || startsOp [','] ts || startsOp ['>'] ts ||
        (inWhere && (startsGroup .brace ts || startsOp [';'] ts || startsOp [':'] ts || startsOp ['='] ts))
    then return
    let _ ← lifetime
    if !(← peekOp "+") then return
    let _ ← op "+"
    lifetimeBounds n inWhere

/-- Bounds of a type parameter or predicate, up to where they end. -/
def paramBounds : Nat → Bool → Parse Unit
  | 0, _ => throw "nesting too deep"
  | n + 1, inWhere => do
    let ts ← rest
    let stop := if inWhere then
        ts.isEmpty || startsGroup .brace ts || startsOp [','] ts || startsOp [';'] ts ||
          (startsOp [':'] ts && !startsOp [':', ':'] ts) || startsOp ['='] ts
      else startsOp [','] ts || startsOp ['>'] ts || startsOp ['='] ts
    if stop then return
    let _ ← bound n false true
    if !(← peekOp "+") then return
    let _ ← op "+"
    paramBounds n inWhere

/-- Generic parameters apart by commas, up to `>`; how many. -/
def paramList : Nat → Parse Nat
  | 0 => throw "nesting too deep"
  | n + 1 => do
    if ← peekOp ">" then return 0
    let _ ← outerAttributes n
    let ts ← rest
    if startsLifetime ts then
      let _ ← lifetime
      if ← peekOp ":" then
        let _ ← op ":"
        lifetimeBounds n false
    else if startsIdent ts then
      let _ ← ident
      if ← peekOp ":" then
        let _ ← op ":"
        paramBounds n false
      if ← peekOp "=" then
        let _ ← op "="
        let _ ← ty n true
    else if startsKeyword "const" ts then
      let _ ← keyword "const"
      let _ ← ident
      let _ ← op ":"
      let _ ← ty n true
      if ← peekOp "=" then
        let _ ← op "="
        let _ ← constArgument n
    else if startsKeyword "_" ts then
      let _ ← next
    else expected ["lifetime", "identifier", "`const`"]
    if ← peekOp ">" then return 1
    let _ ← op ","
    pure (1 + (← paramList n))

/-- Generic parameters `<...>`, if any; how many. -/
def genericParams : Nat → Parse Nat
  | 0 => throw "nesting too deep"
  | n + 1 => do
    if !(← peekOp "<") then return 0
    let _ ← op "<"
    let count ← paramList n
    let _ ← op ">"
    pure count

/-- One where-clause predicate. -/
def predicate : Nat → Parse Unit
  | 0 => throw "nesting too deep"
  | n + 1 => do
    let ts ← rest
    if startsLifetime ts && startsOp [':'] (skipToken ts) then
      let _ ← lifetime
      let _ ← op ":"
      lifetimeBounds n true
    else
      if ← peekKeyword "for" then
        let _ ← boundLifetimes n
      let _ ← ty n true
      let _ ← op ":"
      paramBounds n true

/-- Where-clause predicates apart by commas. -/
def predicates : Nat → Parse Unit
  | 0 => throw "nesting too deep"
  | n + 1 => do
    let ts ← rest
    if ts.isEmpty || startsGroup .brace ts || startsOp [','] ts || startsOp [';'] ts ||
        (startsOp [':'] ts && !startsOp [':', ':'] ts) || startsOp ['='] ts then return
    predicate n
    if !(← peekOp ",") then return
    let _ ← op ","
    predicates n

/-- A where clause. -/
def whereClause : Nat → Parse Unit
  | 0 => throw "nesting too deep"
  | n + 1 => do
    let _ ← keyword "where"
    predicates n

/-- A named field. -/
def namedField : Nat → Parse Field
  | 0 => throw "nesting too deep"
  | n + 1 => do
    let attrs ← outerAttributes n
    visibility n
    let unnamed ← peekKeyword "_"
    let name ← if unnamed then anyIdent else ident
    let _ ← op ":"
    let ts ← rest
    if unnamed && (startsKeyword "struct" ts ||
        (startsKeyword "union" ts && startsGroup .brace (skipToken ts))) then
      let _ ← next
      let _ ← within .brace (namedFields n)
      return { attrs, name := some name, ty := tokensBetween ts (← rest) }
    let t ← ty n true
    pure { attrs, name := some name, ty := t.tokens }

/-- Named fields apart by commas, to the end of the scope. -/
def namedFields : Nat → Parse (List Field)
  | 0 => throw "nesting too deep"
  | n + 1 => do
    if ← atEnd then return []
    let f ← namedField n
    if ← atEnd then return [f]
    let _ ← op ","
    pure (f :: (← namedFields n))

/-- Unnamed fields apart by commas, to the end of the scope. -/
def unnamedFields : Nat → Parse (List Field)
  | 0 => throw "nesting too deep"
  | n + 1 => do
    if ← atEnd then return []
    let attrs ← outerAttributes n
    visibility n
    let t ← ty n true
    let f : Field := { attrs, name := none, ty := t.tokens }
    if ← atEnd then return [f]
    let _ ← op ","
    pure (f :: (← unnamedFields n))

/-- A variant, with its fields and its discriminant if any. -/
def variant : Nat → Parse Variant
  | 0 => throw "nesting too deep"
  | n + 1 => do
    let attrs ← outerAttributes n
    visibility n
    let name ← ident
    let ts ← rest
    let fields ← if startsGroup .brace ts then do pure (Fields.named (← within .brace (namedFields n)))
      else if startsGroup .paren ts then do pure (Fields.unnamed (← within .paren (unnamedFields n)))
      else pure Fields.unit
    if ← peekOp "=" then
      let _ ← op "="
      let _ ← expr n true
    pure { attrs, name, fields }

/-- Variants apart by commas, to the end of the scope. -/
def variants : Nat → Parse (List Variant)
  | 0 => throw "nesting too deep"
  | n + 1 => do
    if ← atEnd then return []
    let v ← variant n
    if ← atEnd then return [v]
    let _ ← op ","
    pure (v :: (← variants n))

/-- The fields of a struct with its where clause and closing `;`. -/
def structFields : Nat → Parse Fields
  | 0 => throw "nesting too deep"
  | n + 1 => do
    let hasWhere ← peekKeyword "where"
    if hasWhere then whereClause n
    let ts ← rest
    if !hasWhere && startsGroup .paren ts then
      let fs ← within .paren (unnamedFields n)
      if ← peekKeyword "where" then
        whereClause n
        if ← peekOp ";" then
          let _ ← op ";"
          return .unnamed fs
        expected ["`;`"]
      if ← peekOp ";" then
        let _ ← op ";"
        return .unnamed fs
      expected ["`where`", "`;`"]
    else if startsGroup .brace ts then
      pure (.named (← within .brace (namedFields n)))
    else if startsOp [';'] ts then
      let _ ← op ";"
      pure .unit
    else if hasWhere then expected ["curly braces", "`;`"]
    else expected ["`where`", "parentheses", "curly braces", "`;`"]

/-- A whole declaration. -/
def item : Nat → Parse Item
  | 0 => throw "nesting too deep"
  | n + 1 => do
    let attrs ← outerAttributes n
    visibility n
    let ts ← rest
    if startsKeyword "struct" ts then
      let _ ← next
      let name ← ident
      let params ← genericParams n
      let fields ← structFields n
      pure { attrs, name, params, body := .struct fields }
    else if startsKeyword "enum" ts then
      let _ ← next
      let name ← ident
      let params ← genericParams n
      if ← peekKeyword "where" then whereClause n
      let vs ← within .brace (variants n)
      pure { attrs, name, params, body := .enum vs }
    else if startsKeyword "union" ts then
      let _ ← next
      let name ← ident
      let params ← genericParams n
      if ← peekKeyword "where" then whereClause n
      let fs ← within .brace (namedFields n)
      pure { attrs, name, params, body := .union fs }
    else expected ["`struct`", "`enum`", "`union`"]

end

/-- The fuel a parse of these tokens needs: a bounded number of steps per token. -/
def parseFuel (toks : List Token) : Nat := 16 * tokenCount toks + 16

/-- Reads a whole token list as one declaration. -/
def Item.parse (toks : List Token) : Except String Item :=
  Parse.run (item (parseFuel toks)) toks

end Derive
end ObjectWire
