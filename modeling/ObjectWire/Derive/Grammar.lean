import ObjectWire.Derive.Cursor
import ObjectWire.Derive.Literal
/-!
# Types and expressions

The grammar of types, paths and expressions as item declarations and attribute values use
them. Each parse hands back the tokens it read, normalised, which is how the parsed type or
expression is written back: the text of types and expressions in derived code comes from
here. Macro invocations and blocks keep their tokens as written.

Binary operators bind by the usual precedence levels (assignment lowest, then ranges, `||`,
`&&`, comparisons, `|`, `^`, `&`, shifts, sums, products, casts); comparisons do not chain and
a range cannot be the left operand of another operator.
-/

namespace ObjectWire
namespace Derive

open Parse

/-- A parsed path. -/
structure PathOut where
  tokens : List Token
  qself : Bool := false
  leadingColon : Bool := false
  segments : Nat := 0
  /-- The last segment has no arguments. -/
  lastBare : Bool := true
  /-- No segment has arguments. -/
  modStyle : Bool := true
  /-- The last segment has parenthesized arguments. -/
  parenthesized : Bool := false

/-- A parsed type. -/
structure TypeOut where
  tokens : List Token
  /-- The type is a path of one segment without leading `::`, qualified self or parenthesized
  arguments. -/
  simple : Bool := false
  /-- The type is a path. -/
  isPath : Bool := false

/-- A parsed expression. -/
structure ExprOut where
  tokens : List Token
  isRange : Bool := false
  isCompare : Bool := false

/-- Precedence levels of expressions, lowest first. -/
def Prec.jump : Nat := 0
/-- Assignments. -/
def Prec.assign : Nat := 1
/-- Ranges. -/
def Prec.range : Nat := 2
/-- Comparisons. -/
def Prec.compare : Nat := 6
/-- Casts. -/
def Prec.cast : Nat := 13

/-- The binary operators with their precedence, in the order they are tried. -/
def binaryOps : List (String × Nat) :=
  [("+=", 1), ("-=", 1), ("*=", 1), ("/=", 1), ("%=", 1), ("^=", 1), ("&=", 1), ("|=", 1),
   ("<<=", 1), (">>=", 1), ("&&", 4), ("||", 3), ("<<", 10), (">>", 10), ("==", 6), ("<=", 6),
   ("!=", 6), (">=", 6), ("+", 11), ("-", 11), ("*", 12), ("/", 12), ("%", 12), ("^", 8),
   ("&", 9), ("|", 7), ("<", 6), (">", 6)]

/-- The binary operator the tokens start with. -/
def binaryOp? (ts : List Token) : Option (String × Nat) :=
  binaryOps.find? fun (o, _) => startsOp o.toList ts

/-- The precedence of what follows an operand. -/
def nextPrec (ts : List Token) : Nat :=
  match binaryOp? ts with
  | some (_, p) => p
  | none =>
    if startsOp ['='] ts && !startsOp ['=', '>'] ts then Prec.assign
    else if startsOp ['.', '.'] ts then Prec.range
    else if startsKeyword "as" ts then Prec.cast
    else Prec.jump

/-- Whether a range end is absent: what follows cannot start one. -/
def rangeEndAbsent (allowStruct : Bool) (ts : List Token) : Bool :=
  ts.isEmpty || startsOp [','] ts || startsOp [';'] ts ||
  (startsOp ['.'] ts && !startsOp ['.', '.'] ts) || startsOp ['?'] ts || startsOp ['=', '>'] ts ||
  (!allowStruct && startsGroup .brace ts) || startsOp ['='] ts || startsOp ['+'] ts ||
  startsOp ['/'] ts || startsOp ['*'] ts || startsOp ['%'] ts || startsOp ['^'] ts ||
  startsOp ['>'] ts || startsOp ['<', '='] ts || startsOp ['!', '='] ts || startsOp ['-'] ts ||
  startsOp ['&', '&'] ts || startsOp ['|', '|'] ts || startsOp ['|'] ts

/-- The message for a cast followed by something that would need parentheses. -/
def castFollow? (ts : List Token) : Option String :=
  if startsOp ['.'] ts && !startsOp ['.', '.'] ts then
    let after := skipToken ts
    if startsKeyword "await" after then some "`.await`"
    else if startsIdent after && (startsGroup .paren (skipToken after) || startsOp [':', ':'] (skipToken after))
    then some "a method call"
    else some "a field access"
  else if startsOp ['?'] ts then some "`?`"
  else if startsGroup .bracket ts then some "indexing"
  else if startsGroup .paren ts then some "a function call"
  else none

/-- The names a type may start with, in the order a type is looked for. -/
def typeStarts : List String :=
  ["`for`", "parentheses", "`fn`", "`unsafe`", "`extern`", "identifier", "`::`", "`<`", "`dyn`",
   "square brackets", "`*`", "`&`", "`!`", "`impl`", "`_`", "lifetime"]

/-- Whether the tokens start a path segment keyword (`super`, `self`, `Self`, `crate`). -/
def startsPathKeyword (ts : List Token) : Bool :=
  startsKeyword "super" ts || startsKeyword "self" ts || startsKeyword "Self" ts ||
  startsKeyword "crate" ts

mutual

/-- A type; `allowPlus` lets it be a sum of bounds. -/
def ty : Nat → Bool → Parse TypeOut
  | 0, _ => throw "nesting too deep"
  | n + 1, allowPlus => do
    let forToks ← if ← peekKeyword "for" then boundLifetimes n else pure []
    let hasFor := !forToks.isEmpty
    let ts ← rest
    if hasFor then
      let ok := startsIdent ts || startsKeyword "fn" ts || startsKeyword "unsafe" ts ||
        startsKeyword "extern" ts || startsPathKeyword ts
      if !ok || startsKeyword "dyn" ts then
        expected ["identifier", "`fn`", "`unsafe`", "`extern`", "`super`", "`self`", "`Self`", "`crate`"]
    if startsGroup .paren ts && !hasFor then parenType n allowPlus
    else if startsKeyword "fn" ts || startsKeyword "unsafe" ts || startsKeyword "extern" ts then
      pure { tokens := forToks ++ (← bareFn n) }
    else if startsIdent ts || startsPathKeyword ts || startsOp [':', ':'] ts || startsOp ['<'] ts then
      let p ← typePath n
      if p.qself then return { tokens := p.tokens, isPath := true }
      if (← peekOp "!") && !(← peekOp "!=") && p.modStyle then
        let bang ← op "!"
        let body ← next
        match body with
        | .group _ _ => return { tokens := p.tokens ++ bang ++ [body] }
        | _ => throw "expected delimiter"
      if hasFor || (allowPlus && (← peekOp "+")) then
        let more ← if allowPlus then plusBounds n else pure []
        return { tokens := forToks ++ p.tokens ++ more }
      pure { tokens := p.tokens, isPath := true,
             simple := !p.leadingColon && p.segments == 1 && !p.parenthesized }
    else if startsKeyword "dyn" ts then
      let d ← keyword "dyn"
      let star ← op? "*"
      let (bs, anyTrait) ← bounds n allowPlus false false
      if !anyTrait then throw "at least one trait is required for an object type"
      pure { tokens := d ++ star ++ bs }
    else if startsGroup .bracket ts then
      let g ← group .bracket (do
        let elem ← ty n true
        if ← peekOp ";" then
          let semi ← op ";"
          let len ← expr n true
          pure (elem.tokens ++ semi ++ len.tokens)
        else pure elem.tokens)
      pure { tokens := [g] }
    else if startsOp ['*'] ts then
      let star ← op "*"
      let q ← if ← peekKeyword "const" then keyword "const"
        else if ← peekKeyword "mut" then keyword "mut"
        else expected ["`const`", "`mut`"]
      let elem ← ty n false
      pure { tokens := star ++ q ++ elem.tokens }
    else if startsOp ['&'] ts then
      let amp ← op "&"
      let lt ← if ← peeks startsLifetime then lifetime else pure []
      let m ← keyword? "mut"
      let elem ← ty n false
      pure { tokens := amp ++ lt ++ m ++ elem.tokens }
    else if startsOp ['!'] ts then
      pure { tokens := ← op "!" }
    else if startsKeyword "impl" ts then
      let i ← keyword "impl"
      let (bs, anyTrait) ← bounds n allowPlus true true
      if !anyTrait then throw "at least one trait must be specified"
      pure { tokens := i ++ bs }
    else if startsKeyword "_" ts then
      pure { tokens := ← keyword "_" }
    else if startsLifetime ts then
      let (bs, anyTrait) ← bounds n true false false
      if !anyTrait then throw "at least one trait is required for an object type"
      pure { tokens := bs }
    else expected typeStarts

/-- A type in parentheses: the unit type, a tuple, a parenthesized type or bound. -/
def parenType : Nat → Bool → Parse TypeOut
  | 0, _ => throw "nesting too deep"
  | n + 1, allowPlus => do
    let isPathInside ← peeks fun ts =>
      match ts with
      | .group .paren inner :: _ => startsIdent inner || startsPathKeyword inner || startsOp [':', ':'] inner
      | _ => false
    let isMaybe ← peeks fun ts =>
      match ts with
      | .group .paren inner :: _ => startsOp ['?'] inner
      | _ => false
    let g ← group .paren (do
      if ← atEnd then return []
      if ← peeks startsLifetime then
        let (bs, _) ← bounds n true false false
        return bs
      if ← peekOp "?" then
        return (← traitBound n)
      let first ← ty n true
      if ← peekOp "," then
        let comma ← op ","
        let more ← typeElems n
        return first.tokens ++ comma ++ more
      pure first.tokens)
    let single ← match g with
      | .group _ body => pure !(body.any fun t => t == .punct ',' .alone)
      | _ => pure false
    if isMaybe then
      pure { tokens := g :: (← plusEach n) }
    else if allowPlus && single && isPathInside && (← peekOp "+") then
      pure { tokens := g :: (← plusBounds n) }
    else pure { tokens := [g] }

/-- `+` and a bound, as often as a `+` follows. -/
def plusEach : Nat → Parse (List Token)
  | 0 => throw "nesting too deep"
  | n + 1 => do
    if !(← peekOp "+") then return []
    let plus ← op "+"
    let (b, _) ← bound n false false
    pure (plus ++ b ++ (← plusEach n))

/-- The remaining elements of a tuple type, after a comma. -/
def typeElems : Nat → Parse (List Token)
  | 0 => throw "nesting too deep"
  | n + 1 => do
    if ← atEnd then return []
    let t ← ty n true
    if ← atEnd then return t.tokens
    let comma ← op ","
    pure (t.tokens ++ comma ++ (← typeElems n))

/-- `+` and further bounds after a first one. -/
def plusBounds : Nat → Parse (List Token)
  | 0 => throw "nesting too deep"
  | n + 1 => do
    if !(← peekOp "+") then return []
    let plus ← op "+"
    let ts ← rest
    if !(startsAnyIdent ts || startsOp [':', ':'] ts || startsOp ['?'] ts || startsLifetime ts ||
        startsGroup .paren ts) then
      return plus
    let (b, _) ← bound n false false
    pure (plus ++ b ++ (← plusBounds n))

/-- A path type, with parenthesized arguments on a last segment that has none. -/
def typePath : Nat → Parse PathOut
  | 0 => throw "nesting too deep"
  | n + 1 => do
    let p ← qpath n false
    if !p.qself && p.lastBare then
      let ts ← rest
      if startsGroup .paren ts || (startsOp [':', ':'] ts && startsGroup .paren (skipTokens 2 ts)) then
        let colons ← op? "::"
        let args ← parenArgs n
        return { p with tokens := p.tokens ++ colons ++ args, lastBare := false, modStyle := false,
                        parenthesized := true }
    pure p

/-- A path, possibly with a qualified self `<T as Trait>::`. -/
def qpath : Nat → Bool → Parse PathOut
  | 0, _ => throw "nesting too deep"
  | n + 1, exprStyle => do
    if ← peekOp "<" then
      let lt ← op "<"
      let this ← ty n true
      let asPart ← if ← peekKeyword "as" then do
          let a ← keyword "as"
          let p ← pathHelper n false
          pure (a ++ p.tokens)
        else pure []
      let gt ← op ">"
      let colons ← op "::"
      let segs ← qselfSegments n exprStyle
      pure { tokens := lt ++ this.tokens ++ asPart ++ gt ++ colons ++ segs.tokens, qself := true,
             segments := segs.segments, lastBare := segs.lastBare, modStyle := segs.modStyle }
    else pathHelper n exprStyle

/-- The segments after a qualified self. -/
def qselfSegments : Nat → Bool → Parse PathOut
  | 0, _ => throw "nesting too deep"
  | n + 1, exprStyle => do
    let (s, hasArgs) ← segment n exprStyle
    if ← peekOp "::" then
      let c ← op "::"
      let more ← qselfSegments n exprStyle
      pure { more with tokens := s ++ c ++ more.tokens, segments := more.segments + 1,
                       modStyle := more.modStyle && !hasArgs }
    else pure { tokens := s, segments := 1, lastBare := !hasArgs, modStyle := !hasArgs }

/-- A path: an optional leading `::`, then segments apart by `::`. -/
def pathHelper : Nat → Bool → Parse PathOut
  | 0, _ => throw "nesting too deep"
  | n + 1, exprStyle => do
    let lead ← op? "::"
    let (s, hasArgs) ← segment n exprStyle
    pathRest n exprStyle
      { tokens := lead ++ s, leadingColon := !lead.isEmpty, segments := 1, lastBare := !hasArgs,
        modStyle := !hasArgs }

/-- Further segments of a path, not before `::(`. -/
def pathRest : Nat → Bool → PathOut → Parse PathOut
  | 0, _, _ => throw "nesting too deep"
  | n + 1, exprStyle, acc => do
    let ts ← rest
    if startsOp [':', ':'] ts && !startsGroup .paren (skipTokens 2 ts) then
      let c ← op "::"
      let (s, hasArgs) ← segment n exprStyle
      pathRest n exprStyle
        { acc with tokens := acc.tokens ++ c ++ s, segments := acc.segments + 1, lastBare := !hasArgs,
                   modStyle := acc.modStyle && !hasArgs }
    else pure acc

/-- A path segment: its tokens and whether it has arguments. -/
def segment : Nat → Bool → Parse (List Token × Bool)
  | 0, _ => throw "nesting too deep"
  | n + 1, exprStyle => do
    let ts ← rest
    if startsKeyword "super" ts || startsKeyword "self" ts || startsKeyword "crate" ts ||
        startsKeyword "try" ts then
      return ([.ident (← anyIdent)], false)
    let name ← if startsKeyword "Self" ts then anyIdent else ident
    let ts ← rest
    if (!exprStyle && startsOp ['<'] ts && !startsOp ['<', '='] ts && !startsOp ['<', '<', '='] ts) ||
        (startsOp [':', ':'] ts && startsOp ['<'] (skipTokens 2 ts)) then
      let args ← angleArgs n
      pure (.ident name :: args, true)
    else pure ([.ident name], false)

/-- Angle-bracketed generic arguments, with an optional leading `::`. -/
def angleArgs : Nat → Parse (List Token)
  | 0 => throw "nesting too deep"
  | n + 1 => do
    let colons ← op? "::"
    let lt ← op "<"
    let args ← argList n
    let gt ← op ">"
    pure (colons ++ lt ++ args ++ gt)

/-- Generic arguments apart by commas, up to `>`. -/
def argList : Nat → Parse (List Token)
  | 0 => throw "nesting too deep"
  | n + 1 => do
    if ← peekOp ">" then return []
    let a ← genericArg n
    if ← peekOp ">" then return a
    let comma ← op ","
    pure (a ++ comma ++ (← argList n))

/-- A generic argument: a lifetime, a constant, a type, or an associated type or constraint. -/
def genericArg : Nat → Parse (List Token)
  | 0 => throw "nesting too deep"
  | n + 1 => do
    let ts ← rest
    if startsLifetime ts && !startsOp ['+'] (skipToken ts) then return (← lifetime)
    if startsLiteral ts || startsGroup .brace ts then return (← constArgument n)
    let t ← ty n true
    if t.simple then
      if ← peekOp "=" then
        let eq ← op "="
        let ts ← rest
        if startsLiteral ts || startsGroup .brace ts then return t.tokens ++ eq ++ (← constArgument n)
        return t.tokens ++ eq ++ (← ty n true).tokens
      if ← peekOp ":" then
        let colon ← op ":"
        return t.tokens ++ colon ++ (← constraintBounds n)
    pure t.tokens

/-- Bounds of an associated type constraint, up to `,` or `>`. -/
def constraintBounds : Nat → Parse (List Token)
  | 0 => throw "nesting too deep"
  | n + 1 => do
    if (← peekOp ",") || (← peekOp ">") then return []
    let (b, _) ← bound n false true
    if !(← peekOp "+") then return b
    let plus ← op "+"
    pure (b ++ plus ++ (← constraintBounds n))

/-- A constant generic argument: a literal, an identifier or a block. -/
def constArgument : Nat → Parse (List Token)
  | 0 => throw "nesting too deep"
  | _ + 1 => do
    match (← rest) with
    | .punct '-' _ :: .literal text :: _ =>
      let _ ← next
      let _ ← next
      pure [.literal ("-" ++ text)]
    | .literal _ :: _ => pure [← next]
    | .ident "true" :: _ => pure [← next]
    | .ident "false" :: _ => pure [← next]
    | ts =>
      if startsIdent ts then pure [.ident (← ident)]
      else if startsGroup .brace ts then pure [← next]
      else expected []

/-- Parenthesized generic arguments `(A, B) -> C`. -/
def parenArgs : Nat → Parse (List Token)
  | 0 => throw "nesting too deep"
  | n + 1 => do
    let g ← group .paren (typeTerminated n)
    let out ← returnType n false
    pure (g :: out)

/-- Types apart by commas, to the end of the scope. -/
def typeTerminated : Nat → Parse (List Token)
  | 0 => throw "nesting too deep"
  | n + 1 => do
    if ← atEnd then return []
    let t ← ty n true
    if ← atEnd then return t.tokens
    let comma ← op ","
    pure (t.tokens ++ comma ++ (← typeTerminated n))

/-- An optional return type `-> T`. -/
def returnType : Nat → Bool → Parse (List Token)
  | 0, _ => throw "nesting too deep"
  | n + 1, allowPlus => do
    if ← peekOp "->" then
      let arrow ← op "->"
      pure (arrow ++ (← ty n allowPlus).tokens)
    else pure []

/-- One bound: a lifetime or a trait bound, possibly in parentheses; whether it is a trait. -/
def bound : Nat → Bool → Bool → Parse (List Token × Bool)
  | 0, _, _ => throw "nesting too deep"
  | n + 1, allowPrecise, allowConst => do
    if ← peeks startsLifetime then return (← lifetime, false)
    if ← peeks (startsGroup .paren) then
      let g ← group .paren (boundBody n allowPrecise allowConst)
      return ([g], true)
    return (← boundBody n allowPrecise allowConst, true)

/-- The inside of a bound: `~const` or `use<..>` forms, or a trait bound. -/
def boundBody : Nat → Bool → Bool → Parse (List Token)
  | 0, _, _ => throw "nesting too deep"
  | n + 1, allowPrecise, allowConst => do
    let ts ← rest
    if allowConst && startsOp ['~'] ts && startsKeyword "const" (skipToken ts) then
      let tilde ← op "~"
      let c ← keyword "const"
      return tilde ++ c ++ (← traitBound n)
    if allowPrecise && startsKeyword "use" ts then
      let u ← keyword "use"
      let lt ← op "<"
      let args ← argList n
      let gt ← op ">"
      return u ++ lt ++ args ++ gt
    traitBound n

/-- A trait bound: `?`, `for<..>`, then a path with parenthesized arguments possibly. -/
def traitBound : Nat → Parse (List Token)
  | 0 => throw "nesting too deep"
  | n + 1 => do
    let q ← op? "?"
    let lts ← if ← peekKeyword "for" then boundLifetimes n else pure []
    let p ← pathHelper n false
    if p.lastBare then
      let ts ← rest
      if startsGroup .paren ts || (startsOp [':', ':'] ts && startsGroup .paren (skipTokens 2 ts)) then
        let colons ← op? "::"
        let args ← parenArgs n
        return q ++ lts ++ p.tokens ++ colons ++ args
    pure (q ++ lts ++ p.tokens)

/-- Bounds apart by `+` (when allowed); whether one of them is a trait. -/
def bounds : Nat → Bool → Bool → Bool → Parse (List Token × Bool)
  | 0, _, _, _ => throw "nesting too deep"
  | n + 1, allowPlus, allowPrecise, allowConst => do
    let (b, isTrait) ← bound n allowPrecise allowConst
    if !(allowPlus && (← peekOp "+")) then return (b, isTrait)
    let plus ← op "+"
    let ts ← rest
    if !(startsAnyIdent ts || startsOp [':', ':'] ts || startsOp ['?'] ts || startsLifetime ts ||
        startsGroup .paren ts || startsOp ['~'] ts) then
      return (b ++ plus, isTrait)
    let (more, anyTrait) ← bounds n allowPlus allowPrecise allowConst
    pure (b ++ plus ++ more, isTrait || anyTrait)

/-- `for<'a, ..>`. -/
def boundLifetimes : Nat → Parse (List Token)
  | 0 => throw "nesting too deep"
  | n + 1 => do
    let f ← keyword "for"
    let lt ← op "<"
    let ls ← lifetimeList n
    let gt ← op ">"
    pure (f ++ lt ++ ls ++ gt)

/-- Lifetimes apart by commas, up to `>`. -/
def lifetimeList : Nat → Parse (List Token)
  | 0 => throw "nesting too deep"
  | n + 1 => do
    if ← peekOp ">" then return []
    let l ← lifetime
    if ← peekOp ">" then return l
    let comma ← op ","
    pure (l ++ comma ++ (← lifetimeList n))

/-- A function pointer type. -/
def bareFn : Nat → Parse (List Token)
  | 0 => throw "nesting too deep"
  | n + 1 => do
    let u ← keyword? "unsafe"
    let abi ← if ← peekKeyword "extern" then do
        let e ← keyword "extern"
        match (← rest) with
        | .literal text :: _ => if isStringText text then pure (e ++ [← next]) else pure e
        | _ => pure e
      else pure []
    let f ← keyword "fn"
    let g ← group .paren (fnArgs n true)
    let out ← returnType n false
    pure (u ++ abi ++ f ++ [g] ++ out)

/-- The arguments of a function pointer type. -/
def fnArgs : Nat → Bool → Parse (List Token)
  | 0, _ => throw "nesting too deep"
  | n + 1, first => do
    if ← atEnd then return []
    let ts ← rest
    if startsOp ['.', '.', '.'] ts then
      let dots ← op "..."
      return dots
    let name ← if (startsAnyIdent ts) && startsOp [':'] (skipToken ts) &&
        !startsOp [':', ':'] (skipToken ts) then do
        let nm ← anyIdent
        let colon ← op ":"
        pure (.ident nm :: colon)
      else pure []
    let _ := first
    let t ← ty n true
    if ← atEnd then return name ++ t.tokens
    let comma ← op ","
    pure (name ++ t.tokens ++ comma ++ (← fnArgs n false))

/-- An expression; `allowStruct` lets a path followed by braces be a struct literal. -/
def expr : Nat → Bool → Parse ExprOut
  | 0, _ => throw "nesting too deep"
  | n + 1, allowStruct => do
    let lhs ← unary n allowStruct
    exprLoop n lhs allowStruct Prec.jump

/-- Operators after a left operand, at or above a precedence level. -/
def exprLoop : Nat → ExprOut → Bool → Nat → Parse ExprOut
  | 0, _, _, _ => throw "nesting too deep"
  | n + 1, lhs, allowStruct, base => do
    if lhs.isRange then return lhs
    let ts ← rest
    match binaryOp? ts with
    | some (o, prec) =>
      if prec < base then return lhs
      if prec == Prec.compare && lhs.isCompare then fail "comparison operators cannot be chained"
      let opToks ← op o
      let rhs ← binopRhs n allowStruct prec
      exprLoop n { tokens := lhs.tokens ++ opToks ++ rhs.tokens, isCompare := prec == Prec.compare }
        allowStruct base
    | none =>
      if Prec.assign ≥ base && startsOp ['='] ts && !startsOp ['=', '>'] ts then
        let eq ← op "="
        let rhs ← binopRhs n allowStruct Prec.assign
        exprLoop n { tokens := lhs.tokens ++ eq ++ rhs.tokens } allowStruct base
      else if Prec.range ≥ base && startsOp ['.', '.'] ts then
        let limits ← rangeLimits
        let stop ← rangeEnd n (limits == opTokens ['.', '.']) allowStruct
        exprLoop n { tokens := lhs.tokens ++ limits ++ stop, isRange := true } allowStruct base
      else if Prec.cast ≥ base && startsKeyword "as" ts then
        let a ← keyword "as"
        let t ← ty n false
        match castFollow? (← rest) with
        | some what => fail ("casts cannot be followed by " ++ what)
        | none => exprLoop n { tokens := lhs.tokens ++ a ++ t.tokens } allowStruct base
      else pure lhs

/-- The right operand of a binary operator of a precedence level. -/
def binopRhs : Nat → Bool → Nat → Parse ExprOut
  | 0, _, _ => throw "nesting too deep"
  | n + 1, allowStruct, prec => do
    let r ← unary n allowStruct
    rhsLoop n r allowStruct prec

/-- Extends a right operand with operators binding tighter than its own. -/
def rhsLoop : Nat → ExprOut → Bool → Nat → Parse ExprOut
  | 0, _, _, _ => throw "nesting too deep"
  | n + 1, r, allowStruct, prec => do
    let nextP := nextPrec (← rest)
    if nextP > prec || (nextP == prec && prec == Prec.assign) then
      let before := (← rest).length
      let r' ← exprLoop n r allowStruct nextP
      if (← rest).length == before then return r'
      rhsLoop n r' allowStruct prec
    else pure r

/-- The end of a range, if one follows. -/
def rangeEnd : Nat → Bool → Bool → Parse (List Token)
  | 0, _, _ => throw "nesting too deep"
  | n + 1, halfOpen, allowStruct => do
    if halfOpen && rangeEndAbsent allowStruct (← rest) then return []
    pure (← binopRhs n allowStruct Prec.range).tokens

/-- A prefix operator expression or a trailer expression. -/
def unary : Nat → Bool → Parse ExprOut
  | 0, _ => throw "nesting too deep"
  | n + 1, allowStruct => do
    let ts ← rest
    if startsOp ['&'] ts then
      let amp ← op "&"
      let ts ← rest
      let raw ← if startsKeyword "raw" ts && (startsKeyword "mut" (skipToken ts) || startsKeyword "const" (skipToken ts))
        then pure [.ident (← anyIdent)] else pure []
      let m ← keyword? "mut"
      let c ← if !raw.isEmpty && m.isEmpty then keyword "const" else pure []
      let e ← unary n allowStruct
      pure { tokens := amp ++ raw ++ m ++ c ++ e.tokens }
    else if startsOp ['*'] ts || startsOp ['!'] ts || startsOp ['-'] ts then
      let o ← next
      let e ← unary n allowStruct
      let oTok := match o with
        | .punct c _ => Token.punct c .alone
        | t => t
      pure { tokens := oTok :: e.tokens }
    else
      let a ← atom n allowStruct
      trailers n a

/-- Calls, method calls, fields, indexing and `?` after an operand. -/
def trailers : Nat → ExprOut → Parse ExprOut
  | 0, _ => throw "nesting too deep"
  | n + 1, e => do
    let ts ← rest
    if startsGroup .paren ts then
      let g ← group .paren (exprTerminated n)
      trailers n { tokens := e.tokens ++ [g] }
    else if startsOp ['.'] ts && !startsOp ['.', '.'] ts && !e.isRange then
      let dot ← op "."
      match (← rest) with
      | .literal text :: _ =>
        if text.all fun c => c.isDigit || c == '.' then
          let _ ← next
          let parts := (text.splitOn ".").filter (· != "")
          let pieces := (parts.map fun p => [Token.literal p]).intersperse [Token.punct '.' .alone]
          trailers n { tokens := e.tokens ++ dot ++ pieces.flatten }
        else fail "expected identifier or integer"
      | _ =>
        if ← peekKeyword "await" then
          let a ← keyword "await"
          return (← trailers n { tokens := e.tokens ++ dot ++ a })
        let name ← match (← rest) with
          | .ident nm :: _ => do let _ ← next; pure nm
          | _ => fail "expected identifier or integer"
        let turbofish ← if ← peekOp "::" then angleArgs n else pure []
        if !turbofish.isEmpty || (← peeks (startsGroup .paren)) then
          let g ← group .paren (exprTerminated n)
          trailers n { tokens := e.tokens ++ dot ++ [.ident name] ++ turbofish ++ [g] }
        else trailers n { tokens := e.tokens ++ dot ++ [.ident name] }
    else if startsGroup .bracket ts then
      let g ← group .bracket (do pure (← expr n true).tokens)
      trailers n { tokens := e.tokens ++ [g] }
    else if startsOp ['?'] ts then
      let q ← op "?"
      trailers n { tokens := e.tokens ++ q }
    else pure e

/-- Expressions apart by commas, to the end of the scope. -/
def exprTerminated : Nat → Parse (List Token)
  | 0 => throw "nesting too deep"
  | n + 1 => do
    if ← atEnd then return []
    let e ← expr n true
    if ← atEnd then return e.tokens
    let comma ← op ","
    pure (e.tokens ++ comma ++ (← exprTerminated n))

/-- An operand: a literal, a path (or macro call, or struct literal), a parenthesized or tuple
expression, an array, a block, a prefix range, or `_`. -/
def atom : Nat → Bool → Parse ExprOut
  | 0, _ => throw "nesting too deep"
  | n + 1, allowStruct => do
    let ts ← rest
    if startsLiteral ts && !startsOp ['-'] ts then return { tokens := [← next] }
    if startsIdent ts || startsOp [':', ':'] ts || startsOp ['<'] ts || startsKeyword "self" ts ||
        startsKeyword "Self" ts || startsKeyword "super" ts || startsKeyword "crate" ts ||
        (startsKeyword "try" ts && (startsOp ['!'] (skipToken ts) || startsOp [':', ':'] (skipToken ts))) then
      let p ← qpath n true
      if !p.qself && (← peekOp "!") && !(← peekOp "!=") && p.modStyle then
        let bang ← op "!"
        let body ← next
        match body with
        | .group _ _ => return { tokens := p.tokens ++ bang ++ [body] }
        | _ => throw "expected delimiter"
      if allowStruct && (← peeks (startsGroup .brace)) then
        let body ← group .brace (literalFields n)
        return { tokens := p.tokens ++ [body] }
      return { tokens := p.tokens }
    if startsGroup .paren ts then
      let g ← group .paren (exprTerminated n)
      return { tokens := [g] }
    if startsGroup .bracket ts then
      let g ← group .bracket (arrayBody n)
      return { tokens := [g] }
    if startsGroup .brace ts then return { tokens := [← next] }
    if startsOp ['.', '.'] ts then
      let limits ← rangeLimits
      let stop ← rangeEnd n (limits == opTokens ['.', '.']) allowStruct
      return { tokens := limits ++ stop, isRange := true }
    if startsKeyword "_" ts then return { tokens := ← keyword "_" }
    if startsKeyword "return" ts || startsKeyword "break" ts || startsKeyword "continue" ts then
      let k ← next
      if (← atEnd) || (← peekOp ",") || (← peekOp ";") then return { tokens := [k] }
      if startsKeyword "continue" ts then return { tokens := [k] }
      let e ← expr n allowStruct
      return { tokens := k :: e.tokens }
    fail "expected an expression"

/-- The fields of a struct literal apart by commas, each `member: value` or a shorthand name,
possibly ending with `..base`. -/
def literalFields : Nat → Parse (List Token)
  | 0 => throw "nesting too deep"
  | n + 1 => do
    if ← atEnd then return []
    if ← peekOp ".." then
      let dots ← op ".."
      if ← atEnd then return dots
      return dots ++ (← expr n true).tokens
    let (member, named) ← match (← rest) with
      | .ident name :: more =>
        if keywords.contains name then fail "expected identifier or integer"
        else do
          skipTo more
          pure ([Token.ident name], true)
      | .literal text :: more =>
        if text.all Char.isDigit then do
          skipTo more
          pure ([Token.literal text], false)
        else fail "expected identifier or integer"
      | _ => fail "expected identifier or integer"
    let field ← if (← peekOp ":") || !named then do
        let colon ← op ":"
        pure (member ++ colon ++ (← expr n true).tokens)
      else pure member
    if ← atEnd then return field
    let comma ← op ","
    pure (field ++ comma ++ (← literalFields n))

/-- The inside of an array expression: elements, or a repeated element and a count. -/
def arrayBody : Nat → Parse (List Token)
  | 0 => throw "nesting too deep"
  | n + 1 => do
    if ← atEnd then return []
    let first ← expr n true
    if (← atEnd) || (← peekOp ",") then
      if ← atEnd then return first.tokens
      let comma ← op ","
      return first.tokens ++ comma ++ (← exprTerminated n)
    if ← peekOp ";" then
      let semi ← op ";"
      let len ← expr n true
      return first.tokens ++ semi ++ len.tokens
    fail "expected `,` or `;`"

/-- `..` or `..=`. -/
def rangeLimits : Parse (List Token) := do
  if ← peekOp "..=" then op "..="
  else if (← peekOp "..") && !(← peekOp "...") then op ".."
  else expected ["`..=`"]

end

/-- A type on its own, as a field or a converter names it. -/
def parseType (fuel : Nat) : Parse (List Token) := do pure (← ty fuel true).tokens

/-- An expression on its own, as an attribute value is. -/
def parseExpr (fuel : Nat) : Parse (List Token) := do pure (← expr fuel true).tokens

end Derive
end ObjectWire
