import ObjectWire.Derive.Tables
/-!
# Derived code

The token streams the derives produce, written as code templates. A template is scanned like
any source; a `$name` in it is a hole, replaced by the tokens given for `name`. Operators
written as one word in a template (`::`, `->`, `=>`, `>>`) come out joint, every other
punctuation character alone, which is how the printed code spaces them.
-/

namespace ObjectWire
namespace Derive

/-- Replaces each hole `$name` by the tokens given for the name (nothing for a name without
tokens), also inside groups. -/
def fillHoles (holes : List (String × List Token)) : List Token → List Token
  | .punct '$' _ :: .ident name :: rest => ((holes.lookup name).getD []) ++ fillHoles holes rest
  | .group d inner :: rest => .group d (fillHoles holes inner) :: fillHoles holes rest
  | t :: rest => t :: fillHoles holes rest
  | [] => []

/-- The tokens of a template with its holes filled. -/
def template (text : String) (holes : List (String × List Token)) : List Token :=
  fillHoles holes ((scan text).getD [])

/-- Token lists joined by commas. -/
def commaJoined (parts : List (List Token)) : List Token :=
  (parts.intersperse [.punct ',' .alone]).flatten

/-- Token lists each followed by a comma. -/
def commaEach (parts : List (List Token)) : List Token :=
  (parts.map fun p => p ++ [.punct ',' .alone]).flatten

/-- `::core::option::Option::Some(inner)` or `::core::option::Option::None`. -/
def optionCode : Option (List Token) → List Token
  | some inner => template ":: core :: option :: Option :: Some ($inner)" [("inner", inner)]
  | none => template ":: core :: option :: Option :: None" []

/-- The code of an engine. -/
def engineCode (e : Engine) : List Token :=
  template ("mapcode :: reflect :: RecursionKind :: " ++ e.name) []

/-- The code of a version gate. -/
def gateCode (g : Gate) : List Token :=
  template ("mapcode :: Version :: new (($value) as f64 , mapcode :: Comparison :: " ++
    g.comparison.name ++ ")") [("value", g.value)]

/-- The code of a member's annotations. -/
def annotationsCode (a : Annotations) : List Token :=
  let order := optionCode (a.order.map fun e => template "($e) as i64" [("e", e)])
  let converter :=
    if a.converter.isNone && a.converterType.isNone then optionCode none
    else
      optionCode (some (template
        "mapcode :: reflect :: ConverterSelector \x7b name : $name , instance : $instance , \x7d"
        [("name", optionCode (a.converter.map fun text => [.literal text])),
         ("instance", optionCode (a.converterType.map fun ty =>
            template "mapcode :: rt :: converter_instance :: < $ty >" [("ty", ty)]))]))
  let segment := optionCode (a.segment.map fun (offset, len) =>
    template "mapcode :: reflect :: ArraySegment \x7b offset : ($offset) as usize , len : ($len) as usize , \x7d"
      [("offset", offset), ("len", len)])
  template
    ("mapcode :: reflect :: MemberAttributes \x7b ignore : false , order : $order , " ++
      "converter : $converter , segment : $segment , nested : $nested , elements : $elements , " ++
      "keys : $keys , values : $values , versions : :: std :: vec ! [$versions] , \x7d")
    [("order", order), ("converter", converter), ("segment", segment),
     ("nested", optionCode (a.nested.map engineCode)),
     ("elements", optionCode (a.elements.map engineCode)),
     ("keys", optionCode (a.keys.map engineCode)),
     ("values", optionCode (a.values.map engineCode)),
     ("versions", commaJoined (a.gates.map gateCode))]

/-- The text of a setter method named by a property. -/
def setterHoles (owner : String) (p : PropertySpec) : List (String × List Token) :=
  [("owner", [.ident owner]), ("ty", p.ty), ("getter", [.ident p.getter]),
   ("setter", (p.setter.map fun s => [Token.ident s]).getD []), ("label", [p.labelToken])]

/-- The code of an entry of the member table. -/
def InfoEntry.code (owner : String) : InfoEntry → List Token
  | .ignored _ label kind =>
    template ("mapcode :: reflect :: MemberInfo :: ignored ($label , mapcode :: reflect :: MemberKind :: " ++
      kind.name ++ ")") [("label", [label])]
  | .field f =>
    template
      ("\x7b fn get (owner : & dyn :: core :: any :: Any ,) -> :: core :: option :: Option < mapcode :: reflect :: MemberRef < '_ >> " ++
        "\x7b owner . downcast_ref :: < $owner > () . map (| o | \x7b mapcode :: reflect :: MemberRef :: Borrowed (& o . $ident as & dyn :: core :: any :: Any) \x7d) \x7d " ++
        "fn get_mut (owner : & mut dyn :: core :: any :: Any ,) -> :: core :: option :: Option < & mut dyn :: core :: any :: Any > " ++
        "\x7b owner . downcast_mut :: < $owner > () . map (| o | & mut o . $ident as & mut dyn :: core :: any :: Any) \x7d " ++
        "fn set (owner : & mut dyn :: core :: any :: Any , value : mapcode :: reflect :: BoxedValue ,) -> mapcode :: Result < () > " ++
        "\x7b let owner = mapcode :: rt :: owner_mut :: < $owner > (owner) ? ; owner . $ident = mapcode :: rt :: unbox :: < $ty > (value) ? ; :: core :: result :: Result :: Ok (()) \x7d " ++
        "mapcode :: reflect :: MemberInfo :: field :: < $ty > ($label) . with_access (mapcode :: reflect :: MemberAccess :: field (get , get_mut , set)) . with_attributes ($attributes) \x7d")
      [("owner", [.ident owner]), ("ident", [.ident f.ident]), ("ty", f.ty), ("label", [f.labelToken]),
       ("attributes", annotationsCode f.annotations)]
  | .property p =>
    let setter := match p.setter with
      | some _ => template
          ("fn set (owner : & mut dyn :: core :: any :: Any , value : mapcode :: reflect :: BoxedValue ,) -> mapcode :: Result < () > " ++
            "\x7b let owner = mapcode :: rt :: owner_mut :: < $owner > (owner) ? ; owner . $setter (mapcode :: rt :: unbox :: < $ty > (value) ?) ; :: core :: result :: Result :: Ok (()) \x7d")
          (setterHoles owner p)
      | none => []
    let withSetter := if p.setter.isSome then template ". with_setter (set)" [] else []
    template
      ("\x7b fn get (owner : & dyn :: core :: any :: Any ,) -> :: core :: option :: Option < mapcode :: reflect :: MemberRef < '_ >> " ++
        "\x7b owner . downcast_ref :: < $owner > () . map (| o | \x7b let value : $ty = o . $getter () ; mapcode :: reflect :: MemberRef :: Owned (:: std :: boxed :: Box :: new (value) as mapcode :: reflect :: BoxedValue) \x7d) \x7d " ++
        "$setterFn mapcode :: reflect :: MemberInfo :: property :: < $ty > ($label) . with_access (mapcode :: reflect :: MemberAccess :: property () . with_getter (get) $withSetter) . with_attributes ($attributes) \x7d")
      (setterHoles owner p ++ [("setterFn", setter), ("withSetter", withSetter),
        ("attributes", annotationsCode p.annotations)])

/-- The code of a typed member. -/
def TypedEntry.code (owner : String) : TypedEntry → List Token
  | .bare _ label =>
    template "mapcode :: reflect :: TypedMember :: < $owner > :: bare ($label)"
      [("owner", [.ident owner]), ("label", [label])]
  | .field f =>
    template
      ("\x7b fn get (owner : & $owner) -> mapcode :: reflect :: MemberRef < '_ > " ++
        "\x7b mapcode :: reflect :: MemberRef :: Borrowed (& owner . $ident as & dyn :: core :: any :: Any) \x7d " ++
        "fn get_mut (owner : & mut $owner) -> & mut dyn :: core :: any :: Any \x7b & mut owner . $ident \x7d " ++
        "fn set (owner : & mut $owner , value : mapcode :: reflect :: BoxedValue) -> mapcode :: Result < () > " ++
        "\x7b owner . $ident = mapcode :: rt :: unbox :: < $ty > (value) ? ; :: core :: result :: Result :: Ok (()) \x7d " ++
        "mapcode :: reflect :: TypedMember :: < $owner > :: field ($label , get , get_mut , set) \x7d")
      [("owner", [.ident owner]), ("ident", [.ident f.ident]), ("ty", f.ty), ("label", [f.labelToken])]
  | .property p =>
    let setter := match p.setter with
      | some _ => template
          ("fn set (owner : & mut $owner , value : mapcode :: reflect :: BoxedValue) -> mapcode :: Result < () > " ++
            "\x7b owner . $setter (mapcode :: rt :: unbox :: < $ty > (value) ?) ; :: core :: result :: Result :: Ok (()) \x7d")
          (setterHoles owner p)
      | none => []
    let withSetter := if p.setter.isSome then template ". with_setter (set)" [] else []
    template
      ("\x7b fn get (owner : & $owner) -> mapcode :: reflect :: MemberRef < '_ > " ++
        "\x7b let value : $ty = owner . $getter () ; mapcode :: reflect :: MemberRef :: Owned (:: std :: boxed :: Box :: new (value) as mapcode :: reflect :: BoxedValue) \x7d " ++
        "$setterFn mapcode :: reflect :: TypedMember :: < $owner > :: bare ($label) . with_getter (get) $withSetter \x7d")
      (setterHoles owner p ++ [("setterFn", setter), ("withSetter", withSetter)])

/-- The derived implementation for an object. -/
def MemberTable.code (t : MemberTable) : List Token :=
  template
    ("impl mapcode :: Reflect for $owner \x7b fn shape () -> mapcode :: reflect :: TypeShape " ++
      "\x7b mapcode :: reflect :: TypeShape :: Object (mapcode :: reflect :: ObjectShape :: new :: < Self > (:: std :: vec ! [$infos])) \x7d " ++
      "fn typed_members () -> :: std :: vec :: Vec < mapcode :: reflect :: TypedMember < Self >> " ++
      "\x7b :: std :: vec ! [$typed] \x7d \x7d")
    [("owner", [.ident t.owner]),
     ("infos", commaEach (t.infos.map (InfoEntry.code t.owner))),
     ("typed", commaEach (t.typed.map (TypedEntry.code t.owner)))]

/-- The derived implementation for an enum. -/
def WireTable.code (t : WireTable) : List Token :=
  let owner : List Token := [.ident t.owner]
  let nameArms := t.variants.map fun (v, w) =>
    template "$owner :: $variant => :: core :: option :: Option :: Some ($wire)"
      [("owner", owner), ("variant", [.ident v]), ("wire", [stringLiteral w])]
  let wireArms := t.variants.map fun (v, w) =>
    template ("$wire => :: core :: option :: Option :: Some (:: std :: boxed :: Box :: new ($owner :: $variant) " ++
      "as mapcode :: reflect :: BoxedValue)")
      [("owner", owner), ("variant", [.ident v]), ("wire", [stringLiteral w])]
  template
    ("impl mapcode :: Reflect for $owner \x7b fn shape () -> mapcode :: reflect :: TypeShape " ++
      "\x7b fn name_of (value : & dyn :: core :: any :: Any) -> :: core :: option :: Option < & 'static str > " ++
      "\x7b match value . downcast_ref :: < $owner > () ? \x7b $nameArms \x7d \x7d " ++
      "fn from_name (wire_name : & str ,) -> :: core :: option :: Option < mapcode :: reflect :: BoxedValue > " ++
      "\x7b match wire_name \x7b $wireArms _ => :: core :: option :: Option :: None , \x7d \x7d " ++
      "mapcode :: reflect :: TypeShape :: Enum (mapcode :: reflect :: EnumShape :: new (& [$names] , name_of , from_name ,)) \x7d \x7d")
    [("owner", owner), ("nameArms", commaEach nameArms), ("wireArms", commaEach wireArms),
     ("names", commaJoined (t.wireNames.map fun w => [stringLiteral w]))]

end Derive
end ObjectWire
