import QueryScaffold.Value.Basic

/-!
# Values in messages

* `Value.display`: the value as messages show it;
* `Value.label`, `Value.itemLabel`: its forms in the brackets of types;
* `Value.plainText`: the value as a text of its own.

What a text holds stands between quotes, except where the text stands alone.
-/

namespace QueryScaffold

namespace Value

/-- Something in angle brackets. -/
def inAngles (t : Text) : Text :=
  ("<" : Text) ++ t ++ (">" : Text)

/-- Where a module comes from, in words, if it does not come from a file. -/
def moduleOrigin (name : Text) : Text :=
  let isOf (names : List String) : Bool := (names.map Text.ofString).contains name
  if isOf ["_abc", "_ast", "_codecs", "_collections", "_functools", "_imp", "_io", "_locale",
      "_operator", "_signal", "_sre", "_stat", "_string", "_thread", "_warnings", "_weakref",
      "atexit", "builtins", "errno", "faulthandler", "gc", "itertools", "marshal", "posix", "pwd",
      "sys", "time"] then " (built-in)"
  else if isOf ["_collections_abc", "_sitebuiltins", "abc", "codecs", "genericpath", "io",
      "ntpath", "os", "posixpath", "site", "stat", "zipimport"] then " (frozen)"
  else []

mutual

/-- The value as messages show it. -/
def display : Value → Text
  | .constant c => c.display
  | .ofClass ref => if ref = .any then ref.label else ref.display
  | .form f => f.display
  | .variable name => ("~" : Text) ++ name
  | .function _ owner name => inAngles (("function " : Text) ++ functionName owner name)
  | .builtinFunction name => inAngles (("built-in function " : Text) ++ name)
  | .closure _ => inAngles "function <lambda>"
  | .method _ name => inAngles (("built-in method " : Text) ++ name)
  | .unbound isSlot owner name =>
    inAngles ((if isSlot then ("slot wrapper '" : Text) else "method '") ++ name ++ ("' of '" : Text) ++
      owner.label ++ ("' objects" : Text))
  | .tuple [item] => ("(" : Text) ++ display item ++ (",)" : Text)
  | .tuple items => ("(" : Text) ++ displays items ++ (")" : Text)
  | .list items => ("[" : Text) ++ displays items ++ ("]" : Text)
  | .buffer false content =>
    ("bytearray(" : Text) ++ (Constant.bytes content).display ++ (")" : Text)
  | .buffer true _ => inAngles "memory"
  | .set false [] => "set()"
  | .set true [] => "frozenset()"
  | .set false items => ("\x7b" : Text) ++ displays items ++ ("\x7d" : Text)
  | .set true items => ("frozenset(\x7b" : Text) ++ displays items ++ ("\x7d)" : Text)
  | .dictionary entries => ("\x7b" : Text) ++ entryDisplays entries ++ ("\x7d" : Text)
  | .proxy entries => ("mappingproxy(\x7b" : Text) ++ entryDisplays entries ++ ("\x7d)" : Text)
  | .view kind items => kind ++ ("([" : Text) ++ displays items ++ ("])" : Text)
  | .range start stop step =>
    ("range(" : Text) ++ Text.ofInt start ++ (", " : Text) ++ Text.ofInt stop ++
      (if step = 1 then [] else (", " : Text) ++ Text.ofInt step) ++ (")" : Text)
  | .slice start stop step =>
    ("slice(" : Text) ++ display start ++ (", " : Text) ++ display stop ++ (", " : Text) ++
      display step ++ (")" : Text)
  | .iterator kind _ => inAngles (kind ++ (" object" : Text))
  | .object _ ref => inAngles (ref.qualifiedName ++ (" object" : Text))
  | .exception _ ref arguments _ => ref.name ++ ("(" : Text) ++ displays arguments ++ (")" : Text)
  | .forward source _ => ("ForwardRef(" : Text) ++ source.quote ++ (")" : Text)
  | .apply (.form .unpack) [type] => ("*" : Text) ++ display type
  | .apply head [] => head.label ++ ("[()]" : Text)
  | .apply (.collection ref) arguments =>
    ref.label ++ ("[" : Text) ++ itemLabels arguments ++ ("]" : Text)
  | .apply head arguments => head.label ++ ("[" : Text) ++ labels arguments ++ ("]" : Text)
  | .remarked inner remarks =>
    ("typing.Annotated[" : Text) ++ label inner ++ (", " : Text) ++ displays remarks ++
      ("]" : Text)
  | .union true members => alternatives members
  | .union false [first, second] =>
    if isNullClass first then ("typing.Optional[" : Text) ++ label second ++ ("]" : Text)
    else if isNullClass second then ("typing.Optional[" : Text) ++ label first ++ ("]" : Text)
    else
      ("typing.Union[" : Text) ++ label first ++ (", " : Text) ++ label second ++ ("]" : Text)
  | .union false members =>
    ("typing.Union[" : Text) ++ labels members ++ ("]" : Text)
  | .module name => inAngles (("module " : Text) ++ name.quote ++ moduleOrigin name)
  | .other _ shown => shown

/-- The value as messages show it in the brackets of a generic class or of a form. -/
def label : Value → Text
  | .ofClass ref => ref.label
  | .constant .ellipsis => "..."
  | .function _ _ name => name
  | .closure _ => "<lambda>"
  | value => display value

/-- The values in such brackets, separated by commas. -/
def labels : List Value → Text
  | [] => []
  | [value] => label value
  | value :: rest => label value ++ (", " : Text) ++ labels rest

/-- The value as messages show it in the brackets of a collection, or between bars. -/
def itemLabel : Value → Text
  | .ofClass ref => ref.label
  | .constant .ellipsis => "..."
  | .function codeNamespace owner name =>
    codeNamespace ++ ("." : Text) ++ functionName owner name
  | .builtinFunction name => name
  | value => display value

/-- The values in such brackets, separated by commas. -/
def itemLabels : List Value → Text
  | [] => []
  | [value] => itemLabel value
  | value :: rest => itemLabel value ++ (", " : Text) ++ itemLabels rest

/-- The values with bars between them, and null for its class. -/
def alternatives : List Value → Text
  | [] => []
  | [value] => if isNullClass value then "None" else itemLabel value
  | value :: rest =>
    (if isNullClass value then ("None" : Text) else itemLabel value) ++ (" | " : Text) ++
      alternatives rest

/-- The values as messages show them, separated by commas. -/
def displays : List Value → Text
  | [] => []
  | [value] => display value
  | value :: rest => display value ++ (", " : Text) ++ displays rest

/-- The entries of a dictionary as messages show them, separated by commas. -/
def entryDisplays : List (Value × Value) → Text
  | [] => []
  | [(key, value)] => display key ++ (": " : Text) ++ display value
  | (key, value) :: rest =>
    display key ++ (": " : Text) ++ display value ++ (", " : Text) ++ entryDisplays rest

end

/-- The value as a text of its own: a text without quotes, an exception by what it was made from,
and anything else as messages show it. -/
def plainText : Value → Text
  | .constant (.text t) => t
  | .exception _ _ [] _ => []
  | .exception _ ref [argument] _ =>
    if ref = .builtin "KeyError" then argument.display else plainText argument
  | .exception _ _ arguments _ => (tuple arguments).display
  | value => value.display

end Value

end QueryScaffold
