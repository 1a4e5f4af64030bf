import QueryScaffold.Text.Basic

/-!
# Identifiers of the generated language

* `keywords`, `predefinedTypes`: the reserved words, and those among them that name a type;
* `Text.isIdentifier`: an ASCII word that is not reserved;
* `Text.isQualifiedName`: identifiers with points between them, such as a namespace.
-/

namespace QueryScaffold

/-- The reserved words. Contextual keywords are identifiers. -/
def keywords : List Text :=
  List.map Text.ofString ["abstract", "as", "base", "bool", "break", "byte", "case", "catch",
    "char", "checked", "class", "const", "continue", "decimal", "default", "delegate", "do",
    "double", "else", "enum", "event", "explicit", "extern", "false", "finally", "fixed", "float",
    "for", "foreach", "goto", "if", "implicit", "in", "int", "interface", "internal", "is",
    "lock", "long", "namespace", "new", "null", "object", "operator", "out", "override", "params",
    "private", "protected", "public", "readonly", "ref", "return", "sbyte", "sealed", "short",
    "sizeof", "stackalloc", "static", "string", "struct", "switch", "this", "throw", "true",
    "try", "typeof", "uint", "ulong", "unchecked", "unsafe", "ushort", "using", "virtual", "void",
    "volatile", "while"]

/-- The reserved words that name a type. -/
def predefinedTypes : List Text :=
  List.map Text.ofString ["bool", "byte", "char", "decimal", "double", "float", "int", "long",
    "object", "sbyte", "short", "string", "uint", "ulong", "ushort"]

namespace Text

/-- An ASCII word: letters, digits and underscores, not starting with a digit. -/
def isWord : Text → Bool
  | [] => false
  | c :: rest => c.isWordStart && rest.all CodePoint.isWord

/-- A word that is not reserved. -/
def isIdentifier (t : Text) : Bool :=
  t.isWord && !keywords.contains t

/-- Identifiers with points between them. -/
def isQualifiedName (t : Text) : Bool :=
  (t.split (CodePoint.ofChar '.')).all isIdentifier

end Text

end QueryScaffold
