import QueryScaffold.Value.Display

/-!
# Exceptions

The code of a module can fail with an exception, which belongs to a class. The class and those it
inherits from say what becomes of the exception.

* `exceptionBases`: the built-in classes of exceptions, each with the one it inherits from;
* `Raised`: an exception on its way;
* `Raised.ofKind`: the exception of a built-in class;
* `exceptionFields`: the parts that such a class gives its instances;
* `exceptionText`: what an exception says.
-/

namespace QueryScaffold

/-- The built-in classes of exceptions with the classes that they inherit from. Each class stands
behind the one it inherits from. -/
def exceptionBases : List (Text × Text) :=
  List.map (fun (name, base) => (Text.ofString name, Text.ofString base))
    [("BaseException", "object"), ("BaseExceptionGroup", "BaseException"),
      ("Exception", "BaseException"), ("GeneratorExit", "BaseException"),
      ("KeyboardInterrupt", "BaseException"), ("SystemExit", "BaseException"),
      ("ArithmeticError", "Exception"), ("AssertionError", "Exception"),
      ("AttributeError", "Exception"), ("BufferError", "Exception"), ("EOFError", "Exception"),
      ("ImportError", "Exception"), ("LookupError", "Exception"), ("MemoryError", "Exception"),
      ("NameError", "Exception"), ("OSError", "Exception"), ("ReferenceError", "Exception"),
      ("RuntimeError", "Exception"), ("StopAsyncIteration", "Exception"),
      ("StopIteration", "Exception"), ("SyntaxError", "Exception"), ("SystemError", "Exception"),
      ("TypeError", "Exception"), ("ValueError", "Exception"), ("Warning", "Exception"),
      ("FloatingPointError", "ArithmeticError"), ("OverflowError", "ArithmeticError"),
      ("ZeroDivisionError", "ArithmeticError"), ("ModuleNotFoundError", "ImportError"),
      ("IndexError", "LookupError"), ("KeyError", "LookupError"),
      ("UnboundLocalError", "NameError"), ("BlockingIOError", "OSError"),
      ("ChildProcessError", "OSError"), ("ConnectionError", "OSError"),
      ("FileExistsError", "OSError"), ("FileNotFoundError", "OSError"),
      ("InterruptedError", "OSError"), ("IsADirectoryError", "OSError"),
      ("NotADirectoryError", "OSError"), ("PermissionError", "OSError"),
      ("ProcessLookupError", "OSError"), ("TimeoutError", "OSError"),
      ("BrokenPipeError", "ConnectionError"), ("ConnectionAbortedError", "ConnectionError"),
      ("ConnectionRefusedError", "ConnectionError"), ("ConnectionResetError", "ConnectionError"),
      ("NotImplementedError", "RuntimeError"), ("RecursionError", "RuntimeError"),
      ("IndentationError", "SyntaxError"), ("TabError", "IndentationError"),
      ("UnicodeError", "ValueError"), ("UnicodeDecodeError", "UnicodeError"),
      ("UnicodeEncodeError", "UnicodeError"), ("UnicodeTranslateError", "UnicodeError"),
      ("BytesWarning", "Warning"), ("DeprecationWarning", "Warning"),
      ("EncodingWarning", "Warning"), ("FutureWarning", "Warning"), ("ImportWarning", "Warning"),
      ("PendingDeprecationWarning", "Warning"), ("ResourceWarning", "Warning"),
      ("RuntimeWarning", "Warning"), ("SyntaxWarning", "Warning"), ("UnicodeWarning", "Warning"),
      ("UserWarning", "Warning")]

/-- The class of an exception and those it inherits from, nearest first, looked up in pairs of which
the last ones come first. -/
def ancestryIn (name : Text) : List (Text × Text) → List Text
  | [] => []
  | (other, base) :: rest =>
    if other = name then name :: ancestryIn base rest else ancestryIn name rest

/-- A built-in class of exceptions and the exceptions' classes that it inherits from. -/
def exceptionAncestry (name : Text) : List Text :=
  ancestryIn name exceptionBases.reverse

/-- An exception on its way: the name of its class, the built-in exceptions' classes among those
that it belongs to, and what it says. -/
structure Raised where
  kind : Text
  families : List Text
  text : Text
deriving DecidableEq

/-- The built-in classes of exceptions that make their instances as their bases do. -/
def exceptionsWithoutMaker : List Text :=
  List.map Text.ofString
    ["AttributeError", "BlockingIOError", "BrokenPipeError", "ChildProcessError",
      "ConnectionAbortedError", "ConnectionError", "ConnectionRefusedError",
      "ConnectionResetError", "ExceptionGroup", "FileExistsError", "FileNotFoundError",
      "ImportError", "IndentationError", "InterruptedError", "IsADirectoryError", "KeyError",
      "ModuleNotFoundError", "NameError", "NotADirectoryError", "PermissionError",
      "ProcessLookupError", "StopIteration", "SyntaxError", "SystemExit", "TabError",
      "TimeoutError", "UnboundLocalError"]

/-- The built-in classes of exceptions that say something in a way of their own. -/
def exceptionsWithText : List Text :=
  List.map Text.ofString
    ["AttributeError", "BaseException", "BaseExceptionGroup", "ImportError", "KeyError",
      "NameError", "OSError", "SyntaxError", "UnicodeDecodeError", "UnicodeEncodeError",
      "UnicodeTranslateError"]

/-- The parts that classes of exceptions give their instances besides those of every exception. -/
def exceptionFields (families : List Text) : List Text :=
  let fields : List (Text × List Text) :=
    [("OSError", ["errno", "strerror", "filename", "filename2"]),
      ("SyntaxError", ["msg", "filename", "lineno", "offset", "text", "end_lineno", "end_offset",
        "print_file_and_line"]),
      ("ImportError", ["msg", "name", "path"]), ("NameError", ["name"]),
      ("AttributeError", ["name", "obj"]), ("StopIteration", ["value"]), ("SystemExit", ["code"])]
  families.flatMap fun family =>
    ((fields.find? fun entry => entry.1 = family).map Prod.snd).getD []

/-- A part of an exception that is not null. -/
def partOf? (name : Text) (parts : NameTable) : Option Value :=
  (parts.find? name).filter fun value => !value.isNull

/-- What a system error says: its number and reason, with the files that it is about. -/
def systemErrorText (arguments : List Value) (parts : NameTable) : Text :=
  match parts.find? "errno", parts.find? "strerror" with
  | some number, some reason =>
    let about : Text := match partOf? "filename" parts, partOf? "filename2" parts with
      | some file, some other => (": " : Text) ++ file.display ++ (" -> " : Text) ++ other.display
      | some file, none => (": " : Text) ++ file.display
      | none, _ => []
    ("[Errno " : Text) ++ number.plainText ++ ("] " : Text) ++ reason.plainText ++ about
  | _, _ =>
    match arguments with
    | [] => []
    | [argument] => argument.plainText
    | arguments => (Value.tuple arguments).display

/-- What an error of syntax says: its message, with the place that it is about. -/
def syntaxErrorText (parts : NameTable) : Text :=
  let file : Option Text := ((partOf? "filename" parts).bind Value.text?).map fun path =>
    (path.split (CodePoint.ofChar '/')).getLastD []
  let line : Option Text := match partOf? "lineno" parts with
    | some (.constant (.integer n)) => some (("line " : Text) ++ Text.ofInt n)
    | _ => none
  let place : Text := match file, line with
    | some file, some line => (" (" : Text) ++ file ++ (", " : Text) ++ line ++ (")" : Text)
    | some file, none => (" (" : Text) ++ file ++ (")" : Text)
    | none, some line => (" (" : Text) ++ line ++ (")" : Text)
    | none, none => []
  ((parts.find? "msg").getD .null).plainText ++ place

/-- What an error in the encoding of a text says, with the verb for what could not be done. -/
def encodingErrorText (verb : Text) (parts : NameTable) : Text :=
  match parts.find? "object", (parts.find? "start").bind Value.integer?,
    (parts.find? "end").bind Value.integer? with
  | some whole, some start, some stop =>
    let unit : Option Text := if stop ≠ start + 1 || start < 0 then none else
      match whole with
      | .constant (.text t) => (t[start.toNat]?).map fun c =>
        ("character '" : Text) ++ c.numericEscape ++ ("' in position " : Text)
      | .constant (.bytes content) => (content[start.toNat]?).map fun byte =>
        ("byte 0x" : Text) ++ hexadecimal 2 byte.toNat ++ (" in position " : Text)
      | _ => none
    let several : Text := match whole with
      | .constant (.bytes _) => "bytes in position "
      | _ => "characters in position "
    let codec : Text := match parts.find? "encoding" with
      | some name => ("'" : Text) ++ name.plainText ++ ("' codec " : Text)
      | none => []
    codec ++ ("can't " : Text) ++ verb ++ (" " : Text) ++
      (match unit with
        | some unit => unit ++ Text.ofInt start
        | none => several ++ Text.ofInt start ++ ("-" : Text) ++ Text.ofInt (stop - 1)) ++
      (": " : Text) ++ ((parts.find? "reason").getD .null).plainText
  | _, _, _ => []

/-- What an exception says whose nearest class with a way of its own is `family`, and which keeps
what it was made from. -/
def exceptionText (family : Text) (arguments : List Value) (parts : NameTable) : Text :=
  let isOf (names : List String) : Bool := (names.map Text.ofString).contains family
  if isOf ["OSError"] then systemErrorText arguments parts
  else if isOf ["SyntaxError"] then syntaxErrorText parts
  else if isOf ["UnicodeDecodeError"] then encodingErrorText "decode" parts
  else if isOf ["UnicodeEncodeError"] then encodingErrorText "encode" parts
  else if isOf ["UnicodeTranslateError"] then encodingErrorText "translate" parts
  else
    match isOf ["BaseExceptionGroup"], arguments with
    | true, [message, exceptions] =>
      let count := (exceptions.items?.getD []).length
      message.plainText ++ (" (" : Text) ++ Text.ofNat count ++
        (if count = 1 then (" sub-exception)" : Text) else " sub-exceptions)")
    | _, [argument] => if isOf ["KeyError"] then argument.display else argument.plainText
    | _, [] => []
    | _, arguments => (Value.tuple arguments).display

namespace Raised

/-- The exception of a built-in class that says something. -/
def ofKind (kind text : Text) : Raised :=
  ⟨kind, exceptionAncestry kind, text⟩

/-- The exception of a built-in class with a message. A missing key is shown in quotes. -/
def ofMessage (kind message : Text) : Raised :=
  ofKind kind
    (if (exceptionAncestry kind).contains ("KeyError" : Text) then message.quote else message)

/-- The exception belongs to a built-in class. -/
def isOf (e : Raised) (family : Text) : Bool :=
  e.families.contains family

/-- An exception that only ends the program, and that no handler of ordinary ones stops. -/
def endsProgram (e : Raised) : Bool :=
  !e.isOf "Exception"

/-- An exception by which a constructor refuses its argument. -/
def refusesArgument (e : Raised) : Bool :=
  e.isOf "TypeError" || e.isOf "ValueError"

/-- The exception as it leaves a scope: one that signals the end of an iteration leaves it as
another one. -/
def leavingScope (e : Raised) : Raised :=
  if e.isOf "StopIteration" then ofKind "RuntimeError" "generator raised StopIteration" else e

/-- A class stands among its own ancestors, behind the classes that inherit from it. -/
example : exceptionAncestry "UnicodeDecodeError" =
    List.map Text.ofString
      ["UnicodeDecodeError", "UnicodeError", "ValueError", "Exception", "BaseException"] := by
  decide +kernel

end Raised

end QueryScaffold
