import QueryScaffold.Source.Validity

/-!
# Rendering the source file

* `SourceFile.lines`: the lines of a file, `QueryMethod.lines` for those of one method;
* `SourceFile.text`: the lines with a line feed after each;
* `SourceFile.render`: the text of a valid file, or what is wrong with it.
-/

namespace QueryScaffold

/-- The lines with a line feed after each. -/
def textOfLines (lines : List Text) : Text :=
  lines.flatMap fun line => line ++ ("\n" : Text)

namespace QueryMethod

/-- The line of an attribute. -/
def annotationLine (name : Text) : Text :=
  ("        [" : Text) ++ name ++ ("]" : Text)

/-- The line that declares the method. -/
def headLine (m : QueryMethod) : Text :=
  ("        public " : Text) ++ m.returnType ++ (" " : Text) ++ m.name ++ ("()" : Text)

/-- The line that makes the context. -/
def contextLine (m : QueryMethod) : Text :=
  ("            var " : Text) ++ m.body.contextVariable ++ (" = " : Text) ++ m.body.factoryField ++
    (".CreateDbContext();" : Text)

/-- The line that returns the query. -/
def returnLine (m : QueryMethod) : Text :=
  ("            return " : Text) ++ m.body.helperName ++ ("(" : Text) ++ m.body.contextVariable ++
    ("." : Text) ++ m.body.accessorName ++ (").AsNoTracking();" : Text)

/-- The lines of a method, after an empty one. -/
def lines (m : QueryMethod) : List Text :=
  [[], "        /// <summary>", ("        /// " : Text) ++ m.summary, "        /// </summary>"] ++
    m.annotations.map annotationLine ++
    [m.headLine, "        \x7b", m.contextLine, m.returnLine, "        \x7d"]

end QueryMethod

namespace QueryClass

/-- The line that declares the class. -/
def headLine (c : QueryClass) : Text :=
  ("    public class " : Text) ++ c.typeName ++ (" : " : Text) ++ c.baseTypeName

/-- The line that declares the field. -/
def fieldLine (c : QueryClass) : Text :=
  ("        private readonly " : Text) ++ c.factoryField.declaration ++ (";" : Text)

/-- The line that declares the constructor. -/
def constructorLine (c : QueryClass) : Text :=
  ("        public " : Text) ++ c.typeName ++ ("(" : Text) ++
    Text.joined (", " : Text) (c.parameters.map Variable.declaration) ++ (")" : Text)

/-- The line that calls the constructor of the base class. -/
def baseCallLine (c : QueryClass) : Text :=
  ("            : base(" : Text) ++
    Text.joined (", " : Text) (c.forwarded.map Variable.identifier) ++ (")" : Text)

/-- The line that fills the field. -/
def assignmentLine (c : QueryClass) : Text :=
  ("            " : Text) ++ c.factoryField.identifier ++ (" = " : Text) ++
    (c.factoryParameter?.map Variable.identifier).getD [] ++ (";" : Text)

/-- The lines of the class down to its constructor's end. -/
def openingLines (c : QueryClass) : List Text :=
  [c.headLine, "    \x7b", c.fieldLine, [], c.constructorLine, c.baseCallLine, "        \x7b",
    c.assignmentLine, "        \x7d"]

end QueryClass

namespace SourceFile

/-- The line of an import. -/
def importLine (name : Text) : Text :=
  ("using " : Text) ++ name ++ (";" : Text)

/-- The lines of a file before its methods. -/
def headerLines (file : SourceFile) : List Text :=
  [("// " : Text) ++ file.provenance] ++ file.imports.map importLine ++
    [[], ("namespace " : Text) ++ file.codeNamespace, "\x7b"] ++ file.queryClass.openingLines

/-- The lines of a file after its methods. -/
def footerLines : List Text :=
  ["    \x7d", "\x7d"]

/-- The lines of a file. -/
def lines (file : SourceFile) : List Text :=
  file.headerLines ++ file.queryClass.methods.flatMap QueryMethod.lines ++ footerLines

/-- The text of a file. -/
def text (file : SourceFile) : Text :=
  textOfLines file.lines

/-- The text of a valid file, or the first fault. -/
def render (file : SourceFile) : Except SynthesisFault Text :=
  match file.fault? with
  | some fault => .error fault
  | none => .ok file.text

end SourceFile

end QueryScaffold
