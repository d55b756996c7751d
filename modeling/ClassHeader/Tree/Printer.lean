import ClassHeader.Constant.Text
import ClassHeader.Tree.Basic

/-!
# Printing trees

A `Printer` holds the text printed so far and the indentation of the declaration being printed.
Printing a node appends to the text; a type declaration indents its members by two columns and then
goes back to its own indentation.

Every operator expression is in parentheses, so that no reader needs the precedence of operators.
Methods and type declarations bring their own indentation and line ends. Other members of a type
declaration get theirs from it.
-/

namespace ClassHeader

/-- A part of a printed text. References to constants are kept apart from all other text. -/
inductive Piece where
  | plain (text : String)
  | reference (name : QualifiedName)
  deriving DecidableEq, Repr

def Piece.text : Piece → String
  | .plain text => text
  | .reference name => name.text

structure Printer where
  indentation : Nat
  output : Array Piece
  deriving Repr

namespace Printer

def empty : Printer := ⟨0, #[]⟩

def text (printer : Printer) : String :=
  String.join (printer.output.toList.map Piece.text)

def write (text : String) (printer : Printer) : Printer :=
  { printer with output := printer.output.push (.plain text) }

def reference (name : QualifiedName) (printer : Printer) : Printer :=
  { printer with output := printer.output.push (.reference name) }

/-- Indents what follows by two more columns. -/
def indent (printer : Printer) : Printer :=
  { printer with indentation := printer.indentation + 2 }

def dedent (printer : Printer) : Printer :=
  if 2 ≤ printer.indentation then { printer with indentation := printer.indentation - 2 }
  else printer

/-- Prints the indentation, at the start of a line. -/
def margin (printer : Printer) : Printer :=
  printer.write (String.ofList (List.replicate printer.indentation ' '))

/-- Prints all items, each after some text. -/
def each {α : Type} (before : String) (print : α → Printer → Printer) :
    List α → Printer → Printer
  | [], printer => printer
  | item :: rest, printer => (print item (printer.write before)).each before print rest

/-- Prints all items with a separator between them. -/
def joined {α : Type} (separator : String) (print : α → Printer → Printer) :
    List α → Printer → Printer
  | [], printer => printer
  | item :: rest, printer => (print item printer).each separator print rest

/-- Prints all items, each followed by a space. -/
def spaced {α : Type} (print : α → Printer → Printer) : List α → Printer → Printer
  | [], printer => printer
  | item :: rest, printer => ((print item printer).write " ").spaced print rest

/-- Prints an item, if there is one, after some text. -/
def optional {α : Type} (before : String) (print : α → Printer → Printer) :
    Option α → Printer → Printer
  | none, printer => printer
  | some item, printer => print item (printer.write before)

/-! ### Types -/

/-- One pair of brackets for each dimension of an array. -/
def brackets (dimensions : Nat) : String :=
  String.ofList (List.replicate dimensions ['[', ']']).flatten

mutual

def typeUse : TypeUse → Printer → Printer
  | .wildcard upper lower, printer =>
    printer.write "?" |>.bound " extends " upper |>.bound " super " lower
  | .array element dimensions, printer =>
    printer.typeUse element |>.write (brackets dimensions.toNat)
  | .primitive kind, printer => printer.write kind.keyword
  | .void, printer => printer.write "void"
  | .declared type, printer => printer.classType type

/-- Prints a bound of a wildcard, if there is one, after the word for it. -/
def bound (word : String) : Option TypeUse → Printer → Printer
  | none, printer => printer
  | some type, printer => printer.write word |>.typeUse type

def classType : ClassType → Printer → Printer
  | ⟨qualifier, name, []⟩, printer => printer.qualifier qualifier |>.write name
  | ⟨qualifier, name, first :: rest⟩, printer =>
    printer.qualifier qualifier |>.write name |>.write "<" |>.typeUse first
      |>.typeUses ", " rest |>.write ">"

/-- Prints the qualifier of a declared type, if there is one, and a dot. -/
def qualifier : Option ClassType → Printer → Printer
  | none, printer => printer
  | some type, printer => printer.classType type |>.write "."

def typeUses (before : String) : List TypeUse → Printer → Printer
  | [], printer => printer
  | type :: rest, printer => (printer.write before |>.typeUse type).typeUses before rest

end

/-! ### Expressions -/

mutual

def expression : Expression → Printer → Printer
  | .literal _ value, printer => printer.write value.text
  | .cast type operand, printer =>
    printer.write "(" |>.typeUse type |>.write ") " |>.expression operand
  | .unary operator operand, printer =>
    if operator.followsOperand then
      printer.write "(" |>.expression operand |>.write operator.symbol |>.write ")"
    else
      printer.write "(" |>.write operator.symbol |>.expression operand |>.write ")"
  | .binary operator left right, printer =>
    printer.write "(" |>.expression left |>.write " " |>.write operator.symbol |>.write " "
      |>.expression right |>.write ")"
  | .reference name, printer => printer.reference name
  | .classLiteral type, printer => printer.typeUse type |>.write ".class"
  | .assign name value, printer => printer.write name |>.write " = " |>.expression value
  | .conditional condition whenTrue whenFalse, printer =>
    printer.write "(" |>.expression condition |>.write " ? " |>.expression whenTrue
      |>.write " : " |>.expression whenFalse |>.write ")"
  | .arrayInit [], printer => printer.write "\x7b" |>.write "\x7d"
  | .arrayInit (first :: rest), printer =>
    printer.write "\x7b" |>.expression first |>.expressions ", " rest |>.write "\x7d"
  | .anno anno, printer => printer.anno anno

/-- Prints an annotation, without parentheses if it has no arguments. -/
def anno : Anno → Printer → Printer
  | ⟨name, []⟩, printer => printer.write "@" |>.write name.text
  | ⟨name, first :: rest⟩, printer =>
    printer.write "@" |>.write name.text |>.write "(" |>.expression first
      |>.expressions ", " rest |>.write ")"

def expressions (before : String) : List Expression → Printer → Printer
  | [], printer => printer
  | item :: rest, printer => (printer.write before |>.expression item).expressions before rest

end

/-! ### Declarations -/

/-- Prints annotations, then modifiers, each followed by a space. -/
def qualifiers (annos : List Anno) (modifiers : Modifiers) (printer : Printer) : Printer :=
  printer.spaced anno annos |>.spaced (fun modifier => write modifier.keyword) modifiers.toList

def packageDecl (decl : PackageDecl) (printer : Printer) : Printer :=
  printer.write "package " |>.write decl.name.text |>.write ";\n"

def importDecl (decl : ImportDecl) (printer : Printer) : Printer :=
  printer.write (if decl.isStatic then "import static " else "import ") |>.write decl.name.text
    |>.write ";\n"

def typeParameter (parameter : TypeParameter) (printer : Printer) : Printer :=
  match parameter.bounds with
  | [] => printer.write parameter.name
  | bounds => printer.write parameter.name |>.write " extends " |>.joined " & " typeUse bounds

/-- Prints type parameters in angle brackets, followed by some text, if there are any. -/
def typeParameters (parameters : List TypeParameter) (after : String) (printer : Printer) :
    Printer :=
  match parameters with
  | [] => printer
  | parameters =>
    printer.write "<" |>.joined ", " typeParameter parameters |>.write ">" |>.write after

/-- Prints types with commas between them, after some text, if there are any. -/
def classTypes (before : String) (types : List ClassType) (printer : Printer) : Printer :=
  match types with
  | [] => printer
  | types => printer.write before |>.joined ", " classType types

/-- Prints a field or parameter, without the semicolon that ends a field. -/
def variableDecl (decl : VariableDecl) (printer : Printer) : Printer :=
  printer.qualifiers decl.annos decl.modifiers |>.typeUse decl.type |>.write " "
    |>.write decl.name |>.optional " = " expression decl.init

def methodDecl (decl : MethodDecl) (printer : Printer) : Printer :=
  printer.margin |>.qualifiers decl.annos decl.modifiers |>.typeParameters decl.typeParameters " "
    |>.spaced typeUse decl.result.toList |>.write decl.name |>.write "("
    |>.joined ", " variableDecl decl.parameters |>.write ")"
    |>.classTypes " throws " decl.exceptions |>.optional " default " expression decl.defaultValue
    |>.write ";\n"

/-- The word before the interfaces of a type declaration. An interface extends interfaces, any other
type implements them. -/
def interfacesWord : DeclKind → String
  | .interfaceDecl | .annotationDecl => " extends "
  | .classDecl | .enumDecl => " implements "

mutual

def typeDecl : TypeDecl → Printer → Printer
  | ⟨modifiers, annos, name, typeParameters, superclass, interfaces, members, kind⟩, printer =>
    printer.margin |>.qualifiers annos modifiers |>.write kind.keyword |>.write " " |>.write name
      |>.typeParameters typeParameters "" |>.optional " extends " classType superclass
      |>.classTypes (interfacesWord kind) interfaces |>.write " \x7b\n"
      |>.indent |>.members members |>.dedent |>.margin |>.write "\x7d\n"

def members : List Tree → Printer → Printer
  | [], printer => printer
  | .methodDecl decl :: rest, printer => (printer.methodDecl decl).members rest
  | .typeDecl decl :: rest, printer => (printer.typeDecl decl).members rest
  | .variableDecl decl :: rest, printer =>
    (printer.margin |>.variableDecl decl |>.write ";\n").members rest
  | member :: rest, printer => (printer.margin |>.tree member |>.write "\n").members rest

def typeDecls : List TypeDecl → Printer → Printer
  | [], printer => printer
  | decl :: rest, printer => (printer.typeDecl decl).typeDecls rest

/-- Prints a compilation unit: its package, its imports and its types, with an empty line after the
package and one after the imports. -/
def compilationUnit : CompilationUnit → Printer → Printer
  | ⟨package, imports, types, _⟩, printer =>
    let printer := match package with
      | none => printer
      | some decl => printer.packageDecl decl |>.write "\n"
    let printer := match imports with
      | [] => printer
      | imports => printer.each "" importDecl imports |>.write "\n"
    printer.typeDecls types

def tree : Tree → Printer → Printer
  | .type type, printer => printer.typeUse type
  | .expression expression, printer => printer.expression expression
  | .compilationUnit unit, printer => printer.compilationUnit unit
  | .importDecl decl, printer => printer.importDecl decl
  | .variableDecl decl, printer => printer.variableDecl decl
  | .methodDecl decl, printer => printer.methodDecl decl
  | .anno anno, printer => printer.anno anno
  | .typeDecl decl, printer => printer.typeDecl decl
  | .typeParameter parameter, printer => printer.typeParameter parameter
  | .packageDecl decl, printer => printer.packageDecl decl

end

/-- Prints a node alone. Earlier text is dropped, and the indentation stays. -/
def print (tree : Tree) (printer : Printer) : String × Printer :=
  let printed := { printer with output := #[] }.tree tree
  (printed.text, { printed with output := #[] })

/-- Prints nodes one after the other with one printer, each as a text of its own. -/
def printAll : List Tree → Printer → List String
  | [], _ => []
  | tree :: rest, printer =>
    let (text, printer) := printer.print tree
    text :: printer.printAll rest

end Printer

def Tree.text (tree : Tree) : String :=
  (Printer.empty.print tree).1

end ClassHeader
