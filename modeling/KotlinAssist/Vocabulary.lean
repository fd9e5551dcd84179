/-!
# The vocabulary of Kotlin

The reserved words, the modifiers and the names of common types, each list in the order in which it
is offered to the user, and the descriptions shown for reserved words.
-/

namespace KotlinAssist.Vocabulary

/-- The hard keywords, then the soft ones. -/
def keywords : List String :=
  ["as", "break", "class", "continue", "do", "else", "false", "for", "fun", "if", "in",
   "interface", "is", "null", "object", "package", "return", "super", "this", "throw",
   "true", "try", "typealias", "typeof", "val", "var", "when", "while",
   "by", "catch", "constructor", "delegate", "dynamic", "field", "file", "finally", "get",
   "import", "init", "param", "property", "receiver", "set", "setparam", "where"]

/-- The words that may stand before a declaration and qualify it. -/
def modifiers : List String :=
  ["abstract", "actual", "annotation", "companion", "const", "crossinline", "data", "enum",
   "expect", "external", "final", "infix", "inline", "inner", "internal", "lateinit",
   "noinline", "open", "operator", "out", "override", "private", "protected", "public",
   "reified", "sealed", "suspend", "tailrec", "vararg", "value"]

/-- The names of built-in types and common types of the standard library. -/
def builtinTypes : List String :=
  ["Any", "Unit", "Nothing", "Int", "Long", "Short", "Byte", "Float", "Double", "Boolean",
   "Char", "String", "Number", "Array", "IntArray", "LongArray", "ByteArray", "CharArray",
   "DoubleArray", "FloatArray", "BooleanArray", "List", "MutableList", "Set", "MutableSet",
   "Map", "MutableMap", "Collection", "Iterable", "Sequence", "Pair", "Triple", "Result",
   "Comparable", "Throwable", "Exception"]

/-- The description shown for a reserved word, where there is one. -/
def keywordDocs : List (String × String) :=
  [("val", "Declares a read-only property or local variable. It can be assigned only once."),
   ("var", "Declares a mutable property or local variable."),
   ("fun", "Declares a function."),
   ("class", "Declares a class."),
   ("interface", "Declares an interface."),
   ("object", "Declares a singleton object, or an object expression."),
   ("when", "Conditional expression matching its argument against a sequence of branches."),
   ("if", "Conditional expression."),
   ("else", "Alternative branch of an `if` or `when` expression."),
   ("for", "Iterates over anything that provides an iterator."),
   ("while", "Loop executed while its condition holds."),
   ("return", "Returns from the nearest enclosing function or anonymous function."),
   ("null", "The value of a nullable reference that points to nothing."),
   ("is", "Checks that a value has a certain type, enabling a smart cast."),
   ("as", "Casts a value to a type, or renames an import."),
   ("in", "Membership check, range iteration, or contravariant type parameter."),
   ("try", "Begins a block whose exceptions can be handled by `catch`."),
   ("throw", "Throws an exception."),
   ("import", "Makes a declaration from another package available by its simple name."),
   ("package", "Declares the package of the current file."),
   ("this", "Refers to the current receiver."),
   ("super", "Refers to the superclass implementation of a member."),
   ("typealias", "Declares an alternative name for an existing type."),
   ("by", "Delegates an interface implementation or a property accessor.")]

/-- Whether a word is reserved. -/
def isKeyword (word : String) : Bool :=
  keywords.contains word

/-- Whether a word is a modifier. -/
def isModifier (word : String) : Bool :=
  modifiers.contains word

/-- Whether a word names a built-in type. -/
def isBuiltinType (word : String) : Bool :=
  builtinTypes.contains word

/-- The description of a reserved word. -/
def keywordDoc? (word : String) : Option String :=
  keywordDocs.lookup word

end KotlinAssist.Vocabulary
