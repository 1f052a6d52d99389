import LayerLint.Symbols
import LayerLint.Text.Blank
import LayerLint.Text.Search

/-!
# `Scan` — forbidden content

What must not appear in which layer: markup and SQL in texts, data-access namespaces in types,
attributes and imports, HTTP verbs on members, and logic inside SQL literals.

## Contents
- **Tables.** `htmlTags`, `sqlTokens`, `sqlLogicKeywords`, `dataAccessNamespaces`, `httpVerbs`.
- **Texts.** `firstToken?`, `allTokens`: tokens of a table contained in a text, in table order.
- **Facts.** Namespaces, attributes and members.
- **Literals.** `queryLogicCount?`: logic keywords standing as whole words.
-/

namespace LayerLint.Scan

/-! ## Tables -/

/-- Fragments of HTML tags. -/
def htmlTags : List String :=
  ["@html", "<a ", "<abbr", "<address", "<area", "<article", "<aside", "<audio", "<b>", "<base",
   "<bdi", "<bdo", "<blockquote", "<body", "<br", "<button", "<canvas", "<caption", "<cite",
   "<code", "<col", "<colgroup", "<data", "<datalist", "<dd", "<del", "<details", "<dfn", "<dialog",
   "<div", "<dl", "<dt", "<em", "<embed", "<fieldset", "<figcaption", "<figure", "<footer", "<form",
   "<h1", "<h2", "<h3", "<h4", "<h5", "<h6", "<head", "<header", "<hgroup", "<hr", "<html", "<i>",
   "<iframe", "<img", "<input", "<ins", "<kbd", "<keygen", "<label", "<legend", "<li", "<link",
   "<main", "<map", "<mark", "<menu", "<menuitem", "<meta", "<meter", "<nav", "<noscript", "<ol",
   "<optgroup", "<option", "<output", "<p>", "<picture", "<pre", "<progress", "<q>", "<rb", "<rp",
   "<rt", "<rtc", "<ruby", "<s>", "<samp", "<script", "<search", "<section", "<small", "<source",
   "<span", "<strong", "<style", "<sub", "<sup", "<svg", "<table", "<tbody", "<td", "<template",
   "<textarea", "<tfoot", "<th", "<thead", "<time", "<title", "<tr", "<track", "<u>", "<ul", "<var",
   "<video", "<wbr", "/>"]

/-- SQL commands, prefixes of stored procedures and names of data helpers. -/
def sqlTokens : List String :=
  ["alter ", "create ", "database", "delete from", "drop", "excecute", "grant", "group by",
   "having", "insert into", "lock", "order by", "replicate", "revoke", "select", "schema",
   "syncrhonize", "table", "pr_", "prd_", "pri_", "pru_", "sp_", "fc_", "borrarregistro",
   "ejecutarfuncionretornotabla", "ejecutarvista", "insertarregistro", "listarregistros",
   "listarregistroscoleccion", "listarregistroslista", "listarregistroslistacoleccion",
   "modificarregistro", "obtenerdatospaginacionfuncionretornotabla", "obtenerdatospaginacionvista",
   "obtenerregistro", "obtenerregistrodetallado", "obtenertotalregistrosconsulta"]

/-- Words that carry logic inside an SQL literal. -/
def sqlLogicKeywords : List String :=
  ["where", "and", "or", "join", "exists", "not", "from", "xor", "if", "else", "case", "in"]

/-- Namespaces that only the data-access layer may refer to. -/
def dataAccessNamespaces : List String :=
  ["System.Data", "System.Linq", "System.Xml", "System.Collections"]

/-- Attribute classes that mark HTTP actions. -/
def httpVerbs : List String := ["HttpPost", "HttpGet"]

/-! ## Texts -/

/-- The first token of `table` contained in the text. -/
def firstToken? (table : List String) (text : String) : Option String :=
  table.find? (Text.occursIn · text)

/-- Every token of `table` contained in the text, in table order. -/
def allTokens (table : List String) (text : String) : List String :=
  table.filter (Text.occursIn · text)

/-- The first token found is the first of all tokens found. -/
theorem head?_allTokens (table : List String) (text : String) :
    (allTokens table text).head? = firstToken? table text :=
  List.head?_filter

/-! ## Facts -/

/-- The namespace is one of the data-access namespaces, blanks around it and ASCII case aside. -/
def isDataAccessNamespace (ns : String) : Bool :=
  dataAccessNamespaces.any (Text.sameIgnoringCase · (Text.trim ns))

/-- A text without the ending `Attribute`, if it has it. -/
def dropAttributeSuffix (s : String) : String :=
  if Text.endsWith s "Attribute" then String.ofList (s.toList.take (s.toList.length - 9)) else s

/-- The attribute marks an HTTP action. -/
def isHttpVerb (a : Attribute) : Bool := httpVerbs.contains (dropAttributeSuffix a.className)

/-- The type of a member, or the class of one of its attributes, is from a data-access namespace. -/
def referencesDataAccess (model : Model) (member : Node) : Bool :=
  ((model.type member).bind (·.containingNamespace)).any isDataAccessNamespace ||
    (model.declared member).any fun s =>
      (s.attributes.filterMap (·.containingNamespace)).any isDataAccessNamespace

/-- The first member that carries an HTTP verb. -/
def firstHttpMember? (model : Model) (type : Node) : Option Node :=
  type.members.find? fun m => (model.declared m).any (·.attributes.any isHttpVerb)

/-! ## Literals -/

/-- The characters between words of a literal. -/
def isWordSeparator (c : Char) : Bool := c == ' ' || c == ',' || c == '(' || c == ')'

/-- The words of a literal. -/
def words (literal : String) : List String :=
  (Text.pieces isWordSeparator literal.toList).map String.ofList

/-- The number of words that are logic keywords; none if no keyword even occurs inside a word. -/
def queryLogicCount? (literal : String) : Option Nat :=
  if sqlLogicKeywords.any (Text.occursIn · literal) then
    some ((words literal).countP sqlLogicKeywords.contains)
  else none

end LayerLint.Scan
