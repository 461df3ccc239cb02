/-!
# Documentation

The texts that the program shows about itself: an overview and one text for
each category. A category has a name and other names, in any case.
-/

namespace FilterQuery

namespace Documentation

/-- A text of whole lines. -/
def page (lines : List String) : String := String.join (lines.map (· ++ "\n"))

/-! ## Categories -/

inductive Category where
  | operators
  | input
  | strategy
  | errors
deriving Repr, DecidableEq

def categoryNames : List (String × Category) := [
  ("operators", .operators), ("ops", .operators),
  ("input", .input), ("filter", .input), ("ast", .input),
  ("strategy", .strategy), ("policy", .strategy),
  ("errors", .errors), ("error", .errors)]

/-- The category of a name in any case. Only ASCII letters have to be looked
at: no other letter has a lower case that stands in a name. -/
def Category.ofName? (name : String) : Option Category :=
  categoryNames.lookup (name.map Char.toLower)

/-! ## Texts -/

/-- What the program does, and the categories there are. -/
def overviewText : String := page [
  "FILTERDOC DOCUMENTATION",
  "",
  "filterdoc turns a boolean filter tree (clauses joined by and/or, possibly",
  "nested) into a document-store query document, checking every referenced",
  "field against an allow/deny policy on the way.",
  "",
  "DOCUMENTATION CATEGORIES",
  "",
  "  operators         Operator table for each operand shape",
  "  input             JSON encoding of the filter tree",
  "  strategy          Allow/deny lists and required fields",
  "  errors            What makes a conversion fail",
  "",
  "QUICK REFERENCE",
  "",
  "  filterdoc convert '<filter json>'                 Convert a filter",
  "  filterdoc convert --strategy @policy.json         Read the filter from stdin",
  "  filterdoc doc operators                           Show one category"]

/-- What each operator gives for each shape of a clause. -/
def operatorsText : String := page [
  "OPERATORS",
  "",
  "FIELD VS LITERAL",
  "",
  "  /foo eq 42              \x7b\"foo\": 42\x7d",
  "  /foo neq 42             \x7b\"foo\": \x7b\"$ne\": 42\x7d\x7d",
  "  /foo gt 42              \x7b\"foo\": \x7b\"$gt\": 42\x7d\x7d          (gte, lt, lte alike)",
  "  /foo like \"*Bar_\"       \x7b\"foo\": \x7b\"$regex\": R\x7d\x7d",
  "                          R = \x7b\"$regularExpression\": \x7b\"pattern\": \"^.*Bar.\x7b1\x7d$\", \"options\": \"i\"\x7d\x7d",
  "  /foo nlike \"*Bar_\"      \x7b\"foo\": \x7b\"$not\": \x7b\"$regex\": R\x7d\x7d\x7d",
  "  /foo between 0,42       \x7b\"$and\": [\x7b\"foo\": \x7b\"$gte\": 0\x7d\x7d, \x7b\"foo\": \x7b\"$lte\": 42\x7d\x7d]\x7d",
  "  /foo nbetween 0,42      \x7b\"$or\": [\x7b\"foo\": \x7b\"$lt\": 0\x7d\x7d, \x7b\"foo\": \x7b\"$gt\": 42\x7d\x7d]\x7d",
  "  /foo in [1,2]           \x7b\"foo\": \x7b\"$in\": [1, 2]\x7d\x7d",
  "  /foo nin [1,2]          \x7b\"foo\": \x7b\"$nin\": [1, 2]\x7d\x7d",
  "",
  "  A literal on the left is turned around: 42 gt /foo reads as /foo lt 42.",
  "",
  "LIKE PATTERNS",
  "",
  "  *                       any run of characters",
  "  _                       exactly one character",
  "  \\x                      the character x itself",
  "  Matching is anchored and case-insensitive.",
  "",
  "FIELD VS FIELD",
  "",
  "  /foo eq /bar            \x7b\"$expr\": \x7b\"$eq\": [\"$foo\", \"$bar\"]\x7d\x7d",
  "  Only eq, neq, gt, gte, lt and lte are available.",
  "",
  "LITERAL VS LITERAL",
  "",
  "  42 eq 42                \x7b\"$expr\": \x7b\"$eq\": [42, 42]\x7d\x7d",
  "  42 between 0,42         \x7b\"$expr\": \x7b\"$and\": [\x7b\"$gte\": [42, 0]\x7d, \x7b\"$lte\": [42, 42]\x7d]\x7d\x7d",
  "  42 in [1,2,3]           \x7b\"$expr\": \x7b\"$in\": [42, [1, 2, 3]]\x7d\x7d",
  "  42 nin [1,2,3]          \x7b\"$expr\": \x7b\"$not\": \x7b\"$in\": [42, [1, 2, 3]]\x7d\x7d\x7d",
  "  like/nlike between two literals is unsupported."]

/-- How a filter is written in JSON. -/
def inputText : String := page [
  "INPUT",
  "",
  "A filter is a list of statements. Each statement joins the ones before it",
  "with \"and\" or \"or\" (the first one's conjunction is ignored) and holds either",
  "a clause or a nested filter.",
  "",
  "  \x7b\"statements\": [",
  "    \x7b\"conjunctive\": \"and\",",
  "     \"value\": \x7b\"clause\": \x7b\"subject\": \x7b\"target\": [\"foo\", \"bar\", 0]\x7d,",
  "                          \"operator\": \"eq\",",
  "                          \"object\": \x7b\"literal\": 42\x7d\x7d\x7d\x7d,",
  "    \x7b\"conjunctive\": \"or\",",
  "     \"value\": \x7b\"filter\": \x7b\"statements\": [...]\x7d\x7d\x7d",
  "  ]\x7d",
  "",
  "OPERANDS",
  "",
  "  \x7b\"target\": [\"foo\", 0]\x7d                  field path, never empty",
  "  \x7b\"literal\": \"abc\"\x7d                      scalar or array, never an object",
  "  \x7b\"range\": \x7b\"lower\": 0, \"upper\": 42\x7d\x7d    between/nbetween only",
  "",
  "GROUPING",
  "",
  "  a and b or c and d      \x7b\"$or\": [\x7b\"$and\": [a, b]\x7d, \x7b\"$and\": [c, d]\x7d]\x7d"]

/-- How a strategy is written in JSON. -/
def strategyText : String := page [
  "STRATEGY",
  "",
  "  \x7b\"allow\": [\"/foo\", \"/bar\"]\x7d                       only these fields",
  "  \x7b\"deny\": [\"/password\"]\x7d                           never these fields",
  "  \x7b\"require\": \x7b\"fields\": [\"/tenant\"], \"which\": \"all\"\x7d\x7d",
  "",
  "Fields are named by the JSON pointer of their first path segment: the",
  "target [\"bar\", 0] belongs to the field \"/bar\".",
  "",
  "allow and deny cannot both be non-empty. \"which\" is \"any\" (default) or \"all\"."]

/-- What makes a conversion fail. -/
def errorsText : String := page [
  "ERRORS",
  "",
  "  Invalid target          a path segment contains one of",
  "                          \" \x7b \x7d $ ; , ( ) [ ] ' * < > # ~ @ & % ? : \x60 / \\",
  "                          or two consecutive hyphens",
  "  Denied field            a field on the deny-list is referenced",
  "  Non-allowed field       a field missing from the allow-list is referenced",
  "  Missing required fields the required fields are not referenced",
  "  Unknown operator        the operator is not valid for the operand shape",
  "  Unsupported             like/nlike between two literals",
  "",
  "Every error aborts the conversion; no partial document is produced."]

def Category.text : Category → String
  | .operators => operatorsText
  | .input => inputText
  | .strategy => strategyText
  | .errors => errorsText

end Documentation

end FilterQuery
