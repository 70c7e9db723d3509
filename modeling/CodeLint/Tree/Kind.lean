/-!
The shapes a node of a Python syntax tree can take. Every kind of node has a name, and a layout:
the labels of its fields in the order in which a traversal meets them, each required, optional
or a list.
-/

namespace CodeLint.Tree

inductive Kind
  | annAssign
  | assertStmt
  | assign
  | asyncFor
  | asyncFunctionDef
  | asyncWith
  | attributeOf
  | augAssign
  | await
  | binOp
  | boolOp
  | call
  | classDef
  | compare
  | constant
  | deleteStmt
  | dictLit
  | dictComp
  | exceptHandler
  | expr
  | expression
  | forLoop
  | formattedValue
  | functionDef
  | functionType
  | generatorExp
  | globalStmt
  | ifStmt
  | ifExp
  | importStmt
  | importFrom
  | interactive
  | joinedStr
  | lambda
  | listLit
  | listComp
  | matchStmt
  | matchAs
  | matchClass
  | matchMapping
  | matchOr
  | matchSequence
  | matchSingleton
  | matchStar
  | matchValue
  | program
  | name
  | namedExpr
  | nonlocalStmt
  | raiseStmt
  | returnStmt
  | setLit
  | setComp
  | slice
  | starred
  | subscript
  | tryStmt
  | tryStar
  | tupleLit
  | typeIgnore
  | unaryOp
  | whileLoop
  | withStmt
  | yield
  | yieldFrom
  | importItem
  | parameter
  | parameters
  | comprehension
  | keyword
  | matchCase
  | withItem
  | add
  | andOp
  | bitAnd
  | bitOr
  | bitXor
  | breakStmt
  | continueStmt
  | del
  | div
  | eq
  | floorDiv
  | gt
  | gtE
  | isIn
  | invert
  | isSame
  | isNotSame
  | lShift
  | load
  | lt
  | ltE
  | matMult
  | mod
  | mult
  | notOp
  | notEq
  | notIn
  | orOp
  | passStmt
  | pow
  | rShift
  | store
  | sub
  | uAdd
  | uSub
  deriving DecidableEq, Inhabited

inductive Label
  | typeHint
  | argument
  | positional
  | argumentTypes
  | otherName
  | attrName
  | bases
  | body
  | cases
  | cause
  | className
  | comparators
  | contextExpr
  | conversion
  | context
  | decoratorList
  | defaults
  | element
  | elements
  | exception
  | finalBody
  | formatSpec
  | callee
  | generators
  | guard
  | handlers
  | ident
  | conditions
  | isAsync
  | items
  | iterable
  | key
  | keys
  | keywords
  | kind
  | keywordDefaults
  | restKeywords
  | keywordNames
  | keywordPatterns
  | keywordOnly
  | left
  | level
  | lineNumber
  | lower
  | package
  | message
  | name
  | names
  | operator
  | operand
  | operators
  | optionalVars
  | otherwise
  | pattern
  | patterns
  | positionalOnly
  | rest
  | returns
  | right
  | simple
  | slice
  | step
  | subject
  | tag
  | target
  | targets
  | test
  | exceptionType
  | typeComment
  | ignoredTypes
  | upper
  | value
  | values
  | restPositional
  deriving DecidableEq, Inhabited

namespace Kind

def spelling : Kind → String
  | .annAssign => "AnnAssign"
  | .assertStmt => "Assert"
  | .assign => "Assign"
  | .asyncFor => "AsyncFor"
  | .asyncFunctionDef => "AsyncFunctionDef"
  | .asyncWith => "AsyncWith"
  | .attributeOf => "Attribute"
  | .augAssign => "AugAssign"
  | .await => "Await"
  | .binOp => "BinOp"
  | .boolOp => "BoolOp"
  | .call => "Call"
  | .classDef => "ClassDef"
  | .compare => "Compare"
  | .constant => "Constant"
  | .deleteStmt => "Delete"
  | .dictLit => "Dict"
  | .dictComp => "DictComp"
  | .exceptHandler => "ExceptHandler"
  | .expr => "Expr"
  | .expression => "Expression"
  | .forLoop => "For"
  | .formattedValue => "FormattedValue"
  | .functionDef => "FunctionDef"
  | .functionType => "FunctionType"
  | .generatorExp => "GeneratorExp"
  | .globalStmt => "Global"
  | .ifStmt => "If"
  | .ifExp => "IfExp"
  | .importStmt => "Import"
  | .importFrom => "ImportFrom"
  | .interactive => "Interactive"
  | .joinedStr => "JoinedStr"
  | .lambda => "Lambda"
  | .listLit => "List"
  | .listComp => "ListComp"
  | .matchStmt => "Match"
  | .matchAs => "MatchAs"
  | .matchClass => "MatchClass"
  | .matchMapping => "MatchMapping"
  | .matchOr => "MatchOr"
  | .matchSequence => "MatchSequence"
  | .matchSingleton => "MatchSingleton"
  | .matchStar => "MatchStar"
  | .matchValue => "MatchValue"
  | .program => "Module"
  | .name => "Name"
  | .namedExpr => "NamedExpr"
  | .nonlocalStmt => "Nonlocal"
  | .raiseStmt => "Raise"
  | .returnStmt => "Return"
  | .setLit => "Set"
  | .setComp => "SetComp"
  | .slice => "Slice"
  | .starred => "Starred"
  | .subscript => "Subscript"
  | .tryStmt => "Try"
  | .tryStar => "TryStar"
  | .tupleLit => "Tuple"
  | .typeIgnore => "TypeIgnore"
  | .unaryOp => "UnaryOp"
  | .whileLoop => "While"
  | .withStmt => "With"
  | .yield => "Yield"
  | .yieldFrom => "YieldFrom"
  | .importItem => "alias"
  | .parameter => "arg"
  | .parameters => "arguments"
  | .comprehension => "comprehension"
  | .keyword => "keyword"
  | .matchCase => "match_case"
  | .withItem => "withitem"
  | .add => "Add"
  | .andOp => "And"
  | .bitAnd => "BitAnd"
  | .bitOr => "BitOr"
  | .bitXor => "BitXor"
  | .breakStmt => "Break"
  | .continueStmt => "Continue"
  | .del => "Del"
  | .div => "Div"
  | .eq => "Eq"
  | .floorDiv => "FloorDiv"
  | .gt => "Gt"
  | .gtE => "GtE"
  | .isIn => "In"
  | .invert => "Invert"
  | .isSame => "Is"
  | .isNotSame => "IsNot"
  | .lShift => "LShift"
  | .load => "Load"
  | .lt => "Lt"
  | .ltE => "LtE"
  | .matMult => "MatMult"
  | .mod => "Mod"
  | .mult => "Mult"
  | .notOp => "Not"
  | .notEq => "NotEq"
  | .notIn => "NotIn"
  | .orOp => "Or"
  | .passStmt => "Pass"
  | .pow => "Pow"
  | .rShift => "RShift"
  | .store => "Store"
  | .sub => "Sub"
  | .uAdd => "UAdd"
  | .uSub => "USub"

def all : List Kind :=
  [.annAssign, .assertStmt, .assign, .asyncFor, .asyncFunctionDef, .asyncWith, .attributeOf,
   .augAssign, .await, .binOp, .boolOp, .call, .classDef, .compare, .constant, .deleteStmt,
   .dictLit, .dictComp, .exceptHandler, .expr, .expression, .forLoop, .formattedValue,
   .functionDef, .functionType, .generatorExp, .globalStmt, .ifStmt, .ifExp, .importStmt,
   .importFrom, .interactive, .joinedStr, .lambda, .listLit, .listComp, .matchStmt, .matchAs,
   .matchClass, .matchMapping, .matchOr, .matchSequence, .matchSingleton, .matchStar,
   .matchValue, .program, .name, .namedExpr, .nonlocalStmt, .raiseStmt, .returnStmt, .setLit,
   .setComp, .slice, .starred, .subscript, .tryStmt, .tryStar, .tupleLit, .typeIgnore, .unaryOp,
   .whileLoop, .withStmt, .yield, .yieldFrom, .importItem, .parameter, .parameters, .comprehension,
   .keyword, .matchCase, .withItem, .add, .andOp, .bitAnd, .bitOr, .bitXor, .breakStmt,
   .continueStmt, .del, .div, .eq, .floorDiv, .gt, .gtE, .isIn, .invert, .isSame, .isNotSame,
   .lShift, .load, .lt, .ltE, .matMult, .mod, .mult, .notOp, .notEq, .notIn, .orOp, .passStmt,
   .pow, .rShift, .store, .sub, .uAdd, .uSub]

def ofName? (s : String) : Option Kind := all.find? (·.spelling == s)

end Kind

namespace Label

def spelling : Label → String
  | .typeHint => "annotation"
  | .argument => "arg"
  | .positional => "args"
  | .argumentTypes => "argtypes"
  | .otherName => "asname"
  | .attrName => "attr"
  | .bases => "bases"
  | .body => "body"
  | .cases => "cases"
  | .cause => "cause"
  | .className => "cls"
  | .comparators => "comparators"
  | .contextExpr => "context_expr"
  | .conversion => "conversion"
  | .context => "ctx"
  | .decoratorList => "decorator_list"
  | .defaults => "defaults"
  | .element => "elt"
  | .elements => "elts"
  | .exception => "exc"
  | .finalBody => "finalbody"
  | .formatSpec => "format_spec"
  | .callee => "func"
  | .generators => "generators"
  | .guard => "guard"
  | .handlers => "handlers"
  | .ident => "id"
  | .conditions => "ifs"
  | .isAsync => "is_async"
  | .items => "items"
  | .iterable => "iter"
  | .key => "key"
  | .keys => "keys"
  | .keywords => "keywords"
  | .kind => "kind"
  | .keywordDefaults => "kw_defaults"
  | .restKeywords => "kwarg"
  | .keywordNames => "kwd_attrs"
  | .keywordPatterns => "kwd_patterns"
  | .keywordOnly => "kwonlyargs"
  | .left => "left"
  | .level => "level"
  | .lineNumber => "lineno"
  | .lower => "lower"
  | .package => "module"
  | .message => "msg"
  | .name => "name"
  | .names => "names"
  | .operator => "op"
  | .operand => "operand"
  | .operators => "ops"
  | .optionalVars => "optional_vars"
  | .otherwise => "orelse"
  | .pattern => "pattern"
  | .patterns => "patterns"
  | .positionalOnly => "posonlyargs"
  | .rest => "rest"
  | .returns => "returns"
  | .right => "right"
  | .simple => "simple"
  | .slice => "slice"
  | .step => "step"
  | .subject => "subject"
  | .tag => "tag"
  | .target => "target"
  | .targets => "targets"
  | .test => "test"
  | .exceptionType => "type"
  | .typeComment => "type_comment"
  | .ignoredTypes => "type_ignores"
  | .upper => "upper"
  | .value => "value"
  | .values => "values"
  | .restPositional => "vararg"

end Label

inductive Presence
  | required
  | optional
  | many
  deriving DecidableEq, Inhabited

/-- The fields of each kind, in traversal order. -/
def Kind.layout : Kind → List (Label × Presence)
  | .annAssign => [(.target, .required), (.typeHint, .required), (.value, .optional),
      (.simple, .required)]
  | .assertStmt => [(.test, .required), (.message, .optional)]
  | .assign => [(.targets, .many), (.value, .required), (.typeComment, .optional)]
  | .asyncFor => [(.target, .required), (.iterable, .required), (.body, .many),
      (.otherwise, .many), (.typeComment, .optional)]
  | .asyncFunctionDef => [(.name, .required), (.positional, .required), (.body, .many),
      (.decoratorList, .many), (.returns, .optional), (.typeComment, .optional)]
  | .asyncWith => [(.items, .many), (.body, .many), (.typeComment, .optional)]
  | .attributeOf => [(.value, .required), (.attrName, .required), (.context, .required)]
  | .augAssign => [(.target, .required), (.operator, .required), (.value, .required)]
  | .await => [(.value, .required)]
  | .binOp => [(.left, .required), (.operator, .required), (.right, .required)]
  | .boolOp => [(.operator, .required), (.values, .many)]
  | .call => [(.callee, .required), (.positional, .many), (.keywords, .many)]
  | .classDef => [(.name, .required), (.bases, .many), (.keywords, .many), (.body, .many),
      (.decoratorList, .many)]
  | .compare => [(.left, .required), (.operators, .many), (.comparators, .many)]
  | .constant => [(.value, .required), (.kind, .optional)]
  | .deleteStmt => [(.targets, .many)]
  | .dictLit => [(.keys, .many), (.values, .many)]
  | .dictComp => [(.key, .required), (.value, .required), (.generators, .many)]
  | .exceptHandler => [(.exceptionType, .optional), (.name, .optional), (.body, .many)]
  | .expr => [(.value, .required)]
  | .expression => [(.body, .required)]
  | .forLoop => [(.target, .required), (.iterable, .required), (.body, .many), (.otherwise, .many),
      (.typeComment, .optional)]
  | .formattedValue => [(.value, .required), (.conversion, .required), (.formatSpec, .optional)]
  | .functionDef => [(.name, .required), (.positional, .required), (.body, .many),
      (.decoratorList, .many), (.returns, .optional), (.typeComment, .optional)]
  | .functionType => [(.argumentTypes, .many), (.returns, .required)]
  | .generatorExp => [(.element, .required), (.generators, .many)]
  | .globalStmt => [(.names, .many)]
  | .ifStmt => [(.test, .required), (.body, .many), (.otherwise, .many)]
  | .ifExp => [(.test, .required), (.body, .required), (.otherwise, .required)]
  | .importStmt => [(.names, .many)]
  | .importFrom => [(.package, .optional), (.names, .many), (.level, .optional)]
  | .interactive => [(.body, .many)]
  | .joinedStr => [(.values, .many)]
  | .lambda => [(.positional, .required), (.body, .required)]
  | .listLit => [(.elements, .many), (.context, .required)]
  | .listComp => [(.element, .required), (.generators, .many)]
  | .matchStmt => [(.subject, .required), (.cases, .many)]
  | .matchAs => [(.pattern, .optional), (.name, .optional)]
  | .matchClass => [(.className, .required), (.patterns, .many), (.keywordNames, .many),
      (.keywordPatterns, .many)]
  | .matchMapping => [(.keys, .many), (.patterns, .many), (.rest, .optional)]
  | .matchOr => [(.patterns, .many)]
  | .matchSequence => [(.patterns, .many)]
  | .matchSingleton => [(.value, .required)]
  | .matchStar => [(.name, .optional)]
  | .matchValue => [(.value, .required)]
  | .program => [(.body, .many), (.ignoredTypes, .many)]
  | .name => [(.ident, .required), (.context, .required)]
  | .namedExpr => [(.target, .required), (.value, .required)]
  | .nonlocalStmt => [(.names, .many)]
  | .raiseStmt => [(.exception, .optional), (.cause, .optional)]
  | .returnStmt => [(.value, .optional)]
  | .setLit => [(.elements, .many)]
  | .setComp => [(.element, .required), (.generators, .many)]
  | .slice => [(.lower, .optional), (.upper, .optional), (.step, .optional)]
  | .starred => [(.value, .required), (.context, .required)]
  | .subscript => [(.value, .required), (.slice, .required), (.context, .required)]
  | .tryStmt => [(.body, .many), (.handlers, .many), (.otherwise, .many), (.finalBody, .many)]
  | .tryStar => [(.body, .many), (.handlers, .many), (.otherwise, .many), (.finalBody, .many)]
  | .tupleLit => [(.elements, .many), (.context, .required)]
  | .typeIgnore => [(.lineNumber, .required), (.tag, .required)]
  | .unaryOp => [(.operator, .required), (.operand, .required)]
  | .whileLoop => [(.test, .required), (.body, .many), (.otherwise, .many)]
  | .withStmt => [(.items, .many), (.body, .many), (.typeComment, .optional)]
  | .yield => [(.value, .optional)]
  | .yieldFrom => [(.value, .required)]
  | .importItem => [(.name, .required), (.otherName, .optional)]
  | .parameter => [(.argument, .required), (.typeHint, .optional), (.typeComment, .optional)]
  | .parameters => [(.positionalOnly, .many), (.positional, .many), (.restPositional, .optional),
      (.keywordOnly, .many), (.keywordDefaults, .many), (.restKeywords, .optional),
      (.defaults, .many)]
  | .comprehension => [(.target, .required), (.iterable, .required), (.conditions, .many),
      (.isAsync, .required)]
  | .keyword => [(.argument, .optional), (.value, .required)]
  | .matchCase => [(.pattern, .required), (.guard, .optional), (.body, .many)]
  | .withItem => [(.contextExpr, .required), (.optionalVars, .optional)]
  | _ => []

def Kind.isOptional (k : Kind) (l : Label) : Bool := k.layout.contains (l, .optional)

end CodeLint.Tree
