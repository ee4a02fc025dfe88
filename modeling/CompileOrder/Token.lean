import CompileOrder.Text.Case

/-!
# Tokens

The vocabulary of a source line: reserved words, identifiers, numeric literals,
compound delimiters and single punctuation characters. A reserved word is known by
its upper-case spelling alone, so its token carries that spelling whatever the
source wrote.
-/

namespace CompileOrder

/-- The reserved words of the hardware description language, in upper case. -/
inductive Keyword where
  | ABS | ACCESS | AFTER | ALIAS | ALL | AND | ARCHITECTURE | ARRAY | ASSERT | ASSUME
  | ASSUME_GUARANTEE | ATTRIBUTE | BEGIN | BLOCK | BODY | BUFFER | BUS | CASE | COMPONENT
  | CONFIGURATION | CONSTANT | CONTEXT | COVER | DEFAULT | DISCONNECT | DOWNTO | ELSE
  | ELSIF | END | ENTITY | EXIT | FAIRNESS | FILE | FOR | FORCE | FUNCTION | GENERATE
  | GENERIC | GROUP | GUARDED | IF | IMPURE | IN | INERTIAL | INOUT | IS | LABEL | LIBRARY
  | LINKAGE | LITERAL | LOOP | MAP | MOD | NAND | NEW | NEXT | NOR | NOT | NULL | OF | ON
  | OPEN | OR | OTHERS | OUT | PACKAGE | PARAMETER | PORT | POSTPONED | PROCEDURE | PROCESS
  | PROPERTY | PROTECTED | PURE | RANGE | RECORD | REGISTER | REJECT | RELEASE | REM
  | REPORT | RESTRICT | RESTRICT_GUARANTEE | RETURN | ROL | ROR | SELECT | SEQUENCE
  | SEVERITY | SHARED | SIGNAL | SLA | SLL | SRA | SRL | STRONG | SUBTYPE | THEN | TO
  | TRANSPORT | TYPE | UNAFFECTED | UNITS | UNTIL | USE | VARIABLE | VMODE | VPROP | VUNIT
  | WAIT | WHEN | WHILE | WITH | XNOR | XOR
  deriving DecidableEq, Repr

namespace Keyword

/-- Every reserved word, in alphabetical order. -/
def all : List Keyword :=
  [.ABS, .ACCESS, .AFTER, .ALIAS, .ALL, .AND, .ARCHITECTURE, .ARRAY, .ASSERT, .ASSUME,
   .ASSUME_GUARANTEE, .ATTRIBUTE, .BEGIN, .BLOCK, .BODY, .BUFFER, .BUS, .CASE, .COMPONENT,
   .CONFIGURATION, .CONSTANT, .CONTEXT, .COVER, .DEFAULT, .DISCONNECT, .DOWNTO, .ELSE,
   .ELSIF, .END, .ENTITY, .EXIT, .FAIRNESS, .FILE, .FOR, .FORCE, .FUNCTION, .GENERATE,
   .GENERIC, .GROUP, .GUARDED, .IF, .IMPURE, .IN, .INERTIAL, .INOUT, .IS, .LABEL, .LIBRARY,
   .LINKAGE, .LITERAL, .LOOP, .MAP, .MOD, .NAND, .NEW, .NEXT, .NOR, .NOT, .NULL, .OF, .ON,
   .OPEN, .OR, .OTHERS, .OUT, .PACKAGE, .PARAMETER, .PORT, .POSTPONED, .PROCEDURE,
   .PROCESS, .PROPERTY, .PROTECTED, .PURE, .RANGE, .RECORD, .REGISTER, .REJECT, .RELEASE,
   .REM, .REPORT, .RESTRICT, .RESTRICT_GUARANTEE, .RETURN, .ROL, .ROR, .SELECT, .SEQUENCE,
   .SEVERITY, .SHARED, .SIGNAL, .SLA, .SLL, .SRA, .SRL, .STRONG, .SUBTYPE, .THEN, .TO,
   .TRANSPORT, .TYPE, .UNAFFECTED, .UNITS, .UNTIL, .USE, .VARIABLE, .VMODE, .VPROP, .VUNIT,
   .WAIT, .WHEN, .WHILE, .WITH, .XNOR, .XOR]

/-- The upper-case spelling of a reserved word. -/
def spelling : Keyword → String
  | .ABS => "ABS"
  | .ACCESS => "ACCESS"
  | .AFTER => "AFTER"
  | .ALIAS => "ALIAS"
  | .ALL => "ALL"
  | .AND => "AND"
  | .ARCHITECTURE => "ARCHITECTURE"
  | .ARRAY => "ARRAY"
  | .ASSERT => "ASSERT"
  | .ASSUME => "ASSUME"
  | .ASSUME_GUARANTEE => "ASSUME_GUARANTEE"
  | .ATTRIBUTE => "ATTRIBUTE"
  | .BEGIN => "BEGIN"
  | .BLOCK => "BLOCK"
  | .BODY => "BODY"
  | .BUFFER => "BUFFER"
  | .BUS => "BUS"
  | .CASE => "CASE"
  | .COMPONENT => "COMPONENT"
  | .CONFIGURATION => "CONFIGURATION"
  | .CONSTANT => "CONSTANT"
  | .CONTEXT => "CONTEXT"
  | .COVER => "COVER"
  | .DEFAULT => "DEFAULT"
  | .DISCONNECT => "DISCONNECT"
  | .DOWNTO => "DOWNTO"
  | .ELSE => "ELSE"
  | .ELSIF => "ELSIF"
  | .END => "END"
  | .ENTITY => "ENTITY"
  | .EXIT => "EXIT"
  | .FAIRNESS => "FAIRNESS"
  | .FILE => "FILE"
  | .FOR => "FOR"
  | .FORCE => "FORCE"
  | .FUNCTION => "FUNCTION"
  | .GENERATE => "GENERATE"
  | .GENERIC => "GENERIC"
  | .GROUP => "GROUP"
  | .GUARDED => "GUARDED"
  | .IF => "IF"
  | .IMPURE => "IMPURE"
  | .IN => "IN"
  | .INERTIAL => "INERTIAL"
  | .INOUT => "INOUT"
  | .IS => "IS"
  | .LABEL => "LABEL"
  | .LIBRARY => "LIBRARY"
  | .LINKAGE => "LINKAGE"
  | .LITERAL => "LITERAL"
  | .LOOP => "LOOP"
  | .MAP => "MAP"
  | .MOD => "MOD"
  | .NAND => "NAND"
  | .NEW => "NEW"
  | .NEXT => "NEXT"
  | .NOR => "NOR"
  | .NOT => "NOT"
  | .NULL => "NULL"
  | .OF => "OF"
  | .ON => "ON"
  | .OPEN => "OPEN"
  | .OR => "OR"
  | .OTHERS => "OTHERS"
  | .OUT => "OUT"
  | .PACKAGE => "PACKAGE"
  | .PARAMETER => "PARAMETER"
  | .PORT => "PORT"
  | .POSTPONED => "POSTPONED"
  | .PROCEDURE => "PROCEDURE"
  | .PROCESS => "PROCESS"
  | .PROPERTY => "PROPERTY"
  | .PROTECTED => "PROTECTED"
  | .PURE => "PURE"
  | .RANGE => "RANGE"
  | .RECORD => "RECORD"
  | .REGISTER => "REGISTER"
  | .REJECT => "REJECT"
  | .RELEASE => "RELEASE"
  | .REM => "REM"
  | .REPORT => "REPORT"
  | .RESTRICT => "RESTRICT"
  | .RESTRICT_GUARANTEE => "RESTRICT_GUARANTEE"
  | .RETURN => "RETURN"
  | .ROL => "ROL"
  | .ROR => "ROR"
  | .SELECT => "SELECT"
  | .SEQUENCE => "SEQUENCE"
  | .SEVERITY => "SEVERITY"
  | .SHARED => "SHARED"
  | .SIGNAL => "SIGNAL"
  | .SLA => "SLA"
  | .SLL => "SLL"
  | .SRA => "SRA"
  | .SRL => "SRL"
  | .STRONG => "STRONG"
  | .SUBTYPE => "SUBTYPE"
  | .THEN => "THEN"
  | .TO => "TO"
  | .TRANSPORT => "TRANSPORT"
  | .TYPE => "TYPE"
  | .UNAFFECTED => "UNAFFECTED"
  | .UNITS => "UNITS"
  | .UNTIL => "UNTIL"
  | .USE => "USE"
  | .VARIABLE => "VARIABLE"
  | .VMODE => "VMODE"
  | .VPROP => "VPROP"
  | .VUNIT => "VUNIT"
  | .WAIT => "WAIT"
  | .WHEN => "WHEN"
  | .WHILE => "WHILE"
  | .WITH => "WITH"
  | .XNOR => "XNOR"
  | .XOR => "XOR"

/-- The reserved word with exactly this spelling. -/
def ofSpelling? (word : String) : Option Keyword :=
  all.find? fun k => k.spelling == word

end Keyword

/-- The delimiters made of two or three characters. -/
inductive Operator where
  | arrow | lessEqual | greaterEqual | assign | doubleLess | doubleGreater | box | notEqual
  | power | condition | matchEqual | matchNotEqual | matchLess | matchLessEqual
  | matchGreater | matchGreaterEqual
  deriving DecidableEq, Repr

namespace Operator

/-- The characters of a compound delimiter. -/
def spelling : Operator → String
  | .arrow => "=>"
  | .lessEqual => "<="
  | .greaterEqual => ">="
  | .assign => ":="
  | .doubleLess => "<<"
  | .doubleGreater => ">>"
  | .box => "<>"
  | .notEqual => "/="
  | .power => "**"
  | .condition => "??"
  | .matchEqual => "?="
  | .matchNotEqual => "?/="
  | .matchLess => "?<"
  | .matchLessEqual => "?<="
  | .matchGreater => "?>"
  | .matchGreaterEqual => "?>="

/-- Every compound delimiter, a longer spelling before each of its beginnings. -/
def all : List Operator :=
  [.matchNotEqual, .matchLessEqual, .matchGreaterEqual, .condition, .matchEqual, .matchLess,
   .matchGreater, .arrow, .lessEqual, .greaterEqual, .assign, .doubleLess, .doubleGreater,
   .box, .notEqual, .power]

end Operator

/-- What a token stands for. -/
inductive Symbol where
  /-- A reserved word. -/
  | keyword (word : Keyword)
  /-- A name. -/
  | identifier
  /-- A numeric literal. -/
  | number
  /-- A delimiter of two or three characters. -/
  | operator (op : Operator)
  /-- Any other punctuation character. -/
  | delimiter (c : Char)
  deriving DecidableEq, Repr

/-- The symbol as it is shown: the word, the class or the delimiter itself. -/
def Symbol.display : Symbol → String
  | .keyword k => k.spelling
  | .identifier => "IDENTIFIER"
  | .number => "NUMBER"
  | .operator o => o.spelling
  | .delimiter c => String.ofList [c]

/-- A lexeme with the line it was found on. -/
structure Token where
  /-- What the lexeme stands for. -/
  symbol : Symbol
  /-- The characters of the source, or the upper-case spelling of a reserved word. -/
  text : String
  /-- The number of the line, counted from one. -/
  line : Nat
  deriving DecidableEq, Repr

namespace Token

/-- Whether the token is the reserved word `k`. -/
def isKeyword (k : Keyword) (t : Token) : Bool := t.symbol == .keyword k

/-- Whether the token is a name. -/
def isIdentifier (t : Token) : Bool := t.symbol == .identifier

/-- Whether the token is the punctuation character `c`. -/
def isDelimiter (c : Char) (t : Token) : Bool := t.symbol == .delimiter c

/-- The canonical form of a name: its text in upper case. -/
def name (t : Token) : String := Text.upper t.text

end Token

end CompileOrder
