import Progeny.Host.Records.Lexer
import Progeny.Host.Records.Syntax

/-!
# Reading programs on records

Expressions are read by the ranks of their operations; a line feed ends a statement except where something
must follow.
-/

namespace Progeny.Host.Records

open Text (Bytes bytesOf)

/-! ### Expressions that are matched -/

/-- The symbol of an octet; those that are no characters are apart from all classes. -/
def octetSymbol (b : UInt8) : Symbol := if b < 128 then b.toNat else 0xf0000 + b.toNat

/-- The symbols of octets. -/
def symbolsOf (bytes : Bytes) : List Symbol := bytes.map octetSymbol

/-- The octets of symbols. -/
def octetsOf (symbols : List Symbol) : Bytes := symbols.map Nat.toUInt8

/-- An expression in which escapes stand for themselves. -/
def plainRegex : (fuel : Nat) → Bytes → Bytes
  | 0, _ => []
  | _, [] => []
  | _, [92] => [92]
  | fuel + 1, 92 :: b :: rest =>
    match [(47, 47), (34, 34), (97, 7), (98, 8), (102, 12), (110, 10), (114, 13), (116, 9), (118, 11)].lookup b with
    | some c => c :: plainRegex fuel rest
    | none =>
      let digits := octal (b :: rest)
      if digits.isEmpty then 92 :: b :: plainRegex fuel rest
      else
        let c := (valueIn 8 digits).toUInt8
        let rest := plainRegex fuel ((b :: rest).drop digits.length)
        if isLetter c || isDigit c || c ≥ 128 then c :: rest else 92 :: c :: rest
  | fuel + 1, b :: rest => b :: plainRegex fuel rest

/-- The expression that a text stands for. -/
def regexOf (bytes : Bytes) : Except Regex.Fault Regex :=
  let plain := plainRegex (bytes.length + 1) bytes
  (Regex.read ⟨true, false⟩ (symbolsOf plain)).map (·.regex)

/-- The complaint about a text that is no expression. -/
def regexComplaint (fault : Regex.Fault) (bytes : Bytes) : String :=
  let why := match fault with
    | .unmatchedOpening => "missing ')'"
    | .unmatchedBracket | .lonelyBracket => "bad class -- [], [^] or ["
    | _ => "syntax error"
  "regular expression compile failed (" ++ why ++ ")\n" ++ Text.Utf8.decode bytes

/-! ### The reader -/

/-- What is read. -/
structure Parsing where
  rest : Bytes
  line : Nat := 1
  /-- A sign that something is greater stands for a sink. -/
  sinks : Bool := false
  /-- The word for membership belongs to a loop. -/
  looping : Bool := false
  inParentheses : Bool := false
  inFunction : Bool := false
  inLoop : Bool := false
  /-- Records can be skipped here. -/
  inRule : Bool := false
  /-- The functions that are called, and the lines. -/
  called : List (String × Nat) := []

/-- A reader of a part of a program. -/
abbrev Parse := StateT Parsing (Except String)

namespace Parse

variable {α : Type}

/-- The text is no program. -/
def fail (text : String) : Parse α := do throw ("line " ++ (← get).line.repr ++ ": " ++ text)

/-- The next word, which stays there. -/
def peek : Parse Token := do
  match lex (← get).rest with
  | .ok (token, _) => return token
  | .error text =>
    if text.startsWith "unexpected" then throw ((← get).line.repr ++ ": " ++ text) else fail text

/-- Passes over a word. -/
def advance : Parse Unit := modify fun p =>
  match lex p.rest with
  | .ok (_, left) =>
    { p with rest := left, line := p.line + (p.rest.take (p.rest.length - left.length)).count lineFeed }
  | .error _ => p

/-- The text is no program, which shows in the next word. -/
def wrong : Parse α := do
  let token ← peek
  let isEnd : Bool := match token with
    | .sign "\x7d" | .lineEnd | .finish => true
    | _ => false
  let text := if (← get).inParentheses && isEnd then "missing ) near " else "syntax error at or near "
  fail (text ++ token.shown)

/-- Whether the next word is a sign. -/
def isNext (sign : String) : Parse Bool := return (← peek) == .sign sign

/-- Passes over a sign if it is next; the result says whether it is. -/
def accept (sign : String) : Parse Bool := do
  if ← isNext sign then
    advance
    return true
  return false

/-- Passes over a sign that must be next. -/
def expect (sign : String) : Parse Unit := do
  if ! (← accept sign) then
    if sign = ")" then fail ("missing ) near " ++ (← peek).shown) else wrong

/-- Passes over line ends. -/
def lines : (fuel : Nat) → Parse Unit
  | 0 => return ()
  | fuel + 1 => do
    if (← peek) == .lineEnd then
      advance
      lines fuel

/-- Passes over all line ends. -/
def allLines : Parse Unit := do lines (← get).rest.length

/-- Reads something in which signs have their usual meaning. -/
def enclosed (body : Parse α) : Parse α := do
  let p ← get
  set { p with sinks := false, looping := false, inParentheses := true }
  let a ← body
  modify fun q => { q with sinks := p.sinks, looping := p.looping, inParentheses := p.inParentheses }
  return a

/-- Reads something; the state is as before if that is not possible. -/
def attempt (body : Parse α) : Parse (Option α) := fun p =>
  match body p with
  | .ok (a, q) => .ok (some a, q)
  | .error _ => .ok (none, p)

/-- Whether a word begins an operand that can follow another one. -/
def beginsOperand : Token → Bool
  | .number _ | .text _ | .word _ | .callee _ | .builtin _ => true
  | .sign sign => ["$", "(", "++", "--"].contains sign
  | _ => false

/-- A regular expression between slashes. -/
def slashed : Parse Expr := do
  let p ← get
  let text := (skipBlanks (p.rest.length + 1) p.rest).drop 1
  match upTo 47 (text ++ [lineFeed]) with
  | none => fail ("runaway regular expression /" ++ Text.Utf8.decode ((text.takeWhile (· != lineFeed)).take 10) ++ " ...")
  | some (found, _) =>
    set { p with rest := text.drop (found.length + 1) }
    match regexOf found with
    | .ok regex => return .regex regex
    | .error fault => fail (regexComplaint fault found)

/-- The operations that assign. -/
def assigning : List (String × Option Operation) :=
  [("=", none), ("+=", some .plus), ("-=", some .minus), ("*=", some .times), ("/=", some .divided),
   ("%=", some .modulo), ("^=", some .power)]

/-- The comparisons. -/
def relations : List (String × Relation) :=
  [("<", .less), ("<=", .atMost), ("==", .equal), ("!=", .unequal), (">=", .atLeast), (">", .greater)]

/-- How many arguments the functions take that there are from the beginning. -/
def arities : List (String × Nat × Nat) :=
  [("length", 0, 1), ("substr", 2, 3), ("index", 2, 2), ("split", 2, 3), ("sub", 2, 3), ("gsub", 2, 3), ("match", 2, 2),
   ("sprintf", 1, 255), ("sin", 1, 1), ("cos", 1, 1), ("atan2", 2, 2), ("exp", 1, 1), ("log", 1, 1), ("sqrt", 1, 1),
   ("int", 1, 1), ("rand", 0, 0), ("srand", 0, 1), ("tolower", 1, 1), ("toupper", 1, 1), ("system", 1, 1),
   ("close", 1, 1), ("fflush", 0, 1), ("systime", 0, 0)]

mutual

/-- An expression, or a choice between two. -/
def expression : (fuel : Nat) → Parse Expr
  | 0 => wrong
  | fuel + 1 => do
    let test ← ranked fuel 1
    if ← accept "?" then
      allLines
      let yes ← enclosedChoice fuel
      allLines
      expect ":"
      allLines
      let no ← expression fuel
      return .choice test yes no
    return test

/-- The first of two expressions between which is chosen. -/
def enclosedChoice : (fuel : Nat) → Parse Expr
  | 0 => wrong
  | fuel + 1 => expression fuel

/-- Expressions with commas between them. -/
def list : (fuel : Nat) → Parse (List Expr)
  | 0 => wrong
  | fuel + 1 => do
    let first ← expression fuel
    if ← accept "," then
      allLines
      return first :: (← list fuel)
    return [first]

/-- An expression of operations that are at least of a rank. -/
def ranked : (fuel rank : Nat) → Parse Expr
  | 0, _ => wrong
  | fuel + 1, rank => do
    if rank ≥ 9 then unary fuel
    else
      let left ← ranked fuel (rank + 1)
      further fuel rank left

/-- What follows an operand on the level of a rank. -/
def further : (fuel rank : Nat) → Expr → Parse Expr
  | 0, _, _ => wrong
  | fuel + 1, rank, left => do
    let p ← get
    let token ← peek
    let operand : Parse Expr := do
      advance
      if rank < 3 then allLines
      ranked fuel (rank + 1)
    match rank, token with
    | 1, .sign "||" => further fuel rank (.either left (← operand))
    | 2, .sign "&&" => further fuel rank (.both left (← operand))
    | 3, .keyword "in" =>
      if p.looping then return left
      advance
      match ← peek with
      | .word name =>
        advance
        let subscripts := match left with
          | .group e => [e]
          | e => [e]
        further fuel rank (.member subscripts name)
      | _ => wrong
    | 4, .sign "~" => further fuel rank (.fits true left (← operand))
    | 4, .sign "!~" => further fuel rank (.fits false left (← operand))
    | 5, .sign sign =>
      match relations.lookup sign with
      | some relation =>
        if sign = ">" && p.sinks then return left
        else return .compare relation left (← operand)
      | none =>
        if sign = "|" then
          let found ← attempt do
            advance
            if (← peek) == .keyword "getline" then advance else wrong
          match found with
          | some _ => further fuel rank (.read .command (some left) (← place? fuel))
          | none => return left
        else return left
    | 6, token =>
      if beginsOperand token then further fuel rank (.join left (← ranked fuel (rank + 1))) else return left
    | 7, .sign "+" => further fuel rank (.operate .plus left (← operand))
    | 7, .sign "-" => further fuel rank (.operate .minus left (← operand))
    | 8, .sign "*" => further fuel rank (.operate .times left (← operand))
    | 8, .sign "/" => further fuel rank (.operate .divided left (← operand))
    | 8, .sign "%" => further fuel rank (.operate .modulo left (← operand))
    | _, _ => return left

/-- An operand with signs before it. -/
def unary : (fuel : Nat) → Parse Expr
  | 0 => wrong
  | fuel + 1 => do
    if ← accept "!" then return .not (← unary fuel)
    else if ← accept "-" then return .sign true (← unary fuel)
    else if ← accept "+" then return .sign false (← unary fuel)
    else raised fuel

/-- A power. -/
def raised : (fuel : Nat) → Parse Expr
  | 0 => wrong
  | fuel + 1 => do
    let base ← stepped fuel
    if ← accept "^" then return .operate .power base (← unary fuel)
    return base

/-- An operand that may be changed by one, or by an assignment. -/
def stepped : (fuel : Nat) → Parse Expr
  | 0 => wrong
  | fuel + 1 => do
    if ← accept "++" then return .step (← target fuel) true true
    else if ← accept "--" then return .step (← target fuel) false true
    let e ← atom fuel
    if ! e.isPlace then return e
    match ← peek with
    | .sign "++" =>
      advance
      return .step e true false
    | .sign "--" =>
      advance
      return .step e false false
    | .sign sign =>
      match assigning.lookup sign with
      | none => return e
      | some operation =>
        advance
        allLines
        return .assign e operation (← expression fuel)
    | _ => return e

/-- What something can be assigned to. -/
def target : (fuel : Nat) → Parse Expr
  | 0 => wrong
  | fuel + 1 => do
    let e ← atom fuel
    if e.isPlace then return e else wrong

/-- What something can be assigned to, if there is that. -/
def place? : (fuel : Nat) → Parse (Option Expr)
  | 0 => return none
  | fuel + 1 => do
    match ← peek with
    | .word _ | .sign "$" => some <$> target fuel
    | _ => return none

/-- An operand by itself. -/
def atom : (fuel : Nat) → Parse Expr
  | 0 => wrong
  | fuel + 1 => do
    match ← peek with
    | .number x =>
      advance
      return .number x
    | .text bytes =>
      advance
      return .text bytes
    | .sign "/" | .sign "/=" => slashed
    | .sign "$" =>
      advance
      if ← accept "++" then return .field (.step (← target fuel) true true)
      else if ← accept "--" then return .field (.step (← target fuel) false true)
      else if ← accept "-" then return .field (.sign true (← atom fuel))
      else return .field (← atom fuel)
    | .sign "(" =>
      advance
      let found ← enclosed (list fuel)
      expect ")"
      match found with
      | [e] => return .group e
      | subscripts =>
        if (← peek) == .keyword "in" then
          advance
          match ← peek with
          | .word name =>
            advance
            return .member subscripts name
          | _ => wrong
        else wrong
    | .word name =>
      advance
      if ← accept "[" then
        let subscripts ← enclosed (list fuel)
        expect "]"
        return .element name subscripts
      return .variable name
    | .callee name =>
      advance
      expect "("
      let args ← arguments fuel
      let p ← get
      set { p with called := (name, p.line) :: p.called }
      return .call name args
    | .builtin name =>
      advance
      let args ← if name = "length" && ! (← isNext "(") then pure [] else do
        expect "("
        arguments fuel
      match arities.lookup name with
      | some (least, most) =>
        if args.length < least || most < args.length then fail ("wrong number of arguments in call to " ++ name)
      | none => pure ()
      return .builtin name args
    | .keyword "getline" =>
      advance
      let place ← place? fuel
      if ← accept "<" then return .read .file (some (← ranked fuel 7)) place
      return .read .input none place
    | _ => wrong

/-- Arguments behind an opening parenthesis. -/
def arguments : (fuel : Nat) → Parse (List Expr)
  | 0 => wrong
  | fuel + 1 => do
    enclosed do
      if ← accept ")" then return []
      let args ← list fuel
      expect ")"
      return args

end

/-! ### Statements -/

/-- The end of a simple statement. -/
def terminator : Parse Unit := do
  match ← peek with
  | .sign ";" =>
    advance
    allLines
  | .lineEnd => allLines
  | .sign "\x7d" | .finish => return ()
  | .sign ")" => fail "extra ')'"
  | _ => wrong

/-- Whether a statement ends here. -/
def atEnd : Parse Bool := do
  match ← peek with
  | .sign ";" | .sign "\x7d" | .lineEnd | .finish => return true
  | _ => return false

/-- What is printed, and where. -/
def printed (fuel : Nat) : Parse (List Expr × Option (Sink × Expr)) := do
  let isEnd : Parse Bool := do
    match ← peek with
    | .sign ">" | .sign ">>" | .sign "|" => return true
    | _ => atEnd
  let p ← get
  set { p with sinks := true }
  let inParentheses ← attempt do
    expect "("
    let found ← enclosed (list fuel)
    expect ")"
    if ← isEnd then return found
    wrong
  let args ← match inParentheses with
    | some found => pure found
    | none => if ← isEnd then pure [] else list fuel
  modify fun q => { q with sinks := p.sinks }
  let sink? : Option Sink := match ← peek with
    | .sign ">" => some .new
    | .sign ">>" => some .more
    | .sign "|" => some .command
    | _ => none
  match sink? with
  | none => return (args, none)
  | some sink =>
    advance
    return (args, some (sink, ← expression fuel))

/-- Reads what stands in a loop. -/
def inLoop (body : Parse α) : Parse α := do
  let p ← get
  set { p with inLoop := true }
  let a ← body
  modify fun q => { q with inLoop := p.inLoop }
  return a

mutual

/-- Statements up to a closing brace. -/
def block : (fuel : Nat) → Parse Stmt
  | 0 => wrong
  | fuel + 1 => do
    expect "\x7b"
    allLines
    return .block (← statements fuel)

/-- The statements that are left, and the brace behind them. -/
def statements : (fuel : Nat) → Parse (List Stmt)
  | 0 => wrong
  | fuel + 1 => do
    allLines
    match ← peek with
    | .sign "\x7d" =>
      advance
      return []
    | .finish => fail "missing \x7d near end of file"
    | .sign ";" =>
      advance
      statements fuel
    | _ =>
      let first ← statement fuel
      return first :: (← statements fuel)

/-- The body of a statement, which may be on a line of its own or be missing. -/
def body : (fuel : Nat) → Parse Stmt
  | 0 => wrong
  | fuel + 1 => do
    allLines
    if ← accept ";" then return .block [] else statement fuel

/-- A statement without its end, as it stands in the head of a loop. -/
def simple : (fuel : Nat) → Parse Stmt
  | 0 => wrong
  | fuel + 1 => do
    match ← peek with
    | .keyword "print" =>
      advance
      let (args, sink) ← printed fuel
      return .print args sink
    | .keyword "printf" =>
      advance
      let (args, sink) ← printed fuel
      if args.isEmpty then fail "no arguments in call to printf"
      return .format args sink
    | .keyword "delete" =>
      advance
      match ← peek with
      | .word name =>
        advance
        if ← accept "[" then
          let subscripts ← list fuel
          expect "]"
          return .delete name (some subscripts)
        return .delete name none
      | _ => wrong
    | _ => return .evaluate (← expression fuel)

/-- A statement. -/
def statement : (fuel : Nat) → Parse Stmt
  | 0 => wrong
  | fuel + 1 => do
    let ended (s : Stmt) : Parse Stmt := do
      terminator
      return s
    match ← peek with
    | .sign "\x7b" =>
      let found ← block fuel
      return found
    | .keyword "if" =>
      advance
      expect "("
      let test ← enclosed (expression fuel)
      expect ")"
      let yes ← body fuel
      let p ← get
      allLines
      let hasElse ← attempt do
        let _ ← accept ";"
        allLines
        if (← peek) == .keyword "else" then advance else wrong
      match hasElse with
      | some _ => return .choose test yes (some (← body fuel))
      | none =>
        set p
        return .choose test yes none
    | .keyword "while" =>
      advance
      expect "("
      let test ← enclosed (expression fuel)
      expect ")"
      if ← accept ";" then return .loop true (some test) (.block []) none
      return .loop true (some test) (← inLoop (body fuel)) none
    | .keyword "do" =>
      advance
      let found ← inLoop (body fuel)
      allLines
      let _ ← accept ";"
      allLines
      if (← peek) == .keyword "while" then advance else wrong
      expect "("
      let test ← enclosed (expression fuel)
      expect ")"
      ended (.loop false (some test) found none)
    | .keyword "for" =>
      advance
      expect "("
      let each ← attempt do
        match ← peek with
        | .word name =>
          advance
          if (← peek) == .keyword "in" then advance else wrong
          match ← peek with
          | .word array =>
            advance
            expect ")"
            return (name, array)
          | _ => wrong
        | _ => wrong
      match each with
      | some (name, array) => return .each name array (← inLoop (body fuel))
      | none =>
        let first ← if ← isNext ";" then pure none else some <$> simple fuel
        expect ";"
        allLines
        let test ← if ← isNext ";" then pure none else some <$> expression fuel
        expect ";"
        allLines
        let step ← if ← isNext ")" then pure none else some <$> simple fuel
        expect ")"
        let inner ← inLoop (if ← accept ";" then pure (Stmt.block []) else body fuel)
        return .block (first.toList ++ [.loop true test inner step])
    | .keyword "next" =>
      if ! (← get).inRule then fail "improper use of next"
      advance
      ended .next
    | .keyword "nextfile" =>
      advance
      ended .nextFile
    | .keyword "break" =>
      if ! (← get).inLoop then fail "break statement outside of loop"
      advance
      ended .leave
    | .keyword "continue" =>
      if ! (← get).inLoop then fail "continue statement outside of loop"
      advance
      ended .proceed
    | .keyword "exit" =>
      advance
      ended (.exit (← if ← atEnd then pure none else some <$> expression fuel))
    | .keyword "return" =>
      if ! (← get).inFunction then fail "return outside function body"
      advance
      ended (.result (← if ← atEnd then pure none else some <$> expression fuel))
    | .sign ";" =>
      advance
      return .block []
    | _ => ended (← simple fuel)

end

/-! ### Programs -/

/-- The names of parameters. -/
def parameters : (fuel : Nat) → Parse (List String)
  | 0 => wrong
  | fuel + 1 => do
    allLines
    match ← peek with
    | .word name | .callee name =>
      advance
      if ← accept "," then return name :: (← parameters fuel)
      return [name]
    | _ => return []

/-- A rule or a function, which is put to a program. -/
def item (fuel : Nat) (program : Program) : Parse Program := do
  let action (inRule : Bool) : Parse Stmt := do
    modify fun p => { p with inRule := inRule }
    block fuel
  let withRule (pattern : Pattern) (action : Option Stmt) : Program :=
    { program with rules := program.rules ++ [⟨pattern, action⟩] }
  match ← peek with
  | .keyword "function" =>
    advance
    match ← peek with
    | .word name | .callee name =>
      advance
      expect "("
      let names ← parameters fuel
      expect ")"
      allLines
      modify fun p => { p with inFunction := true }
      let body ← action true
      modify fun p => { p with inFunction := false }
      return { program with functions := program.functions ++ [(name, ⟨names, body⟩)] }
    | _ => wrong
  | .keyword "BEGIN" =>
    advance
    return withRule .begin (some (← action false))
  | .keyword "END" =>
    advance
    return withRule .finish (some (← action false))
  | .sign "\x7b" => return withRule .always (some (← action true))
  | .sign "\x7d" => fail "extra '\x7d'"
  | _ =>
    let start ← expression fuel
    let pattern ← if ← accept "," then
        allLines
        pure (Pattern.range start (← expression fuel))
      else pure (Pattern.holds start)
    if ← isNext "\x7b" then return withRule pattern (some (← action true))
    match ← peek with
    | .lineEnd | .sign ";" | .finish => return withRule pattern none
    | _ => wrong

/-- The rules and functions that are left. -/
def items (depth : Nat) : (fuel : Nat) → Program → Parse Program
  | 0, program => return program
  | fuel + 1, program => do
    match ← peek with
    | .finish => return program
    | .lineEnd | .sign ";" =>
      advance
      items depth fuel program
    | _ => items depth fuel (← item depth program)

end Parse

/-- Reads a program. -/
def Program.read (text : Bytes) : Except String Program := do
  let text := text ++ [lineFeed]
  let (program, p) ← (Parse.items (20 * text.length + 100) (text.length + 1) ⟨[], []⟩).run { rest := text }
  match p.called.reverse.find? fun (name, _) => (program.functions.lookup name).isNone with
  | some (name, _) => throw ("line " ++ p.line.repr ++ ": function " ++ name ++ " never defined")
  | none => return program

end Progeny.Host.Records
