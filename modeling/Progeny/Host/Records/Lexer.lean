import Progeny.Host.Numeral
import Progeny.Host.Tool

/-!
# Words of programs on records
-/

namespace Progeny.Host.Records

open Text (Bytes bytesOf)

/-- A word of a program. -/
inductive Token where
  | number (x : Float)
  | text (bytes : Bytes)
  | word (name : String)
  /-- A name right before a parenthesis. -/
  | callee (name : String)
  | builtin (name : String)
  | keyword (name : String)
  | sign (text : String)
  | lineEnd
  | finish
  deriving BEq

/-- The words that are no names. -/
def keywords : List String :=
  ["BEGIN", "END", "function", "func", "if", "else", "while", "for", "do", "break", "continue", "next", "nextfile", "exit",
   "return", "delete", "in", "getline", "print", "printf"]

/-- The functions that there are from the beginning. -/
def builtins : List String :=
  ["length", "substr", "index", "split", "sub", "gsub", "match", "sprintf", "sin", "cos", "atan2", "exp", "log", "sqrt",
   "int", "rand", "srand", "tolower", "toupper", "system", "close", "fflush", "systime"]

/-- The signs, of which no later one begins with an earlier one. -/
def signs : List String :=
  ["&&", "||", "==", "!=", "!~", "<=", ">=", ">>", "++", "--", "+=", "-=", "*=", "/=", "%=", "^=", "\x7b", "\x7d", "(", ")", "[", "]",
   ";", ",", "+", "-", "*", "/", "%", "^", "!", "<", ">", "|", "?", ":", "~", "$", "="]

/-- A token as it is shown in a complaint. -/
def Token.shown : Token → String
  | .number _ => "number"
  | .text bytes => Text.Utf8.decode bytes
  | .word name | .callee name | .builtin name | .keyword name => name
  | .sign written => written
  | .lineEnd => "end of line"
  | .finish => "end of file"

/-- Whether an octet may begin a name. -/
def isLetter (b : UInt8) : Bool := b = 95 || (65 ≤ b && b ≤ 90) || (97 ≤ b && b ≤ 122)

/-- The octet that a letter behind a backslash stands for. -/
def escapes : List (UInt8 × UInt8) :=
  [(34, 34), (92, 92), (47, 47), (97, 7), (98, 8), (102, 12), (110, 10), (114, 13), (116, 9), (118, 11)]

/-- Octal digits at the beginning, no more than three. -/
def octal (bytes : Bytes) : Bytes := (bytes.take 3).takeWhile fun b => 48 ≤ b && b ≤ 55

/-- The number that digits stand for. -/
def valueIn (base : Nat) (digits : Bytes) : Nat :=
  digits.foldl (fun (n : Nat) (b : UInt8) => n * base + (Numeral.digit? base (Char.ofNat b.toNat)).getD 0) 0

/-- The octets that a text with escapes stands for. -/
def unescape : (fuel : Nat) → Bytes → Bytes
  | 0, _ => []
  | _, [] => []
  | _, [92] => [92]
  | fuel + 1, 92 :: b :: rest =>
    match escapes.lookup b with
    | some c => c :: unescape fuel rest
    | none =>
      let digits := octal (b :: rest)
      if ! digits.isEmpty then (valueIn 8 digits).toUInt8 :: unescape fuel ((b :: rest).drop digits.length)
      else
        let more := (rest.take 2).takeWhile fun c => (Numeral.digit? 16 (Char.ofNat c.toNat)).isSome
        if b = 120 && ! more.isEmpty then (valueIn 16 more).toUInt8 :: unescape fuel (rest.drop more.length)
        else if b = lineFeed then unescape fuel rest
        else 92 :: b :: unescape fuel rest
  | fuel + 1, b :: rest => b :: unescape fuel rest

/-- A text up to a mark that ends it, behind which it goes on; there may be none on the line. -/
def upTo (mark : UInt8) : Bytes → Option (Bytes × Bytes)
  | [] => none
  | [_] => none
  | 92 :: b :: rest => (upTo mark rest).map fun (text, left) => (92 :: b :: text, left)
  | b :: c :: rest =>
    if b = mark then some ([], c :: rest)
    else if b = lineFeed then none
    else (upTo mark (c :: rest)).map fun (text, left) => (b :: text, left)

/-- What is passed over before a word: blanks, comments, and line feeds behind a backslash. -/
def skipBlanks : (fuel : Nat) → Bytes → Bytes
  | 0, rest => rest
  | fuel + 1, 92 :: 10 :: rest => skipBlanks fuel rest
  | fuel + 1, 92 :: 13 :: 10 :: rest => skipBlanks fuel rest
  | fuel + 1, b :: rest =>
    if b = 32 || b = 9 || b = 13 then skipBlanks fuel rest
    else if b = 35 then skipBlanks fuel (rest.dropWhile (· != lineFeed))
    else b :: rest
  | _, [] => []

/-- The next word, and what follows it. -/
def lex (text : Bytes) : Except String (Token × Bytes) :=
  match skipBlanks (text.length + 1) text with
  | [] => .ok (.finish, [])
  | b :: rest =>
    if b = lineFeed then .ok (.lineEnd, rest)
    else if isLetter b then
      let name := (b :: rest).takeWhile fun c => isLetter c || isDigit c
      let left := (b :: rest).drop name.length
      let name := Text.Utf8.decode name
      if keywords.contains name then .ok (.keyword (if name = "func" then "function" else name), left)
      else if builtins.contains name then .ok (.builtin name, left)
      else if left.head? = some 40 then .ok (.callee name, left)
      else .ok (.word name, left)
    else if isDigit b || (b = 46 && rest.head?.any isDigit) then
      let chars := (b :: rest).map fun c => Char.ofNat c.toNat
      match Numeral.float? chars with
      | some (x, left) => .ok (.number x, (b :: rest).drop (chars.length - left.length))
      | none => .error "syntax error"
    else if b = 34 then
      match upTo 34 (rest ++ [lineFeed]) with
      | some (text, _) => .ok (.text (unescape (text.length + 1) text), rest.drop (text.length + 1))
      | none => .error ("runaway string constant \"" ++ Text.Utf8.decode ((rest.takeWhile (· != lineFeed)).take 10) ++ " ...")
    else
      match signs.find? fun sign => (bytesOf sign).isPrefixOf (b :: rest) with
      | some sign => .ok (.sign sign, (b :: rest).drop sign.length)
      | none => .error ("unexpected character '" ++ Text.Utf8.decode [b] ++ "'")

end Progeny.Host.Records
