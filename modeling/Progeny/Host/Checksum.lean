import Progeny.Host.Options

/-!
# Checksums

Numbers that say whether octets are still the same: short ones, and long ones that nobody can aim at.
-/

namespace Progeny.Host.Checksum

open Text (Bytes bytesOf)

/-! ### Words -/

/-- A number modulo a power of two. -/
def wrap (bits n : Nat) : Nat := n % Nat.pow 2 bits

/-- A word turned to the right. -/
def turnRight (bits n count : Nat) : Nat := (n >>> count) ||| wrap bits (n <<< (bits - count))

/-- A word turned to the left. -/
def turnLeft (bits n count : Nat) : Nat := turnRight bits n (bits - count)

/-- A word with all bits changed. -/
def inverse (bits n : Nat) : Nat := Nat.pow 2 bits - 1 - n

/-- A number as octets, the greatest part first. -/
def octets (count n : Nat) : Bytes := ((List.range count).map fun i => (n >>> (8 * i)).toUInt8).reverse

/-- The number that octets stand for, the greatest part first. -/
def number (bytes : Bytes) : Nat := bytes.foldl (fun n b => n * 256 + b.toNat) 0

/-- Octets in pieces of a size. -/
def pieces (size : Nat) : (fuel : Nat) → Bytes → List Bytes
  | 0, _ => []
  | _, [] => []
  | fuel + 1, bytes => bytes.take size :: pieces size fuel (bytes.drop size)

/-- Blocks of octets, the last of which says how many there were. -/
def blocks (size : Nat) (length : Nat → Bytes) (bytes : Bytes) : List Bytes :=
  let tail := length (8 * bytes.length)
  let used := (bytes.length + 1 + tail.length) % size
  let all := bytes ++ 0x80 :: List.replicate ((size - used) % size) 0 ++ tail
  pieces size (all.length / size) all

/-- The greatest number whose power is not greater than a number; it has at most `bits` bits. -/
def root (power n : Nat) : (bits : Nat) → (found : Nat) → Nat
  | 0, found => found
  | bits + 1, found =>
    let next := found + Nat.pow 2 bits
    root power n bits (if Nat.pow next power ≤ n then next else found)

/-- The first primes. -/
def primes (count : Nat) : List Nat :=
  ((List.range 420).filter fun n => 2 ≤ n && (List.range n).all fun d => d < 2 || n % d ≠ 0).take count

/-- The first bits behind the point of a root. -/
def fraction (power bits n : Nat) : Nat := wrap bits (root power (n * Nat.pow 2 (power * bits)) (bits + 5) 0)

/-! ### The second family of secure checksums -/

/-- A member of the family. -/
structure Member where
  /-- The number of bits in a word. -/
  bits : Nat
  rounds : Nat
  start : List Nat
  /-- By how much words are turned and shifted. -/
  first : Nat × Nat × Nat
  second : Nat × Nat × Nat
  third : Nat × Nat × Nat
  fourth : Nat × Nat × Nat
  /-- The number of words that count. -/
  words : Nat

/-- The words that a block is spread to. -/
def Member.spread (m : Member) (block : Bytes) : Array Nat :=
  let start := ((pieces (m.bits / 8) 16 block).map number).toArray
  (List.range (m.rounds - 16)).foldl (fun w i =>
    let place (j : Nat) : Nat := (w[i + j]?).getD 0
    let mixed (n : Nat) (amounts : Nat × Nat × Nat) : Nat :=
      turnRight m.bits n amounts.1 ^^^ turnRight m.bits n amounts.2.1 ^^^ (n >>> amounts.2.2)
    w.push (wrap m.bits (place 0 + mixed (place 1) m.first + place 9 + mixed (place 14) m.second))) start

/-- One round. -/
def Member.round (m : Member) (state : List Nat) (word key : Nat) : List Nat :=
  match state with
  | [a, b, c, d, e, f, g, h] =>
    let mixed (n : Nat) (amounts : Nat × Nat × Nat) : Nat :=
      turnRight m.bits n amounts.1 ^^^ turnRight m.bits n amounts.2.1 ^^^ turnRight m.bits n amounts.2.2
    let choice := (e &&& f) ^^^ (inverse m.bits e &&& g)
    let majority := (a &&& b) ^^^ (a &&& c) ^^^ (b &&& c)
    let one := h + mixed e m.fourth + choice + key + word
    let two := mixed a m.third + majority
    [wrap m.bits (one + two), a, b, c, wrap m.bits (d + one), e, f, g]
  | _ => state

/-- The checksum of octets. -/
def Member.sum (m : Member) (bytes : Bytes) : Bytes :=
  let keys := (primes m.rounds).map (fraction 3 m.bits)
  let final := (blocks (2 * m.bits) (octets (m.bits / 4)) bytes).foldl (fun state block =>
    let words := (m.spread block).toList
    let after := (words.zip keys).foldl (fun s (word, key) => m.round s word key) state
    List.zipWith (fun x y => wrap m.bits (x + y)) state after) m.start
  (final.take m.words).flatMap (octets (m.bits / 8))

/-- The members with short words. -/
def short (start : List Nat) (words : Nat) : Member :=
  ⟨32, 64, start, (7, 18, 3), (17, 19, 10), (2, 13, 22), (6, 11, 25), words⟩

/-- The members with long words. -/
def long (start : List Nat) (words : Nat) : Member :=
  ⟨64, 80, start, (1, 8, 7), (19, 61, 6), (28, 34, 39), (14, 18, 41), words⟩

/-- The square roots of the first primes, or of those behind them, with so many bits. -/
def roots (bits skipped : Nat) : List Nat := ((primes 16).drop skipped |>.take 8).map (fraction 2 bits)

/-! ### Older checksums -/

/-- The first secure checksum. -/
def sha1 (bytes : Bytes) : Bytes :=
  let start := [0x67452301, 0xefcdab89, 0x98badcfe, 0x10325476, 0xc3d2e1f0]
  let round (state : List Nat) (i word : Nat) : List Nat :=
    match state with
    | [a, b, c, d, e] =>
      let (f, key) : Nat × Nat :=
        if i < 20 then ((b &&& c) ||| (inverse 32 b &&& d), 0x5a827999)
        else if i < 40 then (b ^^^ c ^^^ d, 0x6ed9eba1)
        else if i < 60 then ((b &&& c) ||| (b &&& d) ||| (c &&& d), 0x8f1bbcdc)
        else (b ^^^ c ^^^ d, 0xca62c1d6)
      [wrap 32 (turnLeft 32 a 5 + f + e + key + word), a, turnLeft 32 b 30, c, d]
    | _ => state
  let final := (blocks 64 (octets 8) bytes).foldl (fun state block =>
    let start := ((pieces 4 16 block).map number).toArray
    let words := (List.range 64).foldl (fun w i =>
      let place (j : Nat) : Nat := (w[i + j]?).getD 0
      w.push (turnLeft 32 (place 13 ^^^ place 8 ^^^ place 2 ^^^ place 0) 1)) start
    let after := (List.range 80).foldl (fun s i => round s i ((words[i]?).getD 0)) state
    List.zipWith (fun x y => wrap 32 (x + y)) state after) start
  final.flatMap (octets 4)

/-- The fifth message digest. -/
def md5 (bytes : Bytes) : Bytes :=
  let start := [0x67452301, 0xefcdab89, 0x98badcfe, 0x10325476]
  let amounts := [[7, 12, 17, 22], [5, 9, 14, 20], [4, 11, 16, 23], [6, 10, 15, 21]]
  let key (i : Nat) : Nat := ((Float.sin (Float.ofNat (i + 1))).abs * 4294967296.0).toUInt64.toNat
  let keys := ((List.range 64).map key).toArray
  let round (state : List Nat) (i : Nat) (words : Array Nat) : List Nat :=
    match state with
    | [a, b, c, d] =>
      let (f, j) : Nat × Nat :=
        if i < 16 then ((b &&& c) ||| (inverse 32 b &&& d), i)
        else if i < 32 then ((d &&& b) ||| (inverse 32 d &&& c), 5 * i + 1)
        else if i < 48 then (b ^^^ c ^^^ d, 3 * i + 5)
        else (c ^^^ (b ||| inverse 32 d), 7 * i)
      let amount := ((amounts[i / 16]?).getD [])[i % 4]?.getD 0
      let sum := wrap 32 (a + f + (keys[i]?).getD 0 + (words[j % 16]?).getD 0)
      [d, wrap 32 (b + turnLeft 32 sum amount), b, c]
    | _ => state
  let final := (blocks 64 (fun n => (octets 8 n).reverse) bytes).foldl (fun state block =>
    let words := ((pieces 4 16 block).map fun piece => number piece.reverse).toArray
    let after := (List.range 64).foldl (fun s i => round s i words) state
    List.zipWith (fun x y => wrap 32 (x + y)) state after) start
  final.flatMap fun n => (octets 4 n).reverse

/-- The remainder of octets and their number by a polynomial. -/
def remainder (bytes : Bytes) : Nat :=
  let step (r : UInt32) (b : UInt8) : UInt32 :=
    (List.range 8).foldl (fun r _ => if r &&& 0x80000000 ≠ 0 then (r <<< 1) ^^^ 0x04c11db7 else r <<< 1)
      (r ^^^ (b.toUInt32 <<< 24))
  let length := ((octets 8 bytes.length).dropWhile (· = 0)).reverse
  (~~~ (length.foldl step (bytes.foldl step 0))).toNat

/-- A sum of octets, which is turned at each. -/
def turningSum (bytes : Bytes) : Nat :=
  bytes.foldl (fun n b => ((n >>> 1) + (n % 2) * 32768 + b.toNat) % 65536) 0

/-- A sum of octets. -/
def plainSum (bytes : Bytes) : Nat :=
  let n := bytes.foldl (fun n b => n + b.toNat) 0
  let n := n % 65536 + n % Nat.pow 2 32 / 65536
  n % 65536 + n / 65536

/-! ### Tools -/

/-! ### A checksum by mixing columns and diagonals -/

/-- In which order the words of a block are mixed in, round by round. -/
def mixingOrders : List (List Nat) :=
  [[0, 1, 2, 3, 4, 5, 6, 7, 8, 9, 10, 11, 12, 13, 14, 15], [14, 10, 4, 8, 9, 15, 13, 6, 1, 12, 0, 2, 11, 7, 5, 3],
   [11, 8, 12, 0, 5, 2, 15, 13, 10, 14, 3, 6, 7, 1, 9, 4], [7, 9, 3, 1, 13, 12, 11, 14, 2, 6, 5, 10, 4, 0, 15, 8],
   [9, 0, 5, 7, 2, 4, 10, 15, 14, 1, 11, 12, 6, 8, 3, 13], [2, 12, 6, 10, 0, 11, 8, 3, 4, 13, 7, 5, 15, 14, 1, 9],
   [12, 5, 1, 15, 14, 13, 4, 10, 0, 7, 6, 3, 9, 2, 8, 11], [13, 11, 7, 14, 12, 1, 3, 9, 5, 0, 15, 4, 8, 6, 2, 10],
   [6, 15, 14, 9, 11, 3, 0, 8, 12, 2, 13, 7, 1, 4, 10, 5], [10, 2, 8, 4, 7, 6, 1, 5, 15, 11, 9, 14, 3, 12, 13, 0],
   [0, 1, 2, 3, 4, 5, 6, 7, 8, 9, 10, 11, 12, 13, 14, 15], [14, 10, 4, 8, 9, 15, 13, 6, 1, 12, 0, 2, 11, 7, 5, 3]]

/-- The places that are mixed in one step of a round: columns, then diagonals. -/
def mixingPlaces : List (Nat × Nat × Nat × Nat) :=
  [(0, 4, 8, 12), (1, 5, 9, 13), (2, 6, 10, 14), (3, 7, 11, 15),
   (0, 5, 10, 15), (1, 6, 11, 12), (2, 7, 8, 13), (3, 4, 9, 14)]

/-- The number that octets stand for, the least part first. -/
def numberBack (bytes : Bytes) : Nat := bytes.foldr (fun (b : UInt8) n => n * 256 + b.toNat) 0

/-- One step: four places are mixed with two words. -/
def mixStep (v : Array Nat) (places : Nat × Nat × Nat × Nat) (x y : Nat) : Array Nat :=
  let (i, j, k, l) := places
  let at' (v : Array Nat) (n : Nat) : Nat := v.getD n 0
  let half (v : Array Nat) (word first second : Nat) : Array Nat :=
    let a := wrap 64 (at' v i + at' v j + word)
    let d := turnRight 64 (at' v l ^^^ a) first
    let c := wrap 64 (at' v k + d)
    let b := turnRight 64 (at' v j ^^^ c) second
    ((((v.setIfInBounds i a).setIfInBounds l d).setIfInBounds k c).setIfInBounds j b)
  half (half v x 32 24) y 16 63

/-- Takes a block into a state; `count` octets were taken with it, and `isLast` says whether it is the last. -/
def mixBlock (state : List Nat) (block : Bytes) (count : Nat) (isLast : Bool) : List Nat :=
  let words := ((pieces 8 16 (block ++ List.replicate (128 - block.length) 0)).map numberBack).toArray
  let signs := roots 64 0
  let start := (state ++ signs.zipIdx.map fun (n, i) =>
    if i = 4 then n ^^^ wrap 64 count else if i = 6 && isLast then inverse 64 n else n).toArray
  let mixed := mixingOrders.foldl (fun v order =>
    (mixingPlaces.zipIdx).foldl (fun v (places, i) =>
      let word (n : Nat) : Nat := words.getD (order.getD n 0) 0
      mixStep v places (word (2 * i)) (word (2 * i + 1))) v) start
  state.zipIdx.map fun (n, i) => n ^^^ mixed.getD i 0 ^^^ mixed.getD (i + 8) 0

/-- The checksum of octets in so many octets. -/
def mixedSum (length : Nat) (bytes : Bytes) : Bytes :=
  let blocks := pieces 128 (bytes.length / 128 + 1) bytes
  let blocks := if blocks.isEmpty then [[]] else blocks
  let start := (roots 64 0).zipIdx.map fun (n, i) => if i = 0 then n ^^^ 0x01010000 ^^^ length else n
  let final := blocks.zipIdx.foldl (fun state (block, i) =>
    mixBlock state block (min (128 * (i + 1)) bytes.length) (i + 1 = blocks.length)) start
  (final.flatMap fun n => (octets 8 n).reverse).take length

/-- A checksum that tools write with digits to the base sixteen. -/
structure Kind where
  name : String
  length : Nat
  sum : Bytes → Bytes

/-- The kinds, and the words for them. -/
def kinds : List (String × Kind) :=
  [("md5", ⟨"MD5", 32, md5⟩), ("sha1", ⟨"SHA1", 40, sha1⟩),
   ("sha224", ⟨"SHA224", 56, fun bytes => (short ((roots 64 8).map (wrap 32)) 7).sum bytes⟩),
   ("sha256", ⟨"SHA256", 64, fun bytes => (short (roots 32 0) 8).sum bytes⟩),
   ("sha384", ⟨"SHA384", 96, fun bytes => (long (roots 64 8) 6).sum bytes⟩),
   ("sha512", ⟨"SHA512", 128, fun bytes => (long (roots 64 0) 8).sum bytes⟩),
   ("blake2b", ⟨"BLAKE2b", 128, mixedSum 64⟩)]

/-- Octets as digits to the base sixteen. -/
def hexadecimal (bytes : Bytes) : String :=
  String.ofList (bytes.flatMap fun b => (Nat.toDigits 16 (256 + b.toNat)).drop 1)

/-- The line that tells the checksum of a file. -/
def Kind.told (kind : Kind) (request : Request) (tagged : Bool) (name : String) (bytes : Bytes) : Bytes :=
  let sum := hexadecimal (kind.sum bytes)
  let ending : UInt8 := if request.asks 'z' then 0 else lineFeed
  let isSpecial := ending = lineFeed && name.toList.any fun c => c = '\\' || c = '\n' || c = '\r'
  let shown := if isSpecial then ((name.replace "\\" "\\\\").replace "\n" "\\n").replace "\r" "\\r" else name
  let lead := if isSpecial then "\\" else ""
  let text :=
    if tagged then lead ++ kind.name ++ " (" ++ shown ++ ") = " ++ sum
    else lead ++ sum ++ (if request.last? ['b', 't'] = some 'b' then " *" else "  ") ++ shown
  bytesOf text ++ [ending]

/-- The checksum and the name in a line. -/
def Kind.entry (kind : Kind) (text : Bytes) : Option (String × String) :=
  let text := Text.Utf8.decode text
  let isSum (sum : String) : Bool :=
    sum.length = kind.length && sum.toList.all fun c => c.isDigit || "abcdefABCDEF".toList.contains c
  let sum := String.ofList (text.toList.takeWhile (· != ' '))
  match text.toList.drop sum.length with
  | ' ' :: mark :: name =>
    if isSum sum && (mark = ' ' || mark = '*') && ! name.isEmpty then some (sum, String.ofList name)
    else
      let lead := kind.name ++ " ("
      let tail := ") = "
      let body := String.ofList (text.toList.drop lead.length)
      match body.splitOn tail with
      | [name, sum] => if text.startsWith lead && isSum sum then some (sum, name) else none
      | _ => none
  | _ => none

/-- What was found when lists of checksums were looked through. -/
structure Findings where
  printed : List (Nat × Bytes) := []
  good : Nat := 0
  /-- The numbers of lines that are no entries, of files that cannot be read, and of wrong sums. -/
  bad : Nat := 0
  unread : Nat := 0
  wrong : Nat := 0

/-- A number of things in words. -/
def counted (n : Nat) (one many : String) : String :=
  if n = 1 then "1 " ++ one else n.repr ++ " " ++ many

/-- Looks whether the files in a list have the checksums that it says. -/
def Kind.check (kind : Kind) (call : Call) (request : Request) (name : String) (content : Except FileError Bytes) :
    List (Nat × Bytes) × Bool :=
  let shown := if name = "-" then "'standard input'" else shownName name
  match content with
  | .error e => ([(2, call.complaint (shown ++ ": " ++ e.message))], false)
  | .ok bytes =>
    let lines := (linesOf bytes).map chomp
    let found := (lines.zipIdx 1).foldl (fun (f : Findings) (text, number) =>
      let say (f : Findings) (n : Nat) (told : Bytes) : Findings := { f with printed := f.printed ++ [(n, told)] }
      match kind.entry text with
      | none =>
        let f := { f with bad := f.bad + 1 }
        if request.asks 'w' then
          say f 2 (call.complaint (shown ++ ": " ++ number.repr ++ ": improperly formatted " ++ kind.name ++ " checksum line"))
        else f
      | some (sum, file) =>
        match call.readOrInput file with
        | .error e =>
          if request.asks 'ï' && e = .notFound then f
          else
            let f := say f 2 (call.complaint (shownName file ++ ": " ++ e.message))
            let f := if request.asks 's' then f else say f 1 (line (file ++ ": FAILED open or read"))
            { f with unread := f.unread + 1 }
        | .ok bytes =>
          if hexadecimal (kind.sum bytes) = sum.toLower then
            let f := { f with good := f.good + 1 }
            if request.asks 's' || request.asks 'q' then f else say f 1 (line (file ++ ": OK"))
          else
            let f := { f with wrong := f.wrong + 1 }
            if request.asks 's' then f else say f 1 (line (file ++ ": FAILED"))) {}
    if found.good + found.unread + found.wrong = 0 then
      (found.printed ++ [(2, call.complaint (shown ++ ": no properly formatted checksum lines found"))], false)
    else
      let warn (n : Nat) (text : String) : List (Nat × Bytes) :=
        if n = 0 || request.asks 's' then [] else [(2, call.complaint ("WARNING: " ++ text))]
      (found.printed ++
        warn found.bad (counted found.bad "line is improperly formatted" "lines are improperly formatted") ++
        warn found.unread (counted found.unread "listed file could not be read" "listed files could not be read") ++
        warn found.wrong (counted found.wrong "computed checksum did NOT match" "computed checksums did NOT match"),
        found.unread = 0 && found.wrong = 0 && (found.bad = 0 || ! request.asks 'r'))

/-- Tells the checksums of a kind, or looks whether they are right. -/
def Kind.run (kind : Kind) (call : Call) (request : Request) (tagged : Bool) : Reply :=
  call.reading request.operands fun found =>
    let told := found.map fun (name, content) =>
      if request.asks 'c' then kind.check call request name content
      else match content with
        | .ok bytes => ([(1, kind.told request tagged name bytes)], true)
        | .error e => ([(2, call.complaint (shownName name ++ ": " ++ e.message))], false)
    { call.idle with printed := told.flatMap (·.1), status := if told.all (·.2) then 0 else 1 }

/-- The names of options that these tools share. -/
def optionNames : List (String × Char) :=
  [("binary", 'b'), ("text", 't'), ("check", 'c'), ("warn", 'w'), ("zero", 'z'), ("tag", 'g'), ("quiet", 'q'),
   ("status", 's'), ("strict", 'r'), ("ignore-missing", 'ï')]

/-- The tool for one kind. -/
def tool (kind : String) : Tool := fun call =>
  call.withOptions { OptionTable.of "bcgqrstwzï" optionNames with
    letters := OptionTable.lettersOf "bctwz".toList ++ OptionTable.lettersOf "gqrsï".toList } 1 fun request =>
  match kinds.lookup kind with
  | some kind => kind.run call request (request.asks 'g')
  | none => call.idle

/-- Tells short checksums and the number of blocks. -/
def shortSums (told : Bytes → String) (call : Call) (names : List String) : Reply :=
  call.reading names fun found =>
    let lines := found.map fun (name, content) => match content with
      | .ok bytes => (1, line (told bytes ++ if names.isEmpty then "" else " " ++ name))
      | .error e => (2, call.complaint (shownName name ++ ": " ++ e.message))
    { call.idle with printed := lines, status := if lines.all (·.1 = 1) then 0 else 1 }

/-- A sum and the number of blocks of 1024 octets. -/
def turningTold (bytes : Bytes) : String :=
  let sum := (turningSum bytes).repr
  String.ofList (List.replicate (5 - sum.length) '0') ++ sum ++ " " ++ aligned 5 ((bytes.length + 1023) / 1024).repr

/-- A sum and the number of blocks of 512 octets. -/
def plainTold (bytes : Bytes) : String := (plainSum bytes).repr ++ " " ++ ((bytes.length + 511) / 512).repr

/-- Tells sums of octets. -/
def sum : Tool := fun call =>
  call.withOptions (.of "rs" [("sysv", 's')]) 1 fun request =>
  shortSums (if request.last? ['r', 's'] = some 's' then plainTold else turningTold) call request.operands

/-- Tells checksums of the kind that is asked for. -/
def cksum : Tool := fun call =>
  call.withOptions { OptionTable.of "a:cwzu" (("algorithm", 'a') :: ("untagged", 'u') :: optionNames) with
    letters := OptionTable.lettersOf "a:bctwzugqrsï".toList } 1 fun request =>
  let crc (bytes : Bytes) : String := (remainder bytes).repr ++ " " ++ bytes.length.repr
  match request.value? 'a' with
  | none | some "crc" => shortSums crc call request.operands
  | some "bsd" => shortSums turningTold call request.operands
  | some "sysv" => shortSums plainTold call request.operands
  | some kind =>
    match kinds.lookup kind with
    | some kind => kind.run call request (! request.asks 'u')
    | none => call.misused 1 ("invalid argument " ++ quoted kind ++ " for " ++ quoted "--algorithm")

end Progeny.Host.Checksum
