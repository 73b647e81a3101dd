import Progeny.Host.Regex

/-!
# Patterns of names

The patterns that tools select file names with, as regular expressions: a star stands for any symbols, a
question mark for one, and brackets for one of a set.
-/

namespace Progeny.Host.Glob

/-- Any one symbol. -/
def one : Regex := .oneOf true []

/-- The expression that a pattern stands for. -/
def read : (fuel : Nat) → List Symbol → Regex
  | 0, _ => .empty
  | _, [] => .empty
  | fuel + 1, n :: rest =>
    if n = Regex.code '*' then .seq (.star one) (read fuel rest)
    else if n = Regex.code '?' then .seq one (read fuel rest)
    else if n = Regex.code '\\' then
      match rest with
      | m :: more => .seq (Regex.symbol m) (read fuel more)
      | [] => Regex.symbol n
    else if n = Regex.code '[' then
      let sign := rest.head?
      let inner := if sign = some (Regex.code '!') then Regex.code '^' :: rest.drop 1 else rest
      match Regex.set inner with
      | .ok (found, left) => .seq found (read fuel left)
      | .error _ => .seq (Regex.symbol n) (read fuel rest)
    else .seq (Regex.symbol n) (read fuel rest)

/-- Whether a name as a whole matches a pattern. -/
def accepts (pattern name : String) (anyCase : Bool := false) : Bool :=
  let symbols (text : String) : List Symbol := text.toList.map Char.toNat
  let regex := read (pattern.length + 1) (symbols pattern)
  (regex.matchAt? { anyCase := anyCase } (·.after.isEmpty) [] (symbols name) name.length).isSome

end Progeny.Host.Glob
