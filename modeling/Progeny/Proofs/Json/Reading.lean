import Progeny.Json.Reader
import Progeny.Proofs.Fallible

/-!
# What was read

A reader that has given a value has found the parts that it looks for, in their order.  Each step of
the readers of records is inverted here once: what the characters were, and which of them are left.
-/

namespace Progeny.Json

open Fallible

/-- What comes next but for spaces; unless it is the first part, a comma stands before it. -/
def nextPart (first : Bool) (cs : List Char) : List Char :=
  if first then cs.dropWhile Reader.isSpace
  else match cs.dropWhile Reader.isSpace with
    | ',' :: rest => rest.dropWhile Reader.isSpace
    | _ => []

namespace Reader

variable {α β : Type} {cs rest : List Char} {first : Bool} {c : Char} {u : Unit} {b : β}

/-! ### Taking the parts of a text -/

theorem peekPart_bind (next : Option Char → Reader β) (cs : List Char) :
    (peekPart >>= next) cs = next (cs.dropWhile isSpace).head? (cs.dropWhile isSpace) := rfl

theorem advance_bind (next : Unit → Reader β) (cs : List Char) :
    (advance >>= next) cs = next () (cs.drop 1) := rfl

/-- A text that a reader goes on with has a next part, unless the reader makes do without. -/
theorem peekPart_bind_eq_ok {next : Option Char → Reader β}
    (h : (peekPart >>= next) cs = .ok (b, rest))
    (none : ∀ cs, next Option.none cs ≠ .ok (b, rest)) :
    ∃ c body, cs.dropWhile isSpace = c :: body ∧ next (some c) (c :: body) = .ok (b, rest) := by
  rw [peekPart_bind] at h
  cases parts : cs.dropWhile isSpace with
  | nil => rw [parts] at h; exact absurd h (none _)
  | cons c body => rw [parts] at h; exact ⟨c, body, rfl, h⟩

theorem ite_eq_ok {p : Prop} [Decidable p] {yes no : Reader β}
    (h : (if p then yes else no) cs = .ok (b, rest)) :
    p ∧ yes cs = .ok (b, rest) ∨ ¬p ∧ no cs = .ok (b, rest) := by
  split at h
  · exact .inl ⟨‹p›, h⟩
  · exact .inr ⟨‹¬p›, h⟩

theorem ite_throw_eq_ok {p : Prop} [Decidable p] {yes : Reader β} {e : Fault}
    (h : (if p then yes else throw e) cs = .ok (b, rest)) : p ∧ yes cs = .ok (b, rest) :=
  (ite_eq_ok h).resolve_right nofun

theorem throw_ite_eq_ok {p : Prop} [Decidable p] {no : Reader β} {e : Fault}
    (h : (if p then throw e else no) cs = .ok (b, rest)) : ¬p ∧ no cs = .ok (b, rest) :=
  (ite_eq_ok h).resolve_left nofun

theorem valueStart_eq_ok (h : valueStart cs = .ok (c, rest)) :
    ∃ body, cs.dropWhile isSpace = c :: body ∧ rest = c :: body := by
  obtain ⟨d, body, parts, h⟩ := peekPart_bind_eq_ok h nofun
  cases h
  exact ⟨body, parts, rfl⟩

/-- Takes the character `wanted`, which has to come next. -/
def expectPart (wanted : Char) : Reader Unit := do
  match ← peekPart with
  | none => throw .unfinished
  | some c => if c = wanted then advance else throw .malformed

theorem expectPart_eq_ok {wanted : Char} (h : expectPart wanted cs = .ok (u, rest)) :
    cs.dropWhile isSpace = wanted :: rest := by
  obtain ⟨c, body, parts, h⟩ := peekPart_bind_eq_ok h nofun
  obtain ⟨same, h⟩ := ite_throw_eq_ok h
  cases h
  rw [parts, same, List.drop_one, List.tail_cons]

theorem colon_eq_ok (h : colon cs = .ok (u, rest)) : cs.dropWhile isSpace = ':' :: rest :=
  expectPart_eq_ok h

theorem endObject_eq_ok (h : endObject cs = .ok (u, rest)) :
    cs.dropWhile isSpace = '\x7d' :: rest :=
  expectPart_eq_ok h

theorem endList_eq_ok (h : endList cs = .ok (u, rest)) : cs.dropWhile isSpace = ']' :: rest :=
  expectPart_eq_ok h

theorem enter_eq_ok {mode : Mode} (h : enter mode cs = .ok (u, rest)) : rest = cs := by
  cases mode with
  | direct => cases h; rfl
  | buffered depth =>
    obtain ⟨-, h⟩ := throw_ite_eq_ok h
    cases h
    rfl

/-! ### Refusals -/

/-- The reader never gives a value. -/
def Refuses (reader : Reader α) : Prop := ∀ cs a rest, reader cs ≠ .ok (a, rest)

theorem refuses_throw (e : Fault) : Refuses (throw e : Reader α) := nofun

theorem refuses_bind {reader : Reader α} {next : α → Reader β} (h : ∀ a, Refuses (next a)) :
    Refuses (reader >>= next) := by
  intro cs b rest ok
  obtain ⟨a, middle, -, ok⟩ := bind_eq_ok.mp ok
  exact h a middle b rest ok

theorem refuses_ite {p : Prop} [Decidable p] {yes no : Reader α} (hyes : Refuses yes)
    (hno : Refuses no) : Refuses (if p then yes else no) := by
  split
  · exact hyes
  · exact hno

theorem refuses_mismatch : Refuses (mismatch : Reader α) := by
  have refused : Refuses (throw .mismatched : Reader α) := refuses_throw .mismatched
  refine refuses_bind fun next => ?_
  cases next with
  | none => exact refuses_throw .malformed
  | some c =>
    have keyword (rest : List Char) :
        Refuses (advance >>= fun _ => keyword rest >>= fun _ => (throw .mismatched : Reader α)) :=
      refuses_bind fun _ => refuses_bind fun _ => refused
    refine refuses_ite (keyword ['u', 'l', 'l']) ?_
    refine refuses_ite (keyword ['r', 'u', 'e']) ?_
    refine refuses_ite (keyword ['a', 'l', 's', 'e']) ?_
    refine refuses_ite (refuses_bind fun _ => refuses_bind fun _ => refused) ?_
    refine refuses_ite (refuses_bind fun _ => refused) ?_
    refine refuses_ite (refuses_bind fun _ => refuses_bind fun _ => refused) ?_
    exact refuses_ite (refuses_bind fun _ => refused) refused

/-! ### Going on -/

theorem nextPart_later {body : List Char} (comma : cs.dropWhile isSpace = ',' :: body) :
    nextPart false cs = body.dropWhile isSpace := by
  simp only [nextPart, comma]
  rfl

theorem hasMember_eq_true (h : hasMember first cs = .ok (true, rest)) :
    ∃ body, nextPart first cs = '"' :: body ∧ rest = '"' :: body := by
  obtain ⟨c, body, parts, h⟩ := peekPart_bind_eq_ok h nofun
  obtain ⟨-, h⟩ | ⟨-, h⟩ := ite_eq_ok h
  · cases h
  cases first with
  | true =>
    obtain ⟨rfl, h⟩ := ite_throw_eq_ok h
    cases h
    exact ⟨body, parts, rfl⟩
  | false =>
    obtain ⟨rfl, h⟩ := ite_throw_eq_ok h
    rw [advance_bind, List.drop_one, List.tail_cons] at h
    obtain ⟨d, body, later, h⟩ := peekPart_bind_eq_ok h nofun
    obtain ⟨rfl, h⟩ := ite_throw_eq_ok h
    cases h
    exact ⟨body, (nextPart_later parts).trans later, rfl⟩

theorem hasMember_eq_false (h : hasMember first cs = .ok (false, rest)) :
    rest = cs.dropWhile isSpace := by
  obtain ⟨c, body, parts, h⟩ := peekPart_bind_eq_ok h nofun
  obtain ⟨-, h⟩ | ⟨-, h⟩ := ite_eq_ok h
  · cases h
    exact parts.symm
  cases first with
  | true =>
    obtain ⟨-, h⟩ := ite_throw_eq_ok h
    cases h
  | false =>
    obtain ⟨-, h⟩ := ite_throw_eq_ok h
    rw [advance_bind] at h
    obtain ⟨d, body, later, h⟩ := peekPart_bind_eq_ok h nofun
    obtain ⟨-, h⟩ := ite_throw_eq_ok h
    cases h

theorem hasElement_eq_true (h : hasElement first cs = .ok (true, rest)) :
    rest = nextPart first cs := by
  obtain ⟨c, body, parts, h⟩ := peekPart_bind_eq_ok h nofun
  obtain ⟨-, h⟩ | ⟨-, h⟩ := ite_eq_ok h
  · cases h
  cases first with
  | true =>
    cases h
    exact parts.symm
  | false =>
    obtain ⟨rfl, h⟩ := ite_throw_eq_ok h
    rw [advance_bind, List.drop_one, List.tail_cons] at h
    obtain ⟨d, body, later, h⟩ := peekPart_bind_eq_ok h nofun
    obtain ⟨-, h⟩ := throw_ite_eq_ok h
    cases h
    exact ((nextPart_later parts).trans later).symm

theorem hasElement_eq_false (h : hasElement first cs = .ok (false, rest)) :
    rest = cs.dropWhile isSpace := by
  obtain ⟨c, body, parts, h⟩ := peekPart_bind_eq_ok h nofun
  obtain ⟨-, h⟩ | ⟨-, h⟩ := ite_eq_ok h
  · cases h
    exact parts.symm
  cases first with
  | true => cases h
  | false =>
    obtain ⟨-, h⟩ := ite_throw_eq_ok h
    rw [advance_bind] at h
    obtain ⟨d, body, later, h⟩ := peekPart_bind_eq_ok h nofun
    obtain ⟨-, h⟩ := throw_ite_eq_ok h
    cases h

end Reader

end Progeny.Json
