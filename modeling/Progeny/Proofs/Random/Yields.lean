import Mathlib.Data.List.Forall2
import Progeny.Proofs.Fallible
import Progeny.Random.Draw

/-!
# Draws that can only run dry

`Yields listed draw P` says four things about a draw: its results satisfy `P`; they stay the same
when the source holds more words; if it has no result then the source ran dry; and it has a result
once it is given enough of a source that lists fewer than `listed` words before its zero words.  A
draw with this property never tosses a coin that is none, never draws out of nothing and never looks
up a member that does not exist; and whatever words it was given, there are further words with which
it comes to an end.

Some draws take the number of words that are left as the bound of a recursion.  For them,
`Approximates` says that a higher bound changes no result, and the bound is also the number of
listed words up to which the draw is known to end: each level of the recursion either reads a listed
word or takes the way of the zero word, which does not open a further level.
-/

namespace Progeny

open Fallible

/-- The same source with `more` further words. -/
def Words.plus (source : Words) (more : Nat) : Words :=
  { source with remaining := source.remaining + more }

theorem Words.plus_thenZeros (first : List UInt64) (supply more : Nat) :
    (thenZeros first supply).plus more = .thenZeros first (supply + more) := rfl

theorem Words.next?_plus {source rest : Words} {word : UInt64} (more : Nat)
    (h : source.next? = some (word, rest)) :
    (source.plus more).next? = some (word, rest.plus more) := by
  obtain ⟨queued, generator, remaining⟩ := source
  cases remaining with
  | zero => simp [next?] at h
  | succ left =>
    have swap : left + 1 + more = left + more + 1 := by omega
    cases queued with
    | nil =>
      simp only [next?, Option.some.injEq, Prod.mk.injEq] at h
      obtain ⟨rfl, rfl⟩ := h
      simp only [next?, plus, swap]
    | cons first queued =>
      simp only [next?, Option.some.injEq, Prod.mk.injEq] at h
      obtain ⟨rfl, rfl⟩ := h
      simp only [next?, plus, swap]

theorem eq_ok_of_toOption {ε α : Type} {x : Except ε α} {a : α} (h : x.toOption = some a) :
    x = .ok a := by
  cases x with
  | error e => cases h
  | ok b =>
    cases h
    rfl

namespace Draw

variable {α β : Type}

/-- Where `draw` has a result, `other` has the same one. -/
def Approximates (draw other : Draw α) : Prop :=
  ∀ source a rest, draw source = .ok (a, rest) → other source = .ok (a, rest)

/-- Enough of a source of the words `first` and then zero words gives `draw` a result, and the
result and the listed words that are left are `good`. -/
def Ends (draw : Draw α) (first : List UInt64) (good : α → List UInt64 → Prop) : Prop :=
  ∃ supply a rest left,
    draw (.thenZeros first supply) = .ok (a, .thenZeros rest left) ∧ good a rest

/-- The results of `draw` satisfy `P` and do not depend on how many words follow; `draw` has no
failure but a dry source; and it ends on fewer than `listed` words followed by zero words. -/
structure Yields (listed : Nat) (draw : Draw α) (P : α → Prop) : Prop where
  result : ∀ {source rest : Words} {a : α}, draw source = .ok (a, rest) → P a
  steady : ∀ {source rest : Words} {a : α}, draw source = .ok (a, rest) →
    ∀ more, draw (source.plus more) = .ok (a, rest.plus more)
  failure : ∀ {source : Words} {e : DrawFailure}, draw source = .error e → e = .dry
  ends : ∀ {first : List UInt64}, first.length < listed →
    Ends draw first fun _ rest => rest.length ≤ first.length

/-- Whatever words come before the zero words, some supply of them is enough for a result; on a
greater supply the result is the same, and all that was added is left over. -/
def Finishes (draw : Draw α) : Prop :=
  ∀ first : List UInt64, ∃ enough a rest left,
    ∀ more, draw (.thenZeros first (enough + more)) = .ok (a, .thenZeros rest (left + more))

variable {listed : Nat}

/-- A draw that ends on any number of listed words needs finitely many words. -/
theorem Yields.finishes {draw : Draw α} {P : α → Prop} (h : ∀ listed, Yields listed draw P) :
    Finishes draw := by
  intro first
  have within := h (first.length + 1)
  obtain ⟨enough, a, rest, left, drawn, -⟩ := within.ends (Nat.lt_succ_self first.length)
  exact ⟨enough, a, rest, left, within.steady drawn⟩

theorem Ends.mono {draw : Draw α} {first : List UInt64} {good good' : α → List UInt64 → Prop}
    (h : Ends draw first good) (weaken : ∀ a rest, good a rest → good' a rest) :
    Ends draw first good' := by
  obtain ⟨supply, a, rest, left, drawn, fine⟩ := h
  exact ⟨supply, a, rest, left, drawn, weaken a rest fine⟩

theorem Yields.mono {draw : Draw α} {P Q : α → Prop} (h : Yields listed draw P)
    (weaken : ∀ a, P a → Q a) : Yields listed draw Q where
  result drawn := weaken _ (h.result drawn)
  steady := h.steady
  failure := h.failure
  ends := h.ends

/-- Some words give `a`. -/
def Gives (draw : Draw α) (a : α) : Prop := ∃ source rest, draw source = .ok (a, rest)

theorem Yields.gives {draw : Draw α} {P : α → Prop} (h : Yields listed draw P) :
    Yields listed draw (Gives draw) where
  result drawn := ⟨_, _, drawn⟩
  steady := h.steady
  failure := h.failure
  ends := h.ends

/-! ### Sequences of draws -/

theorem yields_pure {P : α → Prop} {a : α} (h : P a) : Yields listed (pure a : Draw α) P where
  result drawn := by
    cases drawn
    exact h
  steady drawn more := by
    cases drawn
    rfl
  failure failed := by cases failed
  ends {first} _ := ⟨0, a, first, 0, rfl, Nat.le_refl _⟩

theorem Ends.bind {draw : Draw α} {next : α → Draw β} {P : α → Prop} {Q : β → Prop} {m n : Nat}
    (h : Yields m draw P) (hnext : ∀ a, P a → Yields n (next a) Q) {first : List UInt64}
    {good : α → List UInt64 → Prop} {good' : β → List UInt64 → Prop} (ends : Ends draw first good)
    (follow : ∀ a rest, P a → good a rest → Ends (next a) rest good') :
    Ends (draw >>= next) first good' := by
  obtain ⟨supply, a, rest, left, drawn, fine⟩ := ends
  have ha := h.result drawn
  obtain ⟨supply', b, rest', left', drawn', fine'⟩ := follow a rest ha fine
  refine ⟨supply + supply', b, rest', left' + left, ?_, fine'⟩
  have second := (hnext a ha).steady drawn' left
  rw [Words.plus_thenZeros, Nat.add_comm] at second
  exact bind_eq_ok.mpr ⟨a, .thenZeros rest (left + supply'), h.steady drawn supply', second⟩

/-- In a sequence, the first draw ends; the second one does on the listed words that are left. -/
theorem Yields.sequence {draw : Draw α} {next : α → Draw β} {P : α → Prop} {Q : β → Prop}
    {m n : Nat} (h : Yields m draw P) (hnext : ∀ a, P a → Yields n (next a) Q)
    (ends : ∀ {first : List UInt64}, first.length < listed →
      Ends (draw >>= next) first fun _ rest => rest.length ≤ first.length) :
    Yields listed (draw >>= next) Q where
  result drawn := by
    obtain ⟨a, middle, first, second⟩ := bind_eq_ok.mp drawn
    exact (hnext a (h.result first)).result second
  steady drawn more := by
    obtain ⟨a, middle, first, second⟩ := bind_eq_ok.mp drawn
    have steady := (hnext a (h.result first)).steady second more
    exact bind_eq_ok.mpr ⟨a, middle.plus more, h.steady first more, steady⟩
  failure {source e} failed := by
    rw [bind_eq] at failed
    cases first : draw source with
    | ok drawn =>
      rw [first] at failed
      exact (hnext drawn.1 (h.result first)).failure failed
    | error e' =>
      rw [first] at failed
      cases failed
      exact h.failure first
  ends := ends

theorem Yields.bind {draw : Draw α} {next : α → Draw β} {P : α → Prop} {Q : β → Prop}
    (h : Yields listed draw P) (hnext : ∀ a, P a → Yields listed (next a) Q) :
    Yields listed (draw >>= next) Q := by
  refine h.sequence hnext fun {first} short => ?_
  refine Ends.bind h hnext (h.ends short) fun a rest ha fewer => ?_
  refine ((hnext a ha).ends (by omega)).mono fun _ rest' fewer' => ?_
  omega

/-- A draw that can only run dry, and that ends on fewer than `listed` words before zero words. -/
abbrev Safe (listed : Nat) (draw : Draw α) : Prop := Yields listed draw fun _ => True

theorem safe_pure (a : α) : Safe listed (pure a : Draw α) := yields_pure trivial

theorem Safe.bind {draw : Draw α} {next : α → Draw β} {P : β → Prop} (h : Safe listed draw)
    (hnext : ∀ a, Yields listed (next a) P) : Yields listed (draw >>= next) P :=
  Yields.bind h fun a _ => hnext a

theorem Yields.safe {draw : Draw α} {P : α → Prop} (h : Yields listed draw P) : Safe listed draw :=
  h.mono fun _ _ => trivial

theorem yields_dry {P : α → Prop} : Yields 0 (throw .dry : Draw α) P where
  result drawn := by cases drawn
  steady drawn := by cases drawn
  failure failed := by
    cases failed
    rfl
  ends short := absurd short (Nat.not_lt_zero _)

theorem yields_ite {c : Prop} [Decidable c] {yes no : Draw α} {P : α → Prop}
    (hyes : c → Yields listed yes P) (hno : ¬c → Yields listed no P) :
    Yields listed (if c then yes else no) P := by
  split
  · exact hyes ‹c›
  · exact hno ‹¬c›

theorem yields_replicate {draw : Draw α} {P : α → Prop} (h : Yields listed draw P) (n : Nat) :
    Yields listed (replicate n draw) fun as => as.length = n ∧ ∀ a ∈ as, P a := by
  induction n with
  | zero => exact yields_pure ⟨rfl, by simp⟩
  | succ n ih =>
    refine h.bind fun a ha => ih.bind fun rest hrest => yields_pure ⟨?_, ?_⟩
    · rw [List.length_cons, hrest.1]
    · rintro b (_ | ⟨_, hb⟩)
      · exact ha
      · exact hrest.2 b hb

theorem yields_mapM {draw : α → Draw β} {P : α → β → Prop}
    (each : ∀ a, Yields listed (draw a) (P a)) (as : List α) :
    Yields listed (as.mapM draw) (List.Forall₂ P as) := by
  induction as with
  | nil => exact yields_pure .nil
  | cons a as ih =>
    rw [List.mapM_cons]
    exact (each a).bind fun b hb => ih.bind fun bs hbs => yields_pure (.cons hb hbs)

/-! ### Reading at least one word -/

/-- `draw` reads a listed word, or no word is listed and its result from zero words is `zero`. -/
def Reads (draw : Draw α) (zero : α) : Prop :=
  ∀ first, Ends draw first fun a rest =>
    rest.length < first.length ∨ first = [] ∧ rest = [] ∧ a = zero

theorem Reads.map {draw : Draw α} {zero : α} {P : α → Prop} (h : Yields 0 draw P)
    (reads : Reads draw zero) (f : α → β) : Reads (draw >>= fun a => pure (f a)) (f zero) := by
  intro first
  refine Ends.bind (n := 0) (Q := fun _ => True) h (fun _ _ => yields_pure trivial) (reads first)
    fun a rest _ fine => ⟨0, f a, rest, 0, rfl, ?_⟩
  obtain fewer | ⟨none, noneLeft, rfl⟩ := fine
  · exact .inl fewer
  · exact .inr ⟨none, noneLeft, rfl⟩

/-- After a draw that reads, what follows has one listed word less, or follows the zero words. -/
theorem Yields.bind_reads {draw : Draw α} {next : α → Draw β} {zero : α} {P : α → Prop}
    {Q : β → Prop} (h : Yields 0 draw P) (reads : Reads draw zero)
    (hnext : ∀ a, P a → Yields listed (next a) Q) (hzero : Yields 1 (next zero) Q) :
    Yields (listed + 1) (draw >>= next) Q := by
  refine h.sequence hnext fun {first} short => ?_
  refine Ends.bind h hnext (reads first) fun a rest ha fine => ?_
  obtain fewer | ⟨rfl, rfl, rfl⟩ := fine
  · refine ((hnext a ha).ends (by omega)).mono fun _ rest' fewer' => ?_
    omega
  · exact hzero.ends (Nat.lt_succ_self _)

/-! ### Bounds out of the source -/

theorem approximates_refl (draw : Draw α) : Approximates draw draw := fun _ _ _ h => h

theorem approximates_dry (draw : Draw α) : Approximates (throw .dry) draw := by
  intro source a rest h
  cases h

theorem Approximates.trans {first second third : Draw α} (h : Approximates first second)
    (h' : Approximates second third) : Approximates first third :=
  fun source a rest drawn => h' source a rest (h source a rest drawn)

theorem Approximates.bind {draw other : Draw α} {next next' : α → Draw β}
    (h : Approximates draw other) (hnext : ∀ a, Approximates (next a) (next' a)) :
    Approximates (draw >>= next) (other >>= next') := by
  intro source b rest drawn
  obtain ⟨a, middle, first, second⟩ := bind_eq_ok.mp drawn
  exact bind_eq_ok.mpr ⟨a, middle, h _ _ _ first, hnext a _ _ _ second⟩

theorem approximates_ite {c : Prop} [Decidable c] {yes yes' no no' : Draw α}
    (hyes : Approximates yes yes') (hno : Approximates no no') :
    Approximates (if c then yes else no) (if c then yes' else no') := by
  split
  · exact hyes
  · exact hno

theorem approximates_replicate {draw other : Draw α} (h : Approximates draw other) (n : Nat) :
    Approximates (replicate n draw) (replicate n other) := by
  induction n with
  | zero => exact approximates_refl _
  | succ n ih => exact h.bind fun a => ih.bind fun rest => approximates_refl _

theorem approximates_of_le {draws : Nat → Draw α}
    (step : ∀ n, Approximates (draws n) (draws (n + 1))) {m n : Nat} (h : m ≤ n) :
    Approximates (draws m) (draws n) := by
  induction h with
  | refl => exact approximates_refl _
  | step _ ih => exact ih.trans (step _)

/-- A draw whose bound is the number of words that are left.  What ends on fewer listed words than
its bound ends on any number of them. -/
theorem yields_bounded {draws : Nat → Draw α} {P : α → Prop} (h : ∀ n, Yields n (draws n) P)
    (step : ∀ n, Approximates (draws n) (draws (n + 1))) :
    Yields listed (fun source => draws source.remaining source) P where
  result drawn := (h _).result drawn
  steady drawn more :=
    approximates_of_le step (Nat.le_add_right _ more) _ _ _ ((h _).steady drawn more)
  failure failed := (h _).failure failed
  ends {first} _ := by
    have within := h (first.length + 1)
    obtain ⟨supply, a, rest, left, drawn, fewer⟩ := within.ends (Nat.lt_succ_self first.length)
    refine ⟨supply + (first.length + 1), a, rest, left + (first.length + 1), ?_, fewer⟩
    exact approximates_of_le step (Nat.le_add_left _ supply) _ _ _ (within.steady drawn _)

/-! ### The basic draws -/

theorem reads_word : Reads word 0 := by
  intro first
  cases first with
  | nil => exact ⟨1, 0, [], 0, rfl, .inr ⟨rfl, rfl, rfl⟩⟩
  | cons w rest => exact ⟨1, w, rest, 0, rfl, .inl (Nat.lt_succ_self _)⟩

theorem yields_word : Yields listed word fun _ => True where
  result _ := trivial
  steady {source rest w} drawn more := by
    unfold word at drawn ⊢
    cases h : source.next? with
    | none => simp [h] at drawn
    | some next =>
      simp only [h, Except.ok.injEq] at drawn
      subst drawn
      rw [Words.next?_plus more h]
  failure {source e} failed := by
    unfold word at failed
    cases h : source.next? with
    | none =>
      simp only [h, Except.error.injEq] at failed
      exact failed.symm
    | some next => simp [h] at failed
  ends {first} _ := (reads_word first).mono fun w rest fine => by
    obtain fewer | ⟨rfl, rfl, rfl⟩ := fine
    · exact Nat.le_of_lt fewer
    · exact Nat.le_refl _

theorem yields_unit : Yields listed unit fun x => ∃ w, ofWord w = x :=
  yields_word.bind fun w _ => yields_pure ⟨w, rfl⟩

theorem reads_unit : Reads unit 0.0 := reads_word.map yields_word ofWord

/-- Words up to an accepted one, where the zero word is accepted: as many listed words as there are
can be refused. -/
theorem yields_firstAccepted {accept : UInt64 → Option α} {P : α → Prop}
    (h : ∀ w a, accept w = some a → P a) {zero : α} (accepted : accept 0 = some zero)
    (fuel : Nat) : Yields fuel (firstAccepted accept fuel) P := by
  induction fuel with
  | zero => exact yields_dry
  | succ fuel ih =>
    refine yields_word.bind_reads reads_word (fun w _ => ?_) ?_
    · cases taken : accept w with
      | none => exact ih
      | some a => exact yields_pure (h w a taken)
    · rw [accepted]
      exact yields_pure (h 0 zero accepted)

theorem approximates_firstAccepted (accept : UInt64 → Option α) (fuel : Nat) :
    Approximates (firstAccepted accept fuel) (firstAccepted accept (fuel + 1)) := by
  induction fuel with
  | zero => exact approximates_dry _
  | succ fuel ih =>
    refine (approximates_refl word).bind fun w => ?_
    cases accept w with
    | none => exact ih
    | some a => exact approximates_refl _

theorem yields_untilAccepted {accept : UInt64 → Option α} {P : α → Prop}
    (h : ∀ w a, accept w = some a → P a) {zero : α} (accepted : accept 0 = some zero) :
    Yields listed (untilAccepted accept) P :=
  yields_bounded (yields_firstAccepted h accepted) (approximates_firstAccepted accept)

/-- A zero word that is accepted is the only word that is read. -/
theorem untilAccepted_zero {accept : UInt64 → Option α} {zero : α} (accepted : accept 0 = some zero)
    (more : Nat) : untilAccepted accept (.thenZeros [] (more + 1)) = .ok (zero, .thenZeros [] more) := by
  have first : word (.thenZeros [] (more + 1)) = .ok (0, .thenZeros [] more) := by
    simp only [word, Words.next?, Words.thenZeros, Generator.next_zero]
  change firstAccepted accept (more + 1) (.thenZeros [] (more + 1)) = _
  refine bind_eq_ok.mpr ⟨0, .thenZeros [] more, first, ?_⟩
  rw [accepted]
  rfl

theorem scale?_zero {bits n : Nat} (positive : 0 < n) (hx : 0 < Nat.pow 2 bits) :
    scale? bits n 0 hx = some ⟨0, positive⟩ := by
  have low : 0 * n % Nat.pow 2 bits < n * Nat.pow 2 (bits - 1 - n.log2) := by
    rw [Nat.zero_mul, Nat.zero_mod]
    exact Nat.mul_pos positive (Nat.two_pow_pos _)
  unfold scale?
  rw [if_pos low, dif_pos positive]
  simp

theorem yields_below {n : Nat} (positive : 0 < n) : Yields listed (below n) fun _ => True := by
  unfold below
  rw [if_neg (by omega)]
  exact yields_untilAccepted (fun _ _ _ => trivial) (scale?_zero positive _)

theorem yields_belowNarrow {n : Nat} (positive : 0 < n) :
    Yields listed (belowNarrow n) fun _ => True := by
  unfold belowNarrow
  rw [if_neg (by omega)]
  exact yields_untilAccepted (fun _ _ _ => trivial) (scale?_zero positive _)

theorem yields_index {n : Nat} (positive : 0 < n) : Yields listed (index n) fun _ => True :=
  yields_ite (fun _ => yields_belowNarrow positive) fun _ => yields_below positive

theorem yields_member {xs : List α} (some : xs ≠ []) : Yields listed (member xs) (· ∈ xs) :=
  (yields_index (List.length_pos_iff.mpr some)).bind fun i _ =>
    yields_pure (List.getElem_mem i.isLt)

theorem yields_choose (xs : List α) :
    Yields listed (choose xs) fun chosen =>
      (∃ a ∈ xs, chosen = some a) ∨ xs = [] ∧ chosen = none := by
  refine yields_ite (fun empty => ?_) fun some => ?_
  · exact yields_pure (.inr ⟨List.isEmpty_iff.mp empty, rfl⟩)
  · refine (yields_member (mt List.isEmpty_iff.mpr some)).bind fun a mem => ?_
    exact yields_pure (.inl ⟨a, mem, rfl⟩)

end Draw

end Progeny
