import Mathlib.Data.List.Forall2
import Progeny.Evaluation

/-!
# What an evaluation leaves

An evaluation replaces each program by the evaluator's answer about it, or leaves it as it is, and
then sorts.  So each program of the sorted population comes from one of the programs before, and
there are as many of them.  Most evaluators change nothing but the score and the diagnostic.
-/

namespace Progeny

theorem exists_mem_of_forall₂ {α β : Type} {R : α → β → Prop} {as : List α} {bs : List β}
    (related : List.Forall₂ R as bs) {b : β} (mem : b ∈ bs) : ∃ a ∈ as, R a b := by
  induction related with
  | nil => cases mem
  | cons first _ ih =>
    rcases List.mem_cons.mp mem with rfl | later
    · exact ⟨_, List.mem_cons_self, first⟩
    · obtain ⟨a, inside, holds⟩ := ih later
      exact ⟨a, List.mem_cons_of_mem _ inside, holds⟩

variable {σ : Type}

/-- What an evaluator with some memory can make of `p`. -/
inductive Judged (evaluator : Evaluator σ) (p : Program) : Program → Prop
  | failed {before after : σ} {e : CompileError} :
      evaluator p before = (.error e, after) → Judged evaluator p p
  | ok {before after : σ} {q : Program} :
      evaluator p before = (.ok q, after) → Judged evaluator p q

namespace Population

variable {evaluator : Evaluator σ} {population : List Program} {memory : σ}

theorem judgeOne_of_error {p : Program} {e : CompileError} {after : σ}
    (answered : evaluator p memory = (.error e, after)) :
    judgeOne evaluator p memory = ((p, 1), after) := by
  simp only [judgeOne, bind, StateT.bind, answered]
  rfl

theorem judgeOne_of_ok {p q : Program} {after : σ}
    (answered : evaluator p memory = (.ok q, after)) :
    judgeOne evaluator p memory = ((q, 0), after) := by
  simp only [judgeOne, bind, StateT.bind, answered]
  rfl

theorem judged_judgeOne (evaluator : Evaluator σ) (p : Program) (memory : σ) :
    Judged evaluator p (judgeOne evaluator p memory).1.1 := by
  rcases answered : evaluator p memory with ⟨e | q, after⟩
  · rw [judgeOne_of_error answered]
    exact .failed answered
  · rw [judgeOne_of_ok answered]
    exact .ok answered

theorem judgeAll_cons (evaluator : Evaluator σ) (p : Program) (rest : List Program) (memory : σ) :
    judgeAll evaluator (p :: rest) memory =
      let first := judgeOne evaluator p memory
      let others := judgeAll evaluator rest first.2
      ((first.1.1 :: others.1.1, first.1.2 + others.1.2), others.2) := rfl

theorem judged_judgeAll (evaluator : Evaluator σ) (population : List Program) (memory : σ) :
    List.Forall₂ (Judged evaluator) population (judgeAll evaluator population memory).1.1 := by
  induction population generalizing memory with
  | nil => exact .nil
  | cons p rest ih => exact .cons (judged_judgeOne evaluator p memory) (ih _)

/-- What a program becomes with a given answer about it. -/
def answered (p : Program) : Except CompileError Program → Program
  | .ok q => q
  | .error _ => p

/-- The evaluator whose memory is a list of answers, which it gives one after the other. -/
def replay : Evaluator (List (Except CompileError Program))
  | _, [] => (.error (.scratchFile ""), [])
  | _, answer :: later => (answer, later)

/-- Any answers about the programs of a population can come from a memory.  So judging the programs
in order is no restriction: at the same time or in another order, each gets some answer as well. -/
theorem judgeAll_replay (population : List Program)
    (answers later : List (Except CompileError Program))
    (length : answers.length = population.length) :
    (judgeAll replay population (answers ++ later)).1.1 = population.zipWith answered answers ∧
      (judgeAll replay population (answers ++ later)).2 = later := by
  induction population generalizing answers with
  | nil =>
    obtain rfl := List.length_eq_zero_iff.mp length
    exact ⟨rfl, rfl⟩
  | cons p rest ih =>
    obtain ⟨answer, others, rfl⟩ := List.exists_cons_of_length_eq_add_one length
    have after : judgeOne replay p (answer :: (others ++ later)) =
        ((answered p answer, (judgeOne replay p (answer :: (others ++ later))).1.2),
          others ++ later) := by
      cases answer with
      | error e => rw [judgeOne_of_error rfl]; rfl
      | ok q => rw [judgeOne_of_ok rfl]; rfl
    obtain ⟨members, memory⟩ := ih others (by simpa using length)
    rw [List.cons_append, judgeAll_cons, after]
    exact ⟨congrArg (answered p answer :: ·) members, memory⟩

/-! ### Sorting -/

theorem ranked_perm (population : List Program) : (ranked population).Perm population :=
  List.mergeSort_perm _ _

theorem atMost_trans (p q r : Program) (hpq : p.score.atMost q.score)
    (hqr : q.score.atMost r.score) : p.score.atMost r.score := by
  simp only [Score.atMost, decide_eq_true_eq] at hpq hqr ⊢
  omega

theorem atMost_total (p q : Program) :
    (p.score.atMost q.score || q.score.atMost p.score) = true := by
  simp only [Score.atMost, Bool.or_eq_true, decide_eq_true_eq]
  omega

theorem ranked_pairwise (population : List Program) :
    (ranked population).Pairwise fun p q => p.score.rank ≤ q.score.rank :=
  (List.pairwise_mergeSort atMost_trans atMost_total population).imp of_decide_eq_true

/-- Puts a program before the first one of a sorted population that it does not rank above. -/
def insertRanked (p : Program) : List Program → List Program
  | [] => [p]
  | q :: rest => if p.score.atMost q.score then p :: q :: rest else q :: insertRanked p rest

theorem insertRanked_of_split {p : Program} {before after : List Program}
    (above : ∀ q ∈ before, ¬p.score.atMost q.score) (below : ∀ q ∈ after, p.score.atMost q.score) :
    insertRanked p (before ++ after) = before ++ p :: after := by
  induction before with
  | nil =>
    cases after with
    | nil => rfl
    | cons q rest => exact if_pos (below q List.mem_cons_self)
  | cons q rest ih =>
    rw [List.forall_mem_cons] at above
    rw [List.cons_append, insertRanked, if_neg above.1, ih above.2, List.cons_append]

/-- Sorting is insertion, program by program. -/
theorem ranked_eq_foldr (population : List Program) :
    ranked population = population.foldr insertRanked [] := by
  induction population with
  | nil => exact List.mergeSort_nil
  | cons p rest ih =>
    obtain ⟨before, after, sorted, others, above⟩ :=
      List.mergeSort_cons atMost_trans atMost_total p rest
    have below : ∀ q ∈ after, p.score.atMost q.score := by
      have pairwise := List.pairwise_mergeSort atMost_trans atMost_total (p :: rest)
      rw [sorted] at pairwise
      exact (List.pairwise_cons.mp (List.pairwise_append.mp pairwise).2.1).1
    rw [List.foldr_cons, ← ih]
    unfold ranked
    rw [sorted, others, insertRanked_of_split (fun q hq => by simpa using above q hq) below]

theorem evaluate_members (evaluator : Evaluator σ) (population : List Program) (memory : σ) :
    (evaluate evaluator population memory).1.1 =
      ranked (judgeAll evaluator population memory).1.1 := rfl

theorem length_evaluate (evaluator : Evaluator σ) (population : List Program) (memory : σ) :
    (evaluate evaluator population memory).1.1.length = population.length := by
  rw [evaluate_members, (ranked_perm _).length_eq]
  exact (judged_judgeAll evaluator population memory).length_eq.symm

theorem evaluate_pairwise (evaluator : Evaluator σ) (population : List Program) (memory : σ) :
    (evaluate evaluator population memory).1.1.Pairwise fun p q => p.score.rank ≤ q.score.rank :=
  ranked_pairwise _

theorem exists_judged_of_mem_evaluate {q : Program}
    (h : q ∈ (evaluate evaluator population memory).1.1) :
    ∃ p ∈ population, Judged evaluator p q := by
  have mem := (ranked_perm _).mem_iff.mp h
  exact exists_mem_of_forall₂ (judged_judgeAll evaluator population memory) mem

end Population

/-! ### Evaluators that look but do not touch -/

/-- The evaluator changes nothing but the score and the diagnostic. -/
def Evaluator.Rescores (evaluator : Evaluator σ) : Prop :=
  ∀ p before q after, evaluator p before = (.ok q, after) →
    ∃ score diagnostic, q = { p with score := score, diagnostic := diagnostic }

/-- A compiler is such an evaluator, whatever it answers. -/
theorem Evaluator.rescores_ofCompiler (compile : Compiler) (weights : FitnessConfig) :
    (ofCompiler compile weights).Rescores := by
  intro p before q after answered
  have answer : judge compile weights p = .ok q := congrArg Prod.fst answered
  unfold judge at answer
  cases compiled : compile p.render with
  | error e =>
    rw [compiled] at answer
    cases answer
  | ok raw =>
    rw [compiled] at answer
    cases answer
    exact ⟨_, _, rfl⟩

/-- A compiler that fails on a point and complains about an opening parenthesis. -/
def Compiler.picky : Compiler := fun source =>
  if source.toList.contains '.' then .error (.launch "cc" "not found")
  else if source.toList.contains '(' then .ok " expected ')' \r\n\n"
  else .ok ""

/-- Scores a program by the number of its statements. -/
def Evaluator.sizes : Evaluator Unit := .ofFunction fun p => .ok (p.setScore (.ofNat p.size))

theorem Evaluator.rescores_sizes : Evaluator.sizes.Rescores := by
  intro p before q after answered
  have answer : Except.ok (p.setScore (.ofNat p.size)) = .ok q := congrArg Prod.fst answered
  cases answer
  exact ⟨.ofNat p.size, p.diagnostic, rfl⟩

/-- Judging keeps everything but the score and the diagnostic. -/
theorem Judged.rescored {evaluator : Evaluator σ} (rescores : evaluator.Rescores) {p q : Program}
    (judged : Judged evaluator p q) :
    ∃ score diagnostic, q = { p with score := score, diagnostic := diagnostic } := by
  cases judged with
  | failed _ => exact ⟨p.score, p.diagnostic, rfl⟩
  | ok answered => exact rescores _ _ _ _ answered

end Progeny
