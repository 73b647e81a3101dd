import Mathlib.Data.Int.Order.Basic
import Mathlib.Data.List.Nodup
import Progeny.Proofs.Evaluation
import Progeny.Proofs.Score
import Progeny.Proofs.Sequence.Sorting

/-!
# The order after an evaluation

Evaluating a population asks for an answer about each program, gives each program its answer and
sorts.  A population has one stable ascending sort, so the result is a function of the programs and
of the answers, whenever these are asked for.  If the answers depend on the statements alone, then a
second evaluation finds every program as the first one left it; and if no two scores have the same
bits, then the order before leaves no trace in the order after.
-/

namespace Progeny

/-! ### The order of all scores -/

namespace Score

variable {s t : Score}

instance : Std.TransCmp Score.compare := inferInstanceAs (Std.TransCmp (compareOn rank))

instance : Std.LawfulEqCmp Score.compare where
  eq_of_compare same := rank_injective (Std.LawfulEqCmp.eq_of_compare same)

theorem compare_ne_gt_iff : s.compare t ≠ .gt ↔ s.rank ≤ t.rank := by
  unfold compare
  rw [Ne, Std.compare_eq_gt, Int.not_lt]

theorem compare_lt_of_value_lt (less : s.value < t.value) : s.compare t = .lt := by
  obtain ⟨number, number', -⟩ := Double.lt_iff.mp less
  refine Std.compare_eq_lt.mpr (Int.not_le.mp fun rank => ?_)
  exact Double.not_lt_of_le (value_le_of_rank_le number' number rank) less

/-- The scores have a total order, in which only equal bits share a place and numbers follow their
values. -/
structure Ordered : Prop where
  total : Std.TransCmp Score.compare
  distinct : Std.LawfulEqCmp Score.compare
  values : ∀ s t : Score, s.value < t.value → s.compare t = .lt

theorem ordered : Ordered where
  total := inferInstance
  distinct := inferInstance
  values _ _ := compare_lt_of_value_lt

end Score

namespace Population

/-! ### Stable sorts -/

/-- `sorted` holds the programs of `population` by ascending scores, and those of each score in the
order that they have in `population`. -/
structure StablySorted (population sorted : List Program) : Prop where
  perm : sorted.Perm population
  ascending : sorted.Pairwise fun p q => p.compareScore q ≠ .gt
  stable : ∀ score, sorted.filter (·.score = score) = population.filter (·.score = score)

theorem sortedBy_ranked (population : List Program) :
    Sequence.SortedBy (·.score.rank) population (ranked population) :=
  Sequence.sortedBy_mergeSort (fun p : Program => p.score.rank) population

theorem stablySorted_ranked (population : List Program) :
    StablySorted population (ranked population) where
  perm := (sortedBy_ranked population).perm
  ascending := (sortedBy_ranked population).ascending.imp Score.compare_ne_gt_iff.mpr
  stable score := by
    have same (p : Program) : p.score.rank = score.rank ↔ p.score = score :=
      ⟨fun level => Score.rank_injective level, congrArg Score.rank⟩
    have stable := (sortedBy_ranked population).stable score.rank
    simp only [same] at stable
    exact stable

theorem mem_of_filter_score {as bs : List Program}
    (same : ∀ score, as.filter (·.score = score) = bs.filter (·.score = score)) {p : Program}
    (mem : p ∈ as) : p ∈ bs := by
  have level : p ∈ as.filter (·.score = p.score) :=
    List.mem_filter.mpr ⟨mem, decide_eq_true rfl⟩
  rw [same] at level
  exact List.mem_of_mem_filter level

/-- Ascending lists are equal if they have the same programs of each score in the same order. -/
theorem eq_of_filter_score {as bs : List Program}
    (ascending : as.Pairwise fun p q => p.compareScore q ≠ .gt)
    (ascending' : bs.Pairwise fun p q => p.compareScore q ≠ .gt)
    (same : ∀ score, as.filter (·.score = score) = bs.filter (·.score = score)) : as = bs := by
  induction as generalizing bs with
  | nil =>
    refine (List.eq_nil_iff_forall_not_mem.mpr fun p mem => ?_).symm
    exact List.not_mem_nil (mem_of_filter_score (fun score => (same score).symm) mem)
  | cons a as ih =>
    have first := mem_of_filter_score same List.mem_cons_self
    cases bs with
    | nil => cases first
    | cons b bs =>
      have first' := mem_of_filter_score (fun score => (same score).symm) List.mem_cons_self
      rw [List.pairwise_cons] at ascending ascending'
      have below : a.score.rank ≤ b.score.rank := by
        rcases List.mem_cons.mp first' with rfl | later
        · exact Int.le_refl _
        · exact Score.compare_ne_gt_iff.mp (ascending.1 b later)
      have above : b.score.rank ≤ a.score.rank := by
        rcases List.mem_cons.mp first with rfl | later
        · exact Int.le_refl _
        · exact Score.compare_ne_gt_iff.mp (ascending'.1 a later)
      have level : a.score = b.score := Score.rank_injective (Int.le_antisymm below above)
      -- both come first among the programs with their score
      have heads := same b.score
      rw [List.filter_cons_of_pos (by simpa using level),
        List.filter_cons_of_pos (by simp)] at heads
      obtain ⟨rfl, -⟩ := List.cons.inj heads
      refine congrArg (a :: ·) (ih ascending.2 ascending'.2 fun score => ?_)
      have both := same score
      rw [List.filter_cons, List.filter_cons] at both
      split at both
      · exact (List.cons.inj both).2
      · exact both

/-- A population has one stable sort. -/
theorem stablySorted_iff {population sorted : List Program} :
    StablySorted population sorted ↔ sorted = ranked population := by
  have some := stablySorted_ranked population
  constructor
  · intro other
    exact eq_of_filter_score other.ascending some.ascending fun score =>
      (other.stable score).trans (some.stable score).symm
  · rintro rfl
    exact some

theorem ranked_ranked (population : List Program) :
    ranked (ranked population) = ranked population :=
  Sequence.mergeSort_of_ascending (sortedBy_ranked population).ascending

/-- Programs with different scores come in one order only. -/
theorem ranked_eq_of_perm {as bs : List Program} (distinct : (as.map (·.score)).Nodup)
    (perm : bs.Perm as) : ranked bs = ranked as := by
  have same : (ranked bs).Perm (ranked as) :=
    ((ranked_perm bs).trans perm).trans (ranked_perm as).symm
  refine same.eq_of_pairwise (fun p q hp hq below above => ?_) (ranked_pairwise bs)
    (ranked_pairwise as)
  have hp := perm.mem_iff.mp ((ranked_perm bs).mem_iff.mp hp)
  have hq := (ranked_perm as).mem_iff.mp hq
  exact List.inj_on_of_nodup_map distinct hp hq (Score.rank_injective (Int.le_antisymm below above))

end Population

/-! ### Answers about a population -/

variable {σ : Type} {evaluator : Evaluator σ} {population : List Program} {memory : σ}

/-- The answers about some programs, asked for one after the other. -/
def Evaluator.answers (evaluator : Evaluator σ) :
    List Program → σ → List (Except CompileError Program)
  | [], _ => []
  | p :: rest, memory =>
    (evaluator p memory).1 :: answers evaluator rest (evaluator p memory).2

/-- An evaluator whose answers do not depend on its memory judges each program on its own. -/
theorem Evaluator.answers_eq_map {judge : Program → Except CompileError Program}
    (alone : ∀ p memory, (evaluator p memory).1 = judge p) (population : List Program)
    (memory : σ) : evaluator.answers population memory = population.map judge := by
  induction population generalizing memory with
  | nil => rfl
  | cons p rest ih => rw [answers, alone, ih, List.map_cons]

namespace Population

theorem length_answers (evaluator : Evaluator σ) (population : List Program) (memory : σ) :
    (evaluator.answers population memory).length = population.length := by
  induction population generalizing memory with
  | nil => rfl
  | cons p rest ih => rw [Evaluator.answers, List.length_cons, ih, List.length_cons]

theorem judgeAll_answers (evaluator : Evaluator σ) (population : List Program) (memory : σ) :
    (judgeAll evaluator population memory).1.1 =
        population.zipWith answered (evaluator.answers population memory) ∧
      (judgeAll evaluator population memory).1.2 =
        (evaluator.answers population memory).countP (!·.isOk) := by
  induction population generalizing memory with
  | nil => exact ⟨rfl, rfl⟩
  | cons p rest ih =>
    rw [judgeAll_cons, Evaluator.answers, List.zipWith_cons_cons, List.countP_cons]
    rcases answer : evaluator p memory with ⟨e | q, after⟩
    · rw [judgeOne_of_error answer]
      refine ⟨congrArg (p :: ·) (ih after).1, ?_⟩
      exact (Nat.add_comm 1 _).trans (congrArg (· + 1) (ih after).2)
    · rw [judgeOne_of_ok answer]
      exact ⟨congrArg (q :: ·) (ih after).1, (Nat.zero_add _).trans (ih after).2⟩

/-- `result` is the sorted population, and the summary, that `answers` about it lead to. -/
structure Settled (population : List Program) (answers : List (Except CompileError Program))
    (result : List Program × EvaluationSummary) : Prop where
  each : answers.length = population.length
  rescored : List.Forall₂ (fun p q => ∃ score diagnostic,
    q = { p with score := score, diagnostic := diagnostic })
    population (population.zipWith answered answers)
  sorted : ∀ sorted,
    StablySorted (population.zipWith answered answers) sorted ↔ sorted = result.1
  failures : result.2.failures = answers.countP (!·.isOk)
  total : result.2.evaluated + result.2.failures = population.length

theorem settled_evaluate (rescores : evaluator.Rescores) (population : List Program) (memory : σ) :
    Settled population (evaluator.answers population memory)
      (evaluate evaluator population memory).1 := by
  obtain ⟨members, failures⟩ := judgeAll_answers evaluator population memory
  refine ⟨length_answers evaluator population memory, ?_, ?_, failures, ?_⟩
  · rw [← members]
    exact (judged_judgeAll evaluator population memory).imp fun _ _ => Judged.rescored rescores
  · rw [evaluate_members, members]
    exact fun _ => stablySorted_iff
  · have bound := List.countP_le_length (p := (!·.isOk))
      (l := evaluator.answers population memory)
    rw [length_answers, ← failures] at bound
    exact Nat.sub_add_cancel bound

end Population

/-! ### Evaluators that look at the statements only -/

/-- Whether statements can be judged, and the score and the diagnostic that they are given, if
any. -/
abbrev Verdict := List Statement → Except CompileError (Option Score × Option String)

namespace Verdict

variable (verdict : Verdict)

/-- The answer about a program. -/
def on (p : Program) : Except CompileError Program :=
  (verdict p.statements).map fun (score, diagnostic) =>
    { p with score := score.getD p.score, diagnostic := diagnostic.getD p.diagnostic }

/-- What the answer makes of a program. -/
def settle (p : Program) : Program := Population.answered p (verdict.on p)

theorem settle_of_error {p : Program} {e : CompileError} (fails : verdict p.statements = .error e) :
    verdict.settle p = p := by
  unfold settle on
  rw [fails]
  rfl

theorem settle_of_ok {p : Program} {new : Option Score × Option String}
    (judged : verdict p.statements = .ok new) :
    verdict.settle p =
      { p with score := new.1.getD p.score, diagnostic := new.2.getD p.diagnostic } := by
  unfold settle on
  rw [judged]
  rfl

theorem statements_settle (p : Program) : (verdict.settle p).statements = p.statements := by
  cases judged : verdict p.statements with
  | error e => rw [verdict.settle_of_error judged]
  | ok new => rw [verdict.settle_of_ok judged]

/-- A second answer has nothing to change. -/
theorem settle_settle (p : Program) : verdict.settle (verdict.settle p) = verdict.settle p := by
  have statements := verdict.statements_settle p
  cases judged : verdict p.statements with
  | error e =>
    rw [verdict.settle_of_error judged]
    exact verdict.settle_of_error judged
  | ok new =>
    rw [verdict.settle_of_ok (statements.symm ▸ judged), verdict.settle_of_ok judged]
    cases new.1 <;> cases new.2 <;> rfl

/-- Whether there is no answer about a program. -/
def fails (p : Program) : Bool := !(verdict p.statements).isOk

theorem isOk_on (p : Program) : (!(verdict.on p).isOk) = verdict.fails p := by
  unfold on fails
  cases verdict p.statements <;> rfl

end Verdict

/-- The evaluator is a function of the statements alone. -/
def Evaluator.OnStatements (evaluator : Evaluator σ) : Prop :=
  ∃ verdict : Verdict, ∀ p memory, (evaluator p memory).1 = verdict.on p

/-- Compiled programs are scored by their statements. -/
theorem Evaluator.onStatements_ofCompiler (compile : Compiler) (weights : FitnessConfig) :
    (ofCompiler compile weights).OnStatements := by
  refine ⟨fun statements => (compile (Program.ofStatements statements).render).map fun raw =>
    let diagnostic := Diagnostic.normalize raw
    (some (Fitness.score weights (.ofStatements statements) diagnostic), some diagnostic), ?_⟩
  intro p memory
  have same : (Program.ofStatements p.statements).render = p.render := rfl
  change judge compile weights p = _
  unfold judge Verdict.on
  simp only [same]
  cases compile p.render with
  | error e => rfl
  | ok raw => rfl

theorem Evaluator.OnStatements.rescores (on : evaluator.OnStatements) : evaluator.Rescores := by
  obtain ⟨verdict, on⟩ := on
  intro p before q after answered
  have answer : verdict.on p = .ok q := (on p before).symm.trans (congrArg Prod.fst answered)
  unfold Verdict.on at answer
  cases judged : verdict p.statements with
  | error e =>
    rw [judged] at answer
    cases answer
  | ok new =>
    rw [judged] at answer
    cases answer
    exact ⟨_, _, rfl⟩

namespace Population

variable {verdict : Verdict}

theorem evaluate_summary (evaluator : Evaluator σ) (population : List Program) (memory : σ) :
    (evaluate evaluator population memory).1.2 =
      ⟨population.length - (judgeAll evaluator population memory).1.2,
        (judgeAll evaluator population memory).1.2⟩ := rfl

/-- The members and the summary of an evaluation by the statements alone. -/
theorem evaluate_on (on : ∀ p memory, (evaluator p memory).1 = verdict.on p)
    (population : List Program) (memory : σ) :
    (evaluate evaluator population memory).1 =
      (ranked (population.map verdict.settle),
        ⟨population.length - population.countP verdict.fails,
          population.countP verdict.fails⟩) := by
  obtain ⟨members, failures⟩ := judgeAll_answers evaluator population memory
  rw [Evaluator.answers_eq_map on] at members failures
  rw [List.zipWith_map_right, List.zipWith_self] at members
  rw [List.countP_map] at failures
  have fails : population.countP ((!·.isOk) ∘ verdict.on) = population.countP verdict.fails :=
    List.countP_congr fun p _ => by rw [Function.comp_apply, verdict.isOk_on]
  rw [fails] at failures
  refine Prod.ext ?_ ?_
  · rw [evaluate_members, members]
    rfl
  · rw [evaluate_summary, failures]

theorem evaluate_again (on : ∀ p memory, (evaluator p memory).1 = verdict.on p)
    (population : List Program) (memory later : σ) :
    (evaluate evaluator (evaluate evaluator population memory).1.1 later).1 =
      (evaluate evaluator population memory).1 := by
  rw [evaluate_on on, evaluate_on on]
  have perm := ranked_perm (population.map verdict.settle)
  have settled : (ranked (population.map verdict.settle)).map verdict.settle =
      ranked (population.map verdict.settle) := by
    refine (List.map_congr_left fun p mem => ?_).trans (List.map_id _)
    obtain ⟨q, -, rfl⟩ := List.mem_map.mp (perm.mem_iff.mp mem)
    exact verdict.settle_settle q
  have failures : (ranked (population.map verdict.settle)).countP verdict.fails =
      population.countP verdict.fails := by
    rw [perm.countP_eq, List.countP_map]
    refine List.countP_congr fun p _ => ?_
    rw [Function.comp_apply, Verdict.fails, verdict.statements_settle, Verdict.fails]
  rw [settled, ranked_ranked, failures, perm.length_eq, List.length_map]

theorem evaluate_perm (on : ∀ p memory, (evaluator p memory).1 = verdict.on p)
    {population permuted : List Program} (perm : permuted.Perm population) {memory : σ}
    (distinct : ((evaluate evaluator population memory).1.1.map (·.score)).Nodup) (other : σ) :
    (evaluate evaluator permuted other).1 = (evaluate evaluator population memory).1 := by
  rw [evaluate_on on] at distinct
  have distinct : ((population.map verdict.settle).map (·.score)).Nodup :=
    (((ranked_perm _).map _).nodup_iff).mp distinct
  rw [evaluate_on on, evaluate_on on, ranked_eq_of_perm distinct (perm.map verdict.settle),
    perm.countP_eq, perm.length_eq]

end Population

/-- An evaluation gives every program its own answer and sorts the population stably by a total
order of all scores; failed programs stay as they are and are counted.  If the answers depend on the
statements alone, a second evaluation changes nothing, and if then no two scores have the same bits,
neither does another order of the population before. -/
theorem evaluation_is_stable_sort (rescores : evaluator.Rescores) (population : List Program)
    (memory : σ) :
    Score.Ordered ∧
    Population.Settled population (evaluator.answers population memory)
      (Population.evaluate evaluator population memory).1 ∧
    (∀ judge, (∀ p before, (evaluator p before).1 = judge p) →
      evaluator.answers population memory = population.map judge) ∧
    (evaluator.OnStatements →
      (∀ later, (Population.evaluate evaluator
          (Population.evaluate evaluator population memory).1.1 later).1 =
        (Population.evaluate evaluator population memory).1) ∧
      (((Population.evaluate evaluator population memory).1.1.map (·.score)).Nodup →
        ∀ permuted, permuted.Perm population → ∀ other,
          (Population.evaluate evaluator permuted other).1 =
            (Population.evaluate evaluator population memory).1)) := by
  refine ⟨Score.ordered, Population.settled_evaluate rescores population memory,
    fun judge alone => Evaluator.answers_eq_map alone population memory, ?_⟩
  rintro ⟨verdict, on⟩
  refine ⟨Population.evaluate_again on population memory, ?_⟩
  intro distinct permuted perm other
  exact Population.evaluate_perm on perm distinct other

/-- Fails for no statements, and gives one a score that is not a number, two -0 and others 0. -/
def Verdict.edges : Verdict := fun statements =>
  match statements.length with
  | 0 => .error (.scratchFile "disk full")
  | 1 => .ok (some .nan, none)
  | 2 => .ok (some (.ofFloat (-0.0)), none)
  | _ => .ok (some .zero, none)

/-- Four programs of different sizes, the empty one with a score from before. -/
def Population.edges : List Program :=
  [.ofStatements (List.replicate 1 .empty), .ofStatements (List.replicate 3 .empty),
    (Program.ofStatements []).setScore (.ofFloat (-1.0)),
    .ofStatements (List.replicate 2 .empty)]

theorem evaluation_is_stable_sort_edges :
    let evaluator := Evaluator.ofFunction Verdict.edges.on
    evaluator.OnStatements ∧
    (Population.evaluate evaluator Population.edges ()).1.1.map (fun p => (p.size, p.score)) =
      [(0, .ofFloat (-1.0)), (2, .ofFloat (-0.0)), (3, .zero), (1, .nan)] ∧
    (Population.evaluate evaluator Population.edges ()).1.2 = ⟨3, 1⟩ ∧
    ∀ permuted, permuted.Perm Population.edges →
      (Population.evaluate evaluator permuted ()).1 =
        (Population.evaluate evaluator Population.edges ()).1 := by
  intro evaluator
  have on : evaluator.OnStatements := ⟨Verdict.edges, fun _ _ => rfl⟩
  have sorted : (Population.evaluate evaluator Population.edges ()).1.1.map
      (fun p => (p.size, p.score)) =
        [(0, .ofFloat (-1.0)), (2, .ofFloat (-0.0)), (3, .zero), (1, .nan)] := by
    rw [Population.evaluate_members, Population.ranked_eq_foldr]
    decide +kernel
  have distinct :
      ((Population.evaluate evaluator Population.edges ()).1.1.map (·.score)).Nodup := by
    have scores := congrArg (List.map Prod.snd) sorted
    rw [List.map_map] at scores
    exact scores ▸ by decide +kernel
  obtain ⟨-, -, -, again⟩ := evaluation_is_stable_sort on.rescores Population.edges ()
  exact ⟨on, sorted, by decide +kernel, fun permuted perm => (again on).2 distinct permuted perm ()⟩

end Progeny
