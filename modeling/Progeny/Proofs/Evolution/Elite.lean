import Progeny.Proofs.Evolution.Generation
import Progeny.Proofs.Score

/-!
# Elitism and the best score

The elite is the last program of a population.  If it has a number for a score then no number of
the population exceeds it.  Elitism compares it with the worst child only, and with `>`; so it is
passed on, or was not needed, if the score of the worst child is a number as well, and nothing
happens if one of the two is none.
-/

namespace Progeny

variable {σ : Type} {evaluator : Evaluator σ} {size : Nat} {population children : List Program}
  {elite worst : Program}

theorem Run.withElite_eq (isElite : population.getLast? = some elite) :
    Run.withElite population children = keepElite children elite := by
  unfold Run.withElite
  rw [isElite]

/-- No score of a batch exceeds the last one, if that is a number. -/
theorem Batch.best_le_last (batch : Batch evaluator size population)
    (isElite : population.getLast? = some elite) (number : elite.score.value.isNaN = false) :
    (ScoreSummary.ofPopulation population).best ≤ elite.score.value := by
  have some : population.map (·.score.value) ≠ [] := by
    simpa using List.ne_nil_of_mem (List.mem_of_getLast? isElite)
  refine (ScoreSummary.best_le_iff some number).mpr fun x hx numberX => ?_
  obtain ⟨p, mem, rfl⟩ := List.mem_map.mp hx
  exact Score.value_le_of_rank_le numberX number (batch.rank_le_last isElite p mem)

theorem le_best_of_mem {p : Program} (mem : p ∈ population) (number : p.score.value.isNaN = false) :
    p.score.value ≤ (ScoreSummary.ofPopulation population).best :=
  ScoreSummary.le_best (List.mem_map_of_mem mem) number

/-- Elitism does not lose an elite whose score is a number, if the worst child's is one too. -/
theorem elite_le_best (isElite : population.getLast? = some elite)
    (isWorst : children.head? = some worst) (number : elite.score.value.isNaN = false)
    (numberWorst : worst.score.value.isNaN = false) :
    elite.score.value ≤
      (ScoreSummary.ofPopulation (Run.withElite population children)).best := by
  rw [Run.withElite_eq isElite]
  obtain ⟨kept, notBeaten⟩ | ⟨other, rest, rfl, -, replaced⟩ := keepElite_cases children elite
  · have notLess : ¬worst.score.value < elite.score.value := fun less => by
      have beaten := Score.beats_iff.mpr less
      rw [notBeaten worst isWorst] at beaten
      cases beaten
    rw [kept]
    exact Double.le_trans (Double.le_of_not_lt number numberWorst notLess)
      (le_best_of_mem (List.mem_of_head? isWorst) numberWorst)
  · rw [replaced]
    have mem := (Population.ranked_perm (elite :: rest)).mem_iff.mpr List.mem_cons_self
    exact le_best_of_mem mem number

/-- Elitism does nothing if the elite or the worst child has no number for a score. -/
theorem withElite_of_nan (isElite : population.getLast? = some elite)
    (isWorst : children.head? = some worst)
    (nan : elite.score.value.isNaN = true ∨ worst.score.value.isNaN = true) :
    Run.withElite population children = children := by
  rw [Run.withElite_eq isElite]
  obtain ⟨kept, -⟩ | ⟨other, rest, rfl, beaten, -⟩ := keepElite_cases children elite
  · exact kept
  · cases isWorst
    obtain ⟨numberWorst, number, -⟩ := Double.lt_iff.mp (Score.beats_iff.mp beaten)
    rcases nan with nan | nan
    · rw [number] at nan
      cases nan
    · rw [numberWorst] at nan
      cases nan

end Progeny
