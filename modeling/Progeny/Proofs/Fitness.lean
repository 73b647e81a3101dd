import Mathlib.Data.List.Dedup
import Progeny.Fitness

/-!
# The measures of a text

The distinct words of a text are counted by a hash set.  Their number is that of the words of the
list without repetitions, whatever the hash.
-/

namespace Progeny.Fitness

theorem distinctWords_eq : distinctWords = fun text => (Text.words text).dedup.length := by
  funext text
  unfold distinctWords
  rw [← Std.HashSet.length_toList]
  apply List.Perm.length_eq
  have distinct : (Std.HashSet.ofList (Text.words text)).toList.Nodup :=
    Std.HashSet.distinct_toList.imp fun different same => by simp [same] at different
  rw [List.perm_ext_iff_of_nodup distinct (List.nodup_dedup _)]
  intro word
  rw [Std.HashSet.mem_toList, Std.HashSet.mem_ofList, List.mem_dedup, List.contains_iff_mem]

end Progeny.Fitness
