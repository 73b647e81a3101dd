import Progeny.Proofs.Text.Trim
import Progeny.Statement.Basic

/-!
# Looking up and replacing

Looking up takes the blanks off the ends of its target and replacing does not, so both mean the same
occurrences of a target just if it has no such blanks, or has none that anything comes of.  Then
replacing does what the look-ups tell.  A target with blanks at an end is another matter: what the
look-ups find of it is the trimmed text, and the replacements never touch that.
-/

namespace Progeny.Statement

open Text

variable {s s' : Statement} {target : String} {new : Token}

/-! ### What the look-ups see -/

/-- Whether a token has the text that the look-ups of `target` look for. -/
def sought (target : String) (t : Token) : Bool := t.text == trim target

/-- Which tokens are found, position by position. -/
def marks (s : Statement) (target : String) : List Bool := s.tokens.map (sought target)

theorem contains_eq (s : Statement) (target : String) :
    s.contains target = (s.marks target).any id := by
  rw [marks, List.any_map]
  rfl

theorem indexOf?_eq (s : Statement) (target : String) :
    s.indexOf? target = (s.marks target).findIdx? id := by
  rw [marks, List.findIdx?_map]
  rfl

theorem count_eq (s : Statement) (target : String) :
    s.count target = (s.marks target).countP id := by
  rw [marks, List.countP_map]
  rfl

/-- The look-ups of `target` find the same in both statements. -/
structure SameFound (s s' : Statement) (target : String) : Prop where
  contains : s'.contains target = s.contains target
  indexOf? : s'.indexOf? target = s.indexOf? target
  count : s'.count target = s.count target

theorem sameFound_of_marks (same : s'.marks target = s.marks target) : SameFound s s' target where
  contains := by rw [contains_eq, contains_eq, same]
  indexOf? := by rw [indexOf?_eq, indexOf?_eq, same]
  count := by rw [count_eq, count_eq, same]

theorem contains_eq_false_iff :
    s.contains target = false ↔ ∀ t ∈ s.tokens, t.text ≠ trim target := by
  simp [contains]

theorem indexOf?_eq_none_iff :
    s.indexOf? target = none ↔ ∀ t ∈ s.tokens, t.text ≠ trim target := by
  simp [indexOf?]

theorem count_eq_zero_iff :
    s.count target = 0 ↔ ∀ t ∈ s.tokens, t.text ≠ trim target := by
  simp [count, List.countP_eq_zero]

/-! ### What the replacements do -/

/-- Replacing `target` by `new` replaces what the look-ups of `target` find. -/
structure ReplacesFound (s : Statement) (target : String) (new : Token) : Prop where
  contains : (s.replaceAll target new).contains target = false
  indexOf? : (s.replaceAll target new).indexOf? target = none
  count : (s.replaceAll target new).count target = 0
  gained : Tight new.text.toList →
    (s.replaceAll target new).count new.text = s.count new.text + s.count target
  all : ∀ i : Nat, (s.replaceAll target new).tokens[i]? =
    s.tokens[i]?.map fun t => if t.text = trim target then new else t
  first : ∀ i, s.indexOf? target = some i →
    (∀ j : Nat, (s.replaceFirst target new).tokens[j]? = if j = i then some new else s.tokens[j]?) ∧
    (s.replaceFirst target new).count target + 1 = s.count target
  idle : s.replaceFirst target new = s ↔ s.contains target = false

/-- Replacing `target` by `new` leaves what the look-ups of `target` find. -/
structure KeepsFound (s : Statement) (target : String) (new : Token) : Prop where
  all : SameFound s (s.replaceAll target new) target
  first : SameFound s (s.replaceFirst target new) target

theorem replaceFirst_cases (s : Statement) (target : String) (new : Token) :
    (∃ i, ∃ inside : i < s.tokens.length, s.tokens.findIdx? (·.text == target) = some i ∧
      s.tokens[i].text = target ∧ s.replaceFirst target new = ⟨s.tokens.set i new⟩) ∨
    s.tokens.findIdx? (·.text == target) = none ∧ s.replaceFirst target new = s := by
  unfold replaceFirst
  cases found : s.tokens.findIdx? (·.text == target) with
  | some i =>
    obtain ⟨inside, same, -⟩ := List.findIdx?_eq_some_iff_getElem.mp found
    exact .inl ⟨i, inside, rfl, beq_iff_eq.mp same, rfl⟩
  | none => exact .inr ⟨rfl, rfl⟩

theorem replaceAll_tokens (s : Statement) (old : String) (new : Token) :
    (s.replaceAll old new).tokens = s.tokens.map fun t => if t.text = old then new else t := by
  simp only [replaceAll, beq_iff_eq]

section Tight

variable (tight : Tight target.toList) (other : new.text ≠ trim target)

include tight other

theorem absent_replaceAll : ∀ t ∈ (s.replaceAll target new).tokens, t.text ≠ trim target := by
  intro t mem
  rw [replaceAll_tokens] at mem
  obtain ⟨old, -, rfl⟩ := List.mem_map.mp mem
  split
  · exact other
  · rename_i kept
    rw [trim_eq_self_iff.mpr tight]
    exact kept

theorem count_replaceAll (tight' : Tight new.text.toList) :
    (s.replaceAll target new).count new.text = s.count new.text + s.count target := by
  rw [trim_eq_self_iff.mpr tight] at other
  simp only [count, trim_eq_self_iff.mpr tight, trim_eq_self_iff.mpr tight', replaceAll_tokens]
  induction s.tokens with
  | nil => rfl
  | cons t ts ih =>
    rw [List.map_cons, List.countP_cons, List.countP_cons, List.countP_cons, ih]
    by_cases replaced : t.text = target
    · subst replaced
      simp [Ne.symm other]
      omega
    · simp [replaced]
      omega

/-- Where a target without blanks at its ends is found, there the first replacement happens. -/
theorem replaceFirst_of_found {i : Nat} (found : s.indexOf? target = some i) :
    (∀ j : Nat, (s.replaceFirst target new).tokens[j]? = if j = i then some new else s.tokens[j]?) ∧
    (s.replaceFirst target new).count target + 1 = s.count target := by
  have same : trim target = target := trim_eq_self_iff.mpr tight
  rw [indexOf?, same] at found
  rcases s.replaceFirst_cases target new with ⟨k, inside, index, text, replaced⟩ | ⟨none, -⟩
  · obtain rfl : k = i := Option.some.inj (index.symm.trans found)
    refine ⟨fun j => ?_, ?_⟩
    · rw [replaced, List.getElem?_set, if_pos inside]
      simp only [eq_comm]
    · have some : 0 < s.tokens.countP (·.text == target) :=
        List.countP_pos_iff.mpr ⟨s.tokens[k], List.getElem_mem inside, beq_iff_eq.mpr text⟩
      rw [same] at other
      simp only [count, replaced, same, List.countP_set inside, text]
      simp [other]
      omega
  · rw [none] at found
    cases found

theorem replaceFirst_eq_self_iff :
    s.replaceFirst target new = s ↔ s.contains target = false := by
  have same : trim target = target := trim_eq_self_iff.mpr tight
  rcases s.replaceFirst_cases target new with ⟨k, inside, -, text, replaced⟩ | ⟨none, kept⟩
  · have found : s.contains target = true := by
      rw [← Bool.not_eq_false, contains_eq_false_iff]
      exact fun absent => absent _ (List.getElem_mem inside) (text.trans same.symm)
    refine iff_of_false (fun kept => ?_) (by rw [found]; decide)
    have here : (s.tokens.set k new)[k]? = s.tokens[k]? :=
      congrArg (fun u : Statement => u.tokens[k]?) (replaced.symm.trans kept)
    rw [List.getElem?_set_self inside, List.getElem?_eq_getElem inside, Option.some.injEq] at here
    exact other (here ▸ text.trans same.symm)
  · refine iff_of_true kept (contains_eq_false_iff.mpr ?_)
    rw [same]
    simpa using none

theorem replacesFound_of_tight : ReplacesFound s target new where
  contains := contains_eq_false_iff.mpr (absent_replaceAll tight other)
  indexOf? := indexOf?_eq_none_iff.mpr (absent_replaceAll tight other)
  count := count_eq_zero_iff.mpr (absent_replaceAll tight other)
  gained := count_replaceAll tight other
  all i := by rw [replaceAll_tokens, List.getElem?_map, trim_eq_self_iff.mpr tight]
  first _ found := replaceFirst_of_found tight other found
  idle := replaceFirst_eq_self_iff tight other

end Tight

section Loose

variable (loose : ¬Tight target.toList) (other : new.text ≠ trim target)

include loose other

theorem marks_replaceAll : (s.replaceAll target new).marks target = s.marks target := by
  have unlike : target ≠ trim target := fun same => loose (trim_eq_self_iff.mp same.symm)
  rw [marks, marks, replaceAll_tokens, List.map_map]
  refine List.map_congr_left fun t _ => ?_
  by_cases replaced : t.text = target
  · simp [sought, replaced, other, unlike]
  · simp [replaced]

theorem marks_replaceFirst : (s.replaceFirst target new).marks target = s.marks target := by
  have unlike : target ≠ trim target := fun same => loose (trim_eq_self_iff.mp same.symm)
  rcases s.replaceFirst_cases target new with ⟨i, inside, -, text, replaced⟩ | ⟨-, kept⟩
  · have unsought : sought target new = sought target s.tokens[i] := by
      simp [sought, text, other, unlike]
    rw [replaced, marks, marks, List.map_set, unsought, ← List.map_set, List.set_getElem_self]
  · rw [kept]

theorem keepsFound_of_loose : KeepsFound s target new where
  all := sameFound_of_marks (marks_replaceAll loose other)
  first := sameFound_of_marks (marks_replaceFirst loose other)

end Loose

theorem map_unfound (absent : s.contains target = false) (i : Nat) :
    (s.tokens[i]?.map fun t => if t.text = trim target then new else t) = s.tokens[i]? := by
  cases at_i : s.tokens[i]? with
  | none => rfl
  | some t =>
    have unlike := contains_eq_false_iff.mp absent t (List.mem_of_getElem? at_i)
    rw [Option.map_some, if_neg unlike]

/-- Where nothing is found and nothing is replaced, what is found is replaced. -/
theorem replacesFound_of_idle (absent : s.contains target = false)
    (kept : s.replaceAll target new = s) : ReplacesFound s target new := by
  have unlike : ∀ t ∈ s.tokens, t.text ≠ trim target := contains_eq_false_iff.mp absent
  have noIndex : s.indexOf? target = none := indexOf?_eq_none_iff.mpr unlike
  have none : s.count target = 0 := count_eq_zero_iff.mpr unlike
  refine ⟨?_, ?_, ?_, fun _ => ?_, fun i => ?_, fun i found => ?_, iff_of_true ?_ absent⟩
  · rw [kept, absent]
  · rw [kept, noIndex]
  · rw [kept, none]
  · rw [kept, none, Nat.add_zero]
  · rw [kept, map_unfound absent]
  · rw [noIndex] at found
    cases found
  · rcases s.replaceFirst_cases target new with ⟨k, inside, -, text, replaced⟩ | ⟨-, same⟩
    · -- a token with the target's text is there, but it is `new` already
      have token : new = s.tokens[k] := by
        have all := s.replaceAll_tokens target new
        rw [kept] at all
        have here := congrArg (·[k]?) all
        simpa [inside, text, eq_comm] using here
      rw [replaced, token, List.set_getElem_self]
    · exact same

/-- Replacing a target by a token that the look-ups of the target do not find does what the look-ups
tell, if no blank stands at the target's ends.  If one does, replacing leaves what the look-ups find
as it is, so that it does what they tell only if they find nothing and nothing is replaced. -/
theorem replacement_finds_tight_targets (s : Statement) (target : String) (new : Token)
    (other : new.text ≠ trim target) :
    (ReplacesFound s target new ↔
      Tight target.toList ∨ s.contains target = false ∧ s.replaceAll target new = s) ∧
    (¬Tight target.toList → KeepsFound s target new) := by
  have keeps : ¬Tight target.toList → KeepsFound s target new :=
    fun loose => keepsFound_of_loose loose other
  refine ⟨⟨fun replaces => or_iff_not_imp_left.mpr fun loose => ?_, ?_⟩, keeps⟩
  · have absent : s.contains target = false :=
      (keeps loose).all.contains.symm.trans replaces.contains
    refine ⟨absent, congrArg Statement.mk (List.ext_getElem? fun i => ?_)⟩
    exact (replaces.all i).trans (map_unfound absent i)
  · rintro (tight | ⟨absent, kept⟩)
    · exact replacesFound_of_tight tight other
    · exact replacesFound_of_idle absent kept

/-- `x` is found by the look-ups of ` x `, and not replaced; `x` itself is. -/
theorem replacement_finds_tight_targets_x :
    ReplacesFound ⟨["a", "x", "x"]⟩ "x" "y" ∧ KeepsFound ⟨["x", " x "]⟩ " x " "y" := by
  have tight := replacement_finds_tight_targets ⟨["a", "x", "x"]⟩ "x" "y" (by decide)
  have loose := replacement_finds_tight_targets ⟨["x", " x "]⟩ " x " "y" (by decide)
  exact ⟨tight.1.mpr (.inl (by decide)), loose.2 (by decide)⟩

/-- The token differs from the trimmed target, and still the look-ups find the target afterwards. -/
theorem replacement_misses_blanks :
    ("y" : Token).text ≠ trim " x " ∧ ¬ReplacesFound ⟨["x"]⟩ " x " "y" := by
  refine ⟨by decide, fun replaces => ?_⟩
  have found : (replaceAll ⟨["x"]⟩ " x " "y").contains " x " = true := by decide
  exact Bool.noConfusion (found.symm.trans replaces.contains)

end Progeny.Statement
