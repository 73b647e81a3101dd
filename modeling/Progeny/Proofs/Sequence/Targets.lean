import Progeny.Proofs.Program.Edits

/-!
# Taking out targets one after the other

Each target takes the first element with its text out of what the targets before it have left.  What
all of them leave can be said without the order of the targets: an element stays just if there are
at least as many elements with its text before it as there are targets with this text.  So of the
elements with one text the first are taken, as many as there are targets with it or all of them.
-/

namespace Progeny

namespace Sequence

variable {α κ : Type} [DecidableEq κ] {key : α → κ} {wanted : List κ} {xs : List α} {k : κ}

/-- The elements before which there are at least as many with the same key as there are such keys
among the wanted ones. -/
def spared (key : α → κ) (wanted : List κ) (xs : List α) : List α :=
  (xs.zipIdx.filter fun entry =>
    wanted.count (key entry.1) ≤ ((xs.take entry.2).map key).count (key entry.1)).map Prod.fst

theorem spared_cons (key : α → κ) (wanted : List κ) (x : α) (xs : List α) :
    spared key wanted (x :: xs) =
      (if key x ∈ wanted then [] else [x]) ++ spared key (wanted.erase (key x)) xs := by
  -- behind the first element there is one more before each, so one less has to be wanted
  have later (a : α) (i : Nat) :
      wanted.count (key a) ≤ (((x :: xs).take (i + 1)).map key).count (key a) ↔
        (wanted.erase (key x)).count (key a) ≤ ((xs.take i).map key).count (key a) := by
    rw [List.take_succ_cons, List.map_cons, List.count_cons, List.count_erase,
      Nat.sub_le_iff_le_add]
  have first : wanted.count (key x) ≤ (((x :: xs).take 0).map key).count (key x) ↔
      key x ∉ wanted := by
    rw [List.take_zero, List.map_nil, List.count_nil, Nat.le_zero, List.count_eq_zero]
  have rest : (fun entry : α × Nat =>
      decide (wanted.count (key entry.1) ≤
        (((x :: xs).take entry.2).map key).count (key entry.1))) ∘ Prod.map id (· + 1) =
      fun entry => decide ((wanted.erase (key x)).count (key entry.1) ≤
        ((xs.take entry.2).map key).count (key entry.1)) :=
    funext fun entry => decide_eq_decide.mpr (later entry.1 entry.2)
  unfold spared
  rw [List.zipIdx_cons', List.filter_cons, List.filter_map, rest]
  simp only [first, decide_eq_true_eq]
  by_cases mem : key x ∈ wanted
  · rw [if_neg (not_not_intro mem), if_pos mem, List.map_map, List.nil_append]
    rfl
  · rw [if_pos mem, if_neg mem, List.map_cons, List.map_map, List.singleton_append]
    rfl

theorem spared_nil (key : α → κ) (xs : List α) : spared key [] xs = xs := by
  induction xs with
  | nil => rfl
  | cons x xs ih =>
    rw [spared_cons, List.erase_nil, ih]
    rfl

/-- One more key takes out the first element with it. -/
theorem spared_cons_wanted (k : κ) (wanted : List κ) (xs : List α) :
    spared key (k :: wanted) xs = spared key wanted (xs.eraseP (key · == k)) := by
  induction xs generalizing wanted with
  | nil => rfl
  | cons x xs ih =>
    by_cases same : key x = k
    · subst same
      have found : (x :: xs).eraseP (key · == key x) = xs :=
        List.eraseP_cons_of_pos (beq_self_eq_true (key x))
      rw [spared_cons, if_pos List.mem_cons_self, List.erase_cons_head, found, List.nil_append]
    · have first : key x ∈ k :: wanted ↔ key x ∈ wanted :=
        List.mem_cons.trans (or_iff_right same)
      have rest : (k :: wanted).erase (key x) = k :: wanted.erase (key x) :=
        List.erase_cons_tail (by simpa using Ne.symm same)
      rw [List.eraseP_cons_of_neg (by simpa using same), spared_cons, spared_cons, rest, ih]
      simp only [first]

theorem spared_sublist (key : α → κ) (wanted : List κ) (xs : List α) :
    (spared key wanted xs).Sublist xs := by
  induction xs generalizing wanted with
  | nil => exact .slnil
  | cons x xs ih =>
    rw [spared_cons]
    split
    · exact (ih _).cons x
    · exact (ih _).cons_cons x

theorem filter_spared (k : κ) (wanted : List κ) (xs : List α) :
    (spared key wanted xs).filter (key · == k) =
      (xs.filter (key · == k)).drop (wanted.count k) := by
  induction xs generalizing wanted with
  | nil => exact List.drop_nil.symm
  | cons x xs ih =>
    rw [spared_cons, List.filter_append, ih, List.count_erase, List.filter_cons]
    by_cases same : key x = k
    · subst same
      by_cases mem : key x ∈ wanted
      · obtain ⟨n, count⟩ := Nat.exists_add_one_eq.mpr (List.count_pos_iff.mpr mem)
        simp [mem, ← count]
      · simp [mem, List.count_eq_zero.mpr mem]
    · by_cases mem : key x ∈ wanted <;> simp [mem, same]

/-- Only how often each key is wanted matters. -/
theorem spared_congr {wanted' : List κ} (same : ∀ k, wanted.count k = wanted'.count k)
    (xs : List α) : spared key wanted xs = spared key wanted' xs := by
  unfold spared
  simp only [same]

end Sequence

/-! ### Statements and programs -/

section Removal

variable {σ α : Type}

/-- Removing `targets` from `s` takes out, for each text, the first elements with it, as many as
there are targets or all of them; what stays keeps its order, and nothing about the targets matters
but how often each text is there. -/
structure TakesFirst (text : α → String) (elements : σ → List α) (remove : σ → List α → σ)
    (s : σ) (targets : List α) : Prop where
  spared : elements (remove s targets) =
    Sequence.spared text (targets.map text) (elements s)
  order : (elements (remove s targets)).Sublist (elements s)
  occurrences : ∀ t, (elements (remove s targets)).filter (text · == t) =
    ((elements s).filter (text · == t)).drop
      (min (targets.countP (text · == t)) ((elements s).countP (text · == t)))
  unordered : ∀ targets', targets'.Perm targets → remove s targets' = remove s targets
  counted : ∀ targets', (∀ t, targets'.countP (text · == t) = targets.countP (text · == t)) →
    remove s targets' = remove s targets

/-- An edit that leaves what is spared of a sequence, and changes nothing else. -/
theorem takesFirst_of_spared {text : α → String} {elements : σ → List α} {remove : σ → List α → σ}
    {wrap : List α → σ} {s : σ} (wrapped : ∀ xs, elements (wrap xs) = xs)
    (spares : ∀ targets,
      remove s targets = wrap (Sequence.spared text (targets.map text) (elements s)))
    (targets : List α) : TakesFirst text elements remove s targets := by
  have left : elements (remove s targets) =
      Sequence.spared text (targets.map text) (elements s) := by rw [spares, wrapped]
  have counts (targets : List α) (t : String) :
      (targets.map text).count t = targets.countP (text · == t) := by
    rw [List.count, List.countP_map]
    rfl
  have counted (targets' : List α)
      (same : ∀ t, targets'.countP (text · == t) = targets.countP (text · == t)) :
      remove s targets' = remove s targets := by
    rw [spares, spares]
    exact congrArg wrap
      (Sequence.spared_congr (fun t => by rw [counts, counts, same]) (elements s))
  refine ⟨left, ?_, fun t => ?_, fun targets' perm => ?_, counted⟩
  · rw [left]
    exact Sequence.spared_sublist _ _ _
  · have occurring := List.countP_eq_length_filter (p := (text · == t)) (l := elements s)
    rw [left, Sequence.filter_spared, counts, occurring]
    exact List.drop_eq_drop_min
  · exact counted targets' fun t => perm.countP_eq _

end Removal

theorem Statement.removeAll_eq (s : Statement) (targets : List Token) :
    s.removeAll targets = ⟨Sequence.spared Token.text (targets.map Token.text) s.tokens⟩ := by
  induction targets generalizing s with
  | nil => rw [List.map_nil, Sequence.spared_nil]; rfl
  | cons t targets ih =>
    have sameText : (· == t) = fun u : Token => u.text == t.text := by
      funext u
      rw [Bool.eq_iff_iff, beq_iff_eq, beq_iff_eq, Token.mk.injEq]
    change Statement.removeAll ⟨s.tokens.erase t⟩ targets = _
    rw [ih, List.map_cons, Sequence.spared_cons_wanted, List.erase_eq_eraseP', sameText]

theorem Program.removeStatements_eq_spared (p : Program) (targets : List Statement) :
    p.removeStatements targets = { p with
      statements := Sequence.spared Statement.render (targets.map Statement.render) p.statements } := by
  induction targets generalizing p with
  | nil => rw [List.map_nil, Sequence.spared_nil]; rfl
  | cons target targets ih =>
    change (p.removeStatement target).2.removeStatements targets = _
    rw [ih, removeStatement_eq, List.map_cons, Sequence.spared_cons_wanted]
    rfl

/-- Removing targets from a statement or from a program takes out, for each text, the first tokens or
statements with it, as many as there are targets with it or all of them, keeps the others in order,
and does not depend on the order of the targets.  Of a program only the statements change. -/
theorem removals_depend_on_multiset :
    (∀ (s : Statement) (targets : List Token),
      TakesFirst Token.text Statement.tokens Statement.removeAll s targets) ∧
    ∀ (p : Program) (targets : List Statement),
      TakesFirst Statement.render Program.statements Program.removeStatements p targets ∧
      p.removeStatements targets =
        { p with statements := (p.removeStatements targets).statements } := by
  refine ⟨fun s => takesFirst_of_spared (fun _ => rfl) s.removeAll_eq, fun p targets => ⟨?_, ?_⟩⟩
  · let wrap (ss : List Statement) : Program := { p with statements := ss }
    have wrapped (ss : List Statement) : (wrap ss).statements = ss := rfl
    exact takesFirst_of_spared wrapped p.removeStatements_eq_spared targets
  · rw [p.removeStatements_eq_spared]

/-- Some targets are there more often than they are found, and two statements have one text although
their tokens differ. -/
theorem removals_depend_on_multiset_repeated :
    let s : Statement := ⟨["a", "b", "a", "c", "a"]⟩
    let p := Program.ofStatements [⟨["x", "y"]⟩, ⟨["z"]⟩, ⟨["x y"]⟩, ⟨["x", "y"]⟩]
    s.removeAll ["c", "a", "q", "c", "a"] = ⟨["b", "a"]⟩ ∧
    s.removeAll ["a", "a", "c", "c", "q"] = s.removeAll ["c", "a", "q", "c", "a"] ∧
    p.removeStatements [⟨["x y"]⟩, ⟨["x y"]⟩] = .ofStatements [⟨["z"]⟩, ⟨["x", "y"]⟩] ∧
    p.removeStatements [⟨["x y"]⟩, ⟨["x", "y"]⟩] = p.removeStatements [⟨["x y"]⟩, ⟨["x y"]⟩] := by
  intro s p
  obtain ⟨statements, programs⟩ := removals_depend_on_multiset
  have perm : [⟨"a"⟩, ⟨"a"⟩, ⟨"c"⟩, ⟨"c"⟩, ⟨"q"⟩].Perm [⟨"c"⟩, ⟨"a"⟩, ⟨"q"⟩, ⟨"c"⟩, (⟨"a"⟩ : Token)] := by
    decide
  have sameText : (⟨["x", "y"]⟩ : Statement).render = (⟨["x y"]⟩ : Statement).render := by decide
  refine ⟨by decide, (statements s _).unordered _ perm, ?_, (programs p _).1.counted _ fun t => ?_⟩
  · rfl
  · simp only [List.countP_cons, sameText]

end Progeny
