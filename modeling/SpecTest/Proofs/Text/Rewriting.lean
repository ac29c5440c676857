import SpecTest.Text.Split

/-!
Rewriting a text from the left: where a run is found it is replaced, and reading goes on behind it.
-/

namespace SpecTest.Text

/-- Rewrites a text whose first `skip` characters belong to a run that was replaced already.  `find`
tells how long the run at the start of a text is and what takes its place. -/
def rewriteFrom (find : List Char → Option (Nat × List Char)) : Nat → List Char → List Char
  | _, [] => []
  | skip + 1, _ :: rest => rewriteFrom find skip rest
  | 0, c :: rest =>
    match find (c :: rest) with
    | some (size, new) => new ++ rewriteFrom find (size - 1) rest
    | none => c :: rewriteFrom find 0 rest

def replaceRun (run new : List Char) (text : List Char) : List Char :=
  rewriteFrom (fun rest => if run.isPrefixOf rest then some (run.length, new) else none) 0 text

section Rewrite

variable {find : List Char → Option (Nat × List Char)}

theorem rewriteFrom_skip (skip : Nat) (text : List Char) :
    rewriteFrom find skip text = rewriteFrom find 0 (text.drop skip) := by
  induction text generalizing skip with
  | nil => cases skip <;> rfl
  | cons c rest ih =>
      cases skip with
      | zero => rfl
      | succ skip => exact ih skip

theorem rewriteFrom_found {text new : List Char} {size : Nat} (positive : 0 < size)
    (found : find text = some (size, new)) (nonempty : text ≠ []) :
    rewriteFrom find 0 text = new ++ rewriteFrom find 0 (text.drop size) := by
  cases text with
  | nil => contradiction
  | cons c rest =>
      obtain ⟨size, rfl⟩ : ∃ n, size = n + 1 := ⟨size - 1, by omega⟩
      simp only [rewriteFrom, found, Nat.add_sub_cancel, List.drop_succ_cons]
      rw [rewriteFrom_skip]

theorem rewriteFrom_cons {c : Char} {rest : List Char} (absent : find (c :: rest) = none) :
    rewriteFrom find 0 (c :: rest) = c :: rewriteFrom find 0 rest := by
  simp only [rewriteFrom, absent]

theorem rewriteFrom_append {front : List Char} (rest : List Char)
    (absent : ∀ c ∈ front, ∀ rest, find (c :: rest) = none) :
    rewriteFrom find 0 (front ++ rest) = front ++ rewriteFrom find 0 rest := by
  induction front with
  | nil => rfl
  | cons c front ih =>
      rw [List.cons_append, rewriteFrom_cons (absent c (by simp) _),
        ih fun d member => absent d (by simp [member]), List.cons_append]

end Rewrite

section Runs

variable {run new text : List Char}

theorem containsRun_iff {part text : List Char} : containsRun part text = true ↔ part <:+: text := by
  induction text with
  | nil => simp [containsRun]
  | cons c rest ih =>
      simp only [containsRun, Bool.or_eq_true, List.isPrefixOf_iff_prefix, ih]
      exact List.infix_cons_iff.symm

@[simp] theorem replaceRun_nil : replaceRun run new [] = [] := rfl

theorem replaceRun_run_append (nonempty : run ≠ []) (rest : List Char) :
    replaceRun run new (run ++ rest) = new ++ replaceRun run new rest := by
  have found : run.isPrefixOf (run ++ rest) = true := by simp
  rw [replaceRun, rewriteFrom_found (List.length_pos_iff.mpr nonempty) (by rw [if_pos found])
    (by simp [nonempty]), List.drop_left]
  rfl

theorem replaceRun_cons {c : Char} {rest : List Char} (absent : ¬ run <+: c :: rest) :
    replaceRun run new (c :: rest) = c :: replaceRun run new rest := by
  have refused : ¬ run.isPrefixOf (c :: rest) = true := by simpa using absent
  exact rewriteFrom_cons (by rw [if_neg refused])

/-- A text is read from the left: it ends, it goes on with the run, or it goes on with a character at
which the run does not start. -/
@[elab_as_elim]
theorem runInduction {motive : List Char → Prop} (nonempty : run ≠ []) (nil : motive [])
    (found : ∀ rest, motive rest → motive (run ++ rest))
    (kept : ∀ c rest, ¬ run <+: c :: rest → motive rest → motive (c :: rest)) (text : List Char) :
    motive text := by
  induction measured : text.length using Nat.strongRecOn generalizing text with
  | ind size ih =>
      cases text with
      | nil => exact nil
      | cons c rest =>
          by_cases starts : run <+: c :: rest
          · obtain ⟨tail, split⟩ := starts
            have shorter : tail.length < size := by
              have positive := List.length_pos_iff.mpr nonempty
              rw [← measured, ← split, List.length_append]
              omega
            rw [← split]
            exact found tail (ih tail.length shorter tail rfl)
          · exact kept c rest starts (ih rest.length (by simp [← measured]) rest rfl)

theorem length_replaceRun_le (nonempty : run ≠ []) (shorter : new.length ≤ run.length)
    (text : List Char) : (replaceRun run new text).length ≤ text.length := by
  induction text using runInduction nonempty with
  | nil => simp
  | found rest ih =>
      rw [replaceRun_run_append nonempty, List.length_append, List.length_append]
      omega
  | kept c rest absent ih =>
      rw [replaceRun_cons absent, List.length_cons, List.length_cons]
      omega

theorem length_replaceRun_lt (nonempty : run ≠ []) (shorter : new.length < run.length)
    (present : run <:+: text) : (replaceRun run new text).length < text.length := by
  induction text using runInduction nonempty with
  | nil => exact absurd (List.infix_nil.mp present) nonempty
  | found rest ih =>
      have atMost := length_replaceRun_le nonempty (Nat.le_of_lt shorter) rest
      rw [replaceRun_run_append nonempty, List.length_append, List.length_append]
      omega
  | kept c rest absent ih =>
      have inside : run <:+: rest := (List.infix_cons_iff.mp present).resolve_left absent
      rw [replaceRun_cons absent, List.length_cons, List.length_cons]
      have fewer := ih inside
      omega

theorem replaceRun_absent (nonempty : run ≠ []) (absent : ¬ run <:+: text) :
    replaceRun run new text = text := by
  induction text using runInduction nonempty with
  | nil => rfl
  | found rest ih => exact absurd (List.prefix_append run rest).isInfix absent
  | kept c rest starts ih =>
      rw [replaceRun_cons starts, ih fun inside => absent (inside.trans (List.suffix_cons c rest).isInfix)]

/-- Replacing a run by fewer characters leaves exactly the texts as they are that do not have it. -/
theorem replaceRun_eq_self_iff (nonempty : run ≠ []) (shorter : new.length < run.length) :
    replaceRun run new text = text ↔ ¬ run <:+: text := by
  refine ⟨fun same present => ?_, replaceRun_absent nonempty⟩
  have fewer := length_replaceRun_lt nonempty shorter present
  rw [same] at fewer
  omega

end Runs

end SpecTest.Text
