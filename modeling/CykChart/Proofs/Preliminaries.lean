import Mathlib.Data.List.Forall2
import Mathlib.Data.List.Nodup

/-!
# Lists and results

Facts about lists and about computations that may fail which the other files rely on and which
mention nothing of grammars.

* `bind_eq_ok_iff`, `mapError_eq_ok_iff`: when a computation in steps succeeds.
* `mapError_eq_error_iff`: when one whose errors are worded anew fails.
* `toOption_eq_some_iff`: success without regard to what an error would be.
* `mapM_eq_some`, `foldlM_eq_some`: a pass over a list none of whose steps fails.
* `mapM_eq_some_iff`: when a pass over a list succeeds.
* `eraseDups_append_cons_of_mem`, `eraseDups_eq_self`: clearing a list of repetitions.
* `exists_last_of_mem`: the last place of an element in a list.
-/

namespace CykChart

/-! ## Results -/

section Results

variable {ε ε' α β : Type}

/-- Two steps succeed when the first one does, and the second one on what the first one yields. -/
theorem bind_eq_ok_iff {result : Except ε α} {step : α → Except ε β} {b : β} :
    (result >>= step) = .ok b ↔ ∃ a, result = .ok a ∧ step a = .ok b := by
  cases result <;> simp [bind, Except.bind]

/-- A step that yields a value of its own does not fail. -/
theorem map_eq_ok_iff {result : Except ε α} {f : α → β} {b : β} :
    f <$> result = .ok b ↔ ∃ a, result = .ok a ∧ f a = b := by
  cases result <;> simp [Functor.map, Except.map]

/-- Wording an error anew changes no success. -/
theorem mapError_eq_ok_iff {f : ε → ε'} {result : Except ε α} {a : α} :
    result.mapError f = .ok a ↔ result = .ok a := by
  cases result <;> simp [Except.mapError]

/-- The errors worded anew are the wordings of the errors. -/
theorem mapError_eq_error_iff {f : ε → ε'} {result : Except ε α} {worded : ε'} :
    result.mapError f = .error worded ↔ ∃ error, result = .error error ∧ f error = worded := by
  cases result <;> simp [Except.mapError]

/-- A success is one also when its error, if it had one, is not looked at. -/
theorem toOption_eq_some_iff {result : Except ε α} {a : α} :
    result.toOption = some a ↔ result = .ok a := by
  cases result <;> simp [Except.toOption]

end Results

section Passes

variable {α β : Type} {as : List α}

/-- A pass succeeds with the results of its steps. -/
theorem mapM_eq_some {step : α → Option β} {f : α → β} (h : ∀ a ∈ as, step a = some (f a)) :
    as.mapM step = some (as.map f) := by
  induction as with
  | nil => rfl
  | cons a rest ih =>
    rw [List.forall_mem_cons] at h
    rw [List.mapM_cons, h.1, ih h.2]
    rfl

/-- A pass succeeds when each of its steps does, on the elements in their order. -/
theorem mapM_eq_some_iff {step : α → Option β} {bs : List β} :
    as.mapM step = some bs ↔ List.Forall₂ (fun a b => step a = some b) as bs := by
  induction as generalizing bs with
  | nil =>
    rw [List.mapM_nil, List.forall₂_nil_left_iff]
    exact ⟨fun h => (Option.some.inj h).symm, fun h => h ▸ rfl⟩
  | cons a rest ih =>
    rw [List.mapM_cons]
    constructor
    · intro h
      obtain ⟨first, hfirst, hlater⟩ := Option.bind_eq_some_iff.1 h
      obtain ⟨others, hothers, hall⟩ := Option.bind_eq_some_iff.1 hlater
      exact Option.some.inj hall ▸ .cons hfirst (ih.1 hothers)
    · rintro (_ | ⟨hfirst, hothers⟩)
      rw [hfirst, ih.2 hothers]
      rfl

/-- So does one whose results are put one after another. -/
theorem flatMapM_eq_some {step : α → Option (List β)} {f : α → List β}
    (h : ∀ a ∈ as, step a = some (f a)) : as.flatMapM step = some (as.flatMap f) := by
  induction as with
  | nil => rfl
  | cons a rest ih =>
    rw [List.forall_mem_cons] at h
    rw [List.flatMapM_cons, h.1, ih h.2]
    rfl

/-- So does one that leaves results out. -/
theorem filterMapM_eq_some {step : α → Option (Option β)} {f : α → Option β}
    (h : ∀ a ∈ as, step a = some (f a)) : as.filterMapM step = some (as.filterMap f) := by
  induction as with
  | nil => rfl
  | cons a rest ih =>
    rw [List.forall_mem_cons] at h
    rw [List.filterMapM_cons, h.1, ih h.2, List.filterMap_cons]
    cases f a <;> rfl

/-- So does one that carries a state along. -/
theorem foldlM_eq_some {step : β → α → Option β} {f : β → α → β}
    (h : ∀ a ∈ as, ∀ b, step b a = some (f b a)) (start : β) :
    as.foldlM step start = some (as.foldl f start) := by
  induction as generalizing start with
  | nil => rfl
  | cons a rest ih =>
    rw [List.forall_mem_cons] at h
    rw [List.foldlM_cons, h.1]
    exact ih h.2 (f start a)

end Passes

/-! ## Lists -/

section Lists

variable {α β : Type}

/-- A new element at the end repeats nothing. -/
theorem nodup_append_singleton {a : α} {as : List α} (h : as.Nodup) (hnew : a ∉ as) :
    (as ++ [a]).Nodup := by
  rw [← List.concat_eq_append, List.nodup_concat]
  exact ⟨hnew, h⟩

/-- What holds of a list and of one more element holds of both together. -/
theorem forall_mem_append_singleton {p : α → Prop} {a : α} {as : List α}
    (h : ∀ b ∈ as, p b) (ha : p a) : ∀ b ∈ as ++ [a], p b :=
  List.forall_mem_append.2 ⟨h, List.forall_mem_singleton.2 ha⟩

/-- An element that has come before leaves no trace. -/
theorem eraseDups_append_cons_of_mem [DecidableEq α] {a : α} {as rest : List α} (h : a ∈ as) :
    (as ++ a :: rest).eraseDups = (as ++ rest).eraseDups := by
  rw [List.eraseDups_append, List.eraseDups_append, List.cons_removeAll]
  simp [h]

/-- A list without repetitions is cleared already. -/
theorem eraseDups_eq_self [DecidableEq α] {as : List α} (h : as.Nodup) : as.eraseDups = as := by
  induction as with
  | nil => rfl
  | cons a rest ih =>
    obtain ⟨hnew, hrest⟩ := List.nodup_cons.1 h
    -- No later entry is the first one, so nothing is dropped.
    have hfilter : rest.filter (fun b => !b == a) = rest := by
      rw [List.filter_eq_self]
      intro b hb
      simpa using fun heq : b = a => hnew (heq ▸ hb)
    rw [List.eraseDups_cons, hfilter, ih hrest]

/-- What is there already adds nothing to a list that is cleared of repetitions. -/
theorem eraseDups_append_of_subset [DecidableEq α] {as bs : List α} (h : as.Nodup)
    (hsub : bs ⊆ as) : (as ++ bs).eraseDups = as := by
  have hnone : bs.removeAll as = [] := by
    rw [List.removeAll, List.filter_eq_nil_iff]
    intro b hb
    simpa using hsub hb
  rw [List.eraseDups_append, eraseDups_eq_self h, hnone, List.eraseDups_nil, List.append_nil]

/-- Each element of the first of two related lists is related to one of the second. -/
theorem exists_mem_of_forall₂ {R : α → β → Prop} {as : List α} {bs : List β}
    (h : List.Forall₂ R as bs) {a : α} (ha : a ∈ as) : ∃ b ∈ bs, R a b := by
  induction h with
  | nil => exact absurd ha List.not_mem_nil
  | cons hfirst _ ih =>
    rcases List.mem_cons.1 ha with rfl | hrest
    · exact ⟨_, List.mem_cons_self, hfirst⟩
    · obtain ⟨b, hb, hab⟩ := ih hrest
      exact ⟨b, List.mem_cons_of_mem _ hb, hab⟩

/-- What is listed by a number from one on stands at the place before that number. -/
theorem getElem?_map_range'_one {f : Nat → α} {n size : Nat} (hn : 1 ≤ n) (hsize : n ≤ size) :
    ((List.range' 1 size).map f)[n - 1]? = some (f n) := by
  have hindex : n - 1 < size := by omega
  have hplace : 1 + 1 * (n - 1) = n := by omega
  rw [List.getElem?_map, List.getElem?_range' hindex, hplace, Option.map_some]

/-- A list is cut at the last place of an element. -/
theorem exists_last_of_mem [DecidableEq α] {a : α} {as : List α} (h : a ∈ as) :
    ∃ before after, as = before ++ a :: after ∧ a ∉ after := by
  -- The last place in the list is the first one in the reversed list.
  obtain ⟨after, before, hreverse, hafter⟩ :=
    List.eq_append_cons_of_mem (List.mem_reverse.2 h)
  refine ⟨before.reverse, after.reverse, ?_, by simpa using hafter⟩
  rw [← List.reverse_reverse as, hreverse, List.reverse_append, List.reverse_cons,
    List.append_assoc, List.singleton_append]

end Lists

end CykChart
