import LspClient.Path

/-!
# The parts of joined paths

Splitting at separators undoes putting a separator in between. So the components of a joined path are those of its
two sides, whether or not joining put a separator there; an absolute right side is the exception, since it stands
alone. Joining is associative with no exception: an absolute part drops the same things in front of it either way, and
the separator behind an empty part is the one that the part in front would get. The empty path is neutral on the left
only, since joining it on the right still ends a path with a separator.
-/

namespace LspClient.Path

theorem splitFrom_append (part p q : Bytes) :
    splitFrom part (p ++ separator :: q) = splitFrom part p ++ split q := by
  induction p generalizing part with
  | nil => simp [splitFrom, split]
  | cons b p ih =>
    rw [List.cons_append, splitFrom, splitFrom]
    by_cases hb : b = separator
    · rw [if_pos hb, if_pos hb, ih, List.cons_append]
    · rw [if_neg hb, if_neg hb, ih]

theorem split_append (p q : Bytes) : split (p ++ separator :: q) = split p ++ split q :=
  splitFrom_append [] p q

theorem splitFrom_of_not_mem {q : Bytes} (hq : separator ∉ q) (part : Bytes) :
    splitFrom part q = [part.reverse ++ q] := by
  induction q generalizing part with
  | nil => simp [splitFrom]
  | cons b q ih =>
    have hb : b ≠ separator := fun h => hq (h ▸ List.mem_cons_self)
    rw [splitFrom, if_neg hb, ih fun h => hq (List.mem_cons_of_mem b h)]
    simp

theorem split_of_not_mem {q : Bytes} (hq : separator ∉ q) : split q = [q] :=
  splitFrom_of_not_mem hq []

/-- The invariant of splitting is that the part begun has no separator. -/
theorem not_mem_of_mem_splitFrom {part p q : Bytes} (hpart : separator ∉ part) (hq : q ∈ splitFrom part p) :
    separator ∉ q := by
  induction p generalizing part with
  | nil =>
    rw [splitFrom, List.mem_singleton] at hq
    rwa [hq, List.mem_reverse]
  | cons b p ih =>
    rw [splitFrom] at hq
    split at hq
    · rcases List.mem_cons.mp hq with rfl | hq
      · rwa [List.mem_reverse]
      · exact ih List.not_mem_nil hq
    · rename_i hb
      apply ih _ hq
      intro hmem
      rcases List.mem_cons.mp hmem with h | h
      · exact hb h.symm
      · exact hpart h

theorem mem_components_iff {part p : Bytes} :
    part ∈ components p ↔ part ∈ split p ∧ part ≠ [] ∧ part ≠ [0x2E] := by
  simp [components]

theorem not_mem_of_mem_components {part p : Bytes} (h : part ∈ components p) : separator ∉ part :=
  not_mem_of_mem_splitFrom List.not_mem_nil (mem_components_iff.mp h).1

theorem components_append (p q : Bytes) :
    components (p ++ separator :: q) = components p ++ components q := by
  rw [components, split_append, List.filter_append, components, components]

@[simp] theorem components_nil : components [] = [] := rfl

/-- Single dots in front of a path name nothing. -/
theorem components_dots (n : Nat) (p : Bytes) :
    components ((List.replicate n [0x2E, separator]).flatten ++ p) = components p := by
  induction n with
  | zero => rfl
  | succ n ih =>
    have hdot : components [0x2E] = [] := rfl
    have hcons : (List.replicate (n + 1) [0x2E, separator]).flatten ++ p =
        [0x2E] ++ separator :: ((List.replicate n [0x2E, separator]).flatten ++ p) := by
      rw [List.replicate_succ, List.flatten_cons]
      simp
    rw [hcons, components_append, hdot, ih, List.nil_append]

theorem components_join {q : Bytes} (hq : isAbsolute q = false) (p : Bytes) :
    components (join p q) = components p ++ components q := by
  unfold join
  rw [if_neg (by simp [hq])]
  split
  · rename_i hp
    rcases hp with rfl | hp
    · rfl
    · -- The separator at the end of `p` is the one to split at.
      obtain ⟨front, rfl⟩ := List.getLast?_eq_some_iff.mp hp
      rw [List.append_assoc, List.singleton_append, components_append, components_append, components_nil,
        List.append_nil]
  · exact components_append p q

theorem isAbsolute_join {q : Bytes} (hq : isAbsolute q = false) (p : Bytes) :
    isAbsolute (join p q) = isAbsolute p := by
  unfold join
  rw [if_neg (by simp [hq])]
  cases p with
  | nil =>
    rw [if_pos (.inl rfl), List.nil_append, hq]
    rfl
  | cons b p => split <;> rfl

theorem join_of_isAbsolute {q : Bytes} (hq : isAbsolute q = true) (p : Bytes) : join p q = q := by
  rw [join, if_pos hq]

theorem nil_join (q : Bytes) : join [] q = q := by
  unfold join
  split <;> simp

/-- With nothing to put below it, a path is only made ready for what may follow. -/
theorem join_nil (p : Bytes) :
    join p [] = if p = [] ∨ p.getLast? = some separator then p else p ++ [separator] := by
  have hnil : ¬ isAbsolute [] = true := by decide
  rw [join, if_neg hnil, List.append_nil]

theorem join_eq_append {q : Bytes} (hq : isAbsolute q = false) (p : Bytes) : join p q = join p [] ++ q := by
  rw [join_nil, join, if_neg (by simp [hq])]
  split
  · rfl
  · rw [List.append_assoc, List.singleton_append]

theorem join_join_nil (p : Bytes) : join (join p []) [] = join p [] := by
  have hended : join p [] = [] ∨ (join p []).getLast? = some separator := by
    rw [join_nil]
    split
    · assumption
    · exact .inr List.getLast?_concat
  rw [join_nil (join p []), if_pos hended]

theorem join_append_nil {q : Bytes} (hq : q ≠ []) (front : Bytes) : join (front ++ q) [] = front ++ join q [] := by
  have hended : (front ++ q = [] ∨ (front ++ q).getLast? = some separator) ↔
      (q = [] ∨ q.getLast? = some separator) := by
    rw [List.getLast?_append, List.getLast?_eq_some_getLast hq, Option.some_or]
    simp [hq]
  rw [join_nil, join_nil]
  simp only [hended]
  split
  · rfl
  · exact List.append_assoc front q [separator]

/-- Going down twice is going down once along both. -/
theorem join_assoc (p q r : Bytes) : join (join p q) r = join p (join q r) := by
  cases hr : isAbsolute r with
  | true => rw [join_of_isAbsolute hr, join_of_isAbsolute hr, join_of_isAbsolute hr]
  | false =>
    have hqr : isAbsolute (join q r) = isAbsolute q := isAbsolute_join hr q
    cases hq : isAbsolute q with
    | true => rw [join_of_isAbsolute hq, join_of_isAbsolute (hqr.trans hq)]
    | false =>
      -- An empty `q` says nothing of how the front ends, so there the front must be ready already.
      have hfront : join (join p [] ++ q) [] = join p [] ++ join q [] := by
        by_cases hnil : q = []
        · rw [hnil, List.append_nil, join_join_nil, nil_join, List.append_nil]
        · exact join_append_nil hnil (join p [])
      calc join (join p q) r
        _ = join (join p [] ++ q) [] ++ r := by rw [join_eq_append hr, join_eq_append hq]
        _ = join p [] ++ (join q [] ++ r) := by rw [hfront, List.append_assoc]
        _ = join p (join q r) := by rw [← join_eq_append hr, ← join_eq_append (hqr.trans hq)]

theorem length_le_length_join {q : Bytes} (hq : isAbsolute q = false) (p : Bytes) :
    p.length + q.length ≤ (join p q).length := by
  unfold join
  rw [if_neg (by simp [hq])]
  split
  · exact Nat.le_of_eq List.length_append.symm
  · rw [List.length_append, List.length_cons]
    omega

/-- One part that names something. -/
structure IsName (q : Bytes) : Prop where
  filled : q ≠ []
  undotted : q ≠ [0x2E]
  whole : separator ∉ q

theorem isName_of_mem_components {part p : Bytes} (h : part ∈ components p) : IsName part :=
  ⟨(mem_components_iff.mp h).2.1, (mem_components_iff.mp h).2.2, not_mem_of_mem_components h⟩

namespace IsName
variable {q : Bytes} (hq : IsName q)
include hq

theorem isAbsolute_eq : isAbsolute q = false := by
  obtain ⟨b, q, rfl⟩ := List.exists_cons_of_ne_nil hq.filled
  have hb : b ≠ separator := fun h => hq.whole (h ▸ List.mem_cons_self)
  simpa [isAbsolute] using hb

theorem components_eq : components q = [q] := by
  simp [components, split_of_not_mem hq.whole, hq.filled, hq.undotted]

theorem join_ne_nil (p : Bytes) : join p q ≠ [] := by
  unfold join
  rw [if_neg (by simp [hq.isAbsolute_eq])]
  split
  · simp [hq.filled]
  · simp

/-- What stands below `p` under a name ends with that name. -/
theorem exists_join_eq (p : Bytes) : join p q = q ∨ ∃ front, join p q = front ++ separator :: q := by
  unfold join
  rw [if_neg (by simp [hq.isAbsolute_eq])]
  split
  · rename_i hp
    rcases hp with rfl | hp
    · exact .inl rfl
    · obtain ⟨front, rfl⟩ := List.getLast?_eq_some_iff.mp hp
      exact .inr ⟨front, by simp⟩
  · exact .inr ⟨p, rfl⟩

theorem getLast?_split_join (p : Bytes) : (split (join p q)).getLast? = some q := by
  rcases hq.exists_join_eq p with h | ⟨front, h⟩
  · simp [h, split_of_not_mem hq.whole]
  · simp [h, split_append, split_of_not_mem hq.whole]

theorem getLast?_join (p : Bytes) : (join p q).getLast? = q.getLast? := by
  rcases hq.exists_join_eq p with h | ⟨front, h⟩
  · rw [h]
  · rw [h, List.getLast?_append, List.getLast?_cons, List.getLast?_eq_some_getLast hq.filled]
    simp

end IsName

end LspClient.Path
