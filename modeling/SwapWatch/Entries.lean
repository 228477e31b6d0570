/-!
# Entries under keys

A list of entries keeps the order in which its keys were first set. Setting a key changes what is
found under this key and nothing else.
-/

set_option autoImplicit false

namespace SwapWatch.Entries

variable {κ ν : Type} [DecidableEq κ]

/-- Entries with one of them set: in its place if the key is there, else at the end. -/
def set (key : κ) (value : ν) : List (κ × ν) → List (κ × ν)
  | [] => [(key, value)]
  | (other, old) :: entries =>
    if other = key then (key, value) :: entries else (other, old) :: set key value entries

theorem lookup_set (key other : κ) (value : ν) (entries : List (κ × ν)) :
    (set key value entries).lookup other =
      if other = key then some value else entries.lookup other := by
  induction entries with
  | nil =>
    by_cases same : other = key
    · simp [set, same]
    · have differs : (other == key) = false := by simpa using same
      simp [set, List.lookup_cons, same, differs]
  | cons entry entries ih =>
    obtain ⟨first, old⟩ := entry
    by_cases same : other = first
    · by_cases here : first = key
      · simp [set, same, here]
      · simp [set, same, here]
    · have differs : (other == first) = false := by simpa using same
      by_cases here : first = key
      · subst here
        simp [set, List.lookup_cons, same, differs]
      · simp only [set, here, if_false, List.lookup_cons, differs, ih]

theorem keys_set (key : κ) (value : ν) (entries : List (κ × ν)) :
    (set key value entries).map (·.1) =
      if key ∈ entries.map (·.1) then entries.map (·.1) else entries.map (·.1) ++ [key] := by
  induction entries with
  | nil => simp [set]
  | cons entry entries ih =>
    obtain ⟨first, old⟩ := entry
    by_cases here : first = key
    · subst here
      simp [set]
    · have differs : ¬ key = first := fun same => here same.symm
      by_cases later : key ∈ entries.map (·.1)
      · rw [if_pos later] at ih
        rw [if_pos (by simpa using Or.inr (by simpa using later))]
        simp only [set, here, if_false, List.map_cons, ih]
      · rw [if_neg later] at ih
        rw [if_neg (by simpa [differs] using later)]
        simp only [set, here, if_false, List.map_cons, ih, List.cons_append]

theorem set_of_not_mem {key : κ} {entries : List (κ × ν)} (new : key ∉ entries.map (·.1))
    (value : ν) : set key value entries = entries ++ [(key, value)] := by
  induction entries with
  | nil => rfl
  | cons entry entries ih =>
    rw [List.map_cons, List.mem_cons, not_or] at new
    rw [set, if_neg fun same => new.1 same.symm, ih new.2, List.cons_append]

end SwapWatch.Entries
