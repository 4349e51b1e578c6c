/-!
# Splitting at the first occurrence of a character

## Main definitions

- `Text.splitOnce` — what stands before the first occurrence of a character and,
  if there is one, what stands after it
-/

namespace EntityQuery.Text

/-- What stands before the first occurrence of a character and, if there is one,
  what stands after it. -/
def splitOnce (separator : Char) : List Char → List Char × Option (List Char)
  | [] => ([], none)
  | c :: rest =>
    if c = separator then ([], some rest)
    else
      let (before, after) := splitOnce separator rest
      (c :: before, after)

/-- Without the separator the text stays whole. -/
theorem splitOnce_of_not_mem {separator : Char} {s : List Char} (h : separator ∉ s) :
    splitOnce separator s = (s, none) := by
  induction s with
  | nil => rfl
  | cons c rest ih =>
    have hc : c ≠ separator := fun e => h (e ▸ List.mem_cons_self)
    simp [splitOnce, hc, ih (fun m => h (List.mem_cons_of_mem _ m))]

/-- The first part ends at the first separator. -/
theorem splitOnce_append {separator : Char} {s t : List Char} (h : separator ∉ s) :
    splitOnce separator (s ++ separator :: t) = (s, some t) := by
  induction s with
  | nil => simp [splitOnce]
  | cons c rest ih =>
    have hc : c ≠ separator := fun e => h (e ▸ List.mem_cons_self)
    simp [splitOnce, hc, ih (fun m => h (List.mem_cons_of_mem _ m))]

end EntityQuery.Text
