/-!
# Sorted tables

A table is a list of keys with values, in ascending order of the keys and
with each key once.  `insert`, `erase` and `ofList` keep that form, and
`get?` looks a key up.

The lemmas say what a look-up finds after each operation.  They hold of
every list, sorted or not.
-/

namespace PolicyWeave.Table

variable {κ α : Type} [LT κ] [DecidableLT κ] [DecidableEq κ]

/-- A table with one more key, which takes its place in the order, or the
place of the value it had before. -/
def insert (key : κ) (value : α) : List (κ × α) → List (κ × α)
  | [] => [(key, value)]
  | (k, v) :: rest =>
    if key < k then (key, value) :: (k, v) :: rest
    else if key = k then (key, value) :: rest
    else (k, v) :: insert key value rest

/-- The table of pairs in any order; of two with one key the later
counts. -/
def ofList (pairs : List (κ × α)) : List (κ × α) :=
  pairs.foldl (fun t p => insert p.1 p.2 t) []

/-- The value of a key. -/
def get? (key : κ) : List (κ × α) → Option α
  | [] => none
  | (k, v) :: rest => if key = k then some v else get? key rest

/-- A table without a key. -/
def erase (key : κ) : List (κ × α) → List (κ × α)
  | [] => []
  | (k, v) :: rest =>
    if key = k then erase key rest else (k, v) :: erase key rest

omit [LT κ] [DecidableLT κ] in
@[simp] theorem get?_nil (key : κ) : get? key ([] : List (κ × α)) = none :=
  rfl

/-- An inserted key is found. -/
@[simp] theorem get?_insert_self (key : κ) (value : α)
    (t : List (κ × α)) : get? key (insert key value t) = some value := by
  fun_induction insert key value t <;> grind [get?]

/-- Inserting one key leaves the others. -/
theorem get?_insert_of_ne {key other : κ} (h : other ≠ key) (value : α)
    (t : List (κ × α)) :
    get? other (insert key value t) = get? other t := by
  fun_induction insert key value t <;> grind [get?]

omit [LT κ] [DecidableLT κ] in
/-- An erased key is not found. -/
@[simp] theorem get?_erase_self (key : κ) (t : List (κ × α)) :
    get? key (erase key t) = none := by
  fun_induction erase key t <;> grind [get?]

omit [LT κ] [DecidableLT κ] in
/-- Erasing one key leaves the others. -/
theorem get?_erase_of_ne {key other : κ} (h : other ≠ key)
    (t : List (κ × α)) : get? other (erase key t) = get? other t := by
  fun_induction erase key t <;> grind [get?]

end PolicyWeave.Table
