import Mathlib.Data.List.Basic
import PolicyWeave.Proofs.Text.Identifier
import PolicyWeave.Proofs.Text.Runs

/-!
# Keywords and names at the start of a text

A line of code is read from its start: a keyword is taken off, then a name,
then what stands between names.

* `behind?` takes a keyword off.  `differ` tells keywords apart, so that a text
  with one is not taken for a text with another.
* `nameOf` and `behindName` part a text behind its first name.  Behind a name
  stands something that stops it.
-/

namespace PolicyWeave.Text

/-! ## Readers -/

/-- The rest of a text behind a keyword, if it starts with it. -/
def behind? (keyword : String) (cs : List Char) : Option (List Char) :=
  keyword.toList.isPrefixOf? cs

/-- The name that a text starts with. -/
def nameOf (cs : List Char) : String :=
  String.ofList (cs.takeWhile isIdentRest)

/-- The rest of a text behind the name that it starts with. -/
def behindName (cs : List Char) : List Char := cs.dropWhile isIdentRest

/-- Whether a text starts with a character that is no part of a name. -/
def stopsName (s : String) : Bool :=
  s.toList.head?.any fun c => !isIdentRest c

/-- Whether two keywords differ before one of them ends. -/
def differ (k l : String) : Bool :=
  (k.toList.zip l.toList).any fun x => x.1 != x.2

/-! ## Keywords -/

theorem behind?_append (keyword s : String) :
    behind? keyword (keyword ++ s).toList = some s.toList := by
  rw [behind?, String.toList_append]
  exact List.isPrefixOf?_eq_some_iff_append_eq.mpr rfl

/-- A text that starts with a keyword does so whatever follows. -/
theorem isSome_behind?_append {keyword head : String}
    (h : (behind? keyword head.toList).isSome = true) (s : String) :
    (behind? keyword (head ++ s).toList).isSome = true := by
  obtain ⟨rest, hrest⟩ := Option.isSome_iff_exists.mp h
  have hhead : keyword.toList ++ rest = head.toList :=
    List.isPrefixOf?_eq_some_iff_append_eq.mp hrest
  rw [behind?, String.toList_append, ← hhead, List.append_assoc,
    List.isPrefixOf?_eq_some_iff_append_eq.mpr rfl]
  rfl

theorem isPrefixOf?_append_of_differ {ks ls : List Char}
    (h : ((ks.zip ls).any fun x => x.1 != x.2) = true) (cs : List Char) :
    ks.isPrefixOf? (ls ++ cs) = none := by
  induction ks generalizing ls with
  | nil => simp at h
  | cons k ks ih =>
    cases ls with
    | nil => simp at h
    | cons l ls =>
      by_cases hkl : k = l
      · have hrest := ih (by simpa [hkl] using h)
        simpa [hkl, List.isPrefixOf?] using hrest
      · simp [hkl, List.isPrefixOf?]

/-- A text that starts with one keyword does not start with another. -/
theorem behind?_of_differ {k l : String} (h : differ k l = true) (s : String) :
    behind? k (l ++ s).toList = none := by
  rw [behind?, String.toList_append]
  exact isPrefixOf?_append_of_differ h _

/-! ## Names -/

/-- Whether a text stops a name depends on its start alone. -/
theorem stopsName_append {sep : String} (h : stopsName sep = true)
    (s : String) : stopsName (sep ++ s) = true := by
  rw [stopsName] at h ⊢
  cases hchars : sep.toList <;> simp_all

section

variable {name rest : String} (hname : isIdentifier name = true)
  (hrest : stopsName rest = true)

include hrest

theorem not_isIdentRest_of_stopsName :
    ∀ c ∈ rest.toList.head?, isIdentRest c = false := by
  rw [stopsName] at hrest
  cases hchars : rest.toList <;> simp_all

include hname

/-- A name ends where something stands that is no part of it. -/
theorem nameOf_append : nameOf (name ++ rest).toList = name := by
  rw [nameOf, String.toList_append,
    takeWhile_append_of_head (fun c => isIdentRest_of_mem hname)
      (not_isIdentRest_of_stopsName hrest),
    String.ofList_toList]

theorem behindName_append : behindName (name ++ rest).toList = rest.toList := by
  rw [behindName, String.toList_append,
    dropWhile_append_of_head (fun c => isIdentRest_of_mem hname)
      (not_isIdentRest_of_stopsName hrest)]

end

end PolicyWeave.Text
