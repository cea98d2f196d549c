import PolicyWeave.Proofs.Text.Keywords

/-!
# Words of a text

The words of a text are those of its longest runs of name characters that are
identifiers; a number is none.  Everything about them follows from
`wordsOf_append_cons`: a text that is cut at any other character has the words
of both parts.

* `words_append_of_stops` and `words_append_of_ends` cut a text where its
  second part starts, or its first part ends, with such a character.
  `words_append_append` does so in front of a part that goes on.
* `words_identifier`: an identifier is one word.
* `words_intercalate`: the words of a list are those of its parts.
-/

namespace PolicyWeave.Text

/-- The words of a text, over characters. -/
def wordsOf (cs : List Char) : List String :=
  ((cs.splitOnP fun c => !isIdentRest c).filter isIdentifierChars).map
    String.ofList

/-- The words of a text. -/
def words (s : String) : List String := wordsOf s.toList

/-- Whether a text ends with a character that is no part of a name. -/
def endsName (s : String) : Bool :=
  s.toList.getLast?.any fun c => !isIdentRest c

/-! ## Cuts -/

@[simp] theorem wordsOf_nil : wordsOf [] = [] := by
  simp [wordsOf, isIdentifierChars]

/-- A character that is no part of a name parts the words in front of it from
those behind it. -/
theorem wordsOf_append_cons {c : Char} (h : isIdentRest c = false)
    (cs ds : List Char) :
    wordsOf (cs ++ c :: ds) = wordsOf cs ++ wordsOf ds := by
  rw [wordsOf, List.splitOnP_append_cons cs ds (by simp [h]),
    List.filter_append, List.map_append]
  rfl

theorem wordsOf_cons {c : Char} (h : isIdentRest c = false)
    (cs : List Char) : wordsOf (c :: cs) = wordsOf cs := by
  simpa using wordsOf_append_cons h [] cs

@[simp] theorem words_empty : words "" = [] := wordsOf_nil

section

variable {s t : String}

@[simp] theorem words_append_of_stops (h : stopsName t = true) (s : String) :
    words (s ++ t) = words s ++ words t := by
  rw [stopsName] at h
  rw [words, words, words, String.toList_append]
  cases ht : t.toList with
  | nil => simp [ht] at h
  | cons c cs =>
    have hc : isIdentRest c = false := by simpa [ht] using h
    rw [wordsOf_append_cons hc, wordsOf_cons hc]

@[simp] theorem words_append_of_ends (h : endsName s = true) (t : String) :
    words (s ++ t) = words s ++ words t := by
  rw [endsName] at h
  rw [words, words, words, String.toList_append]
  cases hlast : s.toList.getLast? with
  | none => simp [hlast] at h
  | some c =>
    have hc : isIdentRest c = false := by simpa [hlast] using h
    obtain ⟨cs, hs⟩ := List.getLast?_eq_some_iff.mp hlast
    rw [hs, List.append_assoc, List.singleton_append,
      wordsOf_append_cons hc, wordsOf_append_cons hc, wordsOf_nil,
      List.append_nil]

@[simp] theorem words_append_append {sep : String} (h : stopsName sep = true)
    (s t : String) :
    words (s ++ (sep ++ t)) = words s ++ words (sep ++ t) :=
  words_append_of_stops (stopsName_append h t) s

end

/-! ## Names and lists of parts -/

/-- An identifier is one word. -/
@[simp] theorem words_identifier {s : String} (h : isIdentifier s = true) :
    words s = [s] := by
  have hrest : ∀ c ∈ s.toList, (!isIdentRest c) = false := fun c hc => by
    simp [isIdentRest_of_mem h hc]
  rw [isIdentifier] at h
  rw [words, wordsOf, List.splitOnP_eq_singleton hrest]
  simp [h]

@[simp] theorem flatMap_words_identifiers {names : List String}
    (h : ∀ name ∈ names, isIdentifier name = true) :
    names.flatMap words = names := by
  induction names with
  | nil => rfl
  | cons name names ih =>
    obtain ⟨hname, hnames⟩ := List.forall_mem_cons.mp h
    rw [List.flatMap_cons, words_identifier hname, ih hnames]
    rfl

/-- A separator that holds no name parts the words of a list. -/
@[simp] theorem words_intercalate {sep : String} (hstops : stopsName sep = true)
    (hends : endsName sep = true) (hwords : words sep = [])
    (parts : List String) :
    words (String.intercalate sep parts) = parts.flatMap words := by
  induction parts with
  | nil => simp
  | cons part parts ih =>
    cases parts with
    | nil => simp
    | cons next parts =>
      rw [String.intercalate_cons_cons, String.append_assoc,
        words_append_append hstops, words_append_of_ends hends, hwords, ih]
      rfl

end PolicyWeave.Text
