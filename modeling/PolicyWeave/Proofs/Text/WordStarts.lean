import PolicyWeave.Proofs.Text.SnakeCase

/-!
# Where words start

A name in mixed case is words side by side, and snake case parts them by an
underscore.

* `WordStart` says at which places of a name a word starts.
  `wordStart_iff`: the conversion looks at just one character on either side
  of a capital, and finds the same places.
* `Parted` relates a text to the one with an underscore in front of some of
  its places.  The first text is known from the second (`Parted.left_unique`).
* `parted_snakeCaseAfter` is the induction.  What it carries is the front of
  the name, of which the conversion keeps the last character alone.
* `snakeCase_parts_words` says what case conversion does to a name.
-/

namespace PolicyWeave.Text

/-! ## Words -/

/-- Whether a word starts at a place of a text, other than its first: at a
capital behind a lower-case letter or a digit, or at the last of several
capitals when a lower-case letter follows. -/
inductive WordStart : List Char → Nat → Prop where
  | capital {front after : List Char} {p c : Char}
      (hp : p.isLower = true ∨ p.isDigit = true) (hc : c.isUpper = true) :
      WordStart (front ++ p :: c :: after) (front.length + 1)
  | lastCapital {front after : List Char} {p c n : Char}
      (hp : p.isUpper = true) (hc : c.isUpper = true)
      (hn : n.isLower = true) :
      WordStart (front ++ p :: c :: n :: after) (front.length + 1)

theorem ne_underscore_of_isAlphanum {c : Char} (h : c.isAlphanum = true) :
    c ≠ '_' := by
  rintro rfl
  exact absurd h (by decide)

/-- A word starts between two characters that stand side by side, neither of
them an underscore. -/
theorem WordStart.exists_neighbours {cs : List Char} {i : Nat}
    (h : WordStart cs i) :
    ∃ front p c after, cs = front ++ p :: c :: after
      ∧ i = front.length + 1 ∧ p ≠ '_' ∧ c ≠ '_' := by
  have hupper {d : Char} (hd : d.isUpper = true) : d.isAlphanum = true := by
    simp [Char.isAlphanum, Char.isAlpha, hd]
  cases h with
  | @capital front after p c hp hc =>
    have hp : p.isAlphanum = true := by
      rcases hp with hp | hp <;> simp [Char.isAlphanum, Char.isAlpha, hp]
    exact ⟨front, p, c, after, rfl, rfl, ne_underscore_of_isAlphanum hp,
      ne_underscore_of_isAlphanum (hupper hc)⟩
  | @lastCapital front after p c n hp hc hn =>
    exact ⟨front, p, c, n :: after, rfl, rfl,
      ne_underscore_of_isAlphanum (hupper hp),
      ne_underscore_of_isAlphanum (hupper hc)⟩

theorem startsWord_some {p : Char} {next : Option Char} :
    startsWord (some p) next = true ↔
      (p.isLower = true ∨ p.isDigit = true)
        ∨ p.isUpper = true ∧ ∃ n ∈ next, n.isLower = true := by
  cases next <;> cases hlower : p.isLower <;> cases hdigit : p.isDigit <;>
    cases hupper : p.isUpper <;>
    simp [startsWord, hlower, hdigit, hupper]

/-- A character and the one in front of it, known by their place. -/
theorem neighbours_of_append_eq {front front' rest after : List Char}
    {c p d : Char} (h : front ++ c :: rest = front' ++ p :: d :: after)
    (hplace : front.length = front'.length + 1) :
    front.getLast? = some p ∧ c = d ∧ rest = after := by
  have hsplit : front ++ c :: rest = (front' ++ [p]) ++ d :: after := by
    simpa using h
  obtain ⟨rfl, hrest⟩ := List.append_inj hsplit (by simpa using hplace)
  obtain ⟨rfl, rfl⟩ := List.cons.inj hrest
  exact ⟨List.getLast?_concat, rfl, rfl⟩

/-- Whether a word starts at a place is seen from the character there and its
two neighbours. -/
theorem wordStart_iff {front rest : List Char} {c : Char} :
    WordStart (front ++ c :: rest) front.length ↔
      c.isUpper = true ∧ startsWord front.getLast? rest.head? = true := by
  constructor
  · intro h
    generalize htext : front ++ c :: rest = cs at h
    generalize hplace : front.length = i at h
    cases h with
    | capital hp hc =>
      obtain ⟨hlast, rfl, rfl⟩ := neighbours_of_append_eq htext hplace
      rw [hlast, startsWord_some]
      exact ⟨hc, .inl hp⟩
    | lastCapital hp hc hn =>
      obtain ⟨hlast, rfl, rfl⟩ := neighbours_of_append_eq htext hplace
      rw [hlast, startsWord_some]
      exact ⟨hc, .inr ⟨hp, _, rfl, hn⟩⟩
  · rintro ⟨hc, hstart⟩
    cases hlast : front.getLast? with
    | none =>
      rw [hlast] at hstart
      cases hstart
    | some p =>
      obtain ⟨front, rfl⟩ := List.getLast?_eq_some_iff.mp hlast
      rw [hlast, startsWord_some] at hstart
      rw [List.append_assoc, List.length_append]
      rcases hstart with hp | ⟨hp, n, hnext, hn⟩
      · exact .capital hp hc
      · obtain ⟨after, rfl⟩ := List.head?_eq_some_iff.mp hnext
        exact .lastCapital hp hc hn

/-! ## Underscores -/

/-- Whether the second text is the first one with one underscore in front of
each character at one of the places `starts`, and with nothing else.  The
first character stands at place `i`. -/
inductive Parted (starts : Nat → Prop) :
    Nat → List Char → List Char → Prop where
  | nil (i : Nat) : Parted starts i [] []
  | keep {i : Nat} {c : Char} {cs ds : List Char} (hi : ¬ starts i)
      (h : Parted starts (i + 1) cs ds) :
      Parted starts i (c :: cs) (c :: ds)
  | part {i : Nat} {c : Char} {cs ds : List Char} (hi : starts i)
      (h : Parted starts (i + 1) cs ds) :
      Parted starts i (c :: cs) ('_' :: c :: ds)

/-- Taking the underscores away gives one text. -/
theorem Parted.left_unique {starts : Nat → Prop} {i : Nat}
    {cs cs' ds : List Char} (h : Parted starts i cs ds)
    (h' : Parted starts i cs' ds) : cs = cs' := by
  induction h generalizing cs' with
  | nil => cases h'; rfl
  | keep hi _ ih =>
    cases h' with
    | keep _ h' => rw [ih h']
    | part hi' => exact absurd hi' hi
  | part hi _ ih =>
    cases h' with
    | keep hi' => exact absurd hi hi'
    | part _ h' => rw [ih h']

/-! ## Snake case -/

theorem parted_snakeCaseAfter (front rest : List Char) :
    Parted (WordStart (front ++ rest)) front.length
      (rest.map Char.toLower) (snakeCaseAfter front.getLast? rest) := by
  induction rest generalizing front with
  | nil => exact .nil _
  | cons c rest ih =>
    have hstep := ih (front ++ [c])
    simp only [List.append_assoc, List.singleton_append,
      List.length_append, List.length_singleton, List.getLast?_concat]
      at hstep
    rw [snakeCaseAfter, List.map_cons]
    by_cases hupper : c.isUpper = true
    · rw [if_pos hupper]
      by_cases hstart : startsWord front.getLast? rest.head? = true
      · rw [if_pos hstart]
        exact .part (wordStart_iff.mpr ⟨hupper, hstart⟩) hstep
      · rw [if_neg hstart]
        exact .keep (fun h => hstart (wordStart_iff.mp h).2) hstep
    · rw [if_neg hupper, Char.toLower_eq_of_not_isUpper hupper]
      exact .keep (fun h => hupper (wordStart_iff.mp h).1) hstep

/-- Snake case is lower case with the words parted. -/
theorem parted_snakeCase (s : String) :
    Parted (WordStart s.toList) 0 (s.toList.map Char.toLower)
      (snakeCase s).toList := by
  rw [snakeCase, String.toList_ofList]
  exact parted_snakeCaseAfter [] s.toList

/-- What case conversion does to a name.

An identifier stays one, and has no capitals any more.  Without the
underscores at its word starts, snake case is the name in lower case, and
nothing else is.  A word starts behind the first character of the name, and no
underscore stands next to the place.  A name that is in snake case stays as it
is and has the same constant name. -/
theorem snakeCase_parts_words (s : String) :
    (isIdentifier s = true → isIdentifier (snakeCase s) = true)
      ∧ (∀ c ∈ (snakeCase s).toList, c.isUpper = false)
      ∧ (∀ cs, Parted (WordStart s.toList) 0 cs (snakeCase s).toList ↔
          cs = s.toList.map Char.toLower)
      ∧ (∀ i, WordStart s.toList i →
          ∃ front p c after, s.toList = front ++ p :: c :: after
            ∧ i = front.length + 1 ∧ p ≠ '_' ∧ c ≠ '_')
      ∧ snakeCase (snakeCase s) = snakeCase s
      ∧ upperSnakeCase (snakeCase s) = upperSnakeCase s := by
  refine ⟨isIdentifier_snakeCase, fun _ => isUpper_of_mem_snakeCase, ?_,
    fun _ => WordStart.exists_neighbours, snakeCase_snakeCase s,
    upperSnakeCase_eq_iff.mpr (snakeCase_snakeCase s)⟩
  intro cs
  constructor
  · intro h
    exact h.left_unique (parted_snakeCase s)
  · rintro rfl
    exact parted_snakeCase s

/-- The client of a protocol, in its second version: a run of capitals that a
word ends, a digit, and an underscore that was there before. -/
theorem snakeCase_parts_words_client :
    isIdentifier (snakeCase "HTTPClientV2_Get") = true
      ∧ 'c'.isUpper = false
      ∧ Parted (WordStart "HTTPClientV2_Get".toList) 0
          "httpclientv2_get".toList "http_client_v2_get".toList
      ∧ ∃ front p c after, "HTTPClientV2_Get".toList
            = front ++ p :: c :: after
          ∧ 4 = front.length + 1 ∧ p ≠ '_' ∧ c ≠ '_' := by
  obtain ⟨hidentifier, hlower, hparted, hplace, -⟩ :=
    snakeCase_parts_words "HTTPClientV2_Get"
  have hsnake : snakeCase "HTTPClientV2_Get" = "http_client_v2_get" := by
    decide
  have hstart : WordStart
      (['H', 'T', 'T'] ++ 'P' :: 'C' :: 'l' :: "ientV2_Get".toList) 4 :=
    .lastCapital rfl rfl rfl
  rw [hsnake] at hlower hparted
  exact ⟨hidentifier (by decide), hlower 'c' (by decide),
    (hparted _).mpr (by decide), hplace 4 hstart⟩

end PolicyWeave.Text
