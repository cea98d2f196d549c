import PolicyWeave.Proofs.Json.Strings
import PolicyWeave.Proofs.Json.Words

/-!
# Trees of JSON text

A `Json.Tree` is compact JSON text with its structure: words, quoted
strings, and brackets around items and members.  Unlike a JSON value it
keeps members in any order, with repetitions, and words as they are
written, so every writer of JSON has its trees.

* `Delimited` says of a piece that it tells where it ends, and
  `separated_append_inj` that pieces parted by commas do so if each does.
* `Json.Tree.chars_inj`: the text of a tree is of no other tree.  The
  first character tells the shape, and every shape tells where it ends.
* `Json.render_eq_text`: JSON values are written as trees.
-/

namespace PolicyWeave.Json

/-! ## Pieces that tell where they end -/

/-- Whether a piece is known from any text that it starts, if no word goes
on behind it. -/
def Delimited {α : Type} (f : α → List Char) (a : α) : Prop :=
  ∀ b rest rest', WordEnds rest → WordEnds rest' →
    f a ++ rest = f b ++ rest' → a = b ∧ rest = rest'

/-- Pieces parted by commas. -/
def separated {α : Type} (f : α → List Char) : List α → List Char
  | [] => []
  | a :: as => f a ++ as.flatMap fun b => ',' :: f b

theorem wordEnds_cons {c : Char} (h : isWordChar c = false)
    (cs : List Char) : WordEnds (c :: cs) := by
  intro d hd
  obtain rfl : c = d := by simpa using hd
  exact h

section

variable {α : Type} {f : α → List Char} {close : Char}
  {rest rest' : List Char}

/-- Behind a piece stands a comma or the end. -/
theorem wordEnds_tail (hclose : isWordChar close = false) (as : List α)
    (rest : List Char) :
    WordEnds ((as.flatMap fun b => ',' :: f b) ++ close :: rest) := by
  cases as with
  | nil => exact wordEnds_cons hclose rest
  | cons a as => exact wordEnds_cons (by decide) _

theorem tail_append_inj (hclose : isWordChar close = false)
    (hcomma : close ≠ ',') {as bs : List α}
    (has : ∀ a ∈ as, Delimited f a)
    (h : (as.flatMap fun b => ',' :: f b) ++ close :: rest
      = (bs.flatMap fun b => ',' :: f b) ++ close :: rest') :
    as = bs ∧ rest = rest' := by
  induction as generalizing bs with
  | nil =>
    cases bs with
    | nil => simpa using h
    | cons b bs => simp [hcomma] at h
  | cons a as ih =>
    cases bs with
    | nil => simp [Ne.symm hcomma] at h
    | cons b bs =>
      obtain ⟨ha, has⟩ := List.forall_mem_cons.mp has
      simp only [List.flatMap_cons, List.cons_append, List.append_assoc,
        List.cons.injEq, true_and] at h
      obtain ⟨rfl, htail⟩ := ha b _ _ (wordEnds_tail hclose as rest)
        (wordEnds_tail hclose bs rest') h
      obtain ⟨rfl, rfl⟩ := ih has htail
      exact ⟨rfl, rfl⟩

/-- Pieces between commas tell where they end, if none of them starts with
what closes them. -/
theorem separated_append_inj (hclose : isWordChar close = false)
    (hcomma : close ≠ ',') (hstart : ∀ a, ∃ c cs, f a = c :: cs ∧ c ≠ close)
    {as bs : List α} (has : ∀ a ∈ as, Delimited f a)
    (h : separated f as ++ close :: rest
      = separated f bs ++ close :: rest') :
    as = bs ∧ rest = rest' := by
  cases as with
  | nil =>
    cases bs with
    | nil => simpa [separated] using h
    | cons b bs =>
      obtain ⟨c, cs, hb, hc⟩ := hstart b
      simp [separated, hb, Ne.symm hc] at h
  | cons a as =>
    cases bs with
    | nil =>
      obtain ⟨c, cs, ha, hc⟩ := hstart a
      simp [separated, ha, hc] at h
    | cons b bs =>
      obtain ⟨ha, has⟩ := List.forall_mem_cons.mp has
      simp only [separated, List.append_assoc] at h
      obtain ⟨rfl, htail⟩ := ha b _ _ (wordEnds_tail hclose as rest)
        (wordEnds_tail hclose bs rest') h
      obtain ⟨rfl, rfl⟩ := tail_append_inj hclose hcomma has htail
      exact ⟨rfl, rfl⟩

end

/-! ## Trees -/

/-- Compact JSON text with its structure. -/
inductive Tree where
  | word (w : Word)
  | quoted (s : String)
  | array (items : List Tree)
  | object (members : List (String × Tree))

namespace Tree

/-- Induction over trees, with the items and the values of members at
hand. -/
theorem induction {P : Tree → Prop} (word : ∀ w, P (.word w))
    (quoted : ∀ s, P (.quoted s))
    (array : ∀ ts, (∀ t ∈ ts, P t) → P (.array ts))
    (object : ∀ ms : List (String × Tree), (∀ m ∈ ms, P m.2) →
      P (.object ms)) (t : Tree) : P t :=
  @Tree.rec P (fun ts => ∀ t ∈ ts, P t) (fun ms => ∀ m ∈ ms, P m.2)
    (fun m => P m.2) word quoted array object (by simp)
    (fun _ _ ht hts => List.forall_mem_cons.mpr ⟨ht, hts⟩) (by simp)
    (fun _ _ hm hms => List.forall_mem_cons.mpr ⟨hm, hms⟩)
    (fun _ _ ht => ht) t

mutual

/-- The characters of a tree. -/
def chars : Tree → List Char
  | .word w => w.chars
  | .quoted s => (quote s).toList
  | .array items => '[' :: (itemsChars items ++ [']'])
  | .object members => '{' :: (membersChars members ++ ['}'])

/-- The characters of items, parted by commas. -/
def itemsChars : List Tree → List Char
  | [] => []
  | [t] => chars t
  | t :: u :: rest => chars t ++ ',' :: itemsChars (u :: rest)

/-- The characters of members, parted by commas. -/
def membersChars : List (String × Tree) → List Char
  | [] => []
  | [(k, t)] => (quote k).toList ++ ':' :: chars t
  | (k, t) :: m :: rest =>
    (quote k).toList ++ ':' :: (chars t ++ ',' :: membersChars (m :: rest))

end

/-- The text of a tree. -/
def text (t : Tree) : String :=
  String.ofList t.chars

/-- The characters of a member. -/
def memberChars (m : String × Tree) : List Char :=
  (quote m.1).toList ++ ':' :: m.2.chars

theorem itemsChars_eq_separated :
    ∀ ts : List Tree, itemsChars ts = separated chars ts
  | [] => rfl
  | [t] => by simp [itemsChars, separated]
  | t :: u :: rest => by
    rw [itemsChars, itemsChars_eq_separated (u :: rest)]
    simp [separated]

theorem membersChars_eq_separated :
    ∀ ms : List (String × Tree),
      membersChars ms = separated memberChars ms
  | [] => rfl
  | [(k, t)] => by simp [membersChars, separated, memberChars]
  | (k, t) :: m :: rest => by
    rw [membersChars, membersChars_eq_separated (m :: rest)]
    simp [separated, memberChars]

/-! ## First characters -/

/-- The shapes of trees. -/
inductive Shape where
  | word
  | quoted
  | array
  | object
  deriving DecidableEq

/-- The shape that a first character tells. -/
def Shape.ofChar (c : Char) : Shape :=
  if c = '"' then .quoted
  else if c = '[' then .array
  else if c = '{' then .object
  else .word

/-- The shape of a tree. -/
def shape : Tree → Shape
  | .word _ => .word
  | .quoted _ => .quoted
  | .array _ => .array
  | .object _ => .object

/-- The characters of words tell that shape, and close no array. -/
theorem Shape.ofChar_of_isWordChar {c : Char}
    (h : isWordChar c = true) : ofChar c = .word ∧ c ≠ ']' := by
  have hne (d : Char) (hd : isWordChar d = false) : c ≠ d := by
    rintro rfl
    rw [h] at hd
    cases hd
  simp [ofChar, hne '"' (by decide), hne '[' (by decide),
    hne '{' (by decide), hne ']' (by decide)]

/-- The first character of a tree tells its shape, and closes no array. -/
theorem exists_cons (t : Tree) :
    ∃ c cs, t.chars = c :: cs ∧ Shape.ofChar c = t.shape ∧ c ≠ ']' := by
  cases t with
  | word w =>
    obtain ⟨c, cs, hchars, hc⟩ := w.exists_cons
    exact ⟨c, cs, by rw [chars, hchars], Shape.ofChar_of_isWordChar hc⟩
  | quoted s =>
    exact ⟨'"', _, by rw [chars, toList_quote], rfl, by decide⟩
  | array items => exact ⟨'[', _, by rw [chars], rfl, by decide⟩
  | object members => exact ⟨'{', _, by rw [chars], rfl, by decide⟩

theorem shape_eq_of_append_eq {t u : Tree} {rest rest' : List Char}
    (h : t.chars ++ rest = u.chars ++ rest') : t.shape = u.shape := by
  obtain ⟨c, cs, ht, htshape, -⟩ := t.exists_cons
  obtain ⟨d, ds, hu, hushape, -⟩ := u.exists_cons
  rw [ht, hu, List.cons_append, List.cons_append, List.cons.injEq] at h
  rw [← htshape, ← hushape, h.1]

/-! ## Reading -/

/-- A member tells where it ends if its value does. -/
theorem delimited_memberChars {m : String × Tree}
    (h : Delimited chars m.2) : Delimited memberChars m := by
  intro m' rest rest' hrest hrest' heq
  simp only [memberChars, List.append_assoc, List.cons_append] at heq
  obtain ⟨hname, heq⟩ := quote_append_inj heq
  rw [List.cons.injEq] at heq
  obtain ⟨hvalue, hrests⟩ := h m'.2 rest rest' hrest hrest' heq.2
  exact ⟨Prod.ext hname hvalue, hrests⟩

/-- A tree tells where it ends. -/
theorem delimited (t : Tree) : Delimited chars t := by
  induction t using induction with
  | word w =>
    intro u rest rest' hrest hrest' h
    have hshape := shape_eq_of_append_eq h
    cases u with
    | word w' =>
      rw [chars, chars] at h
      obtain ⟨rfl, hrests⟩ := Word.append_inj hrest hrest' h
      exact ⟨rfl, hrests⟩
    | _ => cases hshape
  | quoted s =>
    intro u rest rest' hrest hrest' h
    have hshape := shape_eq_of_append_eq h
    cases u with
    | quoted s' =>
      rw [chars, chars] at h
      obtain ⟨rfl, hrests⟩ := quote_append_inj h
      exact ⟨rfl, hrests⟩
    | _ => cases hshape
  | array ts ih =>
    intro u rest rest' hrest hrest' h
    have hshape := shape_eq_of_append_eq h
    cases u with
    | array us =>
      simp only [chars, itemsChars_eq_separated, List.cons_append,
        List.append_assoc, List.nil_append, List.cons.injEq,
        true_and] at h
      have hstart (t : Tree) : ∃ c cs, t.chars = c :: cs ∧ c ≠ ']' := by
        obtain ⟨c, cs, hchars, -, hc⟩ := t.exists_cons
        exact ⟨c, cs, hchars, hc⟩
      obtain ⟨rfl, hrests⟩ :=
        separated_append_inj (by decide) (by decide) hstart ih h
      exact ⟨rfl, hrests⟩
    | _ => cases hshape
  | object ms ih =>
    intro u rest rest' hrest hrest' h
    have hshape := shape_eq_of_append_eq h
    cases u with
    | object ns =>
      simp only [chars, membersChars_eq_separated, List.cons_append,
        List.append_assoc, List.nil_append, List.cons.injEq,
        true_and] at h
      have hstart (m : String × Tree) :
          ∃ c cs, memberChars m = c :: cs ∧ c ≠ '}' :=
        ⟨'"', _, by rw [memberChars, toList_quote]; rfl, by decide⟩
      obtain ⟨rfl, hrests⟩ :=
        separated_append_inj (by decide) (by decide) hstart
          (fun m hm => delimited_memberChars (ih m hm)) h
      exact ⟨rfl, hrests⟩
    | _ => cases hshape

/-- The text of a tree is of no other tree. -/
theorem text_inj {t u : Tree} : t.text = u.text ↔ t = u := by
  constructor
  · intro h
    have hchars : t.chars ++ [] = u.chars ++ [] := by
      simpa [text] using congrArg String.toList h
    have hends : WordEnds [] := by simp [WordEnds]
    exact (t.delimited u [] [] hends hends hchars).1
  · rintro rfl
    rfl

end Tree

/-! ## The trees of values -/

mutual

/-- The tree of a value. -/
def tree : Json → Tree
  | .null => .word .null
  | .bool b => .word (.ofBool b)
  | .number n => .word (.ofNumber n)
  | .string s => .quoted s
  | .array items => .array (itemTrees items)
  | .object members => .object (memberTrees members)

/-- The trees of items. -/
def itemTrees : List Json → List Tree
  | [] => []
  | v :: rest => tree v :: itemTrees rest

/-- The trees of members. -/
def memberTrees : List (String × Json) → List (String × Tree)
  | [] => []
  | (k, v) :: rest => (k, tree v) :: memberTrees rest

end

/-- The text of a word is the text it was made of. -/
theorem text_word (w : Word) :
    (Tree.word w).text = String.ofList w.chars := by
  rw [Tree.text, Tree.chars]

mutual

/-- A value is written as its tree. -/
theorem render_eq_text : ∀ v : Json, v.render = v.tree.text
  | .null => by
    rw [render, tree, text_word]
    rfl
  | .bool b => by
    rw [render, tree, text_word]
    simp [Word.ofBool]
  | .number n => by
    rw [render, tree, text_word, Word.chars_ofNumber, String.ofList_toList]
  | .string s => by
    simp [render, tree, Tree.text, Tree.chars]
  | .array items => by
    rw [render, renderItems_eq items]
    simp [tree, Tree.text, Tree.chars, ← String.toList_inj]
  | .object members => by
    rw [render, renderMembers_eq members]
    simp [tree, Tree.text, Tree.chars, ← String.toList_inj]

/-- Items are written as their trees. -/
theorem renderItems_eq : ∀ vs : List Json,
    renderItems vs = String.ofList (Tree.itemsChars (itemTrees vs))
  | [] => rfl
  | [v] => by
    rw [renderItems, render_eq_text v]
    rfl
  | v :: w :: rest => by
    rw [renderItems, renderItems_eq (w :: rest), render_eq_text v]
    simp [itemTrees, Tree.itemsChars, Tree.text, ← String.toList_inj]

/-- Members are written as their trees. -/
theorem renderMembers_eq : ∀ ms : List (String × Json),
    renderMembers ms = String.ofList (Tree.membersChars (memberTrees ms))
  | [] => rfl
  | [(k, v)] => by
    rw [renderMembers, render_eq_text v]
    simp [memberTrees, Tree.membersChars, Tree.text, ← String.toList_inj]
  | (k, v) :: m :: rest => by
    rw [renderMembers, renderMembers_eq (m :: rest), render_eq_text v]
    simp [memberTrees, Tree.membersChars, Tree.text, ← String.toList_inj]

end

end PolicyWeave.Json
