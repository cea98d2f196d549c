import PolicyWeave.Proofs.Template.Grammar
import PolicyWeave.Proofs.Text.Identifier
import PolicyWeave.Proofs.Text.Runs
import PolicyWeave.Template.Scan

/-!
# Tokens and their characters

One token of a scan at a time, in both directions.

* Writing.  The lemmas `scanPlaceholder_…` and `scanLiteral_…` say which
  token the scan makes of characters that are known.
* Reading.  `Inside` and `Outside` are the two modes of the scan seen from
  their first token: which characters it was made of, and that what
  follows it is a scan again.

Blanks belong to the token behind them, so the rest of a scan starts
right behind its token.
-/

namespace PolicyWeave

/-! ## Classes of characters -/

namespace Text

theorem blank_nil : Blank [] := by
  simp [Blank]

theorem Blank.cons {c : Char} {cs : List Char} (hc : isBlank c = true)
    (hcs : Blank cs) : Blank (c :: cs) :=
  List.forall_mem_cons.mpr ⟨hc, hcs⟩

theorem Blank.append {cs ds : List Char} (hcs : Blank cs)
    (hds : Blank ds) : Blank (cs ++ ds) :=
  List.forall_mem_append.mpr ⟨hcs, hds⟩

/-- The characters of a name, by their places in the alphabet. -/
theorem isIdentRest_eq (c : Char) :
    isIdentRest c =
      (decide ('A'.val ≤ c.val ∧ c.val ≤ 'Z'.val)
        || ('a'.val ≤ c.val && c.val ≤ 'z'.val)
        || ('0'.val ≤ c.val && c.val ≤ '9'.val) || c == '_') :=
  rfl

/-- No character of a name is blank. -/
theorem isIdentRest_of_isBlank {c : Char} (h : isBlank c = true) :
    isIdentRest c = false := by
  have hc : c.toNat = c.val.toNat := rfl
  simp only [isBlank, Bool.or_eq_true, Bool.and_eq_true,
    decide_eq_true_eq, beq_iff_eq, hc] at h
  simp only [isIdentRest_eq, Bool.or_eq_false_iff, Bool.and_eq_false_iff,
    decide_eq_false_iff_not, beq_eq_false_iff_ne, UInt32.le_iff_toNat_le]
  refine ⟨⟨⟨?_, ?_⟩, ?_⟩, ?_⟩
  · simp
    omega
  · simp
    omega
  · simp
    omega
  · rintro rfl
    simp at h

/-- The start of a name is neither blank nor a brace. -/
theorem plain_of_isIdentStart {c : Char} (h : isIdentStart c = true) :
    isBlank c = false ∧ c ≠ '{' ∧ c ≠ '}' := by
  refine ⟨?_, ?_, ?_⟩
  · cases hblank : isBlank c with
    | false => rfl
    | true =>
      have hrest := isIdentRest_of_isIdentStart h
      rw [isIdentRest_of_isBlank hblank] at hrest
      cases hrest
  · rintro rfl
    exact absurd h (by decide)
  · rintro rfl
    exact absurd h (by decide)

/-- Only the empty run has no bytes. -/
theorem eq_nil_of_byteLength_eq_zero {cs : List Char}
    (h : byteLength cs = 0) : cs = [] := by
  cases cs with
  | nil => rfl
  | cons c cs =>
    have := c.utf8Size_pos
    simp only [byteLength_cons] at h
    omega

/-- An identifier is a start and a rest. -/
theorem exists_cons_of_isIdentifier {s : String}
    (h : isIdentifier s = true) :
    ∃ c cs, s.toList = c :: cs ∧ isIdentStart c = true
      ∧ ∀ d ∈ cs, isIdentRest d = true := by
  unfold isIdentifier at h
  cases hs : s.toList with
  | nil =>
    rw [hs] at h
    cases h
  | cons c cs =>
    rw [hs] at h
    simp only [isIdentifierChars, Bool.and_eq_true,
      List.all_eq_true] at h
    exact ⟨c, cs, rfl, h.1, h.2⟩

end Text

/-- The characters that a token inside a placeholder is made of. -/
def TokenKind.chars : TokenKind → List Char
  | openParen => ['(']
  | closeParen => [')']
  | comma => [',']
  | dot => ['.']
  | closeBrace => ['}']
  | identifier s => s.toList
  | _ => []

/-- Whether a token stands between the braces of a placeholder. -/
def TokenKind.IsInner : TokenKind → Prop
  | openParen => True
  | closeParen => True
  | comma => True
  | dot => True
  | identifier s => Text.isIdentifier s = true
  | _ => False

namespace Token

open Text (Blank byteLength)

/-! ## Writing -/

/-- Whether a name that stands in front of the characters ends there. -/
def NameEnds (cs : List Char) : Prop :=
  ∀ c ∈ cs.head?, Text.isIdentRest c = false

theorem nameEnds_cons {c : Char} (h : Text.isIdentRest c = false)
    (cs : List Char) : NameEnds (c :: cs) := by
  intro d hd
  obtain rfl : c = d := by simpa using hd
  exact h

/-- A name ends in front of blanks. -/
theorem NameEnds.blank_append {gap cs : List Char} (hgap : Blank gap)
    (h : NameEnds cs) : NameEnds (gap ++ cs) := by
  cases gap with
  | nil => exact h
  | cons c gap =>
    exact nameEnds_cons (Text.isIdentRest_of_isBlank (hgap c (by simp))) _

/-- Blanks are passed over. -/
theorem scanPlaceholder_blank (opened pos : Nat) {gap : List Char}
    (h : Blank gap) (cs : List Char) :
    scanPlaceholder opened pos (gap ++ cs)
      = scanPlaceholder opened (pos + byteLength gap) cs := by
  induction gap generalizing pos with
  | nil => rfl
  | cons c gap ih =>
    have hc : Text.isBlank c = true := h c (by simp)
    have hgap : Blank gap := fun d hd => h d (by simp [hd])
    rw [List.cons_append, scanPlaceholder, if_pos hc, ih _ hgap]
    simp [Nat.add_assoc]

/-- The characters of punctuation and the tokens that they spell. -/
theorem punctuation?_eq_some {c : Char} {kind : TokenKind}
    (h : punctuation? c = some kind) :
    c = '(' ∧ kind = .openParen ∨ c = ')' ∧ kind = .closeParen
      ∨ c = ',' ∧ kind = .comma ∨ c = '.' ∧ kind = .dot := by
  unfold punctuation? at h
  grind

/-- The start of a name is no punctuation. -/
theorem punctuation?_of_isIdentStart {c : Char}
    (h : Text.isIdentStart c = true) : punctuation? c = none := by
  cases hp : punctuation? c with
  | none => rfl
  | some kind =>
    rcases punctuation?_eq_some hp with
        ⟨rfl, -⟩ | ⟨rfl, -⟩ | ⟨rfl, -⟩ | ⟨rfl, -⟩ <;>
      exact absurd h (by decide)

/-- A mark of punctuation is one token. -/
theorem scanPlaceholder_mark (opened pos : Nat) {gap : List Char}
    (hgap : Blank gap) {c : Char} {kind : TokenKind}
    (h : punctuation? c = some kind) (cs : List Char) :
    scanPlaceholder opened pos (gap ++ c :: cs)
      = ⟨kind, pos + byteLength gap, pos + byteLength gap + c.utf8Size⟩
        :: scanPlaceholder opened
            (pos + byteLength gap + c.utf8Size) cs := by
  have hplain : Text.isBlank c = false ∧ c ≠ '{' ∧ c ≠ '}' := by
    rcases punctuation?_eq_some h with
        ⟨rfl, -⟩ | ⟨rfl, -⟩ | ⟨rfl, -⟩ | ⟨rfl, -⟩ <;> decide
  rw [scanPlaceholder_blank _ _ hgap, scanPlaceholder]
  simp [hplain, h]

/-- A name that ends is one token. -/
theorem scanPlaceholder_name (opened pos : Nat) {gap : List Char}
    (hgap : Blank gap) {s : String} (h : Text.isIdentifier s = true)
    {cs : List Char} (hcs : NameEnds cs) :
    scanPlaceholder opened pos (gap ++ (s.toList ++ cs))
      = ⟨.identifier s, pos + byteLength gap,
            pos + byteLength gap + byteLength s.toList⟩
        :: scanPlaceholder opened
            (pos + byteLength gap + byteLength s.toList) cs := by
  obtain ⟨c, run, hs, hc, hrun⟩ := Text.exists_cons_of_isIdentifier h
  obtain ⟨hblank, hopen, hclose⟩ := Text.plain_of_isIdentStart hc
  have hname : String.ofList (c :: run) = s := by
    rw [← hs, String.ofList_toList]
  rw [scanPlaceholder_blank _ _ hgap, hs, List.cons_append,
    scanPlaceholder]
  simp [hblank, hopen, hclose, punctuation?_of_isIdentStart hc, hc,
    Text.takeWhile_append_of_head hrun hcs,
    Text.dropWhile_append_of_head hrun hcs, hname]

/-- A closing brace ends the placeholder. -/
theorem scanPlaceholder_close (opened pos : Nat) {gap : List Char}
    (hgap : Blank gap) (cs : List Char) :
    scanPlaceholder opened pos (gap ++ '}' :: cs)
      = ⟨.closeBrace, pos + byteLength gap, pos + byteLength gap + 1⟩
        :: scanLiteral (pos + byteLength gap + 1) cs := by
  have hblank : Text.isBlank '}' = false := by decide
  have hsize : '}'.utf8Size = 1 := by decide
  rw [scanPlaceholder_blank _ _ hgap, scanPlaceholder]
  simp [hblank, hsize]

/-- An opening brace starts a placeholder. -/
theorem scanLiteral_open (pos : Nat) (cs : List Char) :
    scanLiteral pos ('{' :: cs)
      = ⟨.openBrace, pos, pos + 1⟩
        :: scanPlaceholder pos (pos + 1) cs := by
  have hsize : '{'.utf8Size = 1 := by decide
  rw [scanLiteral]
  simp [hsize]

theorem isLiteral_iff {c : Char} :
    isLiteral c = true ↔ c ≠ '{' ∧ c ≠ '}' := by
  simp [isLiteral]

/-- A text that ends is one token. -/
theorem scanLiteral_text (pos : Nat) {s : String} (hne : s ≠ "")
    (hs : ∀ c ∈ s.toList, c ≠ '{' ∧ c ≠ '}') {cs : List Char}
    (hcs : ∀ c ∈ cs.head?, isLiteral c = false) :
    scanLiteral pos (s.toList ++ cs)
      = ⟨.text s, pos, pos + byteLength s.toList⟩
        :: scanLiteral (pos + byteLength s.toList) cs := by
  cases hlist : s.toList with
  | nil => exact absurd (String.toList_eq_nil_iff.mp hlist) hne
  | cons c run =>
    rw [hlist] at hs
    obtain ⟨hopen, hclose⟩ := hs c (by simp)
    have hrun : ∀ d ∈ run, isLiteral d = true := fun d hd =>
      isLiteral_iff.mpr (hs d (by simp [hd]))
    have htext : String.ofList (c :: run) = s := by
      rw [← hlist, String.ofList_toList]
    rw [List.cons_append, scanLiteral]
    simp [hopen, hclose, Text.takeWhile_append_of_head hrun hcs,
      Text.dropWhile_append_of_head hrun hcs, htext]

/-! ## Reading -/

/-- A scan inside a placeholder, seen from its first token. -/
inductive Inside (opened pos : Nat) : List Char → List Token → Prop where
  | fault (cs : List Char) (e : TemplateError) (span : Span) :
      Inside opened pos cs [⟨.fault e, span⟩]
  | close {gap : List Char} (hgap : Blank gap) (more : List Char) :
      Inside opened pos (gap ++ '}' :: more)
        (⟨.closeBrace, pos + byteLength gap, pos + byteLength gap + 1⟩
          :: scanLiteral (pos + byteLength gap + 1) more)
  | token {gap : List Char} {kind : TokenKind} (hgap : Blank gap)
      (hkind : kind.IsInner) (more : List Char) :
      Inside opened pos (gap ++ (kind.chars ++ more))
        (⟨kind, pos + byteLength gap,
            pos + byteLength gap + byteLength kind.chars⟩
          :: scanPlaceholder opened
              (pos + byteLength gap + byteLength kind.chars) more)

/-- One more blank in front. -/
theorem Inside.blank {opened pos : Nat} {c : Char} {cs : List Char}
    {ts : List Token} (hc : Text.isBlank c = true)
    (h : Inside opened (pos + c.utf8Size) cs ts) :
    Inside opened pos (c :: cs) ts := by
  cases h with
  | fault _ e span => exact .fault _ e span
  | @close gap hgap more =>
    have hclose : Inside opened pos _ _ := .close (.cons hc hgap) more
    simpa [Nat.add_assoc] using hclose
  | @token gap kind hgap hkind more =>
    have htoken : Inside opened pos _ _ :=
      .token (.cons hc hgap) hkind more
    simpa [Nat.add_assoc] using htoken

/-- A mark of punctuation is spelled by its character. -/
theorem isInner_of_punctuation? {c : Char} {kind : TokenKind}
    (h : punctuation? c = some kind) : kind.IsInner ∧ kind.chars = [c] := by
  rcases punctuation?_eq_some h with
      ⟨rfl, rfl⟩ | ⟨rfl, rfl⟩ | ⟨rfl, rfl⟩ | ⟨rfl, rfl⟩ <;>
    exact ⟨trivial, rfl⟩

/-- A token that is made of the first characters. -/
theorem Inside.of_front {opened pos : Nat} {kind : TokenKind}
    {run : List Char} (hkind : kind.IsInner) (hchars : kind.chars = run)
    (more : List Char) :
    Inside opened pos (run ++ more)
      (⟨kind, pos, pos + byteLength run⟩
        :: scanPlaceholder opened (pos + byteLength run) more) := by
  subst hchars
  have htoken : Inside opened pos _ _ := .token Text.blank_nil hkind more
  exact htoken

/-- Every scan inside a placeholder has this form. -/
theorem inside_scanPlaceholder (opened pos : Nat) (cs : List Char) :
    Inside opened pos cs (scanPlaceholder opened pos cs) := by
  induction cs generalizing pos with
  | nil =>
    rw [scanPlaceholder]
    exact .fault ..
  | cons c cs ih =>
    by_cases hblank : Text.isBlank c = true
    · rw [scanPlaceholder, if_pos hblank]
      exact (ih _).blank hblank
    by_cases hopen : c = '{'
    · subst hopen
      rw [scanPlaceholder]
      simpa [hblank] using Inside.fault ..
    by_cases hclose : c = '}'
    · subst hclose
      have hscan := scanPlaceholder_close opened pos Text.blank_nil cs
      have hclosed : Inside opened pos _ _ := .close Text.blank_nil cs
      rw [← hscan] at hclosed
      exact hclosed
    rw [scanPlaceholder]
    simp only [hblank, hopen, hclose, beq_iff_eq, if_false]
    cases hmark : punctuation? c with
    | some kind =>
      obtain ⟨hkind, hchars⟩ := isInner_of_punctuation? hmark
      exact Inside.of_front hkind hchars cs
    | none =>
      by_cases hstart : Text.isIdentStart c = true
      · have hname := isIdentifier_run hstart cs
        have hkind : (TokenKind.identifier _).IsInner := hname
        have htoken : Inside opened pos _ _ :=
          .of_front hkind (String.toList_ofList ..)
            (cs.dropWhile Text.isIdentRest)
        simpa [hstart, List.takeWhile_append_dropWhile] using htoken
      · simpa [hstart] using Inside.fault ..

/-- A token between braces stands behind blanks and is made of its
characters. -/
theorem inner_of_scanPlaceholder {opened pos : Nat} {cs : List Char}
    {t : Token} {rest : List Token} {kind : TokenKind}
    (h : scanPlaceholder opened pos cs = t :: rest) (hkind : t.kind = kind)
    (hfault : kind.fault? = none) (hclose : kind ≠ .closeBrace) :
    kind.IsInner ∧ ∃ gap more, Blank gap
      ∧ cs = gap ++ (kind.chars ++ more)
      ∧ t.span.start = pos + byteLength gap
      ∧ rest = scanPlaceholder opened t.span.stop more := by
  subst hkind
  have hview := inside_scanPlaceholder opened pos cs
  rw [h] at hview
  cases hview with
  | fault => simp [TokenKind.fault?] at hfault
  | close => exact absurd rfl hclose
  | token hgap hkind more => exact ⟨hkind, _, more, hgap, rfl, rfl, rfl⟩

/-- A closing brace stands behind blanks and ends the placeholder. -/
theorem close_of_scanPlaceholder {opened pos : Nat} {cs : List Char}
    {t : Token} {rest : List Token}
    (h : scanPlaceholder opened pos cs = t :: rest)
    (hclose : t.kind = .closeBrace) :
    ∃ gap more, Blank gap ∧ cs = gap ++ '}' :: more
      ∧ rest = scanLiteral t.span.stop more := by
  have hview := inside_scanPlaceholder opened pos cs
  rw [h] at hview
  cases hview with
  | fault => cases hclose
  | close hgap more => exact ⟨_, more, hgap, rfl, rfl⟩
  | token hgap hkind more =>
    subst hclose
    cases hkind

/-- A scan outside placeholders, seen from its first token. -/
inductive Outside (pos : Nat) : List Char → List Token → Prop where
  | finish : Outside pos [] [⟨.finish, pos, pos⟩]
  | fault (cs : List Char) (e : TemplateError) (span : Span) :
      Outside pos cs [⟨.fault e, span⟩]
  | openBrace (more : List Char) :
      Outside pos ('{' :: more)
        (⟨.openBrace, pos, pos + 1⟩ :: scanPlaceholder pos (pos + 1) more)
  | text {s : String} {more : List Char} (hne : s ≠ "")
      (hs : ∀ c ∈ s.toList, c ≠ '{' ∧ c ≠ '}')
      (hmore : ∀ c ∈ more.head?, isLiteral c = false) :
      Outside pos (s.toList ++ more)
        (⟨.text s, pos, pos + byteLength s.toList⟩
          :: scanLiteral (pos + byteLength s.toList) more)

/-- Every scan outside placeholders has this form. -/
theorem outside_scanLiteral (pos : Nat) (cs : List Char) :
    Outside pos cs (scanLiteral pos cs) := by
  cases cs with
  | nil =>
    rw [scanLiteral]
    exact .finish
  | cons c cs =>
    by_cases hopen : c = '{'
    · subst hopen
      rw [scanLiteral_open]
      exact .openBrace cs
    by_cases hclose : c = '}'
    · subst hclose
      rw [scanLiteral]
      simpa using Outside.fault ..
    have hrun : ∀ d ∈ c :: cs.takeWhile isLiteral, d ≠ '{' ∧ d ≠ '}' := by
      intro d hd
      rcases List.mem_cons.mp hd with rfl | hd
      · exact ⟨hopen, hclose⟩
      · exact isLiteral_iff.mp
          (List.all_eq_true.mp List.all_takeWhile d hd)
    have hmore : ∀ d ∈ (cs.dropWhile isLiteral).head?,
        isLiteral d = false := by
      intro d hd
      have hnot := List.head?_dropWhile_not isLiteral cs
      rw [Option.mem_def.mp hd] at hnot
      exact hnot
    have htoken : Outside pos _ _ :=
      .text (s := String.ofList (c :: cs.takeWhile isLiteral))
        (by simp) (by simpa using hrun) hmore
    rw [scanLiteral]
    simpa [hopen, hclose, List.takeWhile_append_dropWhile] using htoken

/-- A text token is a run of text that ends. -/
theorem text_of_scanLiteral {pos : Nat} {cs : List Char} {t : Token}
    {rest : List Token} {s : String} (h : scanLiteral pos cs = t :: rest)
    (hs : t.kind = .text s) :
    ∃ more, cs = s.toList ++ more ∧ s ≠ ""
      ∧ (∀ c ∈ s.toList, c ≠ '{' ∧ c ≠ '}')
      ∧ (∀ c ∈ more.head?, isLiteral c = false)
      ∧ rest = scanLiteral t.span.stop more := by
  have hview := outside_scanLiteral pos cs
  rw [h] at hview
  cases hview with
  | finish => cases hs
  | fault => cases hs
  | openBrace => cases hs
  | text hne hfree hmore =>
    cases hs
    exact ⟨_, rfl, hne, hfree, hmore, rfl⟩

/-- An opening brace starts a placeholder. -/
theorem openBrace_of_scanLiteral {pos : Nat} {cs : List Char} {t : Token}
    {rest : List Token} (h : scanLiteral pos cs = t :: rest)
    (hopen : t.kind = .openBrace) :
    ∃ more, cs = '{' :: more
      ∧ rest = scanPlaceholder t.span.start t.span.stop more := by
  have hview := outside_scanLiteral pos cs
  rw [h] at hview
  cases hview with
  | finish => cases hopen
  | fault => cases hopen
  | openBrace more => exact ⟨more, rfl, rfl⟩
  | text => cases hopen

/-- The scan finishes at the end of the characters. -/
theorem eq_nil_of_scanLiteral {pos : Nat} {cs : List Char} {t : Token}
    {rest : List Token} (h : scanLiteral pos cs = t :: rest)
    (hfinish : t.kind = .finish) : cs = [] := by
  have hview := outside_scanLiteral pos cs
  rw [h] at hview
  cases hview with
  | finish => rfl
  | fault => cases hfinish
  | openBrace => cases hfinish
  | text => cases hfinish

end Token

end PolicyWeave
