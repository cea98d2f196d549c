import PolicyWeave.Proofs.Template.Positions

/-!
# Tokens tile their text

Nothing of a text is lost between its tokens.  They stand one behind the
other, each on its own characters, and the only characters between two of
them are blanks inside a placeholder.

* `Token.Side` are the two sides of the braces.  `Token.sideBehind` is the
  side that a run of tokens ends on.
* `Token.Tiled` says how tokens lie on characters, one token at a time.
  `Token.tiled_scan`: a scan does.
* `Token.TiledAt.cut` cuts a tiling in front of any of its tokens, so what is
  said of the first token of a tiling holds of every token.
* `Token.Lossless` is what a whole run of tokens keeps of its text, and
  `Token.scan_lossless` that a scan keeps it.
-/

namespace PolicyWeave

open Text (Blank LeftAt byteLength)

/-! ## Pieces of a text -/

namespace Text

/-- The characters `cs` of a text stand between two of its bytes. -/
def Between (source : List Char) (start stop : Nat) (cs : List Char) : Prop :=
  ∃ after, LeftAt source start (cs ++ after) ∧ stop = start + byteLength cs

variable {source cs : List Char} {start stop n : Nat}

theorem Between.le (h : Between source start stop cs) : start ≤ stop := by
  obtain ⟨-, -, rfl⟩ := h
  exact Nat.le_add_right ..

theorem Between.of_leftAt {after : List Char}
    (h : LeftAt source n (cs ++ after)) :
    Between source n (n + byteLength cs) cs :=
  ⟨after, h, rfl⟩

/-- Both ends of a piece are valid positions. -/
theorem Between.isValid {source : String}
    (h : Between source.toList start stop cs) :
    String.Pos.Raw.IsValid source ⟨start⟩
      ∧ String.Pos.Raw.IsValid source ⟨stop⟩ := by
  obtain ⟨after, hleft, rfl⟩ := h
  exact ⟨hleft.isValid, hleft.behind.isValid⟩

/-- A character that starts in a piece belongs to it. -/
theorem Between.mem_of_lt {before after : List Char} {c : Char}
    (h : Between source start stop cs) (hsource : source = before ++ c :: after)
    (hstart : start ≤ byteLength before) (hstop : byteLength before < stop) :
    c ∈ cs ∧ byteLength before + c.utf8Size ≤ stop := by
  obtain ⟨rest, ⟨front, hfront, rfl⟩, rfl⟩ := h
  obtain ⟨inner, hbefore, hinner⟩ : ∃ inner, before = front ++ inner
      ∧ cs ++ rest = inner ++ c :: after := by
    rcases List.append_eq_append_iff.mp (hsource.symm.trans hfront) with
      ⟨tail, rfl, htail⟩ | ⟨inner, rfl, hinner⟩
    · -- both cuts are at one byte
      obtain rfl : tail = [] :=
        eq_nil_of_byteLength_eq_zero (by simp at hstart; omega)
      exact ⟨[], by simp, by simpa using htail.symm⟩
    · exact ⟨inner, rfl, hinner⟩
  subst hbefore
  rcases List.append_eq_append_iff.mp hinner with
    ⟨tail, rfl, -⟩ | ⟨tail, rfl, htail⟩
  · simp at hstop
  · cases tail with
    | nil => simp at hstop
    | cons d tail =>
      obtain ⟨rfl, -⟩ := List.cons.inj htail
      exact ⟨by simp, by simp; omega⟩

/-- Where nothing is left the text ends. -/
theorem LeftAt.eq_byteLength (h : LeftAt source n []) :
    n = byteLength source := by
  obtain ⟨front, rfl, rfl⟩ := h
  rw [List.append_nil]

end Text

/-! ## Sides of the braces -/

/-- The two sides of the braces of placeholders. -/
inductive Token.Side where
  | outside
  | inside
  deriving DecidableEq

namespace TokenKind

open Token (Side)

/-- The characters of a token that is no fault.  The end of a text has
none. -/
def lexeme : TokenKind → List Char
  | text s => s.toList
  | openBrace => ['{']
  | kind => kind.chars

/-- Whether a token is literal text. -/
def IsText : TokenKind → Prop
  | text _ => True
  | _ => False

/-- The side that a token stands on.  A fault may stand on both. -/
def side? : TokenKind → Option Side
  | text _ | openBrace | finish => some .outside
  | fault _ => none
  | _ => some .inside

/-- The side behind a token. -/
def behind (side : Side) : TokenKind → Side
  | openBrace => .inside
  | closeBrace => .outside
  | _ => side

/-- Whether a token that is not the last one may stand on a side.  Text is
not empty and has no braces. -/
def Fits : Side → TokenKind → Prop
  | .outside, text s => s ≠ "" ∧ ∀ c ∈ s.toList, c ≠ '{' ∧ c ≠ '}'
  | .outside, openBrace => True
  | .outside, _ => False
  | .inside, closeBrace => True
  | .inside, kind => kind.IsInner

variable {side : Side} {kind : TokenKind}

theorem Fits.lexeme_ne_nil (h : kind.Fits side) : kind.lexeme ≠ [] := by
  cases kind with
  | text s =>
    cases side with
    | outside => simpa [lexeme] using h.1
    | inside => cases h
  | identifier name =>
    cases side with
    | outside => cases h
    | inside =>
      obtain ⟨c, cs, hname, -⟩ := Text.exists_cons_of_isIdentifier h
      simp [lexeme, chars, hname]
  | openBrace | closeBrace | openParen | closeParen | comma | dot =>
    exact List.cons_ne_nil _ _
  | finish | fault => cases side <;> cases h

theorem Fits.isTerminal_eq_false (h : kind.Fits side) :
    kind.isTerminal = false := by
  cases kind with
  | finish | fault => cases side <;> cases h
  | _ => rfl

theorem Fits.ne_finish (h : kind.Fits side) : kind ≠ .finish := by
  rintro rfl
  cases side <;> cases h

theorem Fits.fault?_eq_none (h : kind.Fits side) : kind.fault? = none := by
  cases kind with
  | fault => cases side <;> cases h
  | _ => rfl

theorem Fits.eq_of_side? (h : kind.Fits side) :
    ∀ s ∈ kind.side?, s = side := by
  cases kind with
  | fault => cases side <;> cases h
  | text | openBrace | finish =>
    cases side with
    | outside => rintro s ⟨⟩; rfl
    | inside => cases h
  | closeBrace | openParen | closeParen | comma | dot | identifier =>
    cases side with
    | outside => cases h
    | inside => rintro s ⟨⟩; rfl

end TokenKind

namespace Token

/-- The side behind a run of tokens: the last brace among them decides it. -/
def sideBehind (side : Side) (ts : List Token) : Side :=
  ts.foldl (fun side t => t.kind.behind side) side

@[simp] theorem sideBehind_nil (side : Side) : sideBehind side [] = side :=
  rfl

@[simp] theorem sideBehind_cons (side : Side) (t : Token)
    (ts : List Token) :
    sideBehind side (t :: ts) = sideBehind (t.kind.behind side) ts :=
  rfl

theorem sideBehind_append (side : Side) (ts us : List Token) :
    sideBehind side (ts ++ us) = sideBehind (sideBehind side ts) us :=
  List.foldl_append

/-! ## Tilings -/

/-- What a scan passes over in front of a token: blanks, and only inside a
placeholder. -/
def Skipped (side : Side) (gap : List Char) : Prop :=
  Blank gap ∧ (gap ≠ [] → side = .inside)

theorem skipped_nil (side : Side) : Skipped side [] :=
  ⟨Text.blank_nil, fun h => absurd rfl h⟩

/-- How tokens lie on the characters from byte `n` on.  Each stands on its
lexeme, behind what is skipped, and the next one starts from its end.  The
last is the end of the text, or a fault that may stand on some characters of
its own. -/
inductive Tiled : Side → Nat → List Char → List Token → Prop where
  | finish (n : Nat) : Tiled .outside n [] [⟨.finish, n, n⟩]
  | fault {side : Side} {n : Nat} {gap : List Char}
      (hgap : Skipped side gap) (run more : List Char)
      (e : TemplateError) :
      Tiled side n (gap ++ (run ++ more))
        [⟨.fault e, n + byteLength gap,
          n + byteLength gap + byteLength run⟩]
  | token {side : Side} {n : Nat} {gap : List Char} {kind : TokenKind}
      {more : List Char} {ts : List Token} (hgap : Skipped side gap)
      (hkind : kind.Fits side)
      (hapart : kind.IsText → ∀ t ∈ ts.head?, ¬ t.kind.IsText)
      (hts : Tiled (kind.behind side)
        (n + byteLength gap + byteLength kind.lexeme) more ts) :
      Tiled side n (gap ++ (kind.lexeme ++ more))
        (⟨kind, n + byteLength gap,
          n + byteLength gap + byteLength kind.lexeme⟩ :: ts)

theorem Tiled.ne_nil {side : Side} {n : Nat} {cs : List Char}
    {ts : List Token} (h : Tiled side n cs ts) : ts ≠ [] := by
  cases h <;> exact List.cons_ne_nil _ _

/-- One more blank in front, inside a placeholder. -/
theorem Tiled.blank {n : Nat} {c : Char} {cs : List Char} {ts : List Token}
    (hc : Text.isBlank c = true)
    (h : Tiled .inside (n + c.utf8Size) cs ts) :
    Tiled .inside n (c :: cs) ts := by
  cases h with
  | @fault _ _ gap hgap run more e =>
    have hskip : Skipped .inside (c :: gap) :=
      ⟨.cons hc hgap.1, fun _ => rfl⟩
    have hfault : Tiled .inside n _ _ := .fault hskip run more e
    simpa [Nat.add_assoc] using hfault
  | @token _ _ gap kind more ts hgap hkind hapart hts =>
    have hskip : Skipped .inside (c :: gap) :=
      ⟨.cons hc hgap.1, fun _ => rfl⟩
    have htoken : Tiled .inside n _ _ :=
      .token hskip hkind hapart (by simpa [Nat.add_assoc] using hts)
    simpa [Nat.add_assoc] using htoken

/-- A token right at the front. -/
theorem Tiled.front {side : Side} {n : Nat} {kind : TokenKind}
    (run : List Char) {more : List Char} {ts : List Token}
    (hrun : kind.lexeme = run) (hkind : kind.Fits side)
    (hapart : kind.IsText → ∀ t ∈ ts.head?, ¬ t.kind.IsText)
    (hts : Tiled (kind.behind side) (n + byteLength run) more ts) :
    Tiled side n (run ++ more) (⟨kind, n, n + byteLength run⟩ :: ts) := by
  subst hrun
  have htoken : Tiled side n _ _ :=
    .token (skipped_nil side) hkind hapart hts
  exact htoken

/-- A fault right at the front. -/
theorem Tiled.stop (side : Side) (n : Nat) (run more : List Char)
    (e : TemplateError) :
    Tiled side n (run ++ more) [⟨.fault e, n, n + byteLength run⟩] := by
  have hfault : Tiled side n _ _ := .fault (skipped_nil side) run more e
  exact hfault

/-- Behind a run of text that ends there is no text. -/
theorem not_isText_head_scanLiteral {n : Nat} {cs : List Char}
    (hcs : ∀ c ∈ cs.head?, isLiteral c = false) :
    ∀ t ∈ (scanLiteral n cs).head?, ¬ t.kind.IsText := by
  intro t ht htext
  obtain ⟨ts, hts⟩ := List.head?_eq_some_iff.mp ht
  cases hkind : t.kind with
  | text s =>
    obtain ⟨more, rfl, hne, hfree, -⟩ := text_of_scanLiteral hts hkind
    cases hs : s.toList with
    | nil => exact hne (String.toList_eq_nil_iff.mp hs)
    | cons c run =>
      have hliteral := isLiteral_iff.mpr (hfree c (by simp [hs]))
      rw [hcs c (by simp [hs])] at hliteral
      cases hliteral
  | _ => rw [hkind] at htext; cases htext

/-- A mark of punctuation fits inside a placeholder. -/
theorem fits_of_punctuation? {c : Char} {kind : TokenKind}
    (h : punctuation? c = some kind) :
    kind.Fits .inside ∧ kind.lexeme = [c]
      ∧ kind.behind .inside = .inside ∧ ¬ kind.IsText := by
  rcases punctuation?_eq_some h with
      ⟨rfl, rfl⟩ | ⟨rfl, rfl⟩ | ⟨rfl, rfl⟩ | ⟨rfl, rfl⟩ <;>
    exact ⟨trivial, rfl, rfl, id⟩

/-- Both modes of the scan tile the characters that they are given. -/
theorem tiled_scanLiteral :
    ∀ (n : Nat) (cs : List Char),
      Tiled .outside n cs (scanLiteral n cs) := by
  apply scanLiteral.induct
    (fun n cs => Tiled .outside n cs (scanLiteral n cs))
    (fun opened n cs => Tiled .inside n cs (scanPlaceholder opened n cs))
  -- literal text: its end, a brace that opens, one that closes, a run
  · intro n
    rw [scanLiteral]
    exact .finish n
  · intro n c cs hc ih
    obtain rfl : c = '{' := by simpa using hc
    rw [scanLiteral, if_pos hc]
    exact Tiled.front ['{'] rfl trivial False.elim ih
  · intro n c cs hopen hc
    rw [scanLiteral, if_neg hopen, if_pos hc]
    exact Tiled.stop .outside n [c] cs _
  · intro n c cs hopen hclose run stop ih
    rw [scanLiteral, if_neg hopen, if_neg hclose]
    have hfree : ∀ d ∈ run, d ≠ '{' ∧ d ≠ '}' := by
      refine List.forall_mem_cons.mpr ⟨?_, fun d hd => isLiteral_iff.mp
        (List.all_eq_true.mp List.all_takeWhile d hd)⟩
      simpa using And.intro hopen hclose
    have hends : ∀ d ∈ (cs.dropWhile isLiteral).head?,
        isLiteral d = false := by
      intro d hd
      have hnot := List.head?_dropWhile_not isLiteral cs
      rwa [Option.mem_def.mp hd] at hnot
    have hcs : run ++ cs.dropWhile isLiteral = c :: cs := by
      rw [List.cons_append, List.takeWhile_append_dropWhile]
    have hfits : (TokenKind.text (String.ofList run)).Fits .outside :=
      ⟨by simp [run], by simpa using hfree⟩
    rw [← hcs]
    exact Tiled.front run String.toList_ofList hfits
      (fun _ => not_isText_head_scanLiteral hends) ih
  -- placeholders: their end, a blank, the two braces, punctuation, a
  -- name, and what is none of these
  · intro opened n
    rw [scanPlaceholder]
    exact Tiled.stop .inside n [] [] _
  · intro opened n c cs next hblank ih
    rw [scanPlaceholder, if_pos hblank]
    exact ih.blank hblank
  · intro opened n c cs hblank hc
    rw [scanPlaceholder, if_neg hblank, if_pos hc]
    exact Tiled.stop .inside n [c] cs _
  · intro opened n c cs next hblank hopen hc ih
    obtain rfl : c = '}' := by simpa using hc
    rw [scanPlaceholder, if_neg hblank, if_neg hopen, if_pos hc]
    exact Tiled.front ['}'] rfl trivial False.elim ih
  · intro opened n c cs next hblank hopen hclose kind hkind ih
    rw [scanPlaceholder, if_neg hblank, if_neg hopen, if_neg hclose, hkind]
    obtain ⟨hfits, hlexeme, hside, htext⟩ := fits_of_punctuation? hkind
    exact Tiled.front [c] hlexeme hfits (fun h => absurd h htext)
      (by rw [hside]; exact ih)
  · intro opened n c cs hblank hopen hclose hkind hstart run stop ih
    rw [scanPlaceholder, if_neg hblank, if_neg hopen, if_neg hclose, hkind,
      if_pos hstart]
    have hcs : run ++ cs.dropWhile Text.isIdentRest = c :: cs := by
      rw [List.cons_append, List.takeWhile_append_dropWhile]
    have hfits : (TokenKind.identifier (String.ofList run)).Fits .inside :=
      isIdentifier_run hstart cs
    rw [← hcs]
    exact Tiled.front run String.toList_ofList hfits False.elim ih
  · intro opened n c cs hblank hopen hclose hkind hstart
    rw [scanPlaceholder, if_neg hblank, if_neg hopen, if_neg hclose, hkind,
      if_neg hstart]
    exact Tiled.stop .inside n [c] cs _

/-- A scan tiles its text. -/
theorem tiled_scan (source : String) :
    Tiled .outside 0 source.toList (scan source) :=
  tiled_scanLiteral 0 source.toList

/-! ## Cutting a tiling -/

/-- A tiling of what is left of a text from byte `n` on. -/
def TiledAt (source : List Char) (side : Side) (n : Nat)
    (ts : List Token) : Prop :=
  ∃ cs, LeftAt source n cs ∧ Tiled side n cs ts

section

variable {source : List Char} {side : Side} {n : Nat} {t u : Token}
  {ts rest : List Token}

/-- What the first token of a tiling stands behind and on. -/
theorem TiledAt.head (h : TiledAt source side n (t :: ts)) :
    (∃ gap, Skipped side gap ∧ Text.Between source n t.span.start gap)
      ∧ ∃ run, Text.Between source t.span.start t.span.stop run
        ∧ (t.kind.fault? = none → run = t.kind.lexeme) := by
  obtain ⟨cs, hleft, htiled⟩ := h
  cases htiled with
  | finish n =>
    exact ⟨⟨[], skipped_nil _, .of_leftAt hleft⟩, [],
      .of_leftAt hleft, fun _ => rfl⟩
  | fault hgap run more e =>
    exact ⟨⟨_, hgap, .of_leftAt hleft⟩, run, .of_leftAt hleft.behind, nofun⟩
  | token hgap hkind hapart hts =>
    exact ⟨⟨_, hgap, .of_leftAt hleft⟩, _, .of_leftAt hleft.behind,
      fun _ => rfl⟩

/-- Outside placeholders nothing is skipped in front of the first token. -/
theorem TiledAt.start_eq_of_outside
    (h : TiledAt source .outside n (t :: ts)) : t.span.start = n := by
  obtain ⟨⟨gap, ⟨-, hside⟩, _, -, hstart⟩, -⟩ := h.head
  cases gap with
  | nil => exact hstart
  | cons c gap => cases hside (List.cons_ne_nil c gap)

/-- The end of a text stands outside, where nothing is left. -/
theorem TiledAt.of_finish (h : TiledAt source side n (t :: ts))
    (ht : t.kind = .finish) :
    t = ⟨.finish, n, n⟩ ∧ side = .outside ∧ LeftAt source n [] := by
  obtain ⟨cs, hleft, htiled⟩ := h
  cases htiled with
  | finish n => exact ⟨rfl, rfl, hleft⟩
  | fault => cases ht
  | token _ hkind => exact absurd ht hkind.ne_finish

/-- Text in a tiling is not empty and has no braces. -/
theorem TiledAt.of_text (h : TiledAt source side n (t :: ts)) {s : String}
    (ht : t.kind = .text s) :
    s ≠ "" ∧ ∀ c ∈ s.toList, c ≠ '{' ∧ c ≠ '}' := by
  obtain ⟨cs, -, htiled⟩ := h
  cases htiled with
  | finish => cases ht
  | fault => cases ht
  | token _ hkind =>
    cases ht
    cases side with
    | outside => exact hkind
    | inside => cases hkind

/-- The first token of a tiling stands on its side. -/
theorem TiledAt.eq_of_side? (h : TiledAt source side n (t :: ts)) :
    ∀ s ∈ t.kind.side?, s = side := by
  obtain ⟨cs, -, htiled⟩ := h
  cases htiled with
  | finish => rintro s ⟨⟩; rfl
  | fault => exact nofun
  | token _ hkind => exact hkind.eq_of_side?

/-- Behind a token that is not the last one the tiling goes on. -/
theorem TiledAt.tail (h : TiledAt source side n (t :: u :: ts)) :
    t.kind.Fits side ∧ ¬ (t.kind.IsText ∧ u.kind.IsText)
      ∧ TiledAt source (t.kind.behind side) t.span.stop (u :: ts) := by
  obtain ⟨cs, hleft, htiled⟩ := h
  cases htiled with
  | token _ hkind hapart hts =>
    exact ⟨hkind, fun htexts => hapart htexts.1 u rfl htexts.2, _,
      hleft.behind.behind, hts⟩

/-- A tiling may be cut in front of any token. -/
theorem TiledAt.cut {front : List Token}
    (h : TiledAt source side n (front ++ t :: rest)) :
    ∃ m, TiledAt source (sideBehind side front) m (t :: rest) := by
  induction front generalizing side n with
  | nil => exact ⟨n, h⟩
  | cons u front ih =>
    rw [List.cons_append] at h
    obtain ⟨v, more, hmore⟩ : ∃ v more, front ++ t :: rest = v :: more :=
      List.exists_cons_of_ne_nil (by simp)
    rw [hmore] at h
    obtain ⟨-, -, htail⟩ := h.tail
    rw [← hmore] at htail
    exact ih htail

/-- A token that is not the last one stands on at least one byte. -/
theorem TiledAt.start_lt_stop (h : TiledAt source side n (t :: u :: ts)) :
    t.span.start < t.span.stop := by
  obtain ⟨hfits, -⟩ := h.tail
  obtain ⟨-, run, ⟨_, -, hstop⟩, hrun⟩ := h.head
  obtain rfl := hrun hfits.fault?_eq_none
  have hpos : byteLength t.kind.lexeme ≠ 0 := fun hzero =>
    hfits.lexeme_ne_nil (Text.eq_nil_of_byteLength_eq_zero hzero)
  omega

/-- All tokens of a tiling stand from its byte on. -/
theorem TiledAt.le_start (h : TiledAt source side n ts) :
    ∀ t ∈ ts, n ≤ t.span.start := by
  induction ts generalizing side n with
  | nil => exact nofun
  | cons t ts ih =>
    obtain ⟨⟨gap, -, hgap⟩, run, hrun, -⟩ := h.head
    rintro u (_ | ⟨_, hu⟩)
    · exact hgap.le
    · cases ts with
      | nil => cases hu
      | cons v ts =>
        obtain ⟨-, -, htail⟩ := h.tail
        exact (hgap.le.trans hrun.le).trans (ih htail u hu)

/-- The tokens of a tiling stand one behind the other. -/
theorem TiledAt.pairwise (h : TiledAt source side n ts) :
    ts.Pairwise fun t u =>
      t.span.start < t.span.stop ∧ t.span.stop ≤ u.span.start := by
  induction ts generalizing side n with
  | nil => exact .nil
  | cons t ts ih =>
    cases ts with
    | nil => exact List.pairwise_singleton ..
    | cons u ts =>
      obtain ⟨-, -, htail⟩ := h.tail
      exact .cons (fun v hv => ⟨h.start_lt_stop, htail.le_start v hv⟩)
        (ih htail)

/-- No text stands behind text. -/
theorem TiledAt.isChain (h : TiledAt source side n ts) :
    ts.IsChain fun t u => ¬ (t.kind.IsText ∧ u.kind.IsText) := by
  induction ts generalizing side n with
  | nil => exact .nil
  | cons t ts ih =>
    cases ts with
    | nil => exact .singleton t
    | cons u ts =>
      obtain ⟨-, hapart, htail⟩ := h.tail
      exact .cons_cons hapart (ih htail)

/-- Only the last token of a tiling is terminal. -/
theorem TiledAt.exists_last (h : TiledAt source side n ts) :
    ∃ front last, ts = front ++ [last] ∧ last.kind.isTerminal = true
      ∧ ∀ t ∈ front, t.kind.isTerminal = false := by
  induction ts generalizing side n with
  | nil =>
    obtain ⟨cs, -, htiled⟩ := h
    exact absurd rfl htiled.ne_nil
  | cons t ts ih =>
    cases ts with
    | nil =>
      refine ⟨[], t, rfl, ?_, nofun⟩
      obtain ⟨cs, -, htiled⟩ := h
      cases htiled with
      | finish => rfl
      | fault => rfl
      | token _ _ _ hts => exact absurd rfl hts.ne_nil
    | cons u ts =>
      obtain ⟨hfits, -, htail⟩ := h.tail
      obtain ⟨front, last, hts, hlast, hfront⟩ := ih htail
      exact ⟨t :: front, last, by rw [hts, List.cons_append], hlast,
        List.forall_mem_cons.mpr ⟨hfits.isTerminal_eq_false, hfront⟩⟩

/-- A tiling up to the end of a text leaves no character out: each belongs to
a token, or was skipped in front of one inside a placeholder. -/
theorem TiledAt.covers (h : TiledAt source side n ts)
    (hfinish : ∃ t ∈ ts, t.kind = .finish) {before after : List Char}
    {c : Char} (hsource : source = before ++ c :: after)
    (hn : n ≤ byteLength before) :
    (∃ t ∈ ts, t.span.start ≤ byteLength before
        ∧ byteLength before + c.utf8Size ≤ t.span.stop)
      ∨ Text.isBlank c = true ∧ ∃ front t rest, ts = front ++ t :: rest
        ∧ (∀ u ∈ front, u.span.stop ≤ byteLength before)
        ∧ byteLength before + c.utf8Size ≤ t.span.start
        ∧ sideBehind side front = .inside := by
  induction ts generalizing side n with
  | nil =>
    obtain ⟨t, ht, -⟩ := hfinish
    cases ht
  | cons t ts ih =>
    obtain ⟨⟨gap, hskipped, hgap⟩, run, hrun, -⟩ := h.head
    rcases Nat.lt_or_ge (byteLength before) t.span.start with hlt | hstart
    · obtain ⟨hmem, hend⟩ := hgap.mem_of_lt hsource hn hlt
      exact .inr ⟨hskipped.1 c hmem, [], t, ts, rfl, nofun, hend,
        hskipped.2 (List.ne_nil_of_mem hmem)⟩
    rcases Nat.lt_or_ge (byteLength before) t.span.stop with hlt | hstop
    · obtain ⟨-, hend⟩ := hrun.mem_of_lt hsource hstart hlt
      exact .inl ⟨t, List.mem_cons_self, hstart, hend⟩
    cases ts with
    | nil =>
      -- the last token stands at the end of the text, behind `c`
      obtain ⟨v, hv, hkind⟩ := hfinish
      obtain rfl := List.mem_singleton.mp hv
      have hend := (h.of_finish hkind).2.2.eq_byteLength
      have hpos := c.utf8Size_pos
      rw [(h.of_finish hkind).1] at hstop
      rw [hsource] at hend
      simp at hend hstop
      omega
    | cons u ts =>
      obtain ⟨hfits, -, htail⟩ := h.tail
      have hfinish' : ∃ v ∈ u :: ts, v.kind = .finish := by
        obtain ⟨v, hv, hkind⟩ := hfinish
        rcases List.mem_cons.mp hv with rfl | hv
        · exact absurd hkind hfits.ne_finish
        · exact ⟨v, hv, hkind⟩
      rcases ih htail hfinish' hstop with
        ⟨v, hv, hcovers⟩ | ⟨hblank, front, v, rest, hts, hfront, hend, hside⟩
      · exact .inl ⟨v, List.mem_cons_of_mem t hv, hcovers⟩
      · exact .inr ⟨hblank, t :: front, v, rest, by rw [hts, List.cons_append],
          List.forall_mem_cons.mpr ⟨hstop, hfront⟩, hend, hside⟩

end

/-- Each token but the last one takes a character. -/
theorem Tiled.length_le {side : Side} {n : Nat} {cs : List Char}
    {ts : List Token} (h : Tiled side n cs ts) :
    ts.length ≤ cs.length + 1 := by
  induction h with
  | finish => exact Nat.le_refl 1
  | fault => simp
  | token _ hkind _ _ ih =>
    have hpos := List.length_pos_iff.mpr hkind.lexeme_ne_nil
    simp only [List.length_cons, List.length_append]
    omega

/-! ## Runs of tokens -/

/-- What a run of tokens keeps of its text. -/
structure Lossless (source : String) (ts : List Token) : Prop where
  /-- There is one terminal token, and it is the last one. -/
  terminal : ∃ front last, ts = front ++ [last]
    ∧ last.kind.isTerminal = true ∧ ∀ t ∈ front, t.kind.isTerminal = false
  /-- Spans start and stop where a character does. -/
  valid : ∀ t ∈ ts, String.Pos.Raw.IsValid source ⟨t.span.start⟩
    ∧ String.Pos.Raw.IsValid source ⟨t.span.stop⟩
    ∧ t.span.start ≤ t.span.stop
  /-- Spans do not overlap, and only the last one may be empty. -/
  ordered : ts.Pairwise fun t u =>
    t.span.start < t.span.stop ∧ t.span.stop ≤ u.span.start
  /-- The first token starts where the text does. -/
  first : ∀ t ∈ ts.head?, t.span.start = 0
  /-- Between two tokens there are blanks only, and outside placeholders
  nothing. -/
  gaps : ∀ front t u rest, ts = front ++ t :: u :: rest →
    ∃ gap, Text.Between source.toList t.span.stop u.span.start gap
      ∧ Blank gap
      ∧ (gap ≠ [] → sideBehind .outside (front ++ [t]) = .inside)
  /-- A token that is no fault stands on its characters. -/
  spelled : ∀ t ∈ ts, t.kind.fault? = none →
    Text.Between source.toList t.span.start t.span.stop t.kind.lexeme
  /-- Text is not empty and has no braces. -/
  texts : ∀ t ∈ ts, ∀ s, t.kind = .text s →
    s ≠ "" ∧ ∀ c ∈ s.toList, c ≠ '{' ∧ c ≠ '}'
  /-- Text does not follow text. -/
  apart : ts.IsChain fun t u => ¬ (t.kind.IsText ∧ u.kind.IsText)
  /-- Each token stands on its side.  So a brace that opens is followed by
  one that closes before the next one opens, names and punctuation stand
  between the two, and a scan to the end of the text has closed them all. -/
  sides : ∀ front t rest, ts = front ++ t :: rest →
    ∀ side ∈ t.kind.side?, sideBehind .outside front = side
  /-- The end of the text is an empty span behind its last byte. -/
  finish : ∀ t ∈ ts, t.kind = .finish →
    t.span = ⟨source.utf8ByteSize, source.utf8ByteSize⟩
  /-- If the scan came to the end of the text, each of its characters belongs
  to a token, or is a blank that was skipped inside a placeholder. -/
  covered : (∃ t ∈ ts, t.kind = .finish) →
    ∀ before c after, source.toList = before ++ c :: after →
      (∃ t ∈ ts, t.span.start ≤ byteLength before
          ∧ byteLength before + c.utf8Size ≤ t.span.stop)
        ∨ Text.isBlank c = true ∧ ∃ front t rest, ts = front ++ t :: rest
          ∧ (∀ u ∈ front, u.span.stop ≤ byteLength before)
          ∧ byteLength before + c.utf8Size ≤ t.span.start
          ∧ sideBehind .outside front = .inside
  /-- There is at most one token more than there are characters. -/
  count : ts.length ≤ source.length + 1

/-- A scan loses nothing of its text. -/
theorem scan_lossless (source : String) : Lossless source (scan source) := by
  have htiled := tiled_scan source
  have hat : TiledAt source.toList .outside 0 (scan source) :=
    ⟨_, Text.leftAt_zero _, htiled⟩
  have hcut : ∀ front t rest, scan source = front ++ t :: rest →
      ∃ n, TiledAt source.toList (sideBehind .outside front) n (t :: rest) := by
    intro front t rest hts
    rw [hts] at hat
    exact hat.cut
  -- so every token is the first one of a tiling
  have hmem : ∀ t ∈ scan source, ∃ side n rest,
      TiledAt source.toList side n (t :: rest) := by
    intro t ht
    obtain ⟨front, rest, hts⟩ := List.append_of_mem ht
    obtain ⟨n, hat⟩ := hcut front t rest hts
    exact ⟨_, n, rest, hat⟩
  refine ⟨hat.exists_last, ?valid, hat.pairwise, ?first, ?gaps, ?spelled,
    ?texts, hat.isChain, ?sides, ?finish, ?covered, htiled.length_le⟩
  case valid =>
    intro t ht
    obtain ⟨side, n, rest, hat⟩ := hmem t ht
    obtain ⟨-, run, hrun, -⟩ := hat.head
    exact ⟨hrun.isValid.1, hrun.isValid.2, hrun.le⟩
  case first =>
    intro t ht
    obtain ⟨rest, hts⟩ := List.head?_eq_some_iff.mp ht
    rw [hts] at hat
    exact hat.start_eq_of_outside
  case gaps =>
    intro front t u rest hts
    obtain ⟨n, hat⟩ := hcut front t (u :: rest) hts
    obtain ⟨-, -, htail⟩ := hat.tail
    obtain ⟨⟨gap, ⟨hblank, hside⟩, hgap⟩, -⟩ := htail.head
    exact ⟨gap, hgap, hblank, by rwa [sideBehind_append]⟩
  case spelled =>
    intro t ht hfault
    obtain ⟨side, n, rest, hat⟩ := hmem t ht
    obtain ⟨-, run, hrun, hlexeme⟩ := hat.head
    rwa [hlexeme hfault] at hrun
  case texts =>
    intro t ht s hs
    obtain ⟨side, n, rest, hat⟩ := hmem t ht
    exact hat.of_text hs
  case sides =>
    intro front t rest hts side hside
    obtain ⟨n, hat⟩ := hcut front t rest hts
    exact (hat.eq_of_side? side hside).symm
  case finish =>
    intro t ht hkind
    obtain ⟨side, n, rest, hat⟩ := hmem t ht
    obtain ⟨rfl, -, hleft⟩ := hat.of_finish hkind
    rw [hleft.eq_byteLength, Text.byteLength_toList]
  case covered =>
    intro hfinish before c after hsource
    exact hat.covers hfinish hsource (Nat.zero_le _)

end Token

end PolicyWeave
