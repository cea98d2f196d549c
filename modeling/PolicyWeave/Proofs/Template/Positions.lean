import PolicyWeave.Proofs.Template.Concatenation
import PolicyWeave.Sample.Contracts

/-!
# Positions of template errors

An error of a template points at a byte of its text, and what stands there
is the cause that the error names.

* Places.  `Text.LeftAt` cuts a text at a byte, and `TemplateError.Shown`
  says of each kind of error what its byte shows.
* The scan.  A fault shows where it points.  Without a fault every token
  inside a placeholder shows at its start: `Token.ShownOutside` and
  `Token.ShownInside` are the two modes of such a scan.
* The parser.  On shown tokens a function of the parser answers a piece
  whose names stand where its spans start, or an error that shows; it does
  not run out of tokens.
* Resolution.  What fails is a name of the template.
-/

namespace PolicyWeave

open Text (Blank byteLength byteLength_nil byteLength_cons
  byteLength_append)

/-! ## Places -/

namespace Text

/-- What is left of a text from byte `n` on.  The byte is the first of a
character, or the end of the text. -/
def LeftAt (source : List Char) (n : Nat) (cs : List Char) : Prop :=
  ∃ front, source = front ++ cs ∧ byteLength front = n

theorem leftAt_zero (source : List Char) : LeftAt source 0 source :=
  ⟨[], rfl, rfl⟩

/-- Behind a run of characters the rest of them is left. -/
theorem LeftAt.behind {source run cs : List Char} {n : Nat}
    (h : LeftAt source n (run ++ cs)) :
    LeftAt source (n + byteLength run) cs := by
  obtain ⟨front, rfl, rfl⟩ := h
  exact ⟨front ++ run, by simp, by simp⟩

/-- A byte where a text is cut is a valid position of it. -/
theorem LeftAt.isValid {source : String} {n : Nat} {cs : List Char}
    (h : LeftAt source.toList n cs) : String.Pos.Raw.IsValid source ⟨n⟩ := by
  obtain ⟨front, hsource, rfl⟩ := h
  rw [String.Pos.Raw.isValid_iff_exists_append]
  refine ⟨String.ofList front, String.ofList cs, ?_, ?_⟩
  · rw [← String.ofList_append, ← hsource, String.ofList_toList]
  · rw [String.rawEndPos, ← byteLength_toList, String.toList_ofList]

end Text

/-- A name stands at byte `n`, and does not go on behind its end. -/
def Token.NameAt (source : List Char) (n : Nat) (name : String) : Prop :=
  Text.isIdentifier name = true
    ∧ ∃ after, Text.LeftAt source n (name.toList ++ after)
        ∧ NameEnds after

/-- A token that may stand inside a placeholder, or end it, stands at byte
`n`. -/
def TokenKind.ShownAt (source : List Char) (n : Nat) : TokenKind → Prop
  | identifier name => Token.NameAt source n name
  | text _ | openBrace | finish | fault _ => False
  | kind => ∃ after, Text.LeftAt source n (kind.chars ++ after)

/-- The text shows, at the position of an error, the cause that the error
names. -/
def TemplateError.Shown (source : List Char) : TemplateError → Prop
  | unterminatedPlaceholder n =>
    ∃ after, Text.LeftAt source n ('{' :: after)
      ∧ ∀ c ∈ after, c ≠ '{' ∧ c ≠ '}'
  | nestedPlaceholder n => ∃ after, Text.LeftAt source n ('{' :: after)
  | unmatchedClose n => ∃ after, Text.LeftAt source n ('}' :: after)
  | emptyPlaceholder n =>
    ∃ gap after, Blank gap
      ∧ Text.LeftAt source n ('{' :: (gap ++ '}' :: after))
  | unexpectedToken found _ n =>
    (∃ c after, found = "character '" ++ String.singleton c ++ "'"
        ∧ Text.LeftAt source n (c :: after))
      ∨ ∃ kind, found = TokenKind.describe kind ∧ kind.ShownAt source n
  | unknownParameter name n => Token.NameAt source n name
  | unknownField param _ n => Token.NameAt source n param
  | contextOperand name n => Token.NameAt source n name
  | unknownBuiltin name n => Token.NameAt source n name
  | wrongArity name _ _ n => Token.NameAt source n name

/-- A token between braces is no fault. -/
theorem TokenKind.IsInner.fault?_eq_none {kind : TokenKind}
    (h : kind.IsInner) : kind.fault? = none := by
  cases kind with
  | fault e => cases h
  | _ => rfl

/-- A token that stands in a text cuts it. -/
theorem TokenKind.ShownAt.exists_leftAt {source : List Char} {n : Nat}
    {kind : TokenKind} (h : kind.ShownAt source n) :
    ∃ cs, Text.LeftAt source n cs := by
  cases kind with
  | identifier name =>
    obtain ⟨-, after, h, -⟩ := h
    exact ⟨_, h⟩
  | openParen | closeParen | comma | dot | closeBrace =>
    obtain ⟨after, h⟩ := h
    exact ⟨_, h⟩
  | text | openBrace | finish | fault => cases h

/-- An error that shows cuts the text. -/
theorem TemplateError.Shown.exists_leftAt {source : List Char}
    {e : TemplateError} (h : e.Shown source) :
    ∃ cs, Text.LeftAt source e.position cs := by
  cases e with
  | unterminatedPlaceholder n =>
    obtain ⟨after, h, -⟩ := h
    exact ⟨_, h⟩
  | nestedPlaceholder n | unmatchedClose n =>
    obtain ⟨after, h⟩ := h
    exact ⟨_, h⟩
  | emptyPlaceholder n =>
    obtain ⟨gap, after, -, h⟩ := h
    exact ⟨_, h⟩
  | unexpectedToken found expected n =>
    rcases h with ⟨c, after, -, h⟩ | ⟨kind, -, h⟩
    · exact ⟨_, h⟩
    · exact h.exists_leftAt
  | unknownParameter | unknownField | contextOperand | unknownBuiltin
  | wrongArity =>
    obtain ⟨-, after, h, -⟩ := h
    exact ⟨_, h⟩

/-! ## The scan -/

namespace Token

open Parse (firstFault? firstFault?_cons)

/-- The scan stands at byte `n`, in front of `cs`, in a placeholder opened
at `opened`.  There is no brace in between. -/
def OpenAt (source : List Char) (opened n : Nat) (cs : List Char) : Prop :=
  ∃ inner, Text.LeftAt source opened ('{' :: (inner ++ cs))
    ∧ n = opened + byteLength ('{' :: inner)
    ∧ ∀ c ∈ inner, c ≠ '{' ∧ c ≠ '}'

theorem OpenAt.leftAt {source cs : List Char} {opened n : Nat}
    (h : OpenAt source opened n cs) : Text.LeftAt source n cs := by
  obtain ⟨inner, hleft, rfl, -⟩ := h
  exact hleft.behind

/-- The brace that opens a placeholder. -/
theorem OpenAt.start {source cs : List Char} {n : Nat}
    (h : Text.LeftAt source n ('{' :: cs)) :
    OpenAt source n (n + '{'.utf8Size) cs :=
  ⟨[], h, rfl, by simp⟩

/-- A run of characters without braces stays in the placeholder. -/
theorem OpenAt.behind {source run cs : List Char} {opened n : Nat}
    (h : OpenAt source opened n (run ++ cs))
    (hrun : ∀ c ∈ run, c ≠ '{' ∧ c ≠ '}') :
    OpenAt source opened (n + byteLength run) cs := by
  obtain ⟨inner, hleft, rfl, hinner⟩ := h
  refine ⟨inner ++ run, by simpa using hleft, by simp [Nat.add_assoc], ?_⟩
  exact List.forall_mem_append.mpr ⟨hinner, hrun⟩

/-- One character that is no brace stays in the placeholder. -/
theorem OpenAt.skip {source cs : List Char} {opened n : Nat} {c : Char}
    (h : OpenAt source opened n (c :: cs)) (hc : c ≠ '{' ∧ c ≠ '}') :
    OpenAt source opened (n + c.utf8Size) cs := by
  have hrun : OpenAt source opened n ([c] ++ cs) := h
  simpa using hrun.behind (List.forall_mem_singleton.mpr hc)

mutual

/-- The tokens of a scan outside placeholders that meets no fault. -/
inductive ShownOutside (source : List Char) : List Token → Prop where
  | finish (span : Span) : ShownOutside source [⟨.finish, span⟩]
  | text (s : String) (span : Span) {ts : List Token}
      (hts : ShownOutside source ts) :
      ShownOutside source (⟨.text s, span⟩ :: ts)
  | openBrace {span : Span} {ts : List Token}
      (hempty : ∀ t ∈ ts.head?, t.kind = .closeBrace →
        (TemplateError.emptyPlaceholder span.start).Shown source)
      (hts : ShownInside source ts) :
      ShownOutside source (⟨.openBrace, span⟩ :: ts)

/-- The tokens of a scan inside a placeholder that meets no fault.  Those
up to the closing brace stand where they start. -/
inductive ShownInside (source : List Char) : List Token → Prop where
  | closeBrace {span : Span} {ts : List Token}
      (ht : TokenKind.closeBrace.ShownAt source span.start)
      (hts : ShownOutside source ts) :
      ShownInside source (⟨.closeBrace, span⟩ :: ts)
  | inner {kind : TokenKind} {span : Span} {ts : List Token}
      (hkind : kind.IsInner) (ht : kind.ShownAt source span.start)
      (hts : ShownInside source ts) :
      ShownInside source (⟨kind, span⟩ :: ts)

end

section

variable {source : List Char} {t : Token} {ts : List Token}

/-- A token inside a placeholder is shown. -/
theorem ShownInside.head (h : ShownInside source (t :: ts)) :
    t.kind.ShownAt source t.span.start := by
  cases h with
  | closeBrace ht => exact ht
  | inner _ ht => exact ht

/-- Behind a token that does not close the placeholder it goes on. -/
theorem ShownInside.tail (h : ShownInside source (t :: ts))
    (ht : t.kind ≠ .closeBrace) : ShownInside source ts := by
  cases h with
  | closeBrace => exact absurd rfl ht
  | inner _ _ hts => exact hts

/-- A closing brace ends the placeholder. -/
theorem ShownInside.close (h : ShownInside source (t :: ts))
    (ht : t.kind = .closeBrace) : ShownOutside source ts := by
  cases h with
  | closeBrace _ hts => exact hts
  | inner hkind =>
    subst ht
    cases hkind

end

/-- A scan with one fault, at its end, which shows, or with none and of
the shape `P`. -/
inductive Sound (source : List Char) (P : List Token → Prop) :
    List Token → Prop where
  | fault {front : List Token} {e : TemplateError} (span : Span)
      (hfront : firstFault? front = none) (he : e.Shown source) :
      Sound source P (front ++ [⟨.fault e, span⟩])
  | whole {ts : List Token} (hnone : firstFault? ts = none)
      (hts : P ts) : Sound source P ts

section

variable {source : List Char} {P Q : List Token → Prop}

theorem Sound.stop {e : TemplateError} (h : e.Shown source)
    (span : Span) : Sound source P [⟨.fault e, span⟩] := by
  have hstop : Sound source P ([] ++ [⟨.fault e, span⟩]) :=
    .fault span rfl h
  exact hstop

/-- One more token in front, which is no fault. -/
theorem Sound.cons {t : Token} {ts : List Token}
    (h : Sound source P ts) (ht : t.kind.fault? = none)
    (hstep : P ts → Q (t :: ts)) : Sound source Q (t :: ts) := by
  cases h with
  | @fault front e span hfront he =>
    rw [← List.cons_append]
    exact .fault span ((firstFault?_cons ht front).trans hfront) he
  | whole hnone hts =>
    exact .whole ((firstFault?_cons ht ts).trans hnone) (hstep hts)

/-- The fault at the end of tokens without faults. -/
theorem firstFault?_concat {front : List Token}
    (h : firstFault? front = none) (e : TemplateError) (span : Span) :
    firstFault? (front ++ [⟨.fault e, span⟩]) = some e := by
  have happend : firstFault? (front ++ [⟨.fault e, span⟩])
      = (firstFault? front).or (some e) := List.findSome?_append
  rw [happend, h, Option.none_or]

/-- A fault among the tokens is the first one. -/
theorem Sound.firstFault?_of_mem {ts : List Token} {t : Token}
    {e : TemplateError} (h : Sound source P ts) (ht : t ∈ ts)
    (he : t.kind = .fault e) : firstFault? ts = some e := by
  have hfault : t.kind.fault? = some e := by rw [he, TokenKind.fault?]
  cases h with
  | whole hnone =>
    rw [List.findSome?_eq_none_iff.mp hnone t ht] at hfault
    cases hfault
  | fault span hfront =>
    rcases List.mem_append.mp ht with ht | ht
    · rw [List.findSome?_eq_none_iff.mp hfront t ht] at hfault
      cases hfault
    · obtain rfl := List.mem_singleton.mp ht
      cases he
      exact firstFault?_concat hfront e span

end

/-- Blanks and the characters of names are no braces. -/
theorem plain_of_isBlank {c : Char} (h : Text.isBlank c = true) :
    c ≠ '{' ∧ c ≠ '}' := by
  constructor
  · rintro rfl
    exact absurd h (by decide)
  · rintro rfl
    exact absurd h (by decide)

theorem plain_of_isIdentRest {c : Char} (h : Text.isIdentRest c = true) :
    c ≠ '{' ∧ c ≠ '}' := by
  constructor
  · rintro rfl
    exact absurd h (by decide)
  · rintro rfl
    exact absurd h (by decide)

/-- A run of the characters of a name stops where the name ends. -/
theorem nameEnds_dropWhile (cs : List Char) :
    NameEnds (cs.dropWhile Text.isIdentRest) := by
  intro c hc
  have hnot := List.head?_dropWhile_not Text.isIdentRest cs
  rwa [Option.mem_def.mp hc] at hnot

/-- A name inside a placeholder stands where it starts, and behind it the
placeholder goes on. -/
theorem OpenAt.behind_name {source cs : List Char} {opened n : Nat}
    {c : Char} (h : OpenAt source opened n (c :: cs))
    (hc : c ≠ '{' ∧ c ≠ '}') (hstart : Text.isIdentStart c = true) :
    let run := c :: cs.takeWhile Text.isIdentRest
    OpenAt source opened (n + byteLength run)
        (cs.dropWhile Text.isIdentRest)
      ∧ NameAt source n (String.ofList run) := by
  intro run
  have hcs : run ++ cs.dropWhile Text.isIdentRest = c :: cs := by
    rw [List.cons_append, List.takeWhile_append_dropWhile]
  have hrun : ∀ d ∈ run, d ≠ '{' ∧ d ≠ '}' := by
    refine List.forall_mem_cons.mpr ⟨hc, fun d hd => ?_⟩
    exact plain_of_isIdentRest
      (List.all_eq_true.mp List.all_takeWhile d hd)
  rw [← hcs] at h
  refine ⟨h.behind hrun, isIdentifier_run hstart cs, _, ?_,
    nameEnds_dropWhile cs⟩
  rw [String.toList_ofList]
  exact h.leftAt

/-- A mark of punctuation stands where its character does. -/
theorem shownAt_of_punctuation? {c : Char} {kind : TokenKind}
    (h : punctuation? c = some kind) {source cs : List Char} {n : Nat}
    (hleft : Text.LeftAt source n (c :: cs)) : kind.ShownAt source n := by
  rcases punctuation?_eq_some h with
      ⟨rfl, rfl⟩ | ⟨rfl, rfl⟩ | ⟨rfl, rfl⟩ | ⟨rfl, rfl⟩ <;>
    exact ⟨cs, hleft⟩

/-- Both modes of the scan: a fault shows where it points, and without
one every token inside a placeholder does. -/
theorem sound_scanLiteral (source : List Char) :
    ∀ (n : Nat) (cs : List Char), Text.LeftAt source n cs →
      Sound source (ShownOutside source) (scanLiteral n cs) := by
  apply scanLiteral.induct
    (fun n cs => Text.LeftAt source n cs →
      Sound source (ShownOutside source) (scanLiteral n cs))
    (fun opened n cs => OpenAt source opened n cs →
      Sound source (ShownInside source) (scanPlaceholder opened n cs))
  -- literal text: its end, a brace that opens, one that closes, a run
  · intro n hleft
    rw [scanLiteral]
    exact .whole rfl (.finish _)
  · intro n c cs hc ih hleft
    obtain rfl : c = '{' := by simpa using hc
    rw [scanLiteral, if_pos hc]
    refine (ih (.start hleft)).cons rfl (.openBrace ?_)
    intro t ht hclose
    obtain ⟨ts, hts⟩ := List.head?_eq_some_iff.mp ht
    obtain ⟨gap, more, hgap, rfl, -⟩ := close_of_scanPlaceholder hts hclose
    exact ⟨gap, more, hgap, hleft⟩
  · intro n c cs hopen hc hleft
    obtain rfl : c = '}' := by simpa using hc
    rw [scanLiteral, if_neg hopen, if_pos hc]
    refine .stop ?_ _
    exact ⟨cs, hleft⟩
  · intro n c cs hopen hclose run stop ih hleft
    rw [scanLiteral, if_neg hopen, if_neg hclose]
    refine (ih ?_).cons rfl (.text _ _)
    refine Text.LeftAt.behind ?_
    rwa [List.cons_append, List.takeWhile_append_dropWhile]
  -- placeholders: their end, a blank, the two braces, punctuation, a
  -- name, and what is none of these
  · intro opened n hat
    obtain ⟨inner, hleft, -, hinner⟩ := hat
    rw [List.append_nil] at hleft
    rw [scanPlaceholder]
    refine .stop ?_ _
    exact ⟨inner, hleft, hinner⟩
  · intro opened n c cs next hblank ih hat
    rw [scanPlaceholder, if_pos hblank]
    exact ih (hat.skip (plain_of_isBlank hblank))
  · intro opened n c cs hblank hc hat
    obtain rfl : c = '{' := by simpa using hc
    rw [scanPlaceholder, if_neg hblank, if_pos hc]
    refine .stop ?_ _
    exact ⟨cs, hat.leftAt⟩
  · intro opened n c cs next hblank hopen hc ih hat
    obtain rfl : c = '}' := by simpa using hc
    rw [scanPlaceholder, if_neg hblank, if_neg hopen, if_pos hc]
    have hleft : Text.LeftAt source n (['}'] ++ cs) := hat.leftAt
    exact (ih hleft.behind).cons rfl (.closeBrace ⟨cs, hleft⟩)
  · intro opened n c cs next hblank hopen hclose kind hkind ih hat
    rw [scanPlaceholder, if_neg hblank, if_neg hopen, if_neg hclose, hkind]
    obtain ⟨hinner, -⟩ := isInner_of_punctuation? hkind
    have hplain : c ≠ '{' ∧ c ≠ '}' := by
      simpa using And.intro hopen hclose
    refine (ih (hat.skip hplain)).cons hinner.fault?_eq_none
      (.inner hinner (shownAt_of_punctuation? hkind hat.leftAt))
  · intro opened n c cs hblank hopen hclose hkind hstart run stop ih hat
    rw [scanPlaceholder, if_neg hblank, if_neg hopen, if_neg hclose, hkind,
      if_pos hstart]
    have hplain : c ≠ '{' ∧ c ≠ '}' := by
      simpa using And.intro hopen hclose
    obtain ⟨hbehind, hname⟩ := hat.behind_name hplain hstart
    exact (ih hbehind).cons rfl (.inner hname.1 hname)
  · intro opened n c cs hblank hopen hclose hkind hstart hat
    rw [scanPlaceholder, if_neg hblank, if_neg hopen, if_neg hclose, hkind,
      if_neg hstart]
    refine .stop ?_ _
    exact .inl ⟨c, cs, rfl, hat.leftAt⟩

/-- The scan of a text is sound. -/
theorem sound_scan (source : String) :
    Sound source.toList (ShownOutside source.toList) (scan source) :=
  sound_scanLiteral _ 0 _ (Text.leftAt_zero _)

end Token

/-! ## The parser -/

/-- The root of a path stands where the path starts. -/
def Path.Rooted (source : List Char) (p : Path) : Prop :=
  Token.NameAt source p.span.start p.root

/-- The name of a call stands where the call starts, and so do its
operands. -/
def Call.Rooted (source : List Char) (c : Call) : Prop :=
  Token.NameAt source c.span.start c.name ∧ ∀ p ∈ c.args, p.Rooted source

def Expr.Rooted (source : List Char) : Expr → Prop
  | path p => p.Rooted source
  | call c => c.Rooted source

def Part.Rooted (source : List Char) : Part → Prop
  | text _ => True
  | placeholder p => p.expr.Rooted source

namespace Parse

open Token (NameAt ShownInside ShownOutside)

/-- What a function of the parser answers on shown tokens: a piece that is
`P`, and a rest that is `Q`, or an error that shows. -/
def Shows {α : Type} (source : List Char) (P : α → Prop)
    (Q : List Token → Prop) : Outcome α → Prop
  | .ok (a, rest) => P a ∧ Q rest
  | .error (.error e) => e.Shown source
  | .error .outOfTokens => False

section

variable {source : List Char} {ts : List Token}

/-- What is expected and not there shows. -/
theorem shows_unexpected {α : Type} {P : α → Prop}
    {Q : List Token → Prop} {t : Token}
    (ht : t.kind.ShownAt source t.span.start) (expected : String) :
    Shows source P Q (unexpected t expected) :=
  .inr ⟨t.kind, rfl, ht⟩

/-- What is read, and the rest behind it. -/
theorem Shows.of_ok {α : Type} {P : α → Prop} {Q : List Token → Prop}
    {outcome : Outcome α} {a : α} {rest : List Token}
    (h : Shows source P Q outcome) (hok : outcome = .ok (a, rest)) :
    P a ∧ Q rest := by
  rwa [hok] at h

/-- An error shows whatever was to be read. -/
theorem Shows.of_error {α β : Type} {P : α → Prop} {P' : β → Prop}
    {Q Q' : List Token → Prop} {outcome : Outcome α} {e : ParseStop}
    (h : Shows source P Q outcome) (herror : outcome = .error e) :
    Shows source P' Q' (.error e) := by
  rw [herror] at h
  cases e with
  | error e => exact h
  | outOfTokens => exact h

theorem shows_fields? (stop : Nat) (h : ShownInside source ts) :
    Shows source (fun _ => True) (ShownInside source)
      (fields? stop ts) := by
  fun_induction fields? stop ts with
  | case1 => cases h
  | case2 stop t hdot =>
    have htail := h.tail (by simp [hdot])
    cases htail
  | case3 => exact ⟨trivial, h⟩
  | case4 stop t u rest hdot name hname names stop' rest' hrest ih =>
    have htail := h.tail (by simp [hdot])
    exact (ih (htail.tail (by simp [hname]))).of_ok hrest
  | case5 stop t u rest hdot name hname e hrest ih =>
    have htail := h.tail (by simp [hdot])
    exact (ih (htail.tail (by simp [hname]))).of_error hrest
  | case6 stop t u rest hdot hname =>
    have htail := h.tail (by simp [hdot])
    exact shows_unexpected htail.head _
  | case7 => exact ⟨trivial, h⟩

theorem shows_pathFrom? {root : String} {span : Span}
    (hroot : NameAt source span.start root) (h : ShownInside source ts) :
    Shows source (Path.Rooted source) (ShownInside source)
      (pathFrom? root span ts) := by
  have hfields := shows_fields? span.stop h
  unfold pathFrom?
  split
  · rename_i hr
    exact ⟨hroot, (hfields.of_ok hr).2⟩
  · rename_i he
    exact hfields.of_error he

theorem shows_path? (h : ShownInside source ts) :
    Shows source (Path.Rooted source) (ShownInside source)
      (path? ts) := by
  unfold path?
  split
  · cases h
  · rename_i t rest
    have ht := h.head
    split
    · rename_i name hname
      rw [hname] at ht
      exact shows_pathFrom? ht (h.tail (by simp [hname]))
    · exact shows_unexpected ht _

theorem shows_operands? (h : ShownInside source ts) :
    Shows source (fun ps => ∀ p ∈ ps, p.Rooted source)
      (ShownInside source) (operands? ts) := by
  fun_induction operands? ts with
  | case1 ts e hp => exact (shows_path? h).of_error hp
  | case2 ts p hp =>
    obtain ⟨-, hrest⟩ := (shows_path? h).of_ok hp
    cases hrest
  | case3 ts p t rest hp hcomma ps rest' hrest ih =>
    obtain ⟨hroot, hinside⟩ := (shows_path? h).of_ok hp
    obtain ⟨hroots, hinside'⟩ :=
      (ih (hinside.tail (by simp [hcomma]))).of_ok hrest
    exact ⟨List.forall_mem_cons.mpr ⟨hroot, hroots⟩, hinside'⟩
  | case4 ts p t rest hp hcomma e hrest ih =>
    obtain ⟨-, hinside⟩ := (shows_path? h).of_ok hp
    exact (ih (hinside.tail (by simp [hcomma]))).of_error hrest
  | case5 ts p t rest hp hcomma =>
    obtain ⟨hroot, hinside⟩ := (shows_path? h).of_ok hp
    exact ⟨List.forall_mem_singleton.mpr hroot, hinside⟩

theorem shows_closeCall? {name : String} {start : Nat} {args : List Path}
    (hname : NameAt source start name)
    (hargs : ∀ p ∈ args, p.Rooted source) (h : ShownInside source ts) :
    Shows source (Expr.Rooted source) (ShownInside source)
      (closeCall? name start args ts) := by
  unfold closeCall?
  split
  · cases h
  · split
    · rename_i hclose
      exact ⟨⟨hname, hargs⟩, h.tail (by simp [hclose])⟩
    · exact shows_unexpected h.head _

theorem shows_call? {name : String} {start : Nat}
    (hname : NameAt source start name) (h : ShownInside source ts) :
    Shows source (Expr.Rooted source) (ShownInside source)
      (call? name start ts) := by
  unfold call?
  split
  · cases h
  · split
    · rename_i hclose
      exact ⟨⟨hname, by simp⟩, h.tail (by simp [hclose])⟩
    · have hoperands := shows_operands? h
      split
      · rename_i hr
        obtain ⟨hargs, hinside⟩ := hoperands.of_ok hr
        exact shows_closeCall? hname hargs hinside
      · rename_i he
        exact hoperands.of_error he

theorem shows_expr? {name : String} {span : Span}
    (hname : NameAt source span.start name) (h : ShownInside source ts) :
    Shows source (Expr.Rooted source) (ShownInside source)
      (expr? name span ts) := by
  unfold expr?
  split
  · cases h
  · split
    · rename_i hopen
      exact shows_call? hname (h.tail (by simp [hopen.1]))
    · have hpath := shows_pathFrom? hname h
      split
      · rename_i hr
        exact hpath.of_ok hr
      · rename_i he
        exact hpath.of_error he

theorem shows_closePlaceholder? {start : Nat} {e : Expr}
    (he : e.Rooted source) (h : ShownInside source ts) :
    Shows source (fun p => p.expr.Rooted source) (ShownOutside source)
      (closePlaceholder? start e ts) := by
  unfold closePlaceholder?
  split
  · cases h
  · split
    · rename_i hclose
      exact ⟨he, h.close hclose⟩
    · exact shows_unexpected h.head _

theorem shows_placeholder? {start : Nat}
    (hempty : ∀ t ∈ ts.head?, t.kind = .closeBrace →
      (TemplateError.emptyPlaceholder start).Shown source)
    (h : ShownInside source ts) :
    Shows source (fun p => p.expr.Rooted source) (ShownOutside source)
      (placeholder? start ts) := by
  unfold placeholder?
  split
  · cases h
  · rename_i t rest
    have ht := h.head
    split
    · rename_i hclose
      exact hempty t rfl hclose
    · rename_i name hname
      rw [hname] at ht
      have hexpr := shows_expr? ht (h.tail (by simp [hname]))
      split
      · rename_i hr
        obtain ⟨hrooted, hinside⟩ := hexpr.of_ok hr
        exact shows_closePlaceholder? hrooted hinside
      · rename_i he
        exact hexpr.of_error he
    · exact shows_unexpected ht _

/-- The parts of shown tokens, or the error that stops the parser. -/
theorem shows_parts? (h : ShownOutside source ts) :
    match parts? ts with
    | .ok ps => ∀ p ∈ ps, p.Rooted source
    | .error (.error e) => e.Shown source
    | .error .outOfTokens => False := by
  fun_induction parts? ts with
  | case1 => cases h
  | case2 => simp
  | case3 t rest s htext ps hps ih =>
    cases h with
    | text s span hts =>
      have hmore := ih hts
      rw [hps] at hmore
      exact List.forall_mem_cons.mpr ⟨trivial, hmore⟩
    | _ => cases htext
  | case4 t rest s htext e he ih =>
    cases h with
    | text s span hts =>
      have hmore := ih hts
      rw [he] at hmore
      exact hmore
    | _ => cases htext
  | case5 t rest hopen e he =>
    cases h with
    | openBrace hempty hts =>
      have hplaceholder := shows_placeholder? hempty hts
      rw [he] at hplaceholder
      cases e with
      | error e => exact hplaceholder
      | outOfTokens => exact hplaceholder
    | _ => cases hopen
  | case6 t rest hopen p rest' hp ps hps ih =>
    cases h with
    | openBrace hempty hts =>
      obtain ⟨hrooted, houtside⟩ :=
        (shows_placeholder? hempty hts).of_ok hp
      have hmore := ih houtside
      rw [hps] at hmore
      exact List.forall_mem_cons.mpr ⟨hrooted, hmore⟩
    | _ => cases hopen
  | case7 t rest hopen p rest' hp e he ih =>
    cases h with
    | openBrace hempty hts =>
      obtain ⟨-, houtside⟩ := (shows_placeholder? hempty hts).of_ok hp
      have hmore := ih houtside
      rw [he] at hmore
      exact hmore
    | _ => cases hopen
  | case8 t rest hfinish htext hopen =>
    cases h with
    | finish => exact absurd rfl hfinish
    | text s => exact absurd rfl (htext s)
    | openBrace => exact absurd rfl hopen

end

end Parse

namespace Template

open Parse Token

/-- What a text parses to has its names where they start, and what keeps
it from parsing shows. -/
theorem parse_shows (source : String) :
    (∀ t, parse source = .ok t →
        ∀ p ∈ t.parts, p.Rooted source.toList)
      ∧ ∀ e, parse source = .error e → e.Shown source.toList := by
  have hscan := sound_scan source
  rw [parse_eq]
  generalize scan source = ts at hscan ⊢
  cases hscan with
  | @fault front e span hfront he =>
    rw [firstFault?_concat hfront]
    refine ⟨?_, ?_⟩
    · intro t ht
      cases ht
    · rintro e' ⟨⟩
      exact he
  | whole hnone hts =>
    have hparts := shows_parts? hts
    rw [hnone]
    cases h : parts? ts with
    | ok ps =>
      rw [h] at hparts
      refine ⟨?_, ?_⟩
      · rintro t ⟨⟩
        exact hparts
      · intro e he
        cases he
    | error stop =>
      rw [h] at hparts
      cases stop with
      | outOfTokens => cases hparts
      | error e =>
        refine ⟨?_, ?_⟩
        · intro t ht
          cases ht
        · rintro e' ⟨⟩
          exact hparts

end Template

/-! ## Resolution -/

section

variable {table : BuiltinTable} {c : Contract} {m : Method}
  {source : List Char} {e : TemplateError}

theorem Path.shown_of_resolve_eq_error {p : Path}
    (hp : p.Rooted source) (h : p.resolve m = .error e) :
    e.Shown source := by
  unfold Path.resolve at h
  split at h
  · cases h
    exact hp
  · rename_i q hq
    have hname := Method.name_of_param?_eq_some hq
    rw [hname] at h
    split at h
    · cases h
      exact hp
    · split at h
      · split at h
        · cases h
        · cases h
          exact hp
      · cases h

theorem Path.shown_of_resolveAll_eq_error {ps : List Path}
    (hps : ∀ p ∈ ps, p.Rooted source)
    (h : Path.resolveAll m ps = .error e) : e.Shown source := by
  induction ps with
  | nil => cases h
  | cons p ps ih =>
    obtain ⟨hp, hrest⟩ := List.forall_mem_cons.mp hps
    unfold Path.resolveAll at h
    split at h
    · rename_i he
      cases h
      exact Path.shown_of_resolve_eq_error hp he
    · split at h
      · rename_i he
        cases h
        exact ih hrest he
      · cases h

theorem Call.shown_of_resolve_eq_error {call : Call}
    (hcall : call.Rooted source) (h : call.resolve table m = .error e) :
    e.Shown source := by
  obtain ⟨hname, hargs⟩ := hcall
  unfold Call.resolve at h
  split at h
  · cases h
    exact hname
  · split at h
    · cases h
      exact hname
    · split at h
      · cases h
      · split at h
        · rename_i he
          cases h
          exact Path.shown_of_resolveAll_eq_error hargs he
        · cases h

theorem Path.shown_of_resolveBare_eq_error {p : Path}
    (hp : p.Rooted source) (h : p.resolveBare table c m = .error e) :
    e.Shown source := by
  unfold Path.resolveBare at h
  split at h
  · split at h
    · cases h
      exact hp
    · cases h
  · split at h
    · split at h
      · rename_i he
        cases h
        exact Path.shown_of_resolve_eq_error hp he
      · cases h
    · split at h
      · have hcall : Call.Rooted source ⟨p.root, [], p.span⟩ :=
          ⟨hp, by simp⟩
        exact Call.shown_of_resolve_eq_error hcall h
      · cases h
        exact hp

theorem Part.shown_of_resolve_eq_error {p : Part}
    (hp : p.Rooted source) (h : p.resolve table c m = .error e) :
    e.Shown source := by
  unfold Part.resolve at h
  split at h
  · cases h
  · exact Call.shown_of_resolve_eq_error hp h
  · exact Path.shown_of_resolveBare_eq_error hp h

theorem Part.shown_of_resolveAll_eq_error {ps : List Part}
    (hps : ∀ p ∈ ps, p.Rooted source)
    (h : Part.resolveAll table c m ps = .error e) : e.Shown source := by
  induction ps with
  | nil => cases h
  | cons p ps ih =>
    obtain ⟨hp, hrest⟩ := List.forall_mem_cons.mp hps
    unfold Part.resolveAll at h
    split at h
    · rename_i he
      cases h
      exact Part.shown_of_resolve_eq_error hp he
    · split at h
      · rename_i he
        cases h
        exact ih hrest he
      · cases h

end

/-! ## Key templates -/

/-- What keeps a text from compiling shows at its position. -/
theorem KeyTemplate.shown_of_compile_eq_error {table : BuiltinTable}
    {c : Contract} {m : Method} {source : String} {e : TemplateError}
    (h : compile table c m source = .error e) : e.Shown source.toList := by
  obtain ⟨hok, herror⟩ := Template.parse_shows source
  unfold compile at h
  split at h
  · rename_i he
    cases h
    exact herror _ he
  · rename_i t ht
    unfold ofTemplate at h
    cases hparts : Part.resolveAll table c m t.parts with
    | error e' =>
      rw [hparts] at h
      cases h
      exact Part.shown_of_resolveAll_eq_error (hok t ht) hparts
    | ok ss =>
      rw [hparts] at h
      cases h

/-- A fault of the scan keeps the text from compiling, wherever it
stands. -/
theorem KeyTemplate.compile_of_fault {source : String} {t : Token}
    {e : TemplateError} (ht : t ∈ Token.scan source)
    (he : t.kind = .fault e) (table : BuiltinTable) (c : Contract)
    (m : Method) : compile table c m source = .error e := by
  have hfirst := (Token.sound_scan source).firstFault?_of_mem ht he
  rw [compile, Template.parse_eq, hfirst]

/-- The error of a text that does not compile points at a place where a
character starts, and the text shows its cause there: the brace of a
placeholder that is not closed, holds another or is empty, the brace that
closes none, the character or the token that is not expected, or the name
that does not resolve.  A fault of the scan is the error of the text
whatever stands in front of it. -/
theorem KeyTemplate.compile_error_exact (table : BuiltinTable)
    (c : Contract) (m : Method) (source : String) :
    (∀ e, compile table c m source = .error e →
        String.Pos.Raw.IsValid source ⟨e.position⟩
          ∧ e.position ≤ source.utf8ByteSize ∧ e.Shown source.toList)
      ∧ ∀ t ∈ Token.scan source, ∀ e, t.kind = .fault e →
          compile table c m source = .error e := by
  refine ⟨?_, fun t ht e he => compile_of_fault ht he table c m⟩
  intro e h
  have hshown := shown_of_compile_eq_error h
  obtain ⟨cs, hleft⟩ := hshown.exists_leftAt
  exact ⟨hleft.isValid, hleft.isValid.le_rawEndPos, hshown⟩

/-- A name behind letters of two bytes and a blank, and a brace at the end
of a text whose first placeholder does not parse either. -/
theorem KeyTemplate.compile_error_exact_wide :
    (String.Pos.Raw.IsValid "ключ:\x7b uid \x7d" ⟨11⟩
        ∧ 11 ≤ "ключ:\x7b uid \x7d".utf8ByteSize
        ∧ (TemplateError.unknownParameter "uid" 11).Shown
            "ключ:\x7b uid \x7d".toList)
      ∧ compile .standard Sample.userService Sample.getUser
          "\x7bid uid\x7d\x7b" = .error (.unterminatedPlaceholder 8) := by
  have herror : compile .standard Sample.userService Sample.getUser
      "ключ:\x7b uid \x7d" = .error (.unknownParameter "uid" 11) := by
    decide +kernel
  have hfault : ⟨.fault (.unterminatedPlaceholder 8), 9, 9⟩
      ∈ Token.scan "\x7bid uid\x7d\x7b" := by
    decide +kernel
  exact ⟨(compile_error_exact _ _ _ _).1 _ herror,
    (compile_error_exact _ _ _ _).2 _ hfault _ rfl⟩

end PolicyWeave
