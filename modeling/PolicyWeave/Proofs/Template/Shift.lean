import PolicyWeave.Proofs.Template.Recognition
import PolicyWeave.Template.Compile

/-!
# Templates further back in a text

The same characters may stand further back in a text.  Their tokens, the
template that is parsed from the tokens and the errors are then the same
but for the positions, which all grow by one number.

There are four groups.

* `shift` on spans, tokens and all parts of a template.
* The scan: `Token.scanLiteral_shift`.
* The parser, one lemma for each function.  The message about an
  unexpected token holds the token's description, and that of a fault holds
  its position.  So the parser is asked about `Token.move`, which leaves
  faults as they are; without faults the two are one.
* Resolution: the segments stay, and the positions of the errors grow.
-/

namespace PolicyWeave

/-! ## Shifted parts -/

/-- The span `n` bytes further. -/
def Span.shift (n : Nat) (s : Span) : Span :=
  ⟨s.start + n, s.stop + n⟩

/-- The kind of a token `n` bytes further. -/
def TokenKind.shift (n : Nat) : TokenKind → TokenKind
  | fault e => fault (e.shift n)
  | kind => kind

namespace Token

/-- The token `n` bytes further. -/
def shift (n : Nat) (t : Token) : Token :=
  ⟨t.kind.shift n, t.span.shift n⟩

/-- The token with its span `n` bytes further, whatever its kind. -/
def move (n : Nat) (t : Token) : Token :=
  ⟨t.kind, t.span.shift n⟩

end Token

/-- The path `n` bytes further. -/
def Path.shift (n : Nat) (p : Path) : Path :=
  { p with span := p.span.shift n }

/-- The call `n` bytes further. -/
def Call.shift (n : Nat) (c : Call) : Call :=
  ⟨c.name, c.args.map (Path.shift n), c.span.shift n⟩

/-- The expression `n` bytes further. -/
def Expr.shift (n : Nat) : Expr → Expr
  | path p => path (p.shift n)
  | call c => call (c.shift n)

/-- The placeholder `n` bytes further. -/
def Placeholder.shift (n : Nat) (p : Placeholder) : Placeholder :=
  ⟨p.expr.shift n, p.span.shift n⟩

/-- The part `n` bytes further. -/
def Part.shift (n : Nat) : Part → Part
  | text s => text s
  | placeholder p => placeholder (p.shift n)

/-- The outcome of a parse `n` bytes further. -/
def ParseStop.shift (n : Nat) : ParseStop → ParseStop
  | error e => error (e.shift n)
  | outOfTokens => outOfTokens

/-! ## The scan -/

namespace Token

/-- Punctuation is no fault. -/
theorem shift_punctuation? {c : Char} {kind : TokenKind}
    (h : punctuation? c = some kind) (n : Nat) : kind.shift n = kind := by
  rcases punctuation?_eq_some h with
      ⟨-, rfl⟩ | ⟨-, rfl⟩ | ⟨-, rfl⟩ | ⟨-, rfl⟩ <;> rfl

/-- Both modes of the scan make the same tokens further back. -/
theorem scanLiteral_shift (n : Nat) :
    ∀ (pos : Nat) (cs : List Char),
      scanLiteral (pos + n) cs = (scanLiteral pos cs).map (shift n) := by
  apply scanLiteral.induct
    (fun pos cs =>
      scanLiteral (pos + n) cs = (scanLiteral pos cs).map (shift n))
    (fun opened pos cs => scanPlaceholder (opened + n) (pos + n) cs
      = (scanPlaceholder opened pos cs).map (shift n))
  -- literal text: its end, a brace that opens, one that closes, a run
  · intro pos
    rw [scanLiteral, scanLiteral]
    rfl
  · intro pos c cs hc ih
    rw [scanLiteral, if_pos hc, scanLiteral, if_pos hc, List.map_cons, ← ih,
      Nat.add_right_comm]
    rfl
  · intro pos c cs hopen hc
    rw [scanLiteral, if_neg hopen, if_pos hc, scanLiteral, if_neg hopen,
      if_pos hc, Nat.add_right_comm]
    rfl
  · intro pos c cs hopen hclose run stop ih
    have hstop : pos + n + Text.byteLength (c :: cs.takeWhile isLiteral)
        = stop + n := Nat.add_right_comm ..
    rw [scanLiteral, if_neg hopen, if_neg hclose, scanLiteral,
      if_neg hopen, if_neg hclose]
    simp only [List.map_cons, hstop, ih]
    rfl
  -- placeholders: their end, a blank, the two braces, punctuation, a
  -- name, and what is none of these
  · intro opened pos
    rw [scanPlaceholder, scanPlaceholder]
    rfl
  · intro opened pos c cs next hblank ih
    rw [scanPlaceholder, if_pos hblank, scanPlaceholder, if_pos hblank,
      ← ih, Nat.add_right_comm]
  · intro opened pos c cs hblank hc
    rw [scanPlaceholder, if_neg hblank, if_pos hc, scanPlaceholder,
      if_neg hblank, if_pos hc, Nat.add_right_comm]
    rfl
  · intro opened pos c cs next hblank hopen hc ih
    rw [scanPlaceholder, if_neg hblank, if_neg hopen, if_pos hc,
      scanPlaceholder, if_neg hblank, if_neg hopen, if_pos hc,
      List.map_cons, ← ih, Nat.add_right_comm]
    rfl
  · intro opened pos c cs next hblank hopen hclose kind hkind ih
    have hnext : pos + n + c.utf8Size = next + n := Nat.add_right_comm ..
    rw [scanPlaceholder, if_neg hblank, if_neg hopen, if_neg hclose, hkind,
      scanPlaceholder, if_neg hblank, if_neg hopen, if_neg hclose, hkind]
    simp only [List.map_cons, hnext, ih, shift, shift_punctuation? hkind]
    rfl
  · intro opened pos c cs hblank hopen hclose hkind hstart run stop ih
    have hstop : pos + n + Text.byteLength
          (c :: cs.takeWhile Text.isIdentRest)
        = stop + n := Nat.add_right_comm ..
    rw [scanPlaceholder, if_neg hblank, if_neg hopen, if_neg hclose, hkind,
      scanPlaceholder, if_neg hblank, if_neg hopen, if_neg hclose, hkind]
    simp only [hstart, if_true, List.map_cons, hstop, ih]
    rfl
  · intro opened pos c cs hblank hopen hclose hkind hstart
    have hstop : pos + n + c.utf8Size = pos + c.utf8Size + n :=
      Nat.add_right_comm ..
    rw [scanPlaceholder, if_neg hblank, if_neg hopen, if_neg hclose, hkind,
      scanPlaceholder, if_neg hblank, if_neg hopen, if_neg hclose, hkind]
    simp only [hstart, hstop]
    rfl

/-- The scan of a text further back. -/
theorem scanLiteral_eq_map_scan (n : Nat) (source : String) :
    scanLiteral n source.toList = (scan source).map (shift n) := by
  have h := scanLiteral_shift n 0 source.toList
  rwa [Nat.zero_add] at h

/-- The first fault of a text further back. -/
theorem firstFault?_scanLiteral (n : Nat) (source : String) :
    Parse.firstFault? (scanLiteral n source.toList)
      = (Parse.firstFault? (scan source)).map (.shift n) := by
  rw [scanLiteral_eq_map_scan, Parse.firstFault?, Parse.firstFault?]
  induction scan source with
  | nil => rfl
  | cons t ts ih =>
    rw [List.map_cons, List.findSome?_cons, List.findSome?_cons, ih]
    cases h : t.kind <;> simp [shift, TokenKind.shift, TokenKind.fault?, h]

/-- Without faults the whole token moves with its span. -/
theorem map_shift_eq_map_move (n : Nat) {ts : List Token}
    (h : Parse.firstFault? ts = none) :
    ts.map (shift n) = ts.map (move n) := by
  refine List.map_congr_left fun t ht => ?_
  have hnone : t.kind.fault? = none :=
    List.findSome?_eq_none_iff.mp h t ht
  cases hkind : t.kind with
  | fault e => simp [hkind, TokenKind.fault?] at hnone
  | _ => simp [shift, move, hkind, TokenKind.shift]

end Token

/-! ## The parser -/

namespace Parse

variable {α : Type} (n : Nat)

/-- The outcome of a parser function `n` bytes further, where `f` says
what becomes of the piece. -/
def moved (f : α → α) : Outcome α → Outcome α
  | .ok (a, rest) => .ok (f a, rest.map (Token.move n))
  | .error e => .error (e.shift n)

theorem fields?_move (stop : Nat) (ts : List Token) :
    fields? (stop + n) (ts.map (Token.move n))
      = moved n (fun r => (r.1, r.2 + n)) (fields? stop ts) := by
  fun_induction fields? stop ts with
  | case1 => rfl
  | case2 stop t hdot =>
    simp [fields?, Token.move, hdot, moved, ParseStop.shift]
  | case3 stop t hdot => simp [fields?, Token.move, hdot, moved]
  | case4 stop t u rest hdot name hname names stop' rest' hrest ih =>
    rw [hrest] at ih
    have hnext : fields? (u.span.shift n).stop (rest.map (Token.move n))
        = _ := ih
    simp [fields?, Token.move, hdot, hname, hnext, moved]
  | case5 stop t u rest hdot name hname e hrest ih =>
    rw [hrest] at ih
    have hnext : fields? (u.span.shift n).stop (rest.map (Token.move n))
        = _ := ih
    simp [fields?, Token.move, hdot, hname, hnext, moved]
  | case6 stop t u rest hdot hname =>
    simp only [List.map_cons, fields?, Token.move, hdot, if_true]
    cases hkind : u.kind with
    | identifier name => exact absurd hkind (hname name)
    | _ => simp [unexpected, hkind, moved, ParseStop.shift,
        TemplateError.shift, Span.shift]
  | case7 stop t u rest hdot => simp [fields?, Token.move, hdot, moved]

theorem pathFrom?_move (root : String) (span : Span) (ts : List Token) :
    pathFrom? root (span.shift n) (ts.map (Token.move n))
      = moved n (Path.shift n) (pathFrom? root span ts) := by
  have hfields : fields? (span.shift n).stop (ts.map (Token.move n)) = _ :=
    fields?_move n span.stop ts
  rw [pathFrom?, hfields, pathFrom?]
  cases fields? span.stop ts <;> rfl

theorem path?_move (ts : List Token) :
    path? (ts.map (Token.move n)) = moved n (Path.shift n) (path? ts) := by
  cases ts with
  | nil => rfl
  | cons t ts =>
    simp only [List.map_cons, path?, Token.move]
    cases hkind : t.kind with
    | identifier name => exact pathFrom?_move n name t.span ts
    | _ => simp [unexpected, hkind, moved, ParseStop.shift,
        TemplateError.shift, Span.shift]

theorem operands?_move (ts : List Token) :
    operands? (ts.map (Token.move n))
      = moved n (List.map (Path.shift n)) (operands? ts) := by
  fun_induction operands? ts with
  | case1 ts e hp =>
    rw [operands?, path?_move, hp]
    rfl
  | case2 ts p hp =>
    rw [operands?, path?_move, hp]
    rfl
  | case3 ts p t rest hp hcomma ps rest' hrest ih =>
    have hmoved : path? (ts.map (Token.move n))
        = .ok (p.shift n, t.move n :: rest.map (Token.move n)) := by
      rw [path?_move, hp]
      rfl
    rw [hrest] at ih
    rw [operands?, hmoved]
    simp [Token.move, hcomma, ih, moved]
  | case4 ts p t rest hp hcomma e hrest ih =>
    have hmoved : path? (ts.map (Token.move n))
        = .ok (p.shift n, t.move n :: rest.map (Token.move n)) := by
      rw [path?_move, hp]
      rfl
    rw [hrest] at ih
    rw [operands?, hmoved]
    simp [Token.move, hcomma, ih, moved]
  | case5 ts p t rest hp hcomma =>
    have hmoved : path? (ts.map (Token.move n))
        = .ok (p.shift n, t.move n :: rest.map (Token.move n)) := by
      rw [path?_move, hp]
      rfl
    rw [operands?, hmoved]
    simp [Token.move, hcomma, moved]

theorem closeCall?_move (name : String) (start : Nat) (args : List Path)
    (ts : List Token) :
    closeCall? name (start + n) (args.map (Path.shift n))
        (ts.map (Token.move n))
      = moved n (Expr.shift n) (closeCall? name start args ts) := by
  cases ts with
  | nil => rfl
  | cons t ts =>
    simp only [List.map_cons, closeCall?, Token.move]
    split <;> rfl

theorem call?_move (name : String) (start : Nat) (ts : List Token) :
    call? name (start + n) (ts.map (Token.move n))
      = moved n (Expr.shift n) (call? name start ts) := by
  cases ts with
  | nil => rfl
  | cons t ts =>
    have hoperands := operands?_move n (t :: ts)
    simp only [List.map_cons, Token.move] at hoperands
    simp only [List.map_cons, call?, Token.move, hoperands]
    split
    · rfl
    · cases operands? (t :: ts) with
      | error e => rfl
      | ok r => exact closeCall?_move n name start r.1 r.2

theorem expr?_move (name : String) (span : Span) (ts : List Token) :
    expr? name (span.shift n) (ts.map (Token.move n))
      = moved n (Expr.shift n) (expr? name span ts) := by
  cases ts with
  | nil => rfl
  | cons t ts =>
    have hpath := pathFrom?_move n name span (t :: ts)
    simp only [List.map_cons, Token.move, Span.shift] at hpath
    simp only [List.map_cons, expr?, Token.move, hpath, Span.shift,
      Nat.add_right_cancel_iff]
    split
    · exact call?_move n name span.start ts
    · cases pathFrom? name span (t :: ts) <;> rfl

theorem closePlaceholder?_move (start : Nat) (e : Expr) (ts : List Token) :
    closePlaceholder? (start + n) (e.shift n) (ts.map (Token.move n))
      = moved n (Placeholder.shift n) (closePlaceholder? start e ts) := by
  cases ts with
  | nil => rfl
  | cons t ts =>
    simp only [List.map_cons, closePlaceholder?, Token.move]
    split <;> rfl

theorem placeholder?_move (start : Nat) (ts : List Token) :
    placeholder? (start + n) (ts.map (Token.move n))
      = moved n (Placeholder.shift n) (placeholder? start ts) := by
  cases ts with
  | nil => rfl
  | cons t ts =>
    simp only [List.map_cons, placeholder?, Token.move]
    cases hkind : t.kind with
    | closeBrace => rfl
    | identifier name =>
      simp only [expr?_move]
      cases expr? name t.span ts with
      | error e => rfl
      | ok r => exact closePlaceholder?_move n start r.1 r.2
    | _ => simp [unexpected, hkind, moved, ParseStop.shift,
        TemplateError.shift, Span.shift]

/-- The outcome for a whole list `n` bytes further. -/
def movedParts : Except ParseStop (List Part) → Except ParseStop (List Part)
  | .ok ps => .ok (ps.map (Part.shift n))
  | .error e => .error (e.shift n)

theorem parts?_move (ts : List Token) :
    parts? (ts.map (Token.move n)) = movedParts n (parts? ts) := by
  fun_induction parts? ts with
  | case1 => simp [parts?, movedParts, ParseStop.shift]
  | case2 t rest hkind => simp [parts?, Token.move, hkind, movedParts]
  | case3 t rest s hkind ps hrest ih =>
    rw [hrest] at ih
    simp [parts?, Token.move, hkind, ih, movedParts, Part.shift]
  | case4 t rest s hkind e hrest ih =>
    rw [hrest] at ih
    simp [parts?, Token.move, hkind, ih, movedParts]
  | case5 t rest hkind e hp =>
    have hmoved : placeholder? (t.span.shift n).start
        (rest.map (Token.move n)) = _ := placeholder?_move n _ rest
    rw [hp] at hmoved
    rw [List.map_cons, parts?]
    simp only [Token.move, hkind]
    rw [hmoved]
    rfl
  | case6 t rest hkind p rest' hp ps hrest ih =>
    have hmoved : placeholder? (t.span.shift n).start
        (rest.map (Token.move n)) = _ := placeholder?_move n _ rest
    rw [hp] at hmoved
    rw [hrest] at ih
    rw [List.map_cons, parts?]
    simp only [Token.move, hkind]
    rw [hmoved]
    simp [moved, ih, movedParts, Part.shift]
  | case7 t rest hkind p rest' hp e hrest ih =>
    have hmoved : placeholder? (t.span.shift n).start
        (rest.map (Token.move n)) = _ := placeholder?_move n _ rest
    rw [hp] at hmoved
    rw [hrest] at ih
    rw [List.map_cons, parts?]
    simp only [Token.move, hkind]
    rw [hmoved]
    simp [moved, ih, movedParts]
  | case8 t rest hfinish htext hopen =>
    rw [List.map_cons, parts?]
    simp only [Token.move]
    cases hkind : t.kind with
    | finish => exact absurd hkind hfinish
    | text s => exact absurd hkind (htext s)
    | openBrace => exact absurd hkind hopen
    | _ => simp [unexpected, hkind, movedParts, ParseStop.shift,
        TemplateError.shift, Span.shift]

/-- The parts of a text further back. -/
theorem parts?_scanLiteral {source : String}
    (h : firstFault? (Token.scan source) = none) :
    parts? (Token.scanLiteral n source.toList)
      = movedParts n (parts? (Token.scan source)) := by
  rw [Token.scanLiteral_eq_map_scan, Token.map_shift_eq_map_move n h,
    parts?_move]

end Parse

/-! ## Resolution -/

section

variable (table : BuiltinTable) (c : Contract) (m : Method) (n : Nat)

theorem Path.resolve_shift (p : Path) :
    (p.shift n).resolve m = (p.resolve m).mapError (.shift n) := by
  simp only [Path.resolve, Path.shift]
  cases m.param? p.root with
  | none => rfl
  | some q =>
    dsimp only
    split
    · rfl
    · split
      · split <;> rfl
      · rfl

theorem Path.resolveAll_shift (ps : List Path) :
    Path.resolveAll m (ps.map (Path.shift n))
      = (Path.resolveAll m ps).mapError (.shift n) := by
  induction ps with
  | nil => rfl
  | cons p ps ih =>
    rw [List.map_cons, Path.resolveAll, Path.resolve_shift, ih,
      Path.resolveAll]
    cases p.resolve m with
    | error e => rfl
    | ok q => cases Path.resolveAll m ps <;> rfl

theorem Call.resolve_shift (call : Call) :
    (call.shift n).resolve table m
      = (call.resolve table m).mapError (.shift n) := by
  simp only [Call.resolve, Call.shift, List.length_map, List.isEmpty_map,
    Path.resolveAll_shift]
  cases table.get? call.name with
  | none => rfl
  | some b =>
    dsimp only
    split
    · rfl
    · split
      · rfl
      · cases Path.resolveAll m call.args <;> rfl

theorem Path.resolveBare_shift (p : Path) :
    (p.shift n).resolveBare table c m
      = (p.resolveBare table c m).mapError (.shift n) := by
  have hroot : (p.shift n).root = p.root := rfl
  have hfields : (p.shift n).fields = p.fields := rfl
  have hcall : Call.resolve table m ⟨p.root, [], (p.shift n).span⟩ = _ :=
    Call.resolve_shift table m n ⟨p.root, [], p.span⟩
  rw [Path.resolveBare, Path.resolveBare]
  simp only [hroot, hfields, hcall, Path.resolve_shift]
  cases ReservedName.ofText? p.root with
  | some r => cases p.fields.head? <;> rfl
  | none =>
    dsimp only
    split
    · cases p.resolve m <;> rfl
    · split <;> rfl

theorem Part.resolve_shift (p : Part) :
    (p.shift n).resolve table c m
      = (p.resolve table c m).mapError (.shift n) := by
  match p with
  | .text s => rfl
  | .placeholder ⟨.path p, span⟩ =>
    exact Path.resolveBare_shift table c m n p
  | .placeholder ⟨.call call, span⟩ =>
    exact Call.resolve_shift table m n call

theorem Part.resolveAll_shift (ps : List Part) :
    Part.resolveAll table c m (ps.map (Part.shift n))
      = (Part.resolveAll table c m ps).mapError (.shift n) := by
  induction ps with
  | nil => rfl
  | cons p ps ih =>
    rw [List.map_cons, Part.resolveAll, Part.resolve_shift, ih,
      Part.resolveAll]
    cases p.resolve table c m with
    | error e => rfl
    | ok s => cases Part.resolveAll table c m ps <;> rfl

end

end PolicyWeave
