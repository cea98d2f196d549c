import PolicyWeave.Proofs.Template.Recognition

/-!
# One token at a time

The parser is also a cursor: it stands in front of one token, looks at that,
and then either takes it or halts.  It looks neither back nor further ahead.

* `Parse.Stage` is what was taken last inside a placeholder, and
  `Parse.Stage.next` what one token does there.
* `Parse.Cursor` is what the parser knows at its place, `Parse.Cursor.move`
  what one token does to it, and `Parse.Cursor.run` reads a list.
* `Template.ofTokens?_eq_run`: that is the parser of templates.  There is one
  lemma for each of its functions.
-/

namespace PolicyWeave

namespace Parse

/-! ## The cursor -/

/-- A call whose operands are not all read. -/
structure OpenCall where
  name : String
  start : Nat
  args : List Path
  deriving DecidableEq, Repr

/-- What was taken last inside a placeholder.  A path may be an operand of an
open call. -/
inductive Stage where
  | brace
  | root (name : String) (span : Span)
  | paren (name : String) (start : Nat)
  | comma (c : OpenCall)
  | dot (c : Option OpenCall) (p : Path)
  | path (c : Option OpenCall) (p : Path)
  | whole (e : Expr)
  deriving DecidableEq, Repr

/-- What the parser knows at a place: the parts that it has read, and, inside
a placeholder, where that starts and what was taken last. -/
inductive Cursor where
  | outside (parts : List Part)
  | inside (parts : List Part) (start : Nat) (stage : Stage)
  deriving DecidableEq, Repr

namespace Stage

/-- Behind a token inside a placeholder there is a stage, or the placeholder
is read. -/
abbrev Next := Except ParseStop (Stage ⊕ Placeholder)

/-- The end of a placeholder. -/
def close (start : Nat) (e : Expr) (t : Token) : Next :=
  if t.kind = .closeBrace then .ok (.inr ⟨e, ⟨start, t.span.stop⟩⟩)
  else unexpected t "'\x7d'"

/-- The root of an operand. -/
def operand (c : OpenCall) (t : Token) : Next :=
  match t.kind with
  | .identifier name => .ok (.inl (.path (some c) ⟨name, [], t.span⟩))
  | _ => unexpected t "identifier"

/-- What stands behind an operand. -/
def behindOperand (c : OpenCall) (p : Path) (t : Token) : Next :=
  if t.kind = .comma then
    .ok (.inl (.comma ⟨c.name, c.start, c.args ++ [p]⟩))
  else if t.kind = .closeParen then
    .ok (.inl (.whole
      (.call ⟨c.name, c.args ++ [p], ⟨c.start, t.span.stop⟩⟩)))
  else unexpected t "',' or ')'"

/-- What stands behind a path. -/
def behindPath (start : Nat) (c : Option OpenCall) (p : Path) (t : Token) :
    Next :=
  if t.kind = .dot then .ok (.inl (.dot c p))
  else
    match c with
    | none => close start (.path p) t
    | some c => behindOperand c p t

/-- What one token does inside the placeholder that starts at `start`. -/
def next (start : Nat) (t : Token) : Stage → Next
  | brace =>
    match t.kind with
    | .closeBrace => .error (.error (.emptyPlaceholder start))
    | .identifier name => .ok (.inl (.root name t.span))
    | _ => unexpected t "identifier"
  | root name span =>
    if t.kind = .openParen ∧ t.span.start = span.stop then
      .ok (.inl (.paren name span.start))
    else behindPath start none ⟨name, [], span⟩ t
  | paren name start =>
    if t.kind = .closeParen then
      .ok (.inl (.whole (.call ⟨name, [], ⟨start, t.span.stop⟩⟩)))
    else operand ⟨name, start, []⟩ t
  | comma c => operand c t
  | dot c p =>
    match t.kind with
    | .identifier name =>
      .ok (.inl (.path c
        ⟨p.root, p.fields ++ [name], ⟨p.span.start, t.span.stop⟩⟩))
    | _ => unexpected t "identifier"
  | path c p => behindPath start c p t
  | whole e => close start e t

end Stage

namespace Cursor

/-- One token is taken, or the parser halts in front of it. -/
inductive Move where
  | take (c : Cursor)
  | halt (r : Except ParseStop (List Part))
  deriving DecidableEq

/-- What the token at its place does to the parser. -/
def move : Cursor → Token → Move
  | outside parts, t =>
    match t.kind with
    | .finish => .halt (.ok parts)
    | .text s => .take (outside (parts ++ [.text s]))
    | .openBrace => .take (inside parts t.span.start .brace)
    | _ => .halt (unexpected t "literal text or '\x7b'")
  | inside parts start stage, t =>
    match stage.next start t with
    | .ok (.inl stage) => .take (inside parts start stage)
    | .ok (.inr p) => .take (outside (parts ++ [.placeholder p]))
    | .error e => .halt (.error e)

/-- The rest of a list, read from its front. -/
def run (c : Cursor) : List Token → Except ParseStop (List Part)
  | [] => .error .outOfTokens
  | t :: ts =>
    match c.move t with
    | .take c => run c ts
    | .halt r => r

/-! ## The parser is the cursor -/

@[simp] theorem run_nil (c : Cursor) : run c [] = .error .outOfTokens := rfl

/-- Behind the fields there is a token, and it is no dot. -/
theorem exists_of_fields?_eq_ok {stop : Nat} {ts rest : List Token}
    {r : List String × Nat} (h : fields? stop ts = .ok (r, rest)) :
    ∃ t more, rest = t :: more ∧ t.kind ≠ .dot := by
  fun_induction fields? stop ts generalizing r rest with
  | case3 stop t hdot =>
    cases h
    exact ⟨t, [], rfl, hdot⟩
  | case4 stop t u rest' hdot name hname names stop' rest'' hrest ih =>
    cases h
    exact ih hrest
  | case7 stop t u rest' hdot =>
    cases h
    exact ⟨t, u :: rest', rfl, hdot⟩
  | _ => cases h

theorem exists_of_pathFrom?_eq_ok {root : String} {span : Span}
    {ts rest : List Token} {p : Path}
    (h : pathFrom? root span ts = .ok (p, rest)) :
    ∃ t more, rest = t :: more ∧ t.kind ≠ .dot := by
  unfold pathFrom? at h
  split at h
  · rename_i hfields
    cases h
    exact exists_of_fields?_eq_ok hfields
  · cases h

theorem exists_of_path?_eq_ok {ts rest : List Token} {p : Path}
    (h : path? ts = .ok (p, rest)) :
    ∃ t more, rest = t :: more ∧ t.kind ≠ .dot := by
  unfold path? at h
  split at h
  · cases h
  · split at h
    · exact exists_of_pathFrom?_eq_ok h
    · cases h

section

variable (parts : List Part) (start : Nat)

/-- The run behind a token inside a placeholder. -/
def resume (ts : List Token) : Stage.Next → Except ParseStop (List Part)
  | .ok (.inl stage) => run (inside parts start stage) ts
  | .ok (.inr p) => run (outside (parts ++ [.placeholder p])) ts
  | .error e => .error e

theorem run_inside (stage : Stage) (t : Token) (ts : List Token) :
    run (inside parts start stage) (t :: ts)
      = resume parts start ts (stage.next start t) := by
  rw [run, move]
  rcases stage.next start t with e | stage | p <;> rfl

/-- Fields are read off the rest of a path. -/
theorem run_fields? (c : Option OpenCall) (root : String) (first stop : Nat)
    (names : List String) (ts : List Token) :
    run (inside parts start (.path c ⟨root, names, ⟨first, stop⟩⟩)) ts
      = (fields? stop ts).bind fun ((more, stop), rest) =>
          run (inside parts start
            (.path c ⟨root, names ++ more, ⟨first, stop⟩⟩)) rest := by
  fun_induction fields? stop ts generalizing names with
  | case1 => rfl
  | case2 stop t hdot =>
    simp [run_inside, resume, Stage.next, Stage.behindPath, hdot,
      Except.bind]
  | case3 => simp [Except.bind]
  | case4 stop t u rest hdot name hname more stop' rest' hrest ih =>
    have hih := ih (names ++ [name])
    simp only [hrest, Except.bind] at hih
    simpa [run_inside, resume, Stage.next, Stage.behindPath, hdot, hname,
      Except.bind] using hih
  | case5 stop t u rest hdot name hname e hrest ih =>
    have hih := ih (names ++ [name])
    simp only [hrest, Except.bind] at hih
    simpa [run_inside, resume, Stage.next, Stage.behindPath, hdot, hname,
      Except.bind] using hih
  | case6 stop t u rest hdot hname =>
    simp [run_inside, resume, Stage.next, Stage.behindPath, hdot,
      Except.bind, unexpected]
  | case7 => simp [Except.bind]

theorem run_pathFrom? (c : Option OpenCall) (root : String) (span : Span)
    (ts : List Token) :
    run (inside parts start (.path c ⟨root, [], span⟩)) ts
      = (pathFrom? root span ts).bind fun (p, rest) =>
          run (inside parts start (.path c p)) rest := by
  have hfields := run_fields? parts start c root span.start span.stop [] ts
  rw [hfields, pathFrom?]
  rcases fields? span.stop ts with e | ⟨⟨names, stop⟩, rest⟩ <;> rfl

/-- An operand is a path of an open call. -/
theorem resume_operand (c : OpenCall) (t : Token) (ts : List Token) :
    resume parts start ts (Stage.operand c t)
      = (path? (t :: ts)).bind fun (p, rest) =>
          run (inside parts start (.path (some c) p)) rest := by
  simp only [Stage.operand, path?]
  cases t.kind with
  | identifier name => exact run_pathFrom? parts start (some c) name t.span ts
  | _ => rfl

theorem run_comma (c : OpenCall) (ts : List Token) :
    run (inside parts start (.comma c)) ts
      = (path? ts).bind fun (p, rest) =>
          run (inside parts start (.path (some c) p)) rest := by
  cases ts with
  | nil => rfl
  | cons t ts => rw [run_inside, Stage.next, resume_operand]

/-- The closing brace ends a placeholder. -/
theorem resume_close (e : Expr) (t : Token) (ts : List Token) :
    resume parts start ts (Stage.close start e t)
      = (closePlaceholder? start e (t :: ts)).bind fun (p, rest) =>
          run (outside (parts ++ [.placeholder p])) rest := by
  simp only [Stage.close, closePlaceholder?]
  split <;> rfl

theorem run_whole (e : Expr) (ts : List Token) :
    run (inside parts start (.whole e)) ts
      = (closePlaceholder? start e ts).bind fun (p, rest) =>
          run (outside (parts ++ [.placeholder p])) rest := by
  cases ts with
  | nil => rfl
  | cons t ts => rw [run_inside, Stage.next, resume_close]

/-- A closing parenthesis ends a call. -/
theorem resume_behindOperand (c : OpenCall) (p : Path) {t : Token}
    (hcomma : t.kind ≠ .comma) (ts : List Token) :
    resume parts start ts (Stage.behindOperand c p t)
      = (closeCall? c.name c.start (c.args ++ [p]) (t :: ts)).bind
          fun (e, rest) => run (inside parts start (.whole e)) rest := by
  rw [Stage.behindOperand, if_neg hcomma]
  simp only [closeCall?]
  split <;> rfl

/-- Operands are read up to the closing parenthesis. -/
theorem run_operands? (c : OpenCall) (ts : List Token) :
    run (inside parts start (.comma c)) ts
      = (operands? ts).bind fun (ps, rest) =>
          (closeCall? c.name c.start (c.args ++ ps) rest).bind
            fun (e, rest) => run (inside parts start (.whole e)) rest := by
  rw [run_comma]
  -- the open call takes one operand more with every comma
  fun_induction operands? ts generalizing c with
  | case1 ts e hpath => rw [hpath]; rfl
  | case2 ts p hpath =>
    obtain ⟨t, more, hrest, -⟩ := exists_of_path?_eq_ok hpath
    cases hrest
  | case3 ts p t rest hpath hcomma ps rest' hrest ih =>
    have hih := ih ⟨c.name, c.start, c.args ++ [p]⟩
    rw [← run_comma] at hih
    simpa [hpath, Except.bind, run_inside, resume, Stage.next,
      Stage.behindPath, Stage.behindOperand, hcomma, hrest] using hih
  | case4 ts p t rest hpath hcomma e hrest ih =>
    have hih := ih ⟨c.name, c.start, c.args ++ [p]⟩
    rw [← run_comma] at hih
    simpa [hpath, Except.bind, run_inside, resume, Stage.next,
      Stage.behindPath, Stage.behindOperand, hcomma, hrest] using hih
  | case5 ts p t rest hpath hcomma =>
    obtain ⟨t', more, hrest, hdot⟩ := exists_of_path?_eq_ok hpath
    obtain ⟨rfl, rfl⟩ := List.cons.inj hrest
    rw [hpath]
    simp only [Except.bind, run_inside, Stage.next, Stage.behindPath,
      if_neg hdot]
    exact resume_behindOperand parts start c p hcomma rest

/-- A call is read behind its opening parenthesis. -/
theorem run_call? (name : String) (first : Nat) (ts : List Token) :
    run (inside parts start (.paren name first)) ts
      = (call? name first ts).bind fun (e, rest) =>
          run (inside parts start (.whole e)) rest := by
  cases ts with
  | nil => rfl
  | cons t ts =>
    rw [run_inside, Stage.next, call?]
    split
    · rfl
    · -- in front of its first operand a call is like one behind a comma
      have hoperands := run_operands? parts start ⟨name, first, []⟩ (t :: ts)
      rw [run_inside, Stage.next] at hoperands
      rw [hoperands]
      rcases operands? (t :: ts) with e | ⟨ps, rest⟩ <;> rfl

/-- A path that is no operand is a whole expression. -/
theorem run_path (name : String) (span : Span) (ts : List Token) :
    run (inside parts start (.path none ⟨name, [], span⟩)) ts
      = (pathFrom? name span ts).bind fun (p, rest) =>
          run (inside parts start (.whole (.path p))) rest := by
  rw [run_pathFrom?]
  cases h : pathFrom? name span ts with
  | error e => rfl
  | ok r =>
    obtain ⟨p, rest⟩ := r
    obtain ⟨t, more, rfl, hdot⟩ := exists_of_pathFrom?_eq_ok h
    simp only [Except.bind, run_inside, Stage.next, Stage.behindPath,
      if_neg hdot]

/-- An expression is a call or a path. -/
theorem run_expr? (name : String) (span : Span) (ts : List Token) :
    run (inside parts start (.root name span)) ts
      = (expr? name span ts).bind fun (e, rest) =>
          run (inside parts start (.whole e)) rest := by
  cases ts with
  | nil => rfl
  | cons t ts =>
    rw [run_inside, Stage.next, expr?]
    split
    · exact run_call? parts start name span.start ts
    · have hpath := run_path parts start name span (t :: ts)
      rw [run_inside, Stage.next] at hpath
      rw [hpath]
      rcases pathFrom? name span (t :: ts) with e | ⟨p, rest⟩ <;> rfl

theorem run_placeholder? (ts : List Token) :
    run (inside parts start .brace) ts
      = (placeholder? start ts).bind fun (p, rest) =>
          run (outside (parts ++ [.placeholder p])) rest := by
  cases ts with
  | nil => rfl
  | cons t ts =>
    rw [run_inside]
    simp only [Stage.next, placeholder?]
    cases t.kind with
    | identifier name =>
      simp only [resume, run_expr?]
      rcases expr? name t.span ts with e | ⟨e, rest⟩
      · rfl
      · exact run_whole parts start e rest
    | _ => rfl

end

/-- Parts are read up to the first `finish`. -/
theorem run_parts? (parts : List Part) (ts : List Token) :
    run (outside parts) ts = (parts? ts).map (parts ++ ·) := by
  fun_induction parts? ts generalizing parts with
  | case1 => rfl
  | case2 t rest hkind => simp [run, move, hkind, Except.map]
  | case3 t rest s hkind ps hrest ih =>
    simp [run, move, hkind, ih, hrest, Except.map]
  | case4 t rest s hkind e hrest ih =>
    simp [run, move, hkind, ih, hrest, Except.map]
  | case5 t rest hkind e hread =>
    simp [run, move, hkind, run_placeholder?, hread, Except.map, Except.bind]
  | case6 t rest hkind p rest' hread ps hrest ih =>
    simp [run, move, hkind, run_placeholder?, hread, ih, hrest, Except.map,
      Except.bind]
  | case7 t rest hkind p rest' hread e hrest ih =>
    simp [run, move, hkind, run_placeholder?, hread, ih, hrest, Except.map,
      Except.bind]
  | case8 t rest hfinish htext hbrace =>
    cases hkind : t.kind with
    | finish => exact absurd hkind hfinish
    | text s => exact absurd hkind (htext s)
    | openBrace => exact absurd hkind hbrace
    | _ => simp [run, move, hkind, unexpected, Except.map]

end Cursor

end Parse

/-- The parser of templates is the run of a cursor. -/
theorem Template.ofTokens?_eq_run {ts : List Token}
    (h : Parse.firstFault? ts = none) :
    ofTokens? ts = (Parse.Cursor.run (.outside []) ts).map Template.mk := by
  rw [Parse.Cursor.run_parts?, ofTokens?, ← Parse.firstFault?, h]
  rcases Parse.parts? ts with e | ps <;> rfl

end PolicyWeave
