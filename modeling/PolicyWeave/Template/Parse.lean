import PolicyWeave.Template.Basic
import PolicyWeave.Template.Scan

/-!
# From tokens to templates

The parser reads a list of tokens from the front and never moves past a
`finish`.  It works on any list of tokens, not only on those of a scan; a
list without a `finish` may run out, which is an outcome of its own.

* `Parse.fields?`, `Parse.path?` and `Parse.operands?` read the pieces of
  an expression.
* `Parse.placeholder?` reads a placeholder.  A name with an opening
  parenthesis right behind it is a call.
* `Template.ofTokens?` reads a whole list, and `Template.parse?` a text.
-/

namespace PolicyWeave

/-- Why a list of tokens is no template: an error in it, or no token
left to look at. -/
inductive ParseStop where
  | error (e : TemplateError)
  | outOfTokens
  deriving DecidableEq, Repr

namespace Parse

/-- A piece read from the front of a list of tokens, and the rest. -/
abbrev Outcome (α : Type) := Except ParseStop (α × List Token)

/-- The error that `t` stands where `expected` should. -/
def unexpected {α : Type} (t : Token) (expected : String) :
    Except ParseStop α :=
  .error (.error (.unexpectedToken t.kind.describe expected t.span.start))

/-- The field names at the front, and where they end.  Without any, they
end at `stop`. -/
def fields? (stop : Nat) : List Token → Outcome (List String × Nat)
  | [] => .error .outOfTokens
  | [t] =>
    if t.kind = .dot then .error .outOfTokens else .ok (([], stop), [t])
  | t :: u :: rest =>
    if t.kind = .dot then
      match u.kind with
      | .identifier name =>
        match fields? u.span.stop rest with
        | .ok ((names, stop), rest) => .ok ((name :: names, stop), rest)
        | .error e => .error e
      | _ => unexpected u "identifier"
    else .ok (([], stop), t :: u :: rest)

/-- The rest of a path after its root. -/
def pathFrom? (root : String) (rootSpan : Span) (ts : List Token) :
    Outcome Path :=
  match fields? rootSpan.stop ts with
  | .ok ((names, stop), rest) =>
    .ok (⟨root, names, ⟨rootSpan.start, stop⟩⟩, rest)
  | .error e => .error e

/-- The path at the front. -/
def path? : List Token → Outcome Path
  | [] => .error .outOfTokens
  | t :: rest =>
    match t.kind with
    | .identifier name => pathFrom? name t.span rest
    | _ => unexpected t "identifier"

/-! ## Lengths -/

/-- Reading fields leaves no more tokens than there were. -/
theorem length_of_fields?_eq_ok {stop : Nat} {ts rest : List Token}
    {r : List String × Nat} (h : fields? stop ts = .ok (r, rest)) :
    rest.length ≤ ts.length := by
  fun_induction fields? stop ts generalizing r rest with
  | case1 => simp at h
  | case2 => simp at h
  | case3 => simp_all
  | case4 stop t u rest' ht name hu names stop' rest'' hr ih =>
    have := ih hr
    simp only [Except.ok.injEq, Prod.mk.injEq] at h
    obtain ⟨_, rfl⟩ := h
    simp only [List.length_cons]
    omega
  | case5 => simp at h
  | case6 => simp [unexpected] at h
  | case7 => simp_all

/-- Reading a path takes at least one token. -/
theorem length_of_path?_eq_ok {ts rest : List Token} {p : Path}
    (h : path? ts = .ok (p, rest)) : rest.length < ts.length := by
  unfold path? at h
  split at h
  · simp at h
  · split at h
    · unfold pathFrom? at h
      split at h
      · rename_i hf
        have := length_of_fields?_eq_ok hf
        simp only [Except.ok.injEq, Prod.mk.injEq] at h
        obtain ⟨_, rfl⟩ := h
        simp only [List.length_cons]
        omega
      · simp at h
    · simp [unexpected] at h

/-! ## Calls and placeholders -/

/-- One operand or more at the front, parted by commas. -/
def operands? (ts : List Token) : Outcome (List Path) :=
  match _h : path? ts with
  | .error e => .error e
  | .ok (_, []) => .error .outOfTokens
  | .ok (p, t :: rest) =>
    if t.kind = .comma then
      match operands? rest with
      | .ok (ps, rest) => .ok (p :: ps, rest)
      | .error e => .error e
    else .ok ([p], t :: rest)
termination_by ts.length
decreasing_by
  have := length_of_path?_eq_ok _h
  simp only [List.length_cons] at this
  omega

/-- The end of a call: the closing parenthesis. -/
def closeCall? (name : String) (start : Nat) (args : List Path) :
    List Token → Outcome Expr
  | [] => .error .outOfTokens
  | t :: rest =>
    if t.kind = .closeParen then
      .ok (.call ⟨name, args, ⟨start, t.span.stop⟩⟩, rest)
    else unexpected t "',' or ')'"

/-- A call after its opening parenthesis. -/
def call? (name : String) (start : Nat) : List Token → Outcome Expr
  | [] => .error .outOfTokens
  | t :: rest =>
    if t.kind = .closeParen then
      .ok (.call ⟨name, [], ⟨start, t.span.stop⟩⟩, rest)
    else
      match operands? (t :: rest) with
      | .ok (args, rest) => closeCall? name start args rest
      | .error e => .error e

/-- The expression that starts with a name.  It is a call when an opening
parenthesis follows the name without a gap. -/
def expr? (name : String) (span : Span) : List Token → Outcome Expr
  | [] => .error .outOfTokens
  | t :: rest =>
    if t.kind = .openParen ∧ t.span.start = span.stop then
      call? name span.start rest
    else
      match pathFrom? name span (t :: rest) with
      | .ok (p, rest) => .ok (.path p, rest)
      | .error e => .error e

/-- The end of a placeholder: the closing brace. -/
def closePlaceholder? (start : Nat) (expr : Expr) :
    List Token → Outcome Placeholder
  | [] => .error .outOfTokens
  | t :: rest =>
    if t.kind = .closeBrace then .ok (⟨expr, ⟨start, t.span.stop⟩⟩, rest)
    else unexpected t "'\x7d'"

/-- A placeholder after its opening brace, which stands at `start`. -/
def placeholder? (start : Nat) : List Token → Outcome Placeholder
  | [] => .error .outOfTokens
  | t :: rest =>
    match t.kind with
    | .closeBrace => .error (.error (.emptyPlaceholder start))
    | .identifier name =>
      match expr? name t.span rest with
      | .ok (e, rest) => closePlaceholder? start e rest
      | .error e => .error e
    | _ => unexpected t "identifier"

/-- Reading operands takes at least one token. -/
theorem length_of_operands?_eq_ok {ts rest : List Token} {ps : List Path}
    (h : operands? ts = .ok (ps, rest)) : rest.length < ts.length := by
  fun_induction operands? ts generalizing ps rest with
  | case1 => simp at h
  | case2 => simp at h
  | case3 =>
    rename_i hp _ _ _ hr ih
    have := ih hr
    have := length_of_path?_eq_ok hp
    simp only [Except.ok.injEq, Prod.mk.injEq] at h
    obtain ⟨_, rfl⟩ := h
    simp only [List.length_cons] at *
    omega
  | case4 => simp at h
  | case5 =>
    rename_i hp _
    have := length_of_path?_eq_ok hp
    simp only [Except.ok.injEq, Prod.mk.injEq] at h
    obtain ⟨_, rfl⟩ := h
    exact this

/-- Reading an expression leaves no more tokens than there were. -/
theorem length_of_expr?_eq_ok {name : String} {span : Span}
    {ts rest : List Token} {e : Expr}
    (h : expr? name span ts = .ok (e, rest)) :
    rest.length ≤ ts.length := by
  unfold expr? at h
  split at h
  · simp at h
  · split at h
    · unfold call? at h
      split at h
      · simp at h
      · split at h
        · simp only [Except.ok.injEq, Prod.mk.injEq] at h
          obtain ⟨_, rfl⟩ := h
          simp only [List.length_cons]
          omega
        · split at h
          · rename_i hops
            have := length_of_operands?_eq_ok hops
            unfold closeCall? at h
            split at h
            · simp at h
            · split at h
              · simp only [Except.ok.injEq, Prod.mk.injEq] at h
                obtain ⟨_, rfl⟩ := h
                simp only [List.length_cons] at *
                omega
              · simp [unexpected] at h
          · simp at h
    · unfold pathFrom? at h
      split at h
      · rename_i hp
        split at hp
        · rename_i hf
          have := length_of_fields?_eq_ok hf
          simp only [Except.ok.injEq, Prod.mk.injEq] at h hp
          obtain ⟨_, rfl⟩ := h
          obtain ⟨_, rfl⟩ := hp
          exact this
        · simp at hp
      · simp at h

/-- Reading a placeholder takes at least one token. -/
theorem length_of_placeholder?_eq_ok {start : Nat} {ts rest : List Token}
    {p : Placeholder} (h : placeholder? start ts = .ok (p, rest)) :
    rest.length < ts.length := by
  unfold placeholder? at h
  split at h
  · simp at h
  · split at h
    · simp at h
    · split at h
      · rename_i he
        have := length_of_expr?_eq_ok he
        unfold closePlaceholder? at h
        split at h
        · simp at h
        · split at h
          · simp only [Except.ok.injEq, Prod.mk.injEq] at h
            obtain ⟨_, rfl⟩ := h
            simp only [List.length_cons] at *
            omega
          · simp [unexpected] at h
      · simp at h
    · simp [unexpected] at h

/-! ## Whole lists -/

/-- The parts up to the first `finish`. -/
def parts? (ts : List Token) : Except ParseStop (List Part) :=
  match ts with
  | [] => .error .outOfTokens
  | t :: rest =>
    match t.kind with
    | .finish => .ok []
    | .text s =>
      match parts? rest with
      | .ok ps => .ok (.text s :: ps)
      | .error e => .error e
    | .openBrace =>
      match _h : placeholder? t.span.start rest with
      | .error e => .error e
      | .ok (p, rest') =>
        match parts? rest' with
        | .ok ps => .ok (.placeholder p :: ps)
        | .error e => .error e
    | _ => unexpected t "literal text or '\x7b'"
termination_by ts.length
decreasing_by
  · simp
  · have := length_of_placeholder?_eq_ok _h
    simp only [List.length_cons]
    omega

end Parse

namespace Template

/-- The template of a list of tokens.  A fault anywhere in the list is
answered before anything else. -/
def ofTokens? (ts : List Token) : Except ParseStop Template :=
  match ts.findSome? fun t => t.kind.fault? with
  | some e => .error (.error e)
  | none => (Parse.parts? ts).map Template.mk

/-- The template of a text. -/
def parse? (source : String) : Except ParseStop Template :=
  ofTokens? (Token.scan source)

/-- The template of a text, or the error in it.  The tokens of a text
never run out, so the only faults are errors with a position; a list cut
short counts as an unexpected end. -/
def parse (source : String) : Except TemplateError Template :=
  match parse? source with
  | .ok t => .ok t
  | .error (.error e) => .error e
  | .error .outOfTokens =>
    .error (.unexpectedToken "end of template" "literal text or '\x7b'"
      source.utf8ByteSize)

end Template

end PolicyWeave
