import PolicyWeave.Template.Parse

/-!
# Names in templates

Every name of a parsed template is an identifier: the roots and fields of
its paths and the builtins of its calls.

The scan makes name tokens of identifiers only, and the parser takes all
its names from tokens.  So there are two groups.

* `Token.named_of_mem_scan` is the fact about the scan.
* The parser lemmas, one for each function.  Each says that the piece
  which was read is `Named` when the tokens are, and that what is left is
  a suffix of the tokens, so that the next function can be asked.
-/

namespace PolicyWeave

/-! ## Tokens -/

namespace Token

/-- Whether the name that a token holds, if it holds one, is an
identifier. -/
def Named (t : Token) : Prop :=
  ∀ name, t.kind = .identifier name → Text.isIdentifier name = true

/-- Whether all tokens of a list are named so. -/
def AllNamed (ts : List Token) : Prop :=
  ∀ t ∈ ts, t.Named

theorem allNamed_nil : AllNamed [] := by
  intro t ht
  cases ht

theorem AllNamed.cons {t : Token} {ts : List Token} (h : t.Named)
    (hs : AllNamed ts) : AllNamed (t :: ts) := by
  intro u hu
  rcases List.mem_cons.mp hu with rfl | hu
  · exact h
  · exact hs u hu

theorem AllNamed.of_suffix {ts rest : List Token} (hs : AllNamed ts)
    (h : rest <:+ ts) : AllNamed rest :=
  fun t ht => hs t (h.subset ht)

/-- A token that is no name holds none. -/
theorem named_of_ne {t : Token} (h : ∀ name, t.kind ≠ .identifier name) :
    t.Named :=
  fun name hname => absurd hname (h name)

/-- Punctuation is no name. -/
theorem ne_identifier_of_punctuation? {c : Char} {kind : TokenKind}
    (h : punctuation? c = some kind) (name : String) :
    kind ≠ .identifier name := by
  intro heq
  subst heq
  unfold punctuation? at h
  grind

/-- A run of name characters behind a first one is an identifier. -/
theorem isIdentifier_run {c : Char} (h : Text.isIdentStart c = true)
    (cs : List Char) :
    Text.isIdentifier
      (String.ofList (c :: cs.takeWhile Text.isIdentRest)) = true := by
  simp only [Text.isIdentifier, String.toList_ofList,
    Text.isIdentifierChars, h, Bool.true_and, List.all_takeWhile]

/-- Both modes of the scan make name tokens of identifiers only. -/
private theorem allNamed_scanLiteral :
    ∀ (pos : Nat) (cs : List Char), AllNamed (scanLiteral pos cs) := by
  apply scanLiteral.induct
    (fun pos cs => AllNamed (scanLiteral pos cs))
    (fun opened pos cs => AllNamed (scanPlaceholder opened pos cs))
  -- literal text: its end, a brace that opens, one that closes, a run
  · intro pos
    rw [scanLiteral]
    exact .cons (named_of_ne (by simp)) allNamed_nil
  · intro pos c cs hc ih
    rw [scanLiteral, if_pos hc]
    exact .cons (named_of_ne (by simp)) ih
  · intro pos c cs hopen hc
    rw [scanLiteral, if_neg hopen, if_pos hc]
    exact .cons (named_of_ne (by simp)) allNamed_nil
  · intro pos c cs hopen hclose run stop ih
    rw [scanLiteral, if_neg hopen, if_neg hclose]
    exact .cons (named_of_ne (by simp)) ih
  -- placeholders: their end, a blank, the two braces, punctuation, a
  -- name, and what is none of these
  · intro opened pos
    rw [scanPlaceholder]
    exact .cons (named_of_ne (by simp)) allNamed_nil
  · intro opened pos c cs next hblank ih
    rw [scanPlaceholder, if_pos hblank]
    exact ih
  · intro opened pos c cs hblank hc
    rw [scanPlaceholder, if_neg hblank, if_pos hc]
    exact .cons (named_of_ne (by simp)) allNamed_nil
  · intro opened pos c cs next hblank hopen hc ih
    rw [scanPlaceholder, if_neg hblank, if_neg hopen, if_pos hc]
    exact .cons (named_of_ne (by simp)) ih
  · intro opened pos c cs next hblank hopen hclose kind hkind ih
    rw [scanPlaceholder, if_neg hblank, if_neg hopen, if_neg hclose, hkind]
    exact .cons (named_of_ne (ne_identifier_of_punctuation? hkind)) ih
  · intro opened pos c cs hblank hopen hclose hkind hstart run stop ih
    rw [scanPlaceholder, if_neg hblank, if_neg hopen, if_neg hclose, hkind]
    simp only [hstart, if_true]
    refine .cons ?_ ih
    intro name hname
    rw [← TokenKind.identifier.inj hname]
    exact isIdentifier_run hstart cs
  · intro opened pos c cs hblank hopen hclose hkind hstart
    rw [scanPlaceholder, if_neg hblank, if_neg hopen, if_neg hclose, hkind]
    simp only [hstart]
    exact .cons (named_of_ne (by simp)) allNamed_nil

/-- The scan makes name tokens of identifiers only. -/
theorem allNamed_scan (source : String) : AllNamed (scan source) :=
  allNamed_scanLiteral 0 source.toList

end Token

/-! ## Templates -/

/-- Whether all names of a path are identifiers. -/
structure Path.Named (p : Path) : Prop where
  root : Text.isIdentifier p.root = true
  fields : ∀ f ∈ p.fields, Text.isIdentifier f = true

/-- Whether all names of a call are identifiers. -/
structure Call.Named (c : Call) : Prop where
  name : Text.isIdentifier c.name = true
  args : ∀ p ∈ c.args, p.Named

/-- Whether all names of an expression are identifiers. -/
def Expr.Named : Expr → Prop
  | .path p => p.Named
  | .call c => c.Named

/-- Whether all names of a part are identifiers. -/
def Part.Named : Part → Prop
  | .text _ => True
  | .placeholder p => p.expr.Named

/-- Whether all names of a template are identifiers. -/
def Template.Named (t : Template) : Prop :=
  ∀ p ∈ t.parts, p.Named

namespace Parse

open Token (AllNamed)

theorem named_of_fields?_eq_ok {stop stop' : Nat} {ts rest : List Token}
    {names : List String} (hs : AllNamed ts)
    (h : fields? stop ts = .ok ((names, stop'), rest)) :
    (∀ f ∈ names, Text.isIdentifier f = true) ∧ rest <:+ ts := by
  fun_induction fields? stop ts generalizing names stop' rest with
  | case1 => simp at h
  | case2 => simp at h
  | case3 =>
    simp only [Except.ok.injEq, Prod.mk.injEq] at h
    obtain ⟨⟨rfl, rfl⟩, rfl⟩ := h
    exact ⟨by simp, List.suffix_rfl⟩
  | case4 stop t u rest' ht name hu names' stop'' rest'' hr ih =>
    simp only [Except.ok.injEq, Prod.mk.injEq] at h
    obtain ⟨⟨rfl, rfl⟩, rfl⟩ := h
    have htail : rest' <:+ t :: u :: rest' := ⟨[t, u], rfl⟩
    obtain ⟨hnames, hsuffix⟩ := ih (hs.of_suffix htail) hr
    refine ⟨?_, hsuffix.trans htail⟩
    intro f hf
    rcases List.mem_cons.mp hf with rfl | hf
    · exact hs u (by simp) f hu
    · exact hnames f hf
  | case5 => simp at h
  | case6 => simp [unexpected] at h
  | case7 =>
    simp only [Except.ok.injEq, Prod.mk.injEq] at h
    obtain ⟨⟨rfl, rfl⟩, rfl⟩ := h
    exact ⟨by simp, List.suffix_rfl⟩

theorem named_of_pathFrom?_eq_ok {root : String} {span : Span}
    {ts rest : List Token} {p : Path}
    (hroot : Text.isIdentifier root = true) (hs : AllNamed ts)
    (h : pathFrom? root span ts = .ok (p, rest)) :
    p.Named ∧ rest <:+ ts := by
  unfold pathFrom? at h
  split at h
  · rename_i hfields
    simp only [Except.ok.injEq, Prod.mk.injEq] at h
    obtain ⟨rfl, rfl⟩ := h
    obtain ⟨hnames, hsuffix⟩ := named_of_fields?_eq_ok hs hfields
    exact ⟨⟨hroot, hnames⟩, hsuffix⟩
  · simp at h

theorem named_of_path?_eq_ok {ts rest : List Token} {p : Path}
    (hs : AllNamed ts) (h : path? ts = .ok (p, rest)) :
    p.Named ∧ rest <:+ ts := by
  unfold path? at h
  split at h
  · simp at h
  · rename_i t ts
    split at h
    · rename_i name hname
      have htail : ts <:+ t :: ts := List.suffix_cons t ts
      obtain ⟨hp, hsuffix⟩ := named_of_pathFrom?_eq_ok
        (hs t (by simp) name hname) (hs.of_suffix htail) h
      exact ⟨hp, hsuffix.trans htail⟩
    · simp [unexpected] at h

theorem named_of_operands?_eq_ok {ts rest : List Token} {ps : List Path}
    (hs : AllNamed ts) (h : operands? ts = .ok (ps, rest)) :
    (∀ p ∈ ps, p.Named) ∧ rest <:+ ts := by
  fun_induction operands? ts generalizing ps rest with
  | case1 => simp at h
  | case2 => simp at h
  | case3 ts p t rest' hp hcomma ps' rest'' hr ih =>
    simp only [Except.ok.injEq, Prod.mk.injEq] at h
    obtain ⟨rfl, rfl⟩ := h
    obtain ⟨hnamed, hsuffix⟩ := named_of_path?_eq_ok hs hp
    have htail : rest' <:+ ts := (List.suffix_cons t rest').trans hsuffix
    obtain ⟨hps, hrest⟩ := ih (hs.of_suffix htail) hr
    refine ⟨?_, hrest.trans htail⟩
    intro q hq
    rcases List.mem_cons.mp hq with rfl | hq
    · exact hnamed
    · exact hps q hq
  | case4 => simp at h
  | case5 ts p t rest' hp hcomma =>
    simp only [Except.ok.injEq, Prod.mk.injEq] at h
    obtain ⟨rfl, rfl⟩ := h
    obtain ⟨hnamed, hsuffix⟩ := named_of_path?_eq_ok hs hp
    exact ⟨by simpa using hnamed, hsuffix⟩

theorem named_of_call?_eq_ok {name : String} {start : Nat}
    {ts rest : List Token} {e : Expr}
    (hname : Text.isIdentifier name = true) (hs : AllNamed ts)
    (h : call? name start ts = .ok (e, rest)) : e.Named ∧ rest <:+ ts := by
  unfold call? at h
  split at h
  · simp at h
  · rename_i t ts
    split at h
    · simp only [Except.ok.injEq, Prod.mk.injEq] at h
      obtain ⟨rfl, rfl⟩ := h
      exact ⟨⟨hname, by simp⟩, List.suffix_cons t ts⟩
    · split at h
      · rename_i args rest' hops
        obtain ⟨hargs, hsuffix⟩ := named_of_operands?_eq_ok hs hops
        unfold closeCall? at h
        split at h
        · simp at h
        · rename_i u rest''
          split at h
          · simp only [Except.ok.injEq, Prod.mk.injEq] at h
            obtain ⟨rfl, rfl⟩ := h
            exact ⟨⟨hname, hargs⟩, (List.suffix_cons u _).trans hsuffix⟩
          · simp [unexpected] at h
      · simp at h

theorem named_of_expr?_eq_ok {name : String} {span : Span}
    {ts rest : List Token} {e : Expr}
    (hname : Text.isIdentifier name = true) (hs : AllNamed ts)
    (h : expr? name span ts = .ok (e, rest)) : e.Named ∧ rest <:+ ts := by
  unfold expr? at h
  split at h
  · simp at h
  · rename_i t ts
    split at h
    · have htail : ts <:+ t :: ts := List.suffix_cons t ts
      obtain ⟨he, hsuffix⟩ :=
        named_of_call?_eq_ok hname (hs.of_suffix htail) h
      exact ⟨he, hsuffix.trans htail⟩
    · split at h
      · rename_i hpath
        simp only [Except.ok.injEq, Prod.mk.injEq] at h
        obtain ⟨rfl, rfl⟩ := h
        exact named_of_pathFrom?_eq_ok hname hs hpath
      · simp at h

theorem named_of_placeholder?_eq_ok {start : Nat} {ts rest : List Token}
    {p : Placeholder} (hs : AllNamed ts)
    (h : placeholder? start ts = .ok (p, rest)) :
    p.expr.Named ∧ rest <:+ ts := by
  unfold placeholder? at h
  split at h
  · simp at h
  · rename_i t ts
    split at h
    · simp at h
    · rename_i name hname
      split at h
      · rename_i e rest' hexpr
        have htail : ts <:+ t :: ts := List.suffix_cons t ts
        obtain ⟨he, hsuffix⟩ := named_of_expr?_eq_ok
          (hs t (by simp) name hname) (hs.of_suffix htail) hexpr
        unfold closePlaceholder? at h
        split at h
        · simp at h
        · rename_i u rest''
          split at h
          · simp only [Except.ok.injEq, Prod.mk.injEq] at h
            obtain ⟨rfl, rfl⟩ := h
            exact ⟨he,
              ((List.suffix_cons u _).trans hsuffix).trans htail⟩
          · simp [unexpected] at h
      · simp at h
    · simp [unexpected] at h

theorem named_of_parts?_eq_ok {ts : List Token} {ps : List Part}
    (hs : AllNamed ts) (h : parts? ts = .ok ps) : ∀ p ∈ ps, p.Named := by
  fun_induction parts? ts generalizing ps with
  | case1 => simp at h
  | case2 =>
    obtain rfl : [] = ps := by simpa using h
    simp
  | case3 t rest s hkind ps' hrest ih =>
    obtain rfl : Part.text s :: ps' = ps := by simpa using h
    intro p hp
    rcases List.mem_cons.mp hp with rfl | hp
    · trivial
    · exact ih (hs.of_suffix (List.suffix_cons t rest)) hrest p hp
  | case4 => simp at h
  | case5 => simp at h
  | case6 t rest hkind q rest' hplaceholder ps' hrest ih =>
    obtain rfl : Part.placeholder q :: ps' = ps := by simpa using h
    have htail : rest <:+ t :: rest := List.suffix_cons t rest
    obtain ⟨hq, hsuffix⟩ :=
      named_of_placeholder?_eq_ok (hs.of_suffix htail) hplaceholder
    intro p hp
    rcases List.mem_cons.mp hp with rfl | hp
    · exact hq
    · exact ih (hs.of_suffix (hsuffix.trans htail)) hrest p hp
  | case7 => simp at h
  | case8 => simp [unexpected] at h

end Parse

/-- All names of a parsed template are identifiers. -/
theorem Template.named_of_parse_eq_ok {source : String} {t : Template}
    (h : Template.parse source = .ok t) : t.Named := by
  unfold Template.parse at h
  split at h
  · rename_i t' hparse
    obtain rfl : t' = t := by simpa using h
    unfold Template.parse? Template.ofTokens? at hparse
    split at hparse
    · simp at hparse
    · cases hparts : Parse.parts? (Token.scan source) with
      | error e => simp [hparts, Except.map] at hparse
      | ok ps =>
        obtain rfl : Template.mk ps = t' := by
          simpa [hparts, Except.map] using hparse
        exact Parse.named_of_parts?_eq_ok (Token.allNamed_scan source) hparts
  · simp at h
  · simp at h

end PolicyWeave
