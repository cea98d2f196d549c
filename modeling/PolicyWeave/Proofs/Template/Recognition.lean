import PolicyWeave.Proofs.Template.Lexemes
import PolicyWeave.Template.Parse

/-!
# Templates are recognized

`Template.parse` accepts exactly the texts of the grammar, and answers the
template that a text spells.

* Soundness.  A piece that a parser function reads off a scan is spelled by
  the characters in front, and what is left is the scan of the others.
* Completeness.  Of characters that spell a piece, whatever follows them,
  the parser function reads that piece up to its spans.  Nothing on the
  way is a fault, so a fault of the scan can only lie behind.
* `Template.parse_recognizes` joins the two.
-/

namespace PolicyWeave

namespace Parse

open Text (Blank byteLength byteLength_nil byteLength_cons
  byteLength_append)
open Token

/-! ## Soundness -/

section Soundness

variable {opened pos stop stop' start : Nat} {cs : List Char}
  {rest : List Token}

theorem written_of_fields?_eq_ok {ts : List Token} {names : List String}
    (hts : scanPlaceholder opened pos cs = ts)
    (h : fields? stop ts = .ok ((names, stop'), rest)) :
    ∃ front back pos', cs = front ++ back
      ∧ Path.FieldsWritten names front
      ∧ rest = scanPlaceholder opened pos' back := by
  fun_induction fields? stop ts generalizing cs pos names stop' rest with
  | case1 => simp at h
  | case2 => simp at h
  | case3 stop t hdot =>
    obtain ⟨⟨rfl, rfl⟩, rfl⟩ : (names = [] ∧ stop' = stop) ∧ rest = [t] := by
      simpa [eq_comm] using h
    exact ⟨[], cs, pos, rfl, .nil, hts.symm⟩
  | case4 stop t u ts hdot name hname names' stop'' rest' hrest ih =>
    obtain ⟨⟨rfl, rfl⟩, rfl⟩ :
        (names = name :: names' ∧ stop' = stop'') ∧ rest = rest' := by
      simpa [eq_comm] using h
    obtain ⟨-, gap, more, hgap, rfl, -, hmore⟩ :=
      inner_of_scanPlaceholder hts hdot rfl (by simp)
    obtain ⟨hinner, gap', more', hgap', rfl, -, hmore'⟩ :=
      inner_of_scanPlaceholder hmore.symm hname rfl (by simp)
    obtain ⟨front, back, pos', rfl, hfront, hrest'⟩ := ih hmore'.symm hrest
    refine ⟨_, back, pos', ?_, .cons hgap hgap' hinner hfront, hrest'⟩
    simp [TokenKind.chars]
  | case5 => simp at h
  | case6 => simp [unexpected] at h
  | case7 stop t u ts hdot =>
    obtain ⟨⟨rfl, rfl⟩, rfl⟩ :
        (names = [] ∧ stop' = stop) ∧ rest = t :: u :: ts := by
      simpa [eq_comm] using h
    exact ⟨[], cs, pos, rfl, .nil, hts.symm⟩

theorem written_of_pathFrom?_eq_ok {root : String} {span : Span} {p : Path}
    (hroot : Text.isIdentifier root = true)
    (h : pathFrom? root span (scanPlaceholder opened pos cs)
      = .ok (p, rest)) :
    ∃ front back pos', cs = front ++ back
      ∧ p.Written (root.toList ++ front)
      ∧ rest = scanPlaceholder opened pos' back := by
  unfold pathFrom? at h
  split at h
  · rename_i names stop rest' hfields
    obtain ⟨rfl, rfl⟩ :
        p = ⟨root, names, span.start, stop⟩ ∧ rest = rest' := by
      simpa [eq_comm] using h
    obtain ⟨front, back, pos', rfl, hfront, hrest⟩ :=
      written_of_fields?_eq_ok rfl hfields
    exact ⟨front, back, pos', rfl, .mk hroot hfront _, hrest⟩
  · simp at h

theorem written_of_path?_eq_ok {p : Path} {ts : List Token}
    (hts : scanPlaceholder opened pos cs = ts)
    (h : path? ts = .ok (p, rest)) :
    ∃ gap front back pos', Blank gap ∧ cs = gap ++ (front ++ back)
      ∧ p.Written front ∧ rest = scanPlaceholder opened pos' back := by
  unfold path? at h
  split at h
  · simp at h
  · rename_i t ts
    split at h
    · rename_i name hname
      obtain ⟨hinner, gap, more, hgap, rfl, -, rfl⟩ :=
        inner_of_scanPlaceholder hts hname rfl (by simp)
      obtain ⟨front, back, pos', rfl, hfront, hrest⟩ :=
        written_of_pathFrom?_eq_ok hinner h
      refine ⟨gap, _, back, pos', hgap, ?_, hfront, hrest⟩
      simp [TokenKind.chars]
    · simp [unexpected] at h

theorem written_of_operands?_eq_ok {ps : List Path} {ts : List Token}
    (hts : scanPlaceholder opened pos cs = ts)
    (h : operands? ts = .ok (ps, rest)) :
    ∃ gap front back pos', Blank gap ∧ cs = gap ++ (front ++ back)
      ∧ Path.ListWritten ps front ∧ ps ≠ []
      ∧ rest = scanPlaceholder opened pos' back := by
  fun_induction operands? ts generalizing cs pos ps rest with
  | case1 => simp at h
  | case2 => simp at h
  | case3 ts p t rest' hp hcomma ps' rest'' hrest ih =>
    obtain ⟨rfl, rfl⟩ : ps = p :: ps' ∧ rest = rest'' := by
      simpa [eq_comm] using h
    obtain ⟨gap, front, back, pos', hgap, rfl, hfront, hback⟩ :=
      written_of_path?_eq_ok hts hp
    obtain ⟨-, before, more, hbefore, rfl, -, rfl⟩ :=
      inner_of_scanPlaceholder hback.symm hcomma rfl (by simp)
    obtain ⟨after, front', back', pos'', hafter, rfl, hfront', hne,
      hrest'⟩ := ih rfl hrest
    cases ps' with
    | nil => exact absurd rfl hne
    | cons q ps' =>
      refine ⟨gap, _, back', pos'', hgap, ?_,
        .cons hfront hbefore hafter hfront', by simp, hrest'⟩
      simp [TokenKind.chars]
  | case4 => simp at h
  | case5 ts p t rest' hp hcomma =>
    obtain ⟨rfl, rfl⟩ : ps = [p] ∧ rest = t :: rest' := by
      simpa [eq_comm] using h
    obtain ⟨gap, front, back, pos', hgap, rfl, hfront, hback⟩ :=
      written_of_path?_eq_ok hts hp
    exact ⟨gap, front, back, pos', hgap, rfl, .one hfront, by simp, hback⟩

/-- What closes a call is a parenthesis. -/
theorem paren_of_closeCall?_eq_ok {name : String} {args : List Path}
    {e : Expr} (h : closeCall? name start args
      (scanPlaceholder opened pos cs) = .ok (e, rest)) :
    ∃ gap more span pos', Blank gap ∧ cs = gap ++ ')' :: more
      ∧ e = .call ⟨name, args, span⟩
      ∧ rest = scanPlaceholder opened pos' more := by
  generalize hts : scanPlaceholder opened pos cs = ts at h
  unfold closeCall? at h
  split at h
  · simp at h
  · rename_i t ts
    split at h
    · rename_i hclose
      obtain ⟨rfl, rfl⟩ :
          e = .call ⟨name, args, start, t.span.stop⟩ ∧ rest = ts := by
        simpa [eq_comm] using h
      obtain ⟨-, gap, more, hgap, rfl, -, hmore⟩ :=
        inner_of_scanPlaceholder hts hclose rfl (by simp)
      exact ⟨gap, more, _, _, hgap, rfl, rfl, hmore⟩
    · simp [unexpected] at h

theorem written_of_call?_eq_ok {name : String} {e : Expr}
    (hname : Text.isIdentifier name = true)
    (h : call? name start (scanPlaceholder opened pos cs)
      = .ok (e, rest)) :
    ∃ front back pos', cs = front ++ back
      ∧ e.Written (name.toList ++ '(' :: front)
      ∧ rest = scanPlaceholder opened pos' back := by
  generalize hts : scanPlaceholder opened pos cs = ts at h
  unfold call? at h
  split at h
  · simp at h
  · rename_i t ts
    split at h
    · rename_i hclose
      obtain ⟨rfl, rfl⟩ :
          e = .call ⟨name, [], start, t.span.stop⟩ ∧ rest = ts := by
        simpa [eq_comm] using h
      obtain ⟨-, gap, more, hgap, rfl, -, hmore⟩ :=
        inner_of_scanPlaceholder hts hclose rfl (by simp)
      refine ⟨gap ++ [')'], more, _, ?_, ?_, hmore⟩
      · simp [TokenKind.chars]
      · exact .call hname hgap .nil Text.blank_nil _
    · split at h
      · rename_i args rest' hops
        obtain ⟨gap, front, back, pos', hgap, rfl, hfront, -, rfl⟩ :=
          written_of_operands?_eq_ok hts hops
        obtain ⟨gap', more, span, pos'', hgap', rfl, rfl, hmore⟩ :=
          paren_of_closeCall?_eq_ok h
        refine ⟨_, more, pos'', ?_,
          .call hname hgap hfront hgap' span, hmore⟩
        simp
      · simp at h

theorem written_of_expr?_eq_ok {name : String} {span : Span} {e : Expr}
    (hname : Text.isIdentifier name = true)
    (h : expr? name span (scanPlaceholder opened span.stop cs)
      = .ok (e, rest)) :
    ∃ front back pos', cs = front ++ back
      ∧ e.Written (name.toList ++ front)
      ∧ rest = scanPlaceholder opened pos' back := by
  generalize hts : scanPlaceholder opened span.stop cs = ts at h
  unfold expr? at h
  split at h
  · simp at h
  · rename_i t ts
    split at h
    · rename_i hopen
      obtain ⟨-, gap, more, hgap, rfl, hstart, rfl⟩ :=
        inner_of_scanPlaceholder hts hopen.1 rfl (by simp)
      -- the parenthesis starts where the name stops, so there is no gap
      obtain rfl : gap = [] :=
        Text.eq_nil_of_byteLength_eq_zero (by omega)
      obtain ⟨front, back, pos', rfl, hfront, hrest⟩ :=
        written_of_call?_eq_ok hname h
      refine ⟨_, back, pos', ?_, hfront, hrest⟩
      simp [TokenKind.chars]
    · split at h
      · rename_i p rest' hpath
        obtain ⟨rfl, rfl⟩ : e = .path p ∧ rest = rest' := by
          simpa [eq_comm] using h
        rw [← hts] at hpath
        obtain ⟨front, back, pos', rfl, hfront, hrest⟩ :=
          written_of_pathFrom?_eq_ok hname hpath
        exact ⟨front, back, pos', rfl, .path hfront, hrest⟩
      · simp at h

/-- What closes a placeholder is a brace. -/
theorem brace_of_closePlaceholder?_eq_ok {e : Expr} {q : Placeholder}
    (h : closePlaceholder? start e (scanPlaceholder opened pos cs)
      = .ok (q, rest)) :
    ∃ gap more span pos', Blank gap ∧ cs = gap ++ '}' :: more
      ∧ q = ⟨e, span⟩ ∧ rest = scanLiteral pos' more := by
  generalize hts : scanPlaceholder opened pos cs = ts at h
  unfold closePlaceholder? at h
  split at h
  · simp at h
  · rename_i t ts
    split at h
    · rename_i hclose
      obtain ⟨rfl, rfl⟩ : q = ⟨e, start, t.span.stop⟩ ∧ rest = ts := by
        simpa [eq_comm] using h
      obtain ⟨gap, more, hgap, rfl, hmore⟩ :=
        close_of_scanPlaceholder hts hclose
      exact ⟨gap, more, _, _, hgap, rfl, rfl, hmore⟩
    · simp [unexpected] at h

theorem written_of_placeholder?_eq_ok {q : Placeholder}
    (h : placeholder? start (scanPlaceholder opened pos cs)
      = .ok (q, rest)) :
    ∃ front back pos', cs = front ++ back
      ∧ (Part.placeholder q).Written ('{' :: front)
      ∧ rest = scanLiteral pos' back := by
  generalize hts : scanPlaceholder opened pos cs = ts at h
  unfold placeholder? at h
  split at h
  · simp at h
  · rename_i t ts
    split at h
    · simp at h
    · rename_i name hname
      split at h
      · rename_i e rest' hexpr
        obtain ⟨hinner, gap, more, hgap, rfl, -, rfl⟩ :=
          inner_of_scanPlaceholder hts hname rfl (by simp)
        obtain ⟨front, back, pos', rfl, hfront, rfl⟩ :=
          written_of_expr?_eq_ok hinner hexpr
        obtain ⟨gap', more, span, pos'', hgap', rfl, rfl, hmore⟩ :=
          brace_of_closePlaceholder?_eq_ok h
        refine ⟨_, more, pos'', ?_,
          .placeholder hgap hfront hgap' span, hmore⟩
        simp [TokenKind.chars]
      · simp at h
    · simp [unexpected] at h

/-- Where a run of text stops no text starts. -/
theorem not_isText_head {ps : List Part} (h : Part.ListWritten ps cs)
    (hmax : Part.ListMaximal ps)
    (hstop : ∀ c ∈ cs.head?, isLiteral c = false) :
    ∀ p ∈ ps.head?, ¬ p.IsText := by
  intro p hp htext
  cases h with
  | nil => cases hp
  | @cons q qs qcs rest hq hqs =>
    obtain rfl : q = p := by simpa using hp
    cases hq with
    | placeholder => cases htext
    | @text s hplain =>
      have hne : s.toList ≠ [] := by
        rw [ne_eq, String.toList_eq_nil_iff]
        exact hmax.nonempty s (by simp)
      obtain ⟨c, run, hrun⟩ := List.exists_cons_of_ne_nil hne
      rw [hrun] at hplain hstop
      have hc := hstop c (by simp)
      rw [isLiteral_iff.mpr (hplain c (by simp))] at hc
      cases hc

theorem written_of_parts?_eq_ok {ps : List Part} {ts : List Token}
    (hts : scanLiteral pos cs = ts) (h : parts? ts = .ok ps) :
    Part.ListWritten ps cs ∧ Part.ListMaximal ps := by
  fun_induction parts? ts generalizing cs pos ps with
  | case1 => simp at h
  | case2 t ts hfinish =>
    obtain rfl : ps = [] := by simpa [eq_comm] using h
    obtain rfl := eq_nil_of_scanLiteral hts hfinish
    exact ⟨.nil, Part.listMaximal_nil⟩
  | case3 t ts s htext ps' hps ih =>
    obtain rfl : ps = .text s :: ps' := by simpa [eq_comm] using h
    obtain ⟨more, rfl, hne, hfree, hmore, hrest⟩ :=
      text_of_scanLiteral hts htext
    obtain ⟨hwritten, hmax⟩ := ih hrest.symm hps
    exact ⟨.cons (.text hfree) hwritten,
      hmax.text hne (not_isText_head hwritten hmax hmore)⟩
  | case4 => simp at h
  | case5 => simp at h
  | case6 t ts hopen q rest' hq ps' hps ih =>
    obtain rfl : ps = .placeholder q :: ps' := by simpa [eq_comm] using h
    obtain ⟨more, rfl, hrest⟩ := openBrace_of_scanLiteral hts hopen
    rw [hrest] at hq
    obtain ⟨front, back, pos', rfl, hfront, hback⟩ :=
      written_of_placeholder?_eq_ok hq
    obtain ⟨hwritten, hmax⟩ := ih hback.symm hps
    exact ⟨.cons hfront hwritten, hmax.placeholder q⟩
  | case7 => simp at h
  | case8 => simp [unexpected] at h

end Soundness

/-! ## Completeness -/

/-- The first fault of a list of tokens. -/
def firstFault? (ts : List Token) : Option TemplateError :=
  ts.findSome? fun t => t.kind.fault?

/-- Whether a parser function reads a piece off the tokens, and what it
leaves has the same first fault. -/
def Reads {α : Type} (read : List Token → Outcome α) (ts : List Token)
    (a : α) (rest : List Token) : Prop :=
  read ts = .ok (a, rest) ∧ firstFault? ts = firstFault? rest

/-- A token that is no fault is passed over. -/
theorem firstFault?_cons {t : Token} (h : t.kind.fault? = none)
    (ts : List Token) : firstFault? (t :: ts) = firstFault? ts := by
  simp [firstFault?, h]

/-- What may follow a path: a comma, a parenthesis or a brace, behind
blanks. -/
def PathEnds (cs : List Char) : Prop :=
  ∃ gap c more, Blank gap ∧ cs = gap ++ c :: more
    ∧ (c = ',' ∨ c = ')' ∨ c = '}')

theorem PathEnds.nameEnds {cs : List Char} (h : PathEnds cs) :
    NameEnds cs := by
  obtain ⟨gap, c, more, hgap, rfl, hc⟩ := h
  refine .blank_append hgap (nameEnds_cons ?_ more)
  rcases hc with rfl | rfl | rfl <;> decide

/-- The token that ends a path is neither a point nor an opening
parenthesis. -/
theorem PathEnds.exists_cons {cs : List Char} (h : PathEnds cs)
    (opened pos : Nat) :
    ∃ t ts, scanPlaceholder opened pos cs = t :: ts ∧ t.kind ≠ .dot
      ∧ t.kind ≠ .openParen := by
  obtain ⟨gap, c, more, hgap, rfl, hc⟩ := h
  rcases hc with rfl | rfl | rfl
  · exact ⟨_, _, scanPlaceholder_mark _ _ hgap rfl more, by simp, by simp⟩
  · exact ⟨_, _, scanPlaceholder_mark _ _ hgap rfl more, by simp, by simp⟩
  · exact ⟨_, _, scanPlaceholder_close _ _ hgap more, by simp, by simp⟩

/-- A token that is no point ends the fields. -/
theorem fields?_of_ne_dot {t : Token} (h : t.kind ≠ .dot) (stop : Nat)
    (ts : List Token) :
    fields? stop (t :: ts) = .ok (([], stop), t :: ts) := by
  cases ts with
  | nil => simp [fields?, h]
  | cons u ts => simp [fields?, h]

section Completeness

variable {cs tail : List Char}

/-- Behind fields a name ends. -/
theorem nameEnds_fields {names : List String}
    (h : Path.FieldsWritten names cs) (htail : NameEnds tail) :
    NameEnds (cs ++ tail) := by
  cases h with
  | nil => exact htail
  | cons hbefore hafter hf hfs =>
    rw [List.append_assoc]
    exact .blank_append hbefore (nameEnds_cons (by decide) _)

theorem fields?_reads {names : List String}
    (h : Path.FieldsWritten names cs) (htail : PathEnds tail)
    (opened pos stop : Nat) :
    ∃ stop', Reads (fields? stop)
      (scanPlaceholder opened pos (cs ++ tail)) (names, stop')
      (scanPlaceholder opened (pos + byteLength cs) tail) := by
  induction h generalizing pos stop with
  | nil =>
    obtain ⟨t, ts, hts, hdot, -⟩ := htail.exists_cons opened pos
    refine ⟨stop, ?_, rfl⟩
    rw [List.nil_append, byteLength_nil, Nat.add_zero, hts]
    exact fields?_of_ne_dot hdot stop ts
  | @cons before after cs f fs hbefore hafter hf hfs ih =>
    have hends := nameEnds_fields hfs htail.nameEnds
    simp only [List.append_assoc, List.cons_append, byteLength_append,
      byteLength_cons, ← Nat.add_assoc]
    rw [scanPlaceholder_mark _ _ hbefore rfl,
      scanPlaceholder_name _ _ hafter hf hends]
    obtain ⟨stop', hread, hfault⟩ := ih _ _
    refine ⟨stop', ?_, ?_⟩
    · simp only [fields?, if_true]
      rw [hread]
    · rw [firstFault?_cons rfl, firstFault?_cons rfl, hfault]

theorem pathFrom?_reads {names : List String}
    (h : Path.FieldsWritten names cs) (htail : PathEnds tail)
    (opened pos : Nat) (root : String) (span : Span) :
    ∃ q, q.erase = ⟨root, names, ⟨0, 0⟩⟩
      ∧ Reads (pathFrom? root span)
        (scanPlaceholder opened pos (cs ++ tail)) q
        (scanPlaceholder opened (pos + byteLength cs) tail) := by
  obtain ⟨stop', hread, hfault⟩ :=
    fields?_reads h htail opened pos span.stop
  refine ⟨⟨root, names, span.start, stop'⟩, rfl, ?_, hfault⟩
  simp only [pathFrom?]
  rw [hread]

theorem path?_reads {p : Path} {gap : List Char} (h : p.Written cs)
    (htail : PathEnds tail) (hgap : Blank gap) (opened pos : Nat) :
    ∃ q, q.erase = p.erase ∧ Reads path?
      (scanPlaceholder opened pos (gap ++ (cs ++ tail))) q
      (scanPlaceholder opened (pos + byteLength gap + byteLength cs)
        tail) := by
  cases h with
  | @mk root names fields hroot hfields span =>
    have hends := nameEnds_fields hfields htail.nameEnds
    rw [List.append_assoc, byteLength_append, ← Nat.add_assoc,
      scanPlaceholder_name _ _ hgap hroot hends]
    obtain ⟨q, hq, hread, hfault⟩ :=
      pathFrom?_reads hfields htail opened _ root _
    refine ⟨q, hq, hread, ?_⟩
    rw [firstFault?_cons rfl, hfault]

/-- What closes a call ends a path. -/
theorem pathEnds_paren {gap : List Char} (hgap : Blank gap)
    (more : List Char) : PathEnds (gap ++ ')' :: more) :=
  ⟨gap, ')', more, hgap, rfl, .inr (.inl rfl)⟩

theorem operands?_reads {ps : List Path} {gap after more : List Char}
    (h : Path.ListWritten ps cs) (hne : ps ≠ []) (hgap : Blank gap)
    (hafter : Blank after) (opened pos : Nat) :
    ∃ qs, qs.map Path.erase = ps.map Path.erase ∧ Reads operands?
      (scanPlaceholder opened pos (gap ++ (cs ++ (after ++ ')' :: more))))
      qs (scanPlaceholder opened (pos + byteLength gap + byteLength cs)
        (after ++ ')' :: more)) := by
  induction h generalizing gap pos with
  | nil => exact absurd rfl hne
  | @one p cs hp =>
    obtain ⟨q, hq, hread, hfault⟩ :=
      path?_reads hp (pathEnds_paren hafter more) hgap opened pos
    refine ⟨[q], by simp [hq], ?_, hfault⟩
    rw [scanPlaceholder_mark _ _ hafter rfl] at hread ⊢
    rw [operands?, hread]
    simp
  | @cons p p' ps cs before after' rest hp hbefore hafter' hps ih =>
    have hends : PathEnds (before ++ ',' :: (after' ++
        (rest ++ (after ++ ')' :: more)))) :=
      ⟨before, ',', _, hbefore, rfl, .inl rfl⟩
    obtain ⟨q, hq, hread, hfault⟩ :=
      path?_reads hp hends hgap opened pos
    rw [scanPlaceholder_mark _ _ hbefore rfl] at hread hfault
    rw [firstFault?_cons rfl] at hfault
    obtain ⟨qs, hqs, hreads, hfaults⟩ := ih (by simp) hafter'
      (pos + byteLength gap + byteLength cs + byteLength before
        + ','.utf8Size)
    simp only [List.append_assoc, List.cons_append, byteLength_append,
      byteLength_cons, ← Nat.add_assoc]
    refine ⟨q :: qs, by simp [hq, hqs], ?_, ?_⟩
    · rw [operands?, hread]
      simp only [if_true]
      rw [hreads]
    · rw [hfault, hfaults]

/-- What is read as operands starts with a name. -/
theorem exists_name_of_operands?_eq_ok {ts rest : List Token}
    {ps : List Path} (h : operands? ts = .ok (ps, rest)) :
    ∃ t us s, ts = t :: us ∧ t.kind = .identifier s := by
  cases hp : path? ts with
  | error e =>
    rw [operands?, hp] at h
    simp at h
  | ok r =>
    unfold path? at hp
    split at hp
    · simp at hp
    · rename_i t us
      split at hp
      · rename_i s hs
        exact ⟨t, us, s, rfl, hs⟩
      · simp [unexpected] at hp

theorem call?_reads {args : List Path} {before after : List Char}
    (hbefore : Blank before) (hargs : Path.ListWritten args cs)
    (hafter : Blank after) (more : List Char) (name : String)
    (start opened pos : Nat) :
    ∃ qs span, qs.map Path.erase = args.map Path.erase
      ∧ Reads (call? name start)
        (scanPlaceholder opened pos
          (before ++ (cs ++ (after ++ ')' :: more))))
        (.call ⟨name, qs, span⟩)
        (scanPlaceholder opened (pos + byteLength before + byteLength cs
          + byteLength after + ')'.utf8Size) more) := by
  by_cases hne : args = []
  · subst hne
    cases hargs
    rw [List.nil_append, ← List.append_assoc,
      scanPlaceholder_mark opened pos (hbefore.append hafter) rfl more,
      byteLength_nil, Nat.add_zero, byteLength_append, ← Nat.add_assoc]
    generalize pos + byteLength before + byteLength after + ')'.utf8Size
      = stop
    exact ⟨[], ⟨start, stop⟩, rfl, by simp [call?],
      firstFault?_cons rfl _⟩
  · obtain ⟨qs, hqs, hread, hfault⟩ :=
      operands?_reads hargs hne hbefore hafter opened pos
    obtain ⟨t, us, s, hts, ht⟩ := exists_name_of_operands?_eq_ok hread
    rw [scanPlaceholder_mark opened _ hafter rfl more] at hread hfault
    generalize pos + byteLength before + byteLength cs + byteLength after
      + ')'.utf8Size = stop at hread hfault ⊢
    refine ⟨qs, ⟨start, stop⟩, hqs, ?_,
      hfault.trans (firstFault?_cons rfl _)⟩
    rw [hts] at hread ⊢
    simp only [call?, ht, reduceCtorEq, if_false]
    rw [hread]
    simp [closeCall?]

/-- What closes a placeholder ends a path. -/
theorem pathEnds_brace {gap : List Char} (hgap : Blank gap)
    (more : List Char) : PathEnds (gap ++ '}' :: more) :=
  ⟨gap, '}', more, hgap, rfl, .inr (.inr rfl)⟩

/-- Behind the root of a path stands no parenthesis. -/
theorem exists_cons_of_fields {names : List String}
    (h : Path.FieldsWritten names cs) (htail : PathEnds tail)
    (opened pos : Nat) :
    ∃ t ts, scanPlaceholder opened pos (cs ++ tail) = t :: ts
      ∧ t.kind ≠ .openParen := by
  cases h with
  | nil =>
    obtain ⟨t, ts, hts, -, hopen⟩ := htail.exists_cons opened pos
    exact ⟨t, ts, hts, hopen⟩
  | @cons before after cs f fs hbefore hafter hf hfs =>
    rw [List.append_assoc, List.cons_append]
    exact ⟨_, _, scanPlaceholder_mark _ _ hbefore rfl _, by simp⟩

/-- An expression is a name and a rest, which is read behind it. -/
theorem expr?_reads {e : Expr} {gap : List Char} (h : e.Written cs)
    (hgap : Blank gap) (more : List Char) :
    ∃ name rest, cs = name.toList ++ rest
      ∧ Text.isIdentifier name = true
      ∧ NameEnds (rest ++ (gap ++ '}' :: more))
      ∧ ∀ (opened : Nat) (span : Span), ∃ e',
        e'.erase = e.erase ∧ Reads (expr? name span)
          (scanPlaceholder opened span.stop
            (rest ++ (gap ++ '}' :: more))) e'
          (scanPlaceholder opened (span.stop + byteLength rest)
            (gap ++ '}' :: more)) := by
  have hend := pathEnds_brace hgap more
  cases h with
  | path hp =>
    cases hp with
    | @mk root names fields hroot hfields span' =>
      refine ⟨root, fields, rfl, hroot,
        nameEnds_fields hfields hend.nameEnds, ?_⟩
      intro opened span
      obtain ⟨q, hq, hread, hfault⟩ :=
        pathFrom?_reads hfields hend opened span.stop root span
      refine ⟨.path q, congrArg Expr.path hq, ?_, hfault⟩
      obtain ⟨t, ts, hts, hopen⟩ :=
        exists_cons_of_fields hfields hend opened span.stop
      rw [hts] at hread ⊢
      simp only [expr?, hopen, false_and, if_false]
      rw [hread]
  | @call name args before cs after hname hbefore hargs hafter span' =>
    refine ⟨name, _, rfl, hname, nameEnds_cons (by decide) _, ?_⟩
    intro opened span
    obtain ⟨qs, span'', hqs, hread, hfault⟩ :=
      call?_reads hbefore hargs hafter (gap ++ '}' :: more) name
        span.start opened (span.stop + '('.utf8Size)
    have hopen := scanPlaceholder_mark opened span.stop Text.blank_nil
      (rfl : punctuation? '(' = some .openParen)
      (before ++ (cs ++ (after ++ ')' :: (gap ++ '}' :: more))))
    simp only [List.nil_append, Text.byteLength_nil, Nat.add_zero] at hopen
    simp only [List.append_assoc, List.cons_append, List.nil_append,
      byteLength_append, byteLength_cons, byteLength_nil, Nat.add_zero,
      ← Nat.add_assoc]
    rw [hopen]
    refine ⟨.call ⟨name, qs, span''⟩,
      by simp [Expr.erase, Call.erase, hqs], ?_, ?_⟩
    · simpa [expr?] using hread
    · rw [firstFault?_cons rfl, hfault]

theorem placeholder?_reads {p : Placeholder}
    (h : (Part.placeholder p).Written cs) (start : Nat) :
    ∃ inner, cs = '{' :: inner ∧ ∀ (opened pos : Nat), ∃ q,
      (Part.placeholder q).erase = (Part.placeholder p).erase
        ∧ Reads (placeholder? start)
          (scanPlaceholder opened pos (inner ++ tail)) q
          (scanLiteral (pos + byteLength inner) tail) := by
  cases h with
  | @placeholder e before cs after hbefore he hafter span =>
    refine ⟨_, rfl, ?_⟩
    intro opened pos
    obtain ⟨name, rest, rfl, hname, hends, hreads⟩ :=
      expr?_reads he hafter tail
    have hsize : '}'.utf8Size = 1 := by decide
    simp only [List.append_assoc, List.cons_append, List.nil_append,
      byteLength_append, byteLength_cons, byteLength_nil, Nat.add_zero,
      hsize, ← Nat.add_assoc]
    have hscan := scanPlaceholder_name opened pos hbefore hname hends
    obtain ⟨e', he', hread, hfault⟩ := hreads opened
      ⟨pos + byteLength before,
        pos + byteLength before + byteLength name.toList⟩
    rw [scanPlaceholder_close opened _ hafter tail] at hread hfault
    generalize pos + byteLength before + byteLength name.toList
      + byteLength rest + byteLength after + 1 = stop at hread hfault ⊢
    rw [hscan]
    refine ⟨⟨e', ⟨start, stop⟩⟩, by simp [Part.erase, he'], ?_, ?_⟩
    · simp only [placeholder?]
      rw [hread]
      simp [closePlaceholder?]
    · rw [firstFault?_cons rfl, hfault, firstFault?_cons rfl]

/-- Behind a text stands no more text. -/
theorem not_isLiteral_head {ps : List Part} (h : Part.ListWritten ps cs)
    (hhead : ∀ p ∈ ps.head?, ¬ p.IsText)
    (htail : ps = [] → ∀ c ∈ tail.head?, isLiteral c = false) :
    ∀ c ∈ (cs ++ tail).head?, isLiteral c = false := by
  cases h with
  | nil => exact htail rfl
  | @cons p ps pcs rest hp hps =>
    cases hp with
    | @text s => exact absurd trivial (hhead (.text s) (by simp))
    | placeholder =>
      intro c hc
      obtain rfl : '{' = c := by simpa using hc
      decide

/-- The parts are read whole, and there is no fault among their tokens.
Behind them the scan goes on, unless a text at their end goes on too. -/
theorem parts?_append (tail : List Char) {ps : List Part}
    (h : Part.ListWritten ps cs) (hmax : Part.ListMaximal ps)
    (htail : ∀ p ∈ ps.getLast?, p.IsText →
      ∀ c ∈ tail.head?, isLiteral c = false) (pos : Nat) :
    ∃ qs, qs.map Part.erase = ps.map Part.erase
      ∧ parts? (scanLiteral pos (cs ++ tail))
        = (parts? (scanLiteral (pos + byteLength cs) tail)).map (qs ++ ·)
      ∧ firstFault? (scanLiteral pos (cs ++ tail))
        = firstFault? (scanLiteral (pos + byteLength cs) tail) := by
  induction h generalizing pos with
  | nil =>
    refine ⟨[], rfl, ?_, rfl⟩
    rw [byteLength_nil, Nat.add_zero, List.nil_append]
    cases parts? (scanLiteral pos tail) <;> rfl
  | @cons p ps cs rest hp hps ih =>
    have hlast : ∀ q ∈ ps.getLast?, q.IsText →
        ∀ c ∈ tail.head?, isLiteral c = false := by
      intro q hq
      refine htail q ?_
      rw [List.getLast?_cons, Option.mem_def.mp hq]
      rfl
    rw [List.append_assoc, byteLength_append, ← Nat.add_assoc]
    cases p with
    | text s =>
      cases hp with
      | text hs =>
        have hstop := not_isLiteral_head hps hmax.not_isText_head
          fun hnil => htail (.text s) (by simp [hnil]) trivial
        obtain ⟨qs, hqs, hread, hfault⟩ :=
          ih hmax.tail hlast (pos + byteLength s.toList)
        rw [scanLiteral_text _ (hmax.nonempty s (by simp)) hs hstop]
        refine ⟨.text s :: qs, by simp [hqs], ?_, ?_⟩
        · simp only [parts?, hread]
          cases parts? (scanLiteral _ tail) <;> rfl
        · rw [firstFault?_cons rfl, hfault]
    | placeholder p =>
      obtain ⟨inner, rfl, hreads⟩ := placeholder?_reads hp pos
      obtain ⟨q, hq, hread, hfault⟩ := hreads pos (pos + 1)
      obtain ⟨qs, hqs, hreadAll, hfaultAll⟩ :=
        ih hmax.tail hlast (pos + 1 + byteLength inner)
      have hsize : '{'.utf8Size = 1 := by decide
      rw [List.cons_append, scanLiteral_open, byteLength_cons, hsize,
        ← Nat.add_assoc]
      refine ⟨.placeholder q :: qs, by simp [hq, hqs], ?_, ?_⟩
      · simp only [parts?]
        rw [hread]
        simp only [hreadAll]
        cases parts? (scanLiteral _ tail) <;> rfl
      · rw [firstFault?_cons rfl, hfault, hfaultAll]

/-- At the end of the characters nothing is left. -/
theorem parts?_reads {ps : List Part} (h : Part.ListWritten ps cs)
    (hmax : Part.ListMaximal ps) (pos : Nat) :
    ∃ qs, qs.map Part.erase = ps.map Part.erase
      ∧ parts? (scanLiteral pos cs) = .ok qs
      ∧ firstFault? (scanLiteral pos cs) = none := by
  obtain ⟨qs, hqs, hread, hfault⟩ :=
    parts?_append [] h hmax (by simp) pos
  rw [List.append_nil, scanLiteral] at hread hfault
  exact ⟨qs, hqs, by simpa [parts?, Except.map] using hread, hfault⟩

end Completeness

end Parse

/-! ## Whole templates -/

namespace Template

open Parse

/-- A text parses when its scan has no fault and is read whole. -/
theorem parse_eq_ok_iff {source : String} {t : Template} :
    parse source = .ok t ↔ firstFault? (Token.scan source) = none
      ∧ parts? (Token.scan source) = .ok t.parts := by
  rw [parse, parse?, ofTokens?]
  change _ ↔ List.findSome? _ _ = none ∧ _
  cases hfault : (Token.scan source).findSome? fun t => t.kind.fault? with
  | some e => simp
  | none =>
    cases hparts : parts? (Token.scan source) with
    | error e => cases e <;> simp [Except.map]
    | ok ps =>
      obtain ⟨qs⟩ := t
      simp [Except.map]

/-- What parses is spelled by the text. -/
theorem written_of_parse_eq_ok {source : String} {t : Template}
    (h : parse source = .ok t) : t.Written source.toList ∧ t.Maximal :=
  written_of_parts?_eq_ok rfl (parse_eq_ok_iff.mp h).2

/-- What is spelled by the text parses. -/
theorem Maximal.exists_parse_eq_ok {source : String} {t : Template}
    (hmax : t.Maximal) (h : t.Written source.toList) :
    ∃ u, parse source = .ok u ∧ u.erase = t.erase := by
  obtain ⟨qs, hqs, hread, hfault⟩ := parts?_reads h hmax 0
  exact ⟨⟨qs⟩, parse_eq_ok_iff.mpr ⟨hfault, hread⟩,
    congrArg Template.mk hqs⟩

/-- A text parses exactly when it is in the language of the grammar.  What
it parses to is, up to spans, the one template that it spells and in which
every run of text is one part. -/
theorem parse_recognizes (source : String) :
    ((∃ t, parse source = .ok t)
        ↔ ∃ t : Template, t.Written source.toList)
      ∧ ∀ t, parse source = .ok t →
        t.Written source.toList ∧ t.Maximal
          ∧ ∀ u : Template, u.Written source.toList → u.Maximal →
            u.erase = t.erase := by
  refine ⟨⟨?_, ?_⟩, ?_⟩
  · rintro ⟨t, ht⟩
    exact ⟨t, (written_of_parse_eq_ok ht).1⟩
  · rintro ⟨t, ht⟩
    obtain ⟨qs, hqs, hmax⟩ := Part.exists_maximal ht
    obtain ⟨u, hu, -⟩ :=
      Maximal.exists_parse_eq_ok (t := ⟨qs⟩) hmax hqs
    exact ⟨u, hu⟩
  · intro t ht
    obtain ⟨hwritten, hmax⟩ := written_of_parse_eq_ok ht
    refine ⟨hwritten, hmax, ?_⟩
    intro u hu humax
    obtain ⟨t', ht', herase⟩ := humax.exists_parse_eq_ok hu
    obtain rfl : t' = t := Except.ok.inj (ht'.symm.trans ht)
    exact herase.symm

end Template

end PolicyWeave
