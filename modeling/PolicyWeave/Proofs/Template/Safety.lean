import PolicyWeave.Proofs.Template.Cursor

/-!
# Reading any list of tokens

The parser may be given a list that no scan has made: one without a `finish`,
or with more tokens behind it.

* `Parse.Cursor.move_cases` says what one token can do: a `finish` is never
  taken.
* `Parse.Cursor.Stands` holds of the places that a run comes to, and
  `Parse.Cursor.Halts` of the place where it ends.  So
  `Parse.Cursor.Stands.le_length` bounds them by any `finish`, and
  `Parse.Cursor.Stands.exists_halts` says that the run ends there at last.
* `Template.ofTokens?_safe` puts the parts together.
-/

namespace PolicyWeave

namespace Parse

/-! ## Steps -/

namespace Stage

/-- What a token may do inside a placeholder: it is taken, or it is an error.
A `finish` is an error. -/
def Allowed (t : Token) (r : Next) : Prop :=
  (t.kind ≠ .finish ∧ ∃ s, r = .ok s) ∨ ∃ e, r = .error (.error e)

section

variable {start : Nat} {t : Token}

theorem allowed_unexpected (expected : String) :
    Allowed t (unexpected t expected) :=
  .inr ⟨_, rfl⟩

/-- A token of one kind is taken, or what follows is allowed. -/
theorem allowed_ite {P : Prop} [Decidable P] {s : Stage ⊕ Placeholder}
    {r : Next} (h : P → t.kind ≠ .finish) (hr : Allowed t r) :
    Allowed t (if P then .ok s else r) := by
  split
  · exact .inl ⟨h ‹P›, s, rfl⟩
  · exact hr

theorem allowed_close (e : Expr) : Allowed t (close start e t) :=
  allowed_ite (fun h => by simp [h]) (allowed_unexpected _)

theorem allowed_operand (c : OpenCall) : Allowed t (operand c t) := by
  unfold operand
  split
  · exact .inl ⟨by simp [*], _, rfl⟩
  · exact allowed_unexpected _

theorem allowed_behindOperand (c : OpenCall) (p : Path) :
    Allowed t (behindOperand c p t) :=
  allowed_ite (fun h => by simp [h])
    (allowed_ite (fun h => by simp [h]) (allowed_unexpected _))

theorem allowed_behindPath (c : Option OpenCall) (p : Path) :
    Allowed t (behindPath start c p t) := by
  refine allowed_ite (fun h => by simp [h]) ?_
  cases c with
  | none => exact allowed_close _
  | some c => exact allowed_behindOperand c p

theorem allowed_next (stage : Stage) : Allowed t (stage.next start t) := by
  cases stage with
  | brace =>
    simp only [next]
    split
    · exact .inr ⟨_, rfl⟩
    · exact .inl ⟨by simp [*], _, rfl⟩
    · exact allowed_unexpected _
  | root name span =>
    exact allowed_ite (fun h => by simp [h]) (allowed_behindPath _ _)
  | paren name first =>
    exact allowed_ite (fun h => by simp [h]) (allowed_operand _)
  | comma c => exact allowed_operand c
  | dot c p =>
    simp only [next]
    split
    · exact .inl ⟨by simp [*], _, rfl⟩
    · exact allowed_unexpected _
  | path c p => exact allowed_behindPath c p
  | whole e => exact allowed_close e

end

end Stage

namespace Cursor

/-- What one token can do.  A `finish` is never taken, nothing else ends a
run well, and a token that is there does not run out. -/
theorem move_cases (c : Cursor) (t : Token) :
    (t.kind ≠ .finish ∧ ∃ c', c.move t = .take c')
      ∨ ∃ r, c.move t = .halt r ∧ r ≠ .error .outOfTokens
        ∧ ∀ parts, r = .ok parts → t.kind = .finish := by
  cases c with
  | outside parts => cases hkind : t.kind <;> simp [move, hkind, unexpected]
  | inside parts start stage =>
    rcases stage.allowed_next with ⟨hkind, r, hnext⟩ | ⟨e, hnext⟩
    · rcases r with stage | p
      · exact .inl ⟨hkind, _, by rw [move, hnext]⟩
      · exact .inl ⟨hkind, _, by rw [move, hnext]⟩
    · exact .inr ⟨.error (.error e), by rw [move, hnext], by simp, by simp⟩

/-- In front of a `finish` the parser halts. -/
theorem exists_halt {t : Token} (ht : t.kind = .finish) (c : Cursor) :
    ∃ r, c.move t = .halt r := by
  rcases c.move_cases t with ⟨hno, -⟩ | ⟨r, hhalt, -⟩
  · exact absurd ht hno
  · exact ⟨r, hhalt⟩

theorem ne_outOfTokens_of_halt {c : Cursor} {t : Token}
    {r : Except ParseStop (List Part)} (h : c.move t = .halt r) :
    r ≠ .error .outOfTokens := by
  rcases c.move_cases t with ⟨-, c', htake⟩ | ⟨r', hhalt, hr, -⟩
  · rw [htake] at h
    cases h
  · rw [hhalt] at h
    cases h
    exact hr

/-! ## Runs -/

/-- Whether a run over a list comes to a place, and with what. -/
inductive Stands (ts : List Token) : Nat → Cursor → Prop where
  | start : Stands ts 0 (outside [])
  | take {n : Nat} {c c' : Cursor} {t : Token} (h : Stands ts n c)
      (ht : ts[n]? = some t) (hmove : c.move t = .take c') :
      Stands ts (n + 1) c'

/-- Whether a run over a list halts in front of the token at a place. -/
def Halts (ts : List Token) (n : Nat) (r : Except ParseStop (List Part)) :
    Prop :=
  ∃ c t, Stands ts n c ∧ ts[n]? = some t ∧ c.move t = .halt r

section

variable {c c' : Cursor} {t : Token} {front back ts : List Token} {n : Nat}
  {r : Except ParseStop (List Part)}

theorem run_take (h : c.move t = .take c') : run c (t :: ts) = run c' ts := by
  rw [run, h]

theorem run_halt (h : c.move t = .halt r) : run c (t :: ts) = r := by
  rw [run, h]

/-- A run stands no further than any `finish`. -/
theorem Stands.le_length (h : Stands (front ++ t :: back) n c)
    (ht : t.kind = .finish) : n ≤ front.length := by
  induction h with
  | start => exact Nat.zero_le _
  | @take n c c' u _ hu hmove ih =>
    refine Nat.lt_of_le_of_ne ih ?_
    rintro rfl
    obtain rfl : t = u := by simpa using hu
    obtain ⟨r, hhalt⟩ := exists_halt ht c
    rw [hhalt] at hmove
    cases hmove

/-- The answer of a run is that of its rest from any of its places. -/
theorem Stands.run_eq (h : Stands ts n c) :
    run (outside []) ts = run c (ts.drop n) := by
  induction h with
  | start => rfl
  | @take n c c' t _ ht hmove ih =>
    obtain ⟨hn, rfl⟩ := List.getElem?_eq_some_iff.mp ht
    rw [ih, List.drop_eq_getElem_cons hn, run_take hmove]

theorem Halts.run_eq (h : Halts ts n r) : run (outside []) ts = r := by
  obtain ⟨c, t, hstands, ht, hhalt⟩ := h
  obtain ⟨hn, rfl⟩ := List.getElem?_eq_some_iff.mp ht
  rw [hstands.run_eq, List.drop_eq_getElem_cons hn, run_halt hhalt]

theorem Halts.ne_outOfTokens (h : Halts ts n r) :
    r ≠ .error .outOfTokens := by
  obtain ⟨c, t, -, -, hhalt⟩ := h
  exact ne_outOfTokens_of_halt hhalt

/-- From a place with a `finish` at it or behind it, a run goes on until it
halts. -/
theorem Stands.exists_halts (h : Stands ts n c)
    (hts : ts.drop n = front ++ t :: back) (ht : t.kind = .finish) :
    ∃ m r, Halts ts m r := by
  -- each token that is taken is one fewer in front of the `finish`
  induction front generalizing n c with
  | nil =>
    obtain ⟨r, hhalt⟩ := exists_halt ht c
    have hplace : ts[n]? = some t := by rw [← List.head?_drop, hts]; rfl
    exact ⟨n, r, c, t, h, hplace, hhalt⟩
  | cons u front ih =>
    have hplace : ts[n]? = some u := by rw [← List.head?_drop, hts]; rfl
    cases hmove : c.move u with
    | halt r => exact ⟨n, r, c, u, h, hplace, hmove⟩
    | take c' =>
      refine ih (h.take hplace hmove) ?_
      rw [← List.tail_drop, hts]
      rfl

/-- What stands behind a `finish` is not read. -/
theorem run_append_finish (ht : t.kind = .finish) (back' : List Token) :
    run c (front ++ t :: back) = run c (front ++ t :: back') := by
  induction front generalizing c with
  | nil =>
    obtain ⟨r, hhalt⟩ := exists_halt ht c
    rw [List.nil_append, List.nil_append, run_halt hhalt, run_halt hhalt]
  | cons u front ih =>
    simp only [List.cons_append, run]
    cases c.move u with
    | take c' => exact ih
    | halt r => rfl

/-- A run that ends well has come to a `finish`. -/
theorem exists_finish_of_run_eq_ok {parts : List Part}
    (h : run c ts = .ok parts) : ∃ t ∈ ts, t.kind = .finish := by
  induction ts generalizing c with
  | nil => cases h
  | cons t ts ih =>
    rcases c.move_cases t with ⟨-, c', htake⟩ | ⟨r, hhalt, -, hok⟩
    · rw [run_take htake] at h
      obtain ⟨u, hu, hfinish⟩ := ih h
      exact ⟨u, List.mem_cons_of_mem t hu, hfinish⟩
    · rw [run_halt hhalt] at h
      exact ⟨t, List.mem_cons_self, hok parts h⟩

end

end Cursor

theorem firstFault?_append (front back : List Token) :
    firstFault? (front ++ back)
      = (firstFault? front).or (firstFault? back) :=
  List.findSome?_append

end Parse

/-! ## Whole lists -/

namespace Template

open Parse Parse.Cursor

/-- The first fault is the answer. -/
theorem ofTokens?_of_fault {front back : List Token} {t : Token}
    {e : TemplateError} (hfront : firstFault? front = none)
    (ht : t.kind = .fault e) :
    ofTokens? (front ++ t :: back) = .error (.error e) := by
  have hfault : firstFault? (front ++ t :: back) = some e := by
    rw [firstFault?_append, hfront, Option.none_or, firstFault?,
      List.findSome?_cons, ht]
    rfl
  rw [ofTokens?, ← firstFault?, hfault]

/-- Any list of tokens is safe to read.

The first fault is the answer, whatever else there is.  Without a fault, the
parser comes to no place behind a `finish`; it halts in front of a token that
is there, and what stands behind the `finish` makes no difference.  Without a
`finish` too, the list is no template. -/
theorem ofTokens?_safe (ts : List Token) :
    (∀ front t back e, ts = front ++ t :: back →
        firstFault? front = none → t.kind = .fault e →
        ofTokens? ts = .error (.error e))
      ∧ (firstFault? ts = none →
        (∀ front t back, ts = front ++ t :: back → t.kind = .finish →
          (∀ n c, Stands ts n c → n ≤ front.length)
            ∧ (∃ n r, Halts ts n r ∧ r ≠ .error .outOfTokens
                ∧ ofTokens? ts = r.map Template.mk)
            ∧ ∀ back', firstFault? back' = none →
                ofTokens? (front ++ t :: back') = ofTokens? ts)
        ∧ ((∀ t ∈ ts, t.kind ≠ .finish) →
            ∃ stop, ofTokens? ts = .error stop)) := by
  refine ⟨?_, fun hnone => ⟨?_, fun hno => ?_⟩⟩
  · rintro front t back e rfl hfront ht
    exact ofTokens?_of_fault hfront ht
  · rintro front t back rfl ht
    refine ⟨fun n c h => h.le_length ht, ?_, fun back' hback => ?_⟩
    · obtain ⟨n, r, hhalts⟩ := Stands.start.exists_halts rfl ht
      exact ⟨n, r, hhalts, hhalts.ne_outOfTokens,
        by rw [ofTokens?_eq_run hnone, hhalts.run_eq]⟩
    · have hfinish : t.kind.fault? = none := by rw [ht]; rfl
      have hnone' : firstFault? (front ++ t :: back') = none := by
        rw [firstFault?_append, Option.or_eq_none_iff] at hnone ⊢
        exact ⟨hnone.1, (firstFault?_cons hfinish back').trans hback⟩
      rw [ofTokens?_eq_run hnone, ofTokens?_eq_run hnone',
        run_append_finish ht back]
  · rw [ofTokens?_eq_run hnone]
    cases hrun : run (.outside []) ts with
    | error stop => exact ⟨stop, rfl⟩
    | ok parts =>
      obtain ⟨t, ht, hfinish⟩ := exists_finish_of_run_eq_ok hrun
      exact absurd hfinish (hno t ht)

/-- An open placeholder with a path that is not whole. -/
def openPath : List Token :=
  [⟨.openBrace, ⟨0, 1⟩⟩, ⟨.identifier "id", ⟨1, 3⟩⟩, ⟨.dot, ⟨3, 4⟩⟩]

/-- The path runs out, or is cut off by a `finish`, whatever there is behind
that. -/
theorem ofTokens?_safe_openPath :
    ofTokens? openPath = .error .outOfTokens
      ∧ ofTokens? (openPath ++ ⟨.finish, ⟨4, 4⟩⟩ :: openPath)
        = .error (.error
            (.unexpectedToken "end of template" "identifier" 4))
      ∧ ofTokens? (openPath ++ [⟨.finish, ⟨4, 4⟩⟩])
        = ofTokens? (openPath ++ ⟨.finish, ⟨4, 4⟩⟩ :: openPath) := by
  obtain ⟨-, hsafe⟩ :=
    ofTokens?_safe (openPath ++ ⟨.finish, ⟨4, 4⟩⟩ :: openPath)
  obtain ⟨-, -, hcut⟩ :=
    (hsafe (by decide)).1 openPath ⟨.finish, ⟨4, 4⟩⟩ openPath rfl rfl
  exact ⟨by decide +kernel, by decide +kernel, hcut [] rfl⟩

end Template

end PolicyWeave
