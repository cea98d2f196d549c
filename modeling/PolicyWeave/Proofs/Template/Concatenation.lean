import PolicyWeave.Proofs.Template.Canonical
import PolicyWeave.Proofs.Template.Dependencies
import PolicyWeave.Proofs.Template.Resolution
import PolicyWeave.Proofs.Template.Shift

/-!
# Templates one behind the other

A cache policy glues its lead and its key together as texts and compiles
them as one template.  Here a text that compiles stands in front of any
other, and what becomes of both together is told from what becomes of each.

There are four groups.

* `Segment.join` and `Part.Joins` are lists one behind the other.  Where a
  text meets a text they are one.
* The parser: `Template.parse_append`.  A text that parses leaves the scan
  outside placeholders, so what stands behind it is scanned as if it stood
  alone, only further back.
* Resolution and assembly.
* `KeyTemplate.compile_append` joins them.
-/

namespace PolicyWeave

open Text (byteLength byteLength_append)
open Token (isLiteral)

/-! ## Lists one behind the other -/

/-- Segments one behind the other.  If a literal meets a literal, the two
are one. -/
def Segment.join : List Segment → List Segment → List Segment
  | [], ts => ts
  | [.literal s], .literal t :: ts => .literal (s ++ t) :: ts
  | s :: ss, ts => s :: join ss ts

/-- Parts one behind the other: side by side, or with the last text of the
first and the first text of the second as one. -/
inductive Part.Joins : List Part → List Part → List Part → Prop where
  | beside (ps qs : List Part) : Joins ps qs (ps ++ qs)
  | met (ps : List Part) (s t : String) (qs : List Part) :
      Joins (ps ++ [.text s]) (.text t :: qs) (ps ++ .text (s ++ t) :: qs)

namespace Segment

/-- A literal in front of segments is one with a literal there. -/
theorem join_singleton (s : String) (hs : s ≠ "") (ss : List Segment) :
    join [.literal s] ss = consLiteral s ss := by
  cases ss with
  | nil => simp [join, consLiteral, hs]
  | cons seg ss => cases seg <;> simp [join, consLiteral, hs]

/-- The empty literal vanishes. -/
theorem consLiteral_empty (ss : List Segment) : consLiteral "" ss = ss := by
  cases ss with
  | nil => rfl
  | cons seg ss => cases seg <;> simp [consLiteral]

/-- Two literals in front are one. -/
theorem consLiteral_consLiteral (s t : String) (ss : List Segment) :
    consLiteral s (consLiteral t ss) = consLiteral (s ++ t) ss := by
  by_cases ht : t = ""
  · rw [ht, consLiteral_empty, String.append_empty]
  · cases ss with
    | nil => simp [consLiteral, ht]
    | cons seg ss =>
      cases seg <;> simp [consLiteral, ht, String.append_assoc]

/-- A literal in front of two lists is one in front of the first. -/
theorem consLiteral_join (s : String) (ss ts : List Segment) :
    consLiteral s (join ss ts) = join (consLiteral s ss) ts := by
  by_cases hs : s = ""
  · rw [hs, consLiteral_empty, consLiteral_empty]
  · cases ss with
    | nil =>
      have hnil : consLiteral s [] = [.literal s] := by
        simp [consLiteral, hs]
      rw [hnil, join_singleton s hs, join]
    | cons seg ss =>
      cases seg with
      | literal t =>
        cases ss with
        | nil =>
          cases ts with
          | nil => simp [join, consLiteral]
          | cons seg ts =>
            cases seg <;> simp [join, consLiteral, String.append_assoc]
        | cons seg ss => simp [join, consLiteral]
      | field p => simp [join, consLiteral, hs]
      | builtin name f args => simp [join, consLiteral, hs]

/-- Two lists are merged each on its own, and then joined. -/
theorem merge_append (ss ts : List Segment) :
    merge (ss ++ ts) = join (merge ss) (merge ts) := by
  induction ss with
  | nil => rfl
  | cons s ss ih =>
    cases s with
    | literal s => rw [List.cons_append, merge, ih, consLiteral_join, merge]
    | field p => simp [merge, ih, join]
    | builtin name f args => simp [merge, ih, join]

/-- Two literals that meet may be one before the merge. -/
theorem merge_met (ss : List Segment) (s t : String) (ts : List Segment) :
    merge (ss ++ .literal (s ++ t) :: ts)
      = join (merge (ss ++ [.literal s])) (merge (.literal t :: ts)) := by
  have hone : merge (.literal (s ++ t) :: ts)
      = merge (.literal s :: .literal t :: ts) := by
    rw [merge, merge, merge, consLiteral_consLiteral]
  rw [merge_append, hone, ← merge_append, ← merge_append,
    List.append_assoc, List.singleton_append]

end Segment

/-! ## The parser -/

/-- The bytes of a text are those of its characters. -/
theorem Text.byteLength_toList (s : String) :
    byteLength s.toList = s.utf8ByteSize := by
  have hlist (cs : List Char) :
      byteLength cs = (String.ofList cs).utf8ByteSize := by
    induction cs with
    | nil => rfl
    | cons c cs ih =>
      rw [String.ofList_cons, String.utf8ByteSize_append, ← ih,
        byteLength_cons, String.utf8ByteSize_singleton]
  rw [hlist, String.ofList_toList]

namespace Part

/-- The last of parts that are written is written at the end. -/
theorem ListWritten.split_last {ps : List Part} {p : Part}
    {cs : List Char} (h : ListWritten (ps ++ [p]) cs) :
    ∃ front last, cs = front ++ last ∧ ListWritten ps front
      ∧ p.Written last := by
  induction ps generalizing cs with
  | nil =>
    cases h with
    | @cons _ _ last rest hp hps =>
      cases hps
      exact ⟨[], last, by simp, .nil, hp⟩
  | cons q ps ih =>
    cases h with
    | @cons _ _ first rest hq hps =>
      obtain ⟨front, last, rfl, hfront, hlast⟩ := ih hps
      exact ⟨first ++ front, last, by simp, .cons hq hfront, hlast⟩

/-- In front of a last text stands no text. -/
theorem ListMaximal.split_last {ps : List Part} {s : String}
    (h : ListMaximal (ps ++ [.text s])) :
    ListMaximal ps ∧ ∀ p ∈ ps.getLast?, ¬ p.IsText := by
  obtain ⟨hchain, -, hlast⟩ := List.isChain_append.mp h.apart
  refine ⟨⟨fun s hs => h.nonempty s (by simp [hs]), hchain⟩, ?_⟩
  intro p hp htext
  exact hlast p hp (.text s) (by simp) ⟨htext, trivial⟩

end Part

namespace Parse

open Token (scan scanLiteral scanLiteral_text)

/-- The first run of text of some characters, which is not empty. -/
theorem exists_run {cs : List Char} {c : Char} (hc : c ∈ cs.head?)
    (hlit : isLiteral c = true) :
    ∃ s more, cs = s.toList ++ more ∧ s ≠ ""
      ∧ (∀ d ∈ s.toList, d ≠ '{' ∧ d ≠ '}')
      ∧ ∀ d ∈ more.head?, isLiteral d = false := by
  refine ⟨String.ofList (cs.takeWhile isLiteral), cs.dropWhile isLiteral,
    ?_, ?_, ?_, ?_⟩
  · rw [String.toList_ofList, List.takeWhile_append_dropWhile]
  · obtain ⟨ds, rfl⟩ := List.head?_eq_some_iff.mp hc
    simp [hlit]
  · intro d hd
    rw [String.toList_ofList] at hd
    exact Token.isLiteral_iff.mp (List.mem_takeWhile_imp hd)
  · intro d hd
    have hstop := List.head?_dropWhile_not isLiteral cs
    rwa [Option.mem_def.mp hd] at hstop

/-- A text in front of tokens is a part in front of parts. -/
theorem parts?_text (s : String) (span : Span) (ts : List Token) :
    parts? (⟨.text s, span⟩ :: ts)
      = (parts? ts).map fun ps => .text s :: ps := by
  rw [parts?]
  cases parts? ts <;> rfl

/-- A text at the end goes on in a text that follows. -/
theorem parts?_append_text {ps : List Part} {s r : String}
    {cs more : List Char} (h : Part.ListWritten (ps ++ [.text s]) cs)
    (hmax : Part.ListMaximal (ps ++ [.text s])) (hr : r ≠ "")
    (hfree : ∀ c ∈ r.toList, c ≠ '{' ∧ c ≠ '}')
    (hstop : ∀ c ∈ more.head?, isLiteral c = false) (pos : Nat) :
    ∃ qs, qs.map Part.erase = ps.map Part.erase
      ∧ parts? (scanLiteral pos (cs ++ (r.toList ++ more)))
        = (parts? (scanLiteral (pos + byteLength cs + byteLength r.toList)
            more)).map (fun rest => qs ++ .text (s ++ r) :: rest)
      ∧ firstFault? (scanLiteral pos (cs ++ (r.toList ++ more)))
        = firstFault? (scanLiteral
            (pos + byteLength cs + byteLength r.toList) more) := by
  obtain ⟨front, last, rfl, hfront, hlast⟩ := h.split_last
  obtain ⟨hfrontMax, hapart⟩ := hmax.split_last
  cases hlast with
  | text hs =>
    obtain ⟨qs, hqs, hread, hfault⟩ :=
      parts?_append ((s ++ r).toList ++ more) hfront hfrontMax
        (fun p hp htext => absurd htext (hapart p hp)) pos
    have hplain : ∀ c ∈ (s ++ r).toList, c ≠ '{' ∧ c ≠ '}' := by
      intro c hc
      rw [String.toList_append, List.mem_append] at hc
      exact hc.elim (hs c) (hfree c)
    rw [scanLiteral_text _ (by simp [hr]) hplain hstop] at hread hfault
    rw [parts?_text] at hread
    rw [firstFault?_cons rfl] at hfault
    simp only [String.toList_append, byteLength_append,
      ← Nat.add_assoc, List.append_assoc] at hread hfault ⊢
    refine ⟨qs, hqs, ?_, hfault⟩
    rw [hread]
    cases parts? (scanLiteral _ more) <;> rfl

/-- What stands behind a text that parses is read as if it stood alone
there. -/
theorem parts?_scan_append {a : String} {t : Template}
    (ha : Template.parse a = .ok t) (b : String) :
    firstFault? (scan (a ++ b))
        = firstFault? (scanLiteral a.utf8ByteSize b.toList)
      ∧ ∃ ps, ps.map Part.erase = t.parts.map Part.erase
        ∧ (∀ e, parts? (scanLiteral a.utf8ByteSize b.toList) = .error e →
            parts? (scan (a ++ b)) = .error e)
        ∧ ∀ qs, parts? (scanLiteral a.utf8ByteSize b.toList) = .ok qs →
            ∃ rs, parts? (scan (a ++ b)) = .ok rs ∧ Part.Joins ps qs rs := by
  obtain ⟨hwritten, hmax⟩ := Template.written_of_parse_eq_ok ha
  rw [Token.scan, String.toList_append, ← Text.byteLength_toList]
  by_cases hend : ∀ p ∈ t.parts.getLast?, p.IsText →
      ∀ c ∈ b.toList.head?, isLiteral c = false
  · obtain ⟨ps, hps, hread, hfault⟩ :=
      parts?_append _ hwritten hmax hend 0
    rw [Nat.zero_add] at hread hfault
    refine ⟨hfault, ps, hps, ?_, ?_⟩
    · intro e he
      rw [hread, he]
      rfl
    · intro qs hqs
      rw [hread, hqs]
      exact ⟨ps ++ qs, rfl, .beside ps qs⟩
  · -- a text at the end goes on in the first text of what follows
    push Not at hend
    obtain ⟨p, hp, htext, c, hc, hlit⟩ := hend
    obtain ⟨front, hparts⟩ := List.getLast?_eq_some_iff.mp hp
    cases p with
    | placeholder => cases htext
    | text s =>
      rw [Template.Written, hparts] at hwritten
      rw [Template.Maximal, hparts] at hmax
      obtain ⟨r, more, hb, hr, hfree, hstop⟩ :=
        exists_run hc (by simpa using hlit)
      obtain ⟨ps, hps, hread, hfault⟩ :=
        parts?_append_text hwritten hmax hr hfree hstop 0
      rw [Nat.zero_add] at hread hfault
      rw [hb, scanLiteral_text _ hr hfree hstop, parts?_text,
        firstFault?_cons rfl, hread]
      refine ⟨hfault, ps ++ [.text s], by simp [hparts, hps], ?_, ?_⟩
      · intro e he
        cases hmore : parts? (scanLiteral _ more) with
        | error e' =>
          rw [hmore] at he
          exact he
        | ok qs =>
          rw [hmore] at he
          cases he
      · intro qs hqs
        cases hmore : parts? (scanLiteral _ more) with
        | error e =>
          rw [hmore] at hqs
          cases hqs
        | ok rest =>
          rw [hmore] at hqs
          cases hqs
          exact ⟨_, rfl, .met ps s r rest⟩

end Parse

namespace Template

open Parse Token

/-- A text parses to the error of its scan, or to what the parser reads. -/
theorem parse_eq (source : String) :
    parse source = match firstFault? (scan source) with
      | some e => .error e
      | none => match parts? (scan source) with
        | .ok ps => .ok ⟨ps⟩
        | .error (.error e) => .error e
        | .error .outOfTokens => .error (.unexpectedToken "end of template"
            "literal text or '\x7b'" source.utf8ByteSize) := by
  rw [parse, parse?, ofTokens?, firstFault?]
  cases (scan source).findSome? fun t => t.kind.fault? with
  | some e => rfl
  | none =>
    cases parts? (scan source) with
    | error e => cases e <;> rfl
    | ok ps => rfl

/-- Behind a text that parses, a text parses as it does alone, and if it
does not, its error points further by the bytes in front. -/
theorem parse_append {a : String} {t : Template} (ha : parse a = .ok t)
    (b : String) :
    (∀ e, parse b = .error e →
        parse (a ++ b) = .error (e.shift a.utf8ByteSize))
      ∧ ∀ u, parse b = .ok u → ∃ ps v, parse (a ++ b) = .ok v
          ∧ ps.map Part.erase = t.parts.map Part.erase
          ∧ Part.Joins ps (u.parts.map (Part.shift a.utf8ByteSize))
              v.parts := by
  obtain ⟨hfault, ps, hps, herror, hok⟩ := parts?_scan_append ha b
  rw [firstFault?_scanLiteral] at hfault
  constructor
  · intro e he
    rw [parse_eq] at he
    rw [parse_eq, hfault]
    cases hb : firstFault? (scan b) with
    | some e' =>
      rw [hb] at he
      cases he
      rfl
    | none =>
      have hmoved := parts?_scanLiteral a.utf8ByteSize hb
      rw [hb] at he
      cases hparts : parts? (scan b) with
      | ok qs =>
        rw [hparts] at he
        cases he
      | error stop =>
        rw [hparts] at he hmoved
        rw [Option.map_none, herror _ hmoved]
        cases stop with
        | error e' =>
          cases he
          rfl
        | outOfTokens =>
          cases he
          simp [ParseStop.shift, TemplateError.shift, Nat.add_comm]
  · intro u hu
    obtain ⟨hnone, hparts⟩ := parse_eq_ok_iff.mp hu
    have hmoved := parts?_scanLiteral a.utf8ByteSize hnone
    rw [hparts] at hmoved
    obtain ⟨rs, hrs, hjoins⟩ := hok _ hmoved
    rw [hnone] at hfault
    exact ⟨ps, ⟨rs⟩, parse_eq_ok_iff.mpr ⟨hfault, hrs⟩, hps, hjoins⟩

end Template

/-! ## Resolution -/

section

variable {table : BuiltinTable} {c : Contract} {m : Method}

/-- Parts resolve one list after the other. -/
theorem Part.resolveAll_append (ps qs : List Part) :
    Part.resolveAll table c m (ps ++ qs)
      = (Part.resolveAll table c m ps).bind fun ss =>
          (Part.resolveAll table c m qs).map (ss ++ ·) := by
  induction ps with
  | nil =>
    rw [List.nil_append]
    cases Part.resolveAll table c m qs <;> rfl
  | cons p ps ih =>
    rw [List.cons_append, Part.resolveAll, ih, Part.resolveAll]
    cases p.resolve table c m with
    | error e => rfl
    | ok s =>
      cases Part.resolveAll table c m ps with
      | error e => rfl
      | ok ss => cases Part.resolveAll table c m qs <;> rfl

/-- Parts that resolve leave the outcome to what they are joined with. -/
theorem Part.Joins.resolveAll {ps qs rs : List Part} {ss : List Segment}
    (h : Part.Joins ps qs rs)
    (hps : Part.resolveAll table c m ps = .ok ss) :
    (∀ e, Part.resolveAll table c m qs = .error e →
        Part.resolveAll table c m rs = .error e)
      ∧ ∀ ts, Part.resolveAll table c m qs = .ok ts →
        ∃ us, Part.resolveAll table c m rs = .ok us
          ∧ Segment.merge us
            = Segment.join (Segment.merge ss) (Segment.merge ts) := by
  cases h with
  | beside =>
    rw [Part.resolveAll_append, hps]
    refine ⟨?_, ?_⟩
    · intro e he
      rw [he]
      rfl
    · intro ts hts
      rw [hts]
      exact ⟨ss ++ ts, rfl, Segment.merge_append ss ts⟩
  | met ps s t qs =>
    rw [Part.resolveAll_append] at hps
    rw [Part.resolveAll_append]
    cases hfront : Part.resolveAll table c m ps with
    | error e =>
      rw [hfront] at hps
      cases hps
    | ok front =>
      rw [hfront] at hps
      cases hps
      simp only [Part.resolveAll, Part.resolve]
      cases hback : Part.resolveAll table c m qs with
      | error e =>
        refine ⟨?_, ?_⟩
        · intro e' he
          cases he
          rfl
        · intro ts hts
          cases hts
      | ok back =>
        refine ⟨?_, ?_⟩
        · intro e' he
          cases he
        · intro ts hts
          cases hts
          exact ⟨_, rfl, Segment.merge_met front s t back⟩

/-- Parts alike but for spans resolve alike. -/
theorem Part.resolveAll_of_erase_eq {ps qs : List Part}
    {ss : List Segment} (h : ps.map Part.erase = qs.map Part.erase)
    (hqs : Part.resolveAll table c m qs = .ok ss) :
    Part.resolveAll table c m ps = .ok ss := by
  have heq : (Part.resolveAll table c m ps).toOption
      = (Part.resolveAll table c m qs).toOption := by
    rw [← Part.toOption_resolveAll_erase, h,
      Part.toOption_resolveAll_erase]
  rcases cases_of_toOption_eq heq with ⟨ss', hps, hqs'⟩ | ⟨e, e', -, hqs'⟩
  · rw [hps, ← hqs', hqs]
  · rw [hqs] at hqs'
    cases hqs'

end

/-! ## Key templates -/

namespace Segment

/-- Joined segments have the field paths of both. -/
theorem flatMap_paths_join (ss ts : List Segment) :
    (join ss ts).flatMap Segment.paths
      = ss.flatMap Segment.paths ++ ts.flatMap Segment.paths := by
  fun_induction join ss ts with
  | case1 => rfl
  | case2 => rfl
  | case3 s ss ts _ ih => simp [ih]

/-- Joined segments have the text of both. -/
theorem evaluateAll_join (args : Arguments) (ss ts : List Segment) :
    evaluateAll args (join ss ts)
      = evaluateAll args ss ++ evaluateAll args ts := by
  fun_induction join ss ts with
  | case1 => simp [evaluateAll]
  | case2 s t ts => simp [evaluateAll, evaluate, String.append_assoc]
  | case3 s ss ts _ ih => simp [evaluateAll, ih, String.append_assoc]

end Segment

namespace KeyTemplate

variable {table : BuiltinTable} {c : Contract} {m : Method}

/-- A text fails to compile where it fails to parse, or else with the error
of its parts. -/
theorem compile_eq_error_iff {source : String} {e : TemplateError} :
    compile table c m source = .error e
      ↔ Template.parse source = .error e
        ∨ ∃ t, Template.parse source = .ok t
            ∧ Part.resolveAll table c m t.parts = .error e := by
  rw [compile]
  cases hparse : Template.parse source with
  | error e => simp
  | ok t =>
    cases hparts : Part.resolveAll table c m t.parts with
    | error e => simp [ofTemplate, hparts, Except.map]
    | ok ss => simp [ofTemplate, hparts, Except.map]

/-- Behind a text that compiles, a text fails as it does alone. -/
theorem compile_append_error {a : String} {ka : KeyTemplate}
    (ha : compile table c m a = .ok ka) {b : String} {e : TemplateError}
    (hb : compile table c m b = .error e) :
    compile table c m (a ++ b) = .error (e.shift a.utf8ByteSize) := by
  obtain ⟨t, ss, hparse, hss, rfl⟩ := compile_eq_ok_iff.mp ha
  obtain ⟨herror, hok⟩ := Template.parse_append hparse b
  rw [compile_eq_error_iff] at hb ⊢
  rcases hb with hb | ⟨u, hu, hb⟩
  · exact .inl (herror e hb)
  · obtain ⟨ps, v, hv, hps, hjoins⟩ := hok u hu
    have hresolved :=
      (hjoins.resolveAll (Part.resolveAll_of_erase_eq hps hss)).1
    refine .inr ⟨v, hv, hresolved _ ?_⟩
    rw [Part.resolveAll_shift, hb]
    rfl

/-- Texts that compile do so together, and their segments are joined. -/
theorem compile_append_ok {a b : String} {ka kb : KeyTemplate}
    (ha : compile table c m a = .ok ka) (hb : compile table c m b = .ok kb) :
    compile table c m (a ++ b)
      = .ok ⟨a ++ b, Segment.join ka.segments kb.segments⟩ := by
  obtain ⟨t, ss, hparse, hss, rfl⟩ := compile_eq_ok_iff.mp ha
  obtain ⟨u, ts, hu, hts, rfl⟩ := compile_eq_ok_iff.mp hb
  obtain ⟨ps, v, hv, hps, hjoins⟩ := (Template.parse_append hparse b).2 u hu
  have hshifted : Part.resolveAll table c m
      (u.parts.map (Part.shift a.utf8ByteSize)) = .ok ts := by
    rw [Part.resolveAll_shift, hts]
    rfl
  obtain ⟨us, hus, hmerge⟩ := (hjoins.resolveAll
    (Part.resolveAll_of_erase_eq hps hss)).2 ts hshifted
  exact compile_eq_ok_iff.mpr ⟨v, us, hv, hus, by rw [← hmerge]⟩

/-- A text that compiles may stand in front of any other.  Both together
compile exactly if the other does alone.  Then the segments are those of
both, with literals that meet as one, the dependencies are those of either,
and the key is the one key behind the other.  If the other does not compile,
both together have its error, further by the bytes in front. -/
theorem compile_append {a : String} {ka : KeyTemplate}
    (ha : compile table c m a = .ok ka) (b : String) :
    ((∃ k, compile table c m (a ++ b) = .ok k)
        ↔ ∃ kb, compile table c m b = .ok kb)
      ∧ (∀ kb, compile table c m b = .ok kb →
          ∃ k, compile table c m (a ++ b) = .ok k ∧ k.source = a ++ b
            ∧ k.segments = Segment.join ka.segments kb.segments
            ∧ (∀ name, name ∈ k.dependencies
                ↔ name ∈ ka.dependencies ∨ name ∈ kb.dependencies)
            ∧ k.dependencies.Pairwise (· < ·)
            ∧ ∀ args, k.evaluate args
                = ka.evaluate args ++ kb.evaluate args)
      ∧ ∀ e, compile table c m b = .error e →
          compile table c m (a ++ b) = .error (e.shift a.utf8ByteSize) := by
  refine ⟨⟨?_, ?_⟩, ?_, fun e hb => compile_append_error ha hb⟩
  · rintro ⟨k, hk⟩
    cases hb : compile table c m b with
    | ok kb => exact ⟨kb, rfl⟩
    | error e =>
      rw [compile_append_error ha hb] at hk
      cases hk
  · rintro ⟨kb, hb⟩
    exact ⟨_, compile_append_ok ha hb⟩
  · intro kb hb
    refine ⟨_, compile_append_ok ha hb, rfl, rfl, ?_,
      pairwise_dependencies _, ?_⟩
    · intro name
      simp only [mem_dependencies_iff, paths, Segment.flatMap_paths_join,
        List.mem_append, or_and_right, exists_or]
    · intro args
      rw [evaluate, Segment.evaluateAll_join, evaluate, evaluate]

/-- Two literals meet behind a lead, and an unknown name behind it is found
further back. -/
theorem compile_append_users :
    compile .standard Sample.userService Sample.getUser "users:"
        = .ok ⟨"users:", [.literal "users:"]⟩
      ∧ (∃ k, compile .standard Sample.userService Sample.getUser
            ("users:" ++ "v1:\x7bid\x7d") = .ok k
          ∧ k.segments = [.literal "users:v1:", .field ⟨"id", []⟩])
      ∧ compile .standard Sample.userService Sample.getUser
            ("users:" ++ "v1:\x7bname\x7d")
          = .error (.unknownParameter "name" 10) := by
  have ha : compile .standard Sample.userService Sample.getUser "users:"
      = .ok ⟨"users:", [.literal "users:"]⟩ := by
    decide +kernel
  have hb : compile .standard Sample.userService Sample.getUser
        "v1:\x7bid\x7d"
      = .ok ⟨"v1:\x7bid\x7d", [.literal "v1:", .field ⟨"id", []⟩]⟩ := by
    decide +kernel
  have hc : compile .standard Sample.userService Sample.getUser
        "v1:\x7bname\x7d"
      = .error (.unknownParameter "name" 4) := by
    decide +kernel
  obtain ⟨k, hk, -, hsegments, -⟩ := (compile_append ha _).2.1 _ hb
  exact ⟨ha, ⟨k, hk, hsegments⟩, (compile_append ha _).2.2 _ hc⟩

end KeyTemplate

end PolicyWeave
