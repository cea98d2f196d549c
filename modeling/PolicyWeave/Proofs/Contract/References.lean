import PolicyWeave.Proofs.Contract.Violations
import PolicyWeave.Proofs.Template.Grammar
import PolicyWeave.Proofs.Text.Runs
import PolicyWeave.Proofs.Text.Trimming
import PolicyWeave.Sample.Contracts

/-!
# Mutable references

Types are kept as written, and `isMutableReference` looks at a few
characters of the text.  Here the text is read in tokens: an ampersand,
perhaps a lifetime, and the keyword `mut` as a whole word, with blanks
between them.

There are three groups.

* `MutableReading` holds the pieces of such a text.  A text has one reading
  at most.
* `isMutableReference_iff` says which readings the check accepts, and that
  it accepts nothing without a reading.
* `mutable_references_exact` says on which types the check and the reading
  agree, and which references keep a contract from being valid.

The check knows a space behind the keyword and no other end of the word, and
no blank between the ampersand and the lifetime.  So `&mut[u8]` is a mutable
reference that a cached method may take.
-/

namespace PolicyWeave

open Text (Blank isBlank exists_blank_append_trimStart)

/-! ## Readings -/

/-- A lifetime and the blanks behind it. -/
structure Lifetime where
  name : List Char
  gap : List Char

/-- The pieces of a mutable reference: blanks, the ampersand, blanks,
perhaps a lifetime, the keyword, the character behind it and what is
left. -/
structure MutableReading where
  before : List Char
  gap : List Char
  lifetime : Option Lifetime
  next : Char
  target : List Char

/-- The text of a lifetime. -/
def Lifetime.chars (l : Lifetime) : List Char :=
  '\'' :: (l.name ++ l.gap)

namespace MutableReading

/-- The keyword and all behind it. -/
def wordChars (r : MutableReading) : List Char :=
  'm' :: 'u' :: 't' :: r.next :: r.target

/-- All behind the ampersand and its blanks. -/
def restChars (r : MutableReading) : List Char :=
  match r.lifetime with
  | none => r.wordChars
  | some l => l.chars ++ r.wordChars

/-- The text of a reading. -/
def chars (r : MutableReading) : List Char :=
  r.before ++ '&' :: (r.gap ++ r.restChars)

/-- Whether blanks stand where they may, and where they must: behind the
lifetime.  The keyword is a whole word. -/
structure Spaced (r : MutableReading) : Prop where
  before : Blank r.before
  gap : Blank r.gap
  lifetime : ∀ l ∈ r.lifetime, (∀ c ∈ l.name, isLifetimeChar c = true)
    ∧ Blank l.gap ∧ l.gap ≠ []
  next : isLifetimeChar r.next = false

/-- Whether the lifetime has a name. -/
def Named (r : MutableReading) : Prop :=
  ∀ l ∈ r.lifetime, l.name ≠ []

/-- Whether a space follows the keyword, and a lifetime follows the
ampersand at once. -/
def Plain (r : MutableReading) : Prop :=
  r.next = ' ' ∧ (r.lifetime.isSome → r.gap = [])

end MutableReading

/-- Whether the tokens of a text are those of a mutable reference. -/
def ReadsMutable (type : List Char) : Prop :=
  ∃ r : MutableReading, r.Spaced ∧ r.Named ∧ r.chars = type

/-- Whether a text has a plain reading. -/
def ReadsPlain (type : List Char) : Prop :=
  ∃ r : MutableReading, r.Spaced ∧ r.Plain ∧ r.chars = type

/-! ## Classes of characters -/

/-- The code points of the blanks. -/
def blankCodes : List Nat :=
  List.range' 0x9 5 ++ [0x20, 0x85, 0xA0, 0x1680] ++ List.range' 0x2000 11
    ++ [0x2028, 0x2029, 0x202F, 0x205F, 0x3000]

/-- No blank belongs to a name. -/
theorem isLifetimeChar_of_isBlank {c : Char} (h : isBlank c = true) :
    isLifetimeChar c = false := by
  have hcode : c.toNat ∈ blankCodes := by
    simp only [isBlank, Bool.or_eq_true, Bool.and_eq_true,
      decide_eq_true_eq, beq_iff_eq] at h
    simp only [blankCodes, List.mem_append, List.mem_range'_1,
      List.mem_cons, List.not_mem_nil, or_false]
    omega
  have hall : ∀ n ∈ blankCodes, isLifetimeChar (Char.ofNat n) = false := by
    decide +kernel
  rw [← Char.ofNat_toNat c]
  exact hall _ hcode

/-- A run of blanks that is not empty ends a name. -/
theorem head_of_blank {gap cs : List Char} (h : Blank gap)
    (hne : gap ≠ []) :
    ∀ c ∈ (gap ++ cs).head?, isLifetimeChar c = false := by
  obtain ⟨d, ds, rfl⟩ := List.exists_cons_of_ne_nil hne
  intro c hc
  obtain rfl : d = c := by simpa using hc
  exact isLifetimeChar_of_isBlank (h d (by simp))

/-! ## What the check accepts -/

/-- No lifetime is passed over where none starts. -/
theorem afterLifetime_of_head {cs : List Char}
    (h : ∀ c ∈ cs.head?, c ≠ '\'') : afterLifetime cs = cs := by
  unfold afterLifetime
  split
  · exact absurd rfl (h '\'' (by simp))
  · rfl

/-- Blanks start no lifetime. -/
theorem head_ne_quote {gap cs : List Char} (hgap : Blank gap)
    (hcs : ∀ c ∈ cs.head?, c ≠ '\'') :
    ∀ c ∈ (gap ++ cs).head?, c ≠ '\'' := by
  cases gap with
  | nil => exact hcs
  | cons d ds =>
    intro c hc
    obtain rfl : d = c := by simpa using hc
    have hblank := hgap d (by simp)
    rintro rfl
    exact absurd hblank (by decide)

/-- The start of a text that is no blank ends a run of blanks. -/
theorem head_not_blank {c : Char} (h : isBlank c = false)
    (cs : List Char) : ∀ d ∈ (c :: cs).head?, isBlank d = false := by
  intro d hd
  obtain rfl : c = d := by simpa using hd
  exact h

namespace MutableReading

variable {r : MutableReading}

theorem trimStart_chars (h : r.Spaced) :
    Text.trimStart r.chars = '&' :: (r.gap ++ r.restChars) :=
  Text.dropWhile_append_of_head h.before
    (head_not_blank (by decide) _)

theorem trimStart_wordChars {gap : List Char} (h : Blank gap) :
    Text.trimStart (gap ++ r.wordChars) = r.wordChars :=
  Text.dropWhile_append_of_head h (head_not_blank (by decide) _)

/-- The check asks for a space behind the keyword. -/
theorem isPrefixOf_wordChars :
    "mut ".toList.isPrefixOf r.wordChars = true ↔ r.next = ' ' := by
  simp only [wordChars, String.reduceToList, List.isPrefixOf,
    Bool.and_true, BEq.rfl, Bool.true_and,
    beq_iff_eq]
  exact eq_comm

/-- The check accepts a reading exactly if it is plain. -/
theorem isMutableReference_chars (h : r.Spaced) :
    isMutableReference r.chars = true ↔ r.Plain := by
  rw [isMutableReference, trimStart_chars h]
  cases hlifetime : r.lifetime with
  | none =>
    have hrest : r.restChars = r.wordChars := by
      simp [restChars, hlifetime]
    have hafter : afterLifetime (r.gap ++ r.wordChars)
        = r.gap ++ r.wordChars :=
      afterLifetime_of_head (head_ne_quote h.gap (by simp [wordChars]))
    simp only [hrest, hafter, trimStart_wordChars h.gap,
      isPrefixOf_wordChars, Plain, hlifetime]
    simp
  | some l =>
    obtain ⟨hname, hgap, hne⟩ := h.lifetime l hlifetime
    have hrest : r.restChars = l.chars ++ r.wordChars := by
      simp [restChars, hlifetime]
    cases hfront : r.gap with
    | nil =>
      have hafter : afterLifetime r.restChars = l.gap ++ r.wordChars := by
        simp only [hrest, Lifetime.chars, List.cons_append,
          List.append_assoc, afterLifetime]
        exact Text.dropWhile_append_of_head hname (head_of_blank hgap hne)
      simp only [List.nil_append, hafter, trimStart_wordChars hgap,
        isPrefixOf_wordChars, Plain, hfront]
      simp
    | cons c cs =>
      -- behind blanks the lifetime is not seen, and it is no keyword
      have hblank := h.gap
      rw [hfront] at hblank
      have hquote : c ≠ '\'' := by
        rintro rfl
        exact absurd (hblank '\'' (by simp)) (by decide)
      have hafter : afterLifetime (c :: cs ++ r.restChars)
          = c :: cs ++ r.restChars :=
        afterLifetime_of_head (by simpa using hquote)
      have htrim : Text.trimStart (c :: cs ++ r.restChars)
          = r.restChars := by
        rw [hrest]
        exact Text.dropWhile_append_of_head hblank
          (head_not_blank (by decide) _)
      simp only [hafter, htrim]
      simp [hrest, Lifetime.chars, Plain, hlifetime, hfront]

/-- What the check accepts has a reading. -/
theorem exists_reading_of_isMutableReference {type : List Char}
    (h : isMutableReference type = true) :
    ∃ r : MutableReading, r.Spaced ∧ r.chars = type := by
  obtain ⟨before, hbefore, htype⟩ := exists_blank_append_trimStart type
  have hspace : isLifetimeChar ' ' = false := by decide
  unfold isMutableReference at h
  split at h
  · rename_i rest hamp
    rw [hamp] at htype
    obtain ⟨target, htarget⟩ := List.isPrefixOf_iff_prefix.mp h
    unfold afterLifetime at htarget
    split at htarget
    · rename_i more
      obtain ⟨gap, hgap, hmore⟩ :=
        exists_blank_append_trimStart (more.dropWhile isLifetimeChar)
      rw [← htarget] at hmore
      -- the keyword would belong to the name if it followed at once
      have hne : gap ≠ [] := by
        rintro rfl
        have hstop := List.head?_dropWhile_not isLifetimeChar more
        have hletter : isLifetimeChar 'm' = true := by decide
        simp [hmore, hletter] at hstop
      have hname : more = more.takeWhile isLifetimeChar
          ++ (gap ++ ("mut ".toList ++ target)) := by
        rw [← hmore, List.takeWhile_append_dropWhile]
      refine ⟨⟨before, [], some ⟨more.takeWhile isLifetimeChar, gap⟩, ' ',
        target⟩, ⟨hbefore, by simp [Blank], ?_, hspace⟩, ?_⟩
      · rintro _ ⟨rfl⟩
        exact ⟨fun _ => List.mem_takeWhile_imp, hgap, hne⟩
      · rw [htype]
        simpa [chars, restChars, wordChars, Lifetime.chars]
          using hname.symm
    · obtain ⟨gap, hgap, hrest⟩ := exists_blank_append_trimStart rest
      rw [← htarget] at hrest
      refine ⟨⟨before, gap, none, ' ', target⟩,
        ⟨hbefore, hgap, by simp, hspace⟩, ?_⟩
      rw [htype, hrest]
      simp [chars, restChars, wordChars]
  · cases h

/-- The rest of a reading starts with a quote or with the keyword. -/
theorem restChars_head :
    ∀ c ∈ r.restChars.head?, isBlank c = false := by
  intro c hc
  cases hlifetime : r.lifetime with
  | none =>
    obtain rfl : 'm' = c := by
      simpa [restChars, hlifetime, wordChars] using hc
    decide
  | some l =>
    obtain rfl : '\'' = c := by
      simpa [restChars, hlifetime, Lifetime.chars] using hc
    decide

/-- The rest of a text is read in one way. -/
theorem Spaced.eq_of_restChars_eq {r' : MutableReading} (h : r.Spaced)
    (h' : r'.Spaced) (heq : r.restChars = r'.restChars) :
    r.lifetime = r'.lifetime ∧ r.wordChars = r'.wordChars := by
  have hletter : ∀ (s : MutableReading),
      ∀ c ∈ s.wordChars.head?, isBlank c = false :=
    fun s => head_not_blank (by decide) _
  cases hl : r.lifetime with
  | none =>
    cases hl' : r'.lifetime with
    | none => simpa [restChars, hl, hl'] using heq
    | some l' =>
      simp [restChars, hl, hl', wordChars, Lifetime.chars] at heq
  | some l =>
    cases hl' : r'.lifetime with
    | none =>
      simp [restChars, hl, hl', wordChars, Lifetime.chars] at heq
    | some l' =>
      obtain ⟨hname, hgap, hne⟩ := h.lifetime l hl
      obtain ⟨hname', hgap', hne'⟩ := h'.lifetime l' hl'
      have htail : l.name ++ (l.gap ++ r.wordChars)
          = l'.name ++ (l'.gap ++ r'.wordChars) := by
        simpa [restChars, hl, hl', Lifetime.chars] using heq
      obtain ⟨hnames, hrest⟩ := Text.run_append_inj hname hname'
        (head_of_blank hgap hne) (head_of_blank hgap' hne') htail
      obtain ⟨hgaps, hwords⟩ := Text.run_append_inj hgap hgap'
        (hletter r) (hletter r') hrest
      refine ⟨congrArg some ?_, hwords⟩
      cases l
      cases l'
      simp_all

/-- A text has one reading at most. -/
theorem Spaced.eq_of_chars_eq {r' : MutableReading} (h : r.Spaced)
    (h' : r'.Spaced) (heq : r.chars = r'.chars) : r = r' := by
  obtain ⟨hbefore, hamp⟩ := Text.run_append_inj h.before h'.before
    (head_not_blank (by decide) _) (head_not_blank (by decide) _) heq
  obtain ⟨hgap, hrest⟩ := Text.run_append_inj h.gap h'.gap
    restChars_head restChars_head (List.cons.inj hamp).2
  obtain ⟨hlifetime, hword⟩ := h.eq_of_restChars_eq h' hrest
  cases r
  cases r'
  simp_all [wordChars]

/-- What the reading of a text says, its only reading says. -/
theorem Spaced.exists_iff {P : MutableReading → Prop} (h : r.Spaced) :
    (∃ r' : MutableReading, r'.Spaced ∧ P r' ∧ r'.chars = r.chars)
      ↔ P r := by
  constructor
  · rintro ⟨r', h', hP, heq⟩
    rwa [← h'.eq_of_chars_eq h heq]
  · intro hP
    exact ⟨r, h, hP, rfl⟩

end MutableReading

/-- The check accepts the texts with a plain reading. -/
theorem isMutableReference_iff (type : List Char) :
    isMutableReference type = true ↔ ReadsPlain type := by
  constructor
  · intro h
    obtain ⟨r, hr, rfl⟩ :=
      MutableReading.exists_reading_of_isMutableReference h
    exact ⟨r, hr, (MutableReading.isMutableReference_chars hr).mp h, rfl⟩
  · rintro ⟨r, hr, hplain, rfl⟩
    exact (MutableReading.isMutableReference_chars hr).mpr hplain

/-- The check and the reading agree on a text exactly if its reading, if
there is one, is as plain as it is named. -/
theorem isMutableReference_iff_readsMutable (type : List Char) :
    (isMutableReference type = true ↔ ReadsMutable type)
      ↔ ∀ r : MutableReading, r.Spaced → r.chars = type →
          (r.Plain ↔ r.Named) := by
  rw [isMutableReference_iff]
  constructor
  · rintro h r hr rfl
    rwa [ReadsPlain, hr.exists_iff, ReadsMutable, hr.exists_iff] at h
  · intro h
    constructor
    · rintro ⟨r, hr, hplain, rfl⟩
      exact ⟨r, hr, (h r hr rfl).mp hplain, rfl⟩
    · rintro ⟨r, hr, hnamed, rfl⟩
      exact ⟨r, hr, (h r hr rfl).mpr hnamed, rfl⟩

/-! ## Contracts -/

/-- A mutable reference is reported for a parameter of a cached method
whose type has a plain reading, and for no other. -/
theorem Contract.mem_violations_mutable {c : Contract}
    {method name : String} {e : MethodError}
    (he : e = .ofValidation c.name method (.mutableCacheParam name)) :
    e ∈ c.violations ↔ ∃ m ∈ c.methods, m.name = method
      ∧ m.cache.isSome = true
      ∧ ∃ q ∈ m.params, q.name = name ∧ ReadsPlain q.type.toList := by
  rw [mem_violations_iff]
  constructor
  · rintro ⟨place, h⟩
    cases h with
    | name => cases he
    | repeated => cases he
    | method hm h =>
      simp only [MethodError.ofValidation, MethodError.mk.injEq,
        MethodFault.validation.injEq, true_and] at he
      obtain ⟨rfl, rfl⟩ := he
      cases h with
      | param hq h => cases h
      | reference hp hq hmut =>
        exact ⟨_, List.mem_of_getElem? hm, rfl, by simp [hp], _,
          List.mem_of_getElem? hq, rfl, (isMutableReference_iff _).mp hmut⟩
  · rintro ⟨m, hm, rfl, hcache, q, hq, rfl, hplain⟩
    obtain ⟨i, hi⟩ := List.mem_iff_getElem?.mp hm
    obtain ⟨j, hj⟩ := List.mem_iff_getElem?.mp hq
    obtain ⟨p, hp⟩ := Option.isSome_iff_exists.mp hcache
    have hmut : q.isMutRef = true := (isMutableReference_iff _).mpr hplain
    rw [he]
    exact ⟨_, .method hi (.reference hp hj hmut)⟩

namespace Sample

/-- A cached look-up that fills a buffer of the caller. -/
def fill : Method :=
  { name := "fill"
    params := [param "buf" "&mut[u8]" .value none]
    returns := returns "usize"
    cache := some
      ⟨Duration.ofMilliseconds 60000, "", "fill", percent 0, percent 0⟩
    evict := none
    trace := none }

/-- A contract with a cached method that takes a mutable reference. -/
def buffers : Contract := ⟨"app::buffers", "Buffers", [fill]⟩

end Sample

/-- On a type the check and the reading agree exactly if the readings of
the type are as plain as they are named.  In a contract the parameters of
cached methods that have a plain reading are reported as mutable, and no
others, so a valid contract has none of them. -/
theorem mutable_references_exact (type : List Char) (c : Contract) :
    ((isMutableReference type = true ↔ ReadsMutable type)
      ↔ ∀ r : MutableReading, r.Spaced → r.chars = type →
          (r.Plain ↔ r.Named))
      ∧ (∀ method name : String,
          .ofValidation c.name method (.mutableCacheParam name) ∈ c.violations
            ↔ ∃ m ∈ c.methods, m.name = method ∧ m.cache.isSome = true
              ∧ ∃ q ∈ m.params, q.name = name
                ∧ ReadsPlain q.type.toList)
      ∧ (c.isValid = true → ∀ m ∈ c.methods,
          m.cache.isSome = true → ∀ q ∈ m.params,
          ¬ ReadsPlain q.type.toList) := by
  refine ⟨isMutableReference_iff_readsMutable type, ?_, ?_⟩
  · intro method name
    exact Contract.mem_violations_mutable rfl
  · intro hvalid m hm hcache q hq hplain
    have hmem : .ofValidation c.name m.name (.mutableCacheParam q.name)
        ∈ c.violations :=
      (Contract.mem_violations_mutable rfl).mpr
        ⟨m, hm, rfl, hcache, q, hq, rfl, hplain⟩
    rw [List.isEmpty_iff.mp hvalid] at hmem
    cases hmem

/-- A bracket may follow the keyword, but the check does not know it: the
type is read as a mutable reference and taken by a cached method of a valid
contract. -/
theorem exists_mutable_reference_unseen :
    (∃ m ∈ Sample.buffers.methods, m.cache.isSome = true
      ∧ ∃ q ∈ m.params, ReadsMutable q.type.toList ∧ q.isMutRef = false)
      ∧ Sample.buffers.isValid = true := by
  refine ⟨⟨Sample.fill, by simp [Sample.buffers], rfl, _,
    List.mem_singleton_self _, ?_, by decide +kernel⟩, by decide +kernel⟩
  exact ⟨⟨[], [], none, '[', "u8]".toList⟩,
    ⟨by simp [Text.Blank], by simp [Text.Blank], by simp, by decide⟩,
    by simp [MutableReading.Named], by decide⟩

end PolicyWeave
