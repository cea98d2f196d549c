import PolicyWeave.Proofs.Duration
import PolicyWeave.Proofs.Number.Numerals
import PolicyWeave.Proofs.Source.LegalNames
import PolicyWeave.Proofs.Source.Settings
import PolicyWeave.Proofs.Text.Keywords

/-!
# Lifetimes in settings constants

The lifetime of a cache policy is any duration but zero.  The constant of its
method holds it as a number of milliseconds, and the generated code makes a
duration of that number again.

* `Code.milliseconds?` reads the number from a constant.
* `Code.Keeps` says that the number fits 64 bits and gives the lifetime back.
* `ContractPlan.lifetimes_kept_iff`: the number is that of the whole
  milliseconds, so a lifetime is kept if it has no part below a millisecond
  and is below `2 ^ 64` milliseconds.

Every lifetime that was read from a text is kept.  One below a millisecond
is written as zero, which validation refuses in a policy.
-/

namespace PolicyWeave

/-! ## Reading constants -/

/-- The start of the line with the lifetime. -/
def lifetimeHead : String := "ttl: ::std::time::Duration::from_millis("

/-- The number of milliseconds in a line, if it is the one with the
lifetime. -/
def lineMilliseconds? (line : String) : Option Nat :=
  (Text.behind? lifetimeHead line.toList).bind fun rest =>
    if rest.dropWhile Char.isDigit == "),".toList then
      some (Number.digitsValue (rest.takeWhile Char.isDigit))
    else none

namespace Code

/-- The text of a line of code. -/
def lineText? : Code → Option String
  | line text => some text
  | _ => none

/-- The number of milliseconds in a constant. -/
def milliseconds? : Code → Option Nat
  | block _ body _ => (body.filterMap lineText?).findSome? lineMilliseconds?
  | _ => none

/-- Whether the number in a constant fits 64 bits and is that of a
duration. -/
def Keeps (code : Code) (d : Duration) : Prop :=
  ∃ n, code.milliseconds? = some n ∧ n < UInt64.size
    ∧ Duration.ofMilliseconds n = d

end Code

/-- A written number of milliseconds is read. -/
theorem lineMilliseconds?_natText (n : Nat) :
    lineMilliseconds? (lifetimeHead ++ Number.natText n ++ "),") = some n := by
  have hdigits := Number.isDigit_of_mem_digitChars (n := n)
  have hend : ∀ c ∈ "),".toList.head?, c.isDigit = false := by
    rintro c ⟨⟩
    rfl
  have hnumber : (Number.natText n).toList = Number.digitChars n :=
    String.toList_ofList
  rw [String.append_assoc, lineMilliseconds?, Text.behind?_append,
    Option.bind_some, String.toList_append, hnumber,
    Text.dropWhile_append_of_head hdigits hend,
    Text.takeWhile_append_of_head hdigits hend, if_pos (beq_self_eq_true _),
    Number.digitsValue_digitChars]

/-- The constant of a method holds the whole milliseconds of the lifetime. -/
theorem SettingsConstant.milliseconds?_code (runtime : String)
    (s : SettingsConstant) :
    (s.code runtime).milliseconds? = some s.plan.ttl.milliseconds := by
  have hlabel : lineMilliseconds? ("method: " ++ Text.literal s.label ++ ",")
      = none := by
    rw [String.append_assoc, lineMilliseconds?,
      Text.behind?_of_differ (by decide), Option.bind_none]
  have hlifetime := lineMilliseconds?_natText s.plan.ttl.milliseconds
  rw [lifetimeHead] at hlifetime
  simp [code, Code.milliseconds?, Code.lineText?, hlabel, hlifetime]

/-- The lifetime is kept if its whole milliseconds are all of it and fit
64 bits. -/
theorem SettingsConstant.keeps_iff (runtime : String) (s : SettingsConstant) :
    (s.code runtime).Keeps s.plan.ttl ↔
      s.plan.ttl.IsWhole ∧ s.plan.ttl.milliseconds < UInt64.size := by
  rw [← Duration.ofMilliseconds_eq_iff, Code.Keeps,
    SettingsConstant.milliseconds?_code]
  simp

/-- A lifetime below a millisecond is written as zero, and no other. -/
theorem SettingsConstant.milliseconds?_eq_zero_iff (runtime : String)
    (s : SettingsConstant) :
    (s.code runtime).milliseconds? = some 0 ↔
      s.plan.ttl.nanoseconds < 1000000 := by
  rw [SettingsConstant.milliseconds?_code, Option.some_inj,
    Duration.milliseconds, Nat.div_eq_zero_iff]
  omega

/-! ## Constants of a plan -/

namespace ContractPlan

variable {table : BuiltinTable} {c : Contract} {p : ContractPlan}

/-- Every cached method has a constant that describes it. -/
theorem exists_settings (hplan : c.plan table = .ok p) {m : Method}
    (hm : m ∈ c.methods) {q : CachePolicy} (hq : m.cache = some q) :
    ∃ s ∈ (cacheDecorator p).settings, s.Describes c.name m
      ∧ s.plan.ttl = q.ttl := by
  have hname := map_name_settingsConstant? hplan hm
  rw [hq] at hname
  obtain ⟨s, hs, -⟩ := Option.map_eq_some_iff.mp hname
  have hdescribes := describes_of_settingsConstant? hs
  obtain ⟨q', hq', httl, -⟩ := hdescribes.policy
  obtain rfl : q = q' := Option.some_inj.mp (hq.symm.trans hq')
  obtain ⟨-, rfl⟩ := Contract.plan_eq_ok_iff.mp hplan
  exact ⟨s, List.mem_filterMap.mpr ⟨_, List.mem_map_of_mem hm, hs⟩,
    hdescribes, httl⟩

theorem mem_code_of_mem_settings {config : Config} {d : Decorator}
    {s : SettingsConstant} (hs : s ∈ d.settings) :
    s.code config.runtime ∈ d.code config :=
  List.mem_append_left _
    (List.mem_flatMap.mpr ⟨s, hs, List.mem_cons_self⟩)

/-- The constant of a cached method holds the whole milliseconds of the
lifetime.  The lifetime is kept if they are all of it and fit 64 bits, and
one below a millisecond is written as zero.  Lifetimes that were read from a
text are kept and not zero. -/
theorem lifetimes_kept_iff (hplan : c.plan table = .ok p) (config : Config) :
    ∀ m ∈ c.methods, ∀ q, m.cache = some q →
      ∃ s ∈ (cacheDecorator p).settings, s.Describes c.name m
        ∧ ∃ code ∈ (cacheDecorator p).code config,
          code = s.code config.runtime
          ∧ code.milliseconds? = some q.ttl.milliseconds
          ∧ (code.Keeps q.ttl ↔
            q.ttl.IsWhole ∧ q.ttl.milliseconds < UInt64.size)
          ∧ (code.milliseconds? = some 0 ↔ q.ttl.nanoseconds < 1000000)
          ∧ ((∃ text, Duration.parse? text = some q.ttl) →
            code.Keeps q.ttl ∧ code.milliseconds? ≠ some 0) := by
  intro m hm q hq
  obtain ⟨s, hs, hdescribes, httl⟩ := exists_settings hplan hm hq
  have hkeeps := s.keeps_iff config.runtime
  have hzero := s.milliseconds?_eq_zero_iff config.runtime
  rw [httl] at hkeeps hzero
  refine ⟨s, hs, hdescribes, _, mem_code_of_mem_settings hs, rfl, ?_, hkeeps,
    hzero, ?_⟩
  · rw [SettingsConstant.milliseconds?_code, httl]
  · rintro ⟨text, htext⟩
    have hwhole := Duration.isWhole_of_parse? htext
    refine ⟨hkeeps.mpr hwhole, fun hshort => ?_⟩
    have hpositive : q.ttl.nanoseconds ≠ 0 := by
      have hsound := sound_of_plan hplan
      obtain ⟨-, rfl⟩ := Contract.plan_eq_ok_iff.mp hplan
      exact (hsound.methods m hm).ttl q hq
    -- A whole number of milliseconds below one is zero.
    obtain ⟨k, hk⟩ := hwhole.1
    have hnone := hzero.mp hshort
    omega

/-- The lifetimes of the user service are kept. -/
theorem lifetimes_kept_userService :
    ∃ p, Sample.userService.plan .standard = .ok p ∧
      ∀ m ∈ Sample.userService.methods, ∀ q ∈ m.cache,
        ∃ s ∈ (cacheDecorator p).settings,
          (s.code Config.standard.runtime).Keeps q.ttl := by
  have hplan := Contract.plan_of_planErrors_eq_nil
    (by decide +kernel : Sample.userService.planErrors .standard = [])
  have hwhole : ∀ m ∈ Sample.userService.methods, ∀ q ∈ m.cache,
      q.ttl.IsWhole ∧ q.ttl.milliseconds < UInt64.size := by
    decide +kernel
  refine ⟨_, hplan, fun m hm q hq => ?_⟩
  obtain ⟨s, hs, -, _, -, rfl, -, hkeeps, -⟩ :=
    lifetimes_kept_iff hplan .standard m hm q hq
  exact ⟨s, hs, hkeeps.mpr (hwhole m hm q hq)⟩

end ContractPlan

/-- A contract with two cached methods: one for a nanosecond, one for
`2 ^ 64 - 1` seconds. -/
def Sample.timers : Contract where
  package := "app::timers"
  name := "Timers"
  methods :=
    [{ ping with
        name := "blink"
        cache := some ⟨⟨1, by decide⟩, "", "blink", .zero, .zero⟩ },
      { ping with
        name := "rest"
        cache := some
          ⟨⟨18446744073709551615 * 1000000000, by decide⟩, "", "rest", .zero,
            .zero⟩ }]

/-- The contract has a plan.  One constant is zero, the other does not fit
64 bits, and neither keeps its lifetime. -/
theorem ContractPlan.lifetimes_lost_timers :
    ∃ p, Sample.timers.plan .standard = .ok p
      ∧ (cacheDecorator p).settings.map
          (fun s => (s.code Config.standard.runtime).milliseconds?)
        = [some 0, some 18446744073709551615000]
      ∧ ∀ s ∈ (cacheDecorator p).settings,
        ¬ (s.code Config.standard.runtime).Keeps s.plan.ttl := by
  have hplan := Contract.plan_of_planErrors_eq_nil
    (by decide +kernel : Sample.timers.planErrors .standard = [])
  refine ⟨_, hplan, ?_, ?_⟩
  · simp only [SettingsConstant.milliseconds?_code]
    decide +kernel
  · simp only [SettingsConstant.keeps_iff]
    decide +kernel

end PolicyWeave
