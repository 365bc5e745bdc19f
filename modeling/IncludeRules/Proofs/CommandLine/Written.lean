import IncludeRules.CommandLine.Parse
import IncludeRules.Proofs.Octets.Strict

/-! The written forms of command lines: every option by its long name, with its value attached. -/

namespace IncludeRules

open CommandLine

/-- The paths that a command line names. -/
def Command.paths : Command → List Path
  | .convert input output _ => [input, output]
  | .generate _ | .display .. | .list => []

def Invocation.paths (v : Invocation) : List Path :=
  v.config.toList ++ (v.command.map Command.paths).getD []

namespace CommandLine

/-- An option as it is given, with a value or on its own. -/
structure Setting where
  opt : Opt
  value : Option Octets
  deriving DecidableEq

def Setting.argument (w : Setting) : Octets :=
  dash :: dash :: (Octets.ofString w.opt.long ++ w.value.elim [] (equals :: ·))

/-- The settings that name a configuration. -/
def configSettings (config : Option Path) : List Setting :=
  (config.map fun p => ⟨.config, some p.octets⟩).toList

end CommandLine

def Command.level : Command → Level
  | .generate _ => .generate
  | .display .. => .display
  | .convert .. => .convert
  | .list => .list

/-- The settings of a command of its own. -/
def Command.settings : Command → List Setting
  | .generate targets => targets.map fun t => ⟨.target, some (.ofString t)⟩
  | .display target json =>
    (target.map fun t => ⟨.target, some (.ofString t)⟩).toList ++
      if json then [⟨.json, none⟩] else []
  | .convert _ output comment =>
    ⟨.output, some output.octets⟩ ::
      (comment.map fun t => ⟨.comment, some (.ofString t)⟩).toList
  | .list => []

/-- What stands by its position comes last, after a double dash. -/
def Command.operands : Command → List Octets
  | .convert input .. => [[dash, dash], input.octets]
  | .generate _ | .display .. | .list => []

namespace CommandLine

/-- The same settings in any order, except that those of one option keep theirs. -/
def Arranges (ws settings : List Setting) : Prop :=
  ∀ o, ws.filter (·.opt == o) = settings.filter (·.opt == o)

/-- The arguments that write an invocation. The configuration is named before the subcommand or
among the settings after it. -/
inductive Writes : Invocation → List Octets → Prop
  | plain (config : Option Path) :
    Writes ⟨config, none⟩ ((configSettings config).map Setting.argument)
  | before {config : Option Path} {c : Command} {ws : List Setting}
    (order : Arranges ws c.settings) :
    Writes ⟨config, some c⟩ ((configSettings config).map Setting.argument ++
      .ofString c.level.name :: (ws.map Setting.argument ++ c.operands))
  | after {config : Option Path} {c : Command} {ws : List Setting}
    (order : Arranges ws (configSettings config ++ c.settings)) :
    Writes ⟨config, some c⟩ (.ofString c.level.name :: (ws.map Setting.argument ++ c.operands))

/-- A setting that a level takes: its option is one of the level's and asks for nothing to be
shown, and the value suits it. -/
inductive Suits (l : Level) : Setting → Prop
  | flag {o : Opt} (listed : o ∈ l.options) (kind : o.kind = .flag) (help : o ≠ .help)
    (version : o ≠ .version) : Suits l ⟨o, none⟩
  | path {o : Opt} {v : Octets} (listed : o ∈ l.options) (kind : o.kind = .path) (given : v ≠ []) :
    Suits l ⟨o, some v⟩
  | text {o : Opt} {s : String} (listed : o ∈ l.options) (kind : o.kind = .text) :
    Suits l ⟨o, some (.ofString s)⟩

variable {l : Level} {o p : Opt} {w : Setting} {ws settings : List Setting} {s : Settled}
  {v : Option Octets}

theorem Suits.listed (h : Suits l w) : w.opt ∈ l.options := by
  cases h <;> assumption

theorem withLong?_long (h : o ∈ l.options) : l.withLong? o.long = some o := by
  revert o
  cases l <;> decide

theorem long_of_listed (h : o ∈ l.options) :
    Octets.ofString o.long ≠ [] ∧ ∀ b ∈ Octets.ofString o.long, b ≠ equals := by
  revert o
  cases l <;> decide +kernel

theorem head?_name_ne_dash (l : Level) : (Octets.ofString l.name).head? ≠ some dash := by
  cases l <;> decide

/-- No subcommand is named by what begins with a dash. -/
theorem named?_dashed (rest : Octets) :
    (Octets.strict (dash :: rest)).toOption.bind Level.named? = none := by
  cases hread : Octets.strict (dash :: rest) with
  | error e => rfl
  | ok word =>
    refine Option.eq_none_iff_forall_not_mem.mpr fun sub hsub => head?_name_ne_dash sub ?_
    have hname : sub.name = word := by
      simpa using List.find?_some (Option.mem_def.mp hsub)
    rw [hname, ← Octets.strict_eq_ok_iff.mp hread]
    rfl

theorem shape_argument (h : w.opt ∈ l.options) :
    shape w.argument = .long (.ofString w.opt.long) w.value := by
  obtain ⟨o, v⟩ := w
  obtain ⟨hlong, hequals⟩ := long_of_listed h
  have hne : ∀ rest, Octets.ofString o.long ++ rest ≠ [] := by simp [hlong]
  cases v with
  | none =>
    have hfree : equals ∉ Octets.ofString o.long := fun hmem => hequals _ hmem rfl
    simp [shape, Setting.argument, hlong, hfree]
  | some v =>
    have htake : (Octets.ofString o.long ++ equals :: v).takeWhile (· != equals) =
        Octets.ofString o.long := by
      rw [List.takeWhile_append_of_pos fun b hb => bne_iff_ne.mpr (hequals b hb)]
      simp
    have hdrop : (Octets.ofString o.long ++ equals :: v).dropWhile (· != equals) = equals :: v := by
      rw [List.dropWhile_append_of_pos fun b hb => bne_iff_ne.mpr (hequals b hb)]
      simp
    simp [shape, Setting.argument, htake, hdrop]

theorem lookup_settled (q : Opt) (vs : List Octets) (s : Settled) (p : Opt) :
    List.lookup p ((q, vs) :: s) = if p = q then some vs else s.lookup p := by
  by_cases h : p = q
  · subst h
    simp
  · simp [List.lookup_cons, beq_false_of_ne h, h]

theorem Settled.lookup_add (s : Settled) (o : Opt) (v : Option Octets) (p : Opt) :
    (s.add o v).lookup p = if p = o then some (s.values o ++ v.toList) else s.lookup p := by
  induction s with
  | nil => rw [Settled.add, lookup_settled, Settled.values, List.lookup_nil]; rfl
  | cons entry s ih =>
    obtain ⟨q, vs⟩ := entry
    rw [Settled.values] at ih ⊢
    by_cases hq : q = o
    · subst hq
      by_cases hp : p = q <;> simp [Settled.add, lookup_settled, hp]
    · have hoq : ¬o = q := fun h => hq h.symm
      rw [Settled.add, if_neg hq, lookup_settled, lookup_settled, lookup_settled, ih, if_neg hoq]
      by_cases hp : p = q
      · subst hp
        simp [hq]
      · simp [hp]

theorem Settled.values_add (s : Settled) (o : Opt) (v : Option Octets) (p : Opt) :
    (s.add o v).values p = s.values p ++ if p = o then v.toList else [] := by
  rw [Settled.values, Settled.lookup_add]
  by_cases h : p = o
  · subst h
    simp
  · simp [h, Settled.values]

theorem Settled.has_add (s : Settled) (o : Opt) (v : Option Octets) (p : Opt) :
    (s.add o v).has p = (s.has p || p == o) := by
  rw [Settled.has, Settled.lookup_add]
  by_cases h : p = o
  · simp [h]
  · simp [h, Settled.has]

end CommandLine

end IncludeRules
