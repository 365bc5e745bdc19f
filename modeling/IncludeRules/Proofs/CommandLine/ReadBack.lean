import IncludeRules.Proofs.CommandLine.Written

/-! Every command line is read back from all its written forms. -/

namespace IncludeRules

namespace CommandLine

variable {l : Level} {o : Opt} {w : Setting} {ws settings : List Setting} {s : Settled}
  {v : Octets} {config : Option Path}

/-- A setting that may be added to those before it. -/
def Settled.Admits (s : Settled) (l : Level) (o : Opt) : Prop :=
  s.has o = true → l.repeats o = true

theorem repeats_flag (h : o.kind = .flag) : l.repeats o = false := by
  revert h
  cases l <;> cases o <;> decide

theorem settle_suits (h : Suits l ⟨o, some v⟩) (hnew : s.Admits l o) :
    settle l s o v = .ok (s.add o (some v)) := by
  have hrepeat : ¬(s.has o && !l.repeats o) = true := by
    cases hs : s.has o with
    | false => simp
    | true => simp [hnew hs]
  rw [settle, if_neg hrepeat]
  cases h with
  | path listed kind given => simp [kind, given]
  | text listed kind => simp [kind, Except.toOption]

/-- An argument that gives an option settles it. -/
theorem readLong_suits (h : Suits l w) (hnew : s.Admits l w.opt) (later : List Octets) :
    readLong l ⟨s, none, false⟩ (.ofString w.opt.long) w.value later =
      .ok ⟨s.add w.opt w.value, none, false⟩ := by
  have hopt : (Octets.strict (.ofString w.opt.long)).toOption.bind l.withLong? = some w.opt := by
    rw [Octets.strict_ofString]
    exact withLong?_long h.listed
  unfold readLong
  rw [hopt]
  cases h with
  | @flag o listed kind help version =>
    have hrepeats := repeats_flag (l := l) kind
    have hfresh : s.has o = false := by
      refine Bool.eq_false_iff.mpr fun hs => ?_
      rw [hnew hs] at hrepeats
      cases hrepeats
    dsimp only
    rw [kind]
    simp [State.flush, hfresh, pure, Except.pure, bind, Except.bind]
  | @path o v listed kind given =>
    have hsettle := settle_suits (.path listed kind given) hnew
    simp [kind, State.flush, hsettle, pure, Except.pure, bind, Except.bind]
  | @text o t listed kind =>
    have hsettle := settle_suits (.text (s := t) listed kind) hnew
    simp [kind, State.flush, hsettle, pure, Except.pure, bind, Except.bind]

theorem readArguments_setting (h : Suits l w) (hnew : s.Admits l w.opt) (rest : List Octets) :
    readArguments l ⟨s, none, false⟩ (w.argument :: rest) =
      readArguments l ⟨s.add w.opt w.value, none, false⟩ rest := by
  have hword : (if l = .root ∧ (State.mk s none false).awaits = none then
      (Octets.strict w.argument).toOption.bind Level.named? else none) = none := by
    split
    · exact named?_dashed _
    · rfl
  rw [readArguments, if_neg Bool.false_ne_true]
  simp only [hword, shape_argument h.listed, readLong_suits h hnew]
  rfl

/-- The options that are settled once some settings were read. -/
def settledBy (s : Settled) (ws : List Setting) : Settled :=
  ws.foldl (fun s w => s.add w.opt w.value) s

theorem values_settledBy (s : Settled) (ws : List Setting) (o : Opt) :
    (settledBy s ws).values o = s.values o ++ (ws.filter (·.opt == o)).filterMap (·.value) := by
  induction ws generalizing s with
  | nil => simp [settledBy]
  | cons w ws ih =>
    rw [settledBy, List.foldl_cons, ← settledBy, ih, Settled.values_add, List.filter_cons]
    by_cases h : w.opt = o
    · cases hv : w.value <;> simp [h, hv]
    · have h' : ¬o = w.opt := fun he => h he.symm
      simp [h, h']

theorem has_settledBy (s : Settled) (ws : List Setting) (o : Opt) :
    (settledBy s ws).has o = (s.has o || !(ws.filter (·.opt == o)).isEmpty) := by
  induction ws generalizing s with
  | nil => simp [settledBy]
  | cons w ws ih =>
    rw [settledBy, List.foldl_cons, ← settledBy, ih, Settled.has_add, List.filter_cons]
    by_cases h : w.opt = o
    · simp [h]
    · have h' : (o == w.opt) = false := beq_false_of_ne fun he => h he.symm
      simp [h, h']

/-- Options that may be given once only are. -/
def Once (l : Level) (s : Settled) (ws : List Setting) : Prop :=
  ∀ o, l.repeats o = false → (s.has o).toNat + (ws.filter (·.opt == o)).length ≤ 1

theorem Once.admits (h : Once l s (w :: ws)) : s.Admits l w.opt := by
  intro hs
  cases hrepeats : l.repeats w.opt with
  | true => rfl
  | false =>
    have hcount := h w.opt hrepeats
    rw [hs, List.filter_cons_of_pos (by simp), List.length_cons, Bool.toNat_true] at hcount
    omega

theorem Once.tail (h : Once l s (w :: ws)) : Once l (s.add w.opt w.value) ws := by
  intro o hrepeats
  have hcount := h o hrepeats
  rw [List.filter_cons] at hcount
  rw [Settled.has_add]
  by_cases ho : w.opt = o
  · subst ho
    cases hs : s.has w.opt
    · simpa [hs, Nat.add_comm] using hcount
    · rw [hs, if_pos (by simp), List.length_cons, Bool.toNat_true] at hcount
      omega
  · have ho' : (o == w.opt) = false := beq_false_of_ne fun he => ho he.symm
    simpa [ho, ho'] using hcount

/-- Settings are settled one after the other, whatever comes after them. -/
theorem readArguments_settings (hsuits : ∀ w ∈ ws, Suits l w) (honce : Once l s ws)
    (rest : List Octets) :
    readArguments l ⟨s, none, false⟩ (ws.map Setting.argument ++ rest) =
      readArguments l ⟨settledBy s ws, none, false⟩ rest := by
  induction ws generalizing s with
  | nil => rfl
  | cons w ws ih =>
    obtain ⟨hw, hws⟩ := List.forall_mem_cons.mp hsuits
    rw [List.map_cons, List.cons_append, readArguments_setting hw honce.admits, ih hws honce.tail]
    rfl

theorem Arranges.mem (h : Arranges ws settings) (hw : w ∈ ws) : w ∈ settings := by
  have hmem : w ∈ ws.filter (·.opt == w.opt) := List.mem_filter.mpr ⟨hw, beq_self_eq_true _⟩
  rw [h] at hmem
  exact (List.mem_filter.mp hmem).1

/-- Settings in another order settle the same. -/
theorem Arranges.values_settledBy (h : Arranges ws settings) (s : Settled) (o : Opt) :
    (settledBy s ws).values o = (settledBy s settings).values o := by
  rw [CommandLine.values_settledBy, CommandLine.values_settledBy, h]

theorem Arranges.has_settledBy (h : Arranges ws settings) (s : Settled) (o : Opt) :
    (settledBy s ws).has o = (settledBy s settings).has o := by
  rw [CommandLine.has_settledBy, CommandLine.has_settledBy, h]

theorem Arranges.once (h : Arranges ws settings) (hs : Once l s settings) : Once l s ws := by
  intro o hrepeats
  rw [h]
  exact hs o hrepeats

theorem suits_config (hl : .config ∈ l.options) (hpath : ∀ p ∈ config, p.octets ≠ []) :
    ∀ w ∈ configSettings config, Suits l w := by
  cases config with
  | none => exact fun _ hw => nomatch hw
  | some p =>
    intro w hw
    cases List.mem_singleton.mp hw
    exact .path hl rfl (hpath p rfl)

theorem config_mem_options (c : Command) : .config ∈ c.level.options := by
  cases c <;> simp [Command.level, Level.options]

theorem suits_settings (c : Command) (hpaths : ∀ p ∈ c.paths, p.octets ≠ []) :
    ∀ w ∈ c.settings, Suits c.level w := by
  intro w hw
  cases c with
  | generate targets =>
    obtain ⟨t, -, rfl⟩ := List.mem_map.mp hw
    exact .text (by simp [Command.level, Level.options]) rfl
  | display target json =>
    rcases List.mem_append.mp hw with hw | hw
    · cases target with
      | none => cases hw
      | some t =>
        cases List.mem_singleton.mp hw
        exact .text (by simp [Command.level, Level.options]) rfl
    · cases json with
      | false => cases hw
      | true =>
        cases List.mem_singleton.mp hw
        exact .flag (by simp [Command.level, Level.options]) rfl (by decide) (by decide)
  | convert input output comment =>
    rcases List.mem_cons.mp hw with rfl | hw
    · exact .path (by simp [Command.level, Level.options]) rfl
        (hpaths output (by simp [Command.paths]))
    · cases comment with
      | none => cases hw
      | some t =>
        cases List.mem_singleton.mp hw
        exact .text (by simp [Command.level, Level.options]) rfl
  | list => cases hw

theorem once_settings (config : Option Path) (c : Command) :
    Once c.level [] (configSettings config ++ c.settings) := by
  intro o hrepeats
  cases c with
  | generate targets =>
    have htargets : ((Command.generate targets).settings.filter (·.opt == o)) = [] := by
      refine List.filter_eq_nil_iff.mpr fun w hw => ?_
      obtain ⟨t, -, rfl⟩ := List.mem_map.mp hw
      rintro htarget
      cases eq_of_beq htarget
      cases hrepeats
    rw [List.filter_append, htargets, List.append_nil]
    cases config with
    | none => simp [configSettings, Settled.has]
    | some p => cases o <;> simp [configSettings, Settled.has]
  | display target json =>
    cases config <;> cases target <;> cases json <;> cases o <;>
      simp [configSettings, Command.settings, Settled.has]
  | convert input output comment =>
    cases config <;> cases comment <;> cases o <;>
      simp [configSettings, Command.settings, Settled.has]
  | list =>
    cases config <;> cases o <;> simp [configSettings, Command.settings, Settled.has]

/-- The settled options once the operands of a command were read as well. -/
def withOperands (c : Command) (s : Settled) : Settled :=
  match c with
  | .convert input .. => s.add .input (some input.octets)
  | .generate _ | .display .. | .list => s

/-- The settings of a level and the operands after them are read to the end. -/
theorem readLevel_settings (c : Command) (hpaths : ∀ p ∈ c.paths, p.octets ≠ [])
    (order : Arranges ws (configSettings config ++ c.settings))
    (hconfig : ∀ p ∈ config, p.octets ≠ []) :
    readLevel c.level (ws.map Setting.argument ++ c.operands) =
      .ok (withOperands c (settledBy [] ws)) := by
  have hsuits : ∀ w ∈ ws, Suits c.level w := fun w hw =>
    (List.mem_append.mp (order.mem hw)).elim
      (suits_config (config_mem_options c) hconfig w) (suits_settings c hpaths w)
  have honce := order.once (once_settings config c)
  have hread := readArguments_settings hsuits honce c.operands
  rw [readLevel, State.start, hread]
  cases c with
  | generate | display | list => rfl
  | convert input output comment =>
    have hinput : (settledBy [] ws).has .input = false := by
      rw [order.has_settledBy, has_settledBy]
      cases config <;> cases comment <;> simp [configSettings, Command.settings, Settled.has]
    have houtput : (settledBy [] ws).has .output = true := by
      rw [order.has_settledBy, has_settledBy]
      cases config <;> simp [configSettings, Command.settings]
    have hnamed : ¬input.octets = [] := hpaths input (by simp [Command.paths])
    have hcomplete : complete .convert ((settledBy [] ws).add .input (some input.octets)) =
        .ok () := by
      simp [complete, Level.required, Settled.has_add, houtput]
    have hwords : readArguments .convert ⟨settledBy [] ws, none, false⟩
        [[dash, dash], input.octets] =
          .ok (⟨settledBy [] ws, some ⟨.input, some input.octets⟩, true⟩, none) := by
      simp [readArguments, shape, readWord, Level.positional, hinput, State.flush, pure,
        Except.pure, bind, Except.bind]
    have hsettle : settle .convert (settledBy [] ws) .input input.octets =
        .ok ((settledBy [] ws).add .input (some input.octets)) := by
      simp [settle, hinput, Opt.kind, hnamed]
    simp only [Command.operands, Command.level, hwords, State.flush, bind, Except.bind, hsettle,
      hcomplete, pure, Except.pure, withOperands]

theorem values_written (order : Arranges ws settings) (o : Opt) :
    (settledBy [] ws).values o = (settings.filter (·.opt == o)).filterMap (·.value) := by
  rw [order.values_settledBy, values_settledBy]
  rfl

theorem commandOf_settings (c : Command)
    (order : Arranges ws (configSettings config ++ c.settings)) :
    commandOf c.level (withOperands c (settledBy [] ws)) = some c := by
  have hvalues := values_written order
  cases c with
  | generate targets =>
    have htargets : (settledBy [] ws).texts .target = targets := by
      rw [Settled.texts, hvalues]
      cases config <;>
        simp [configSettings, Command.settings, List.filter_map, List.filterMap_map,
          Function.comp_def, Except.toOption]
    exact congrArg (fun ts => some (Command.generate ts)) htargets
  | display target json =>
    have htarget : ((settledBy [] ws).texts .target).head? = target := by
      rw [Settled.texts, hvalues]
      cases config <;> cases target <;> cases json <;>
        simp [configSettings, Command.settings, Except.toOption]
    have hjson : (settledBy [] ws).has .json = json := by
      rw [order.has_settledBy, has_settledBy]
      cases config <;> cases target <;> cases json <;>
        simp [configSettings, Command.settings, Settled.has]
    simp only [commandOf, Command.level, withOperands, htarget, hjson]
  | convert input output comment =>
    have hinput : (withOperands (.convert input output comment) (settledBy [] ws)).path? .input =
        some input := by
      rw [Settled.path?, withOperands, Settled.values_add, hvalues]
      cases config <;> cases comment <;> simp [configSettings, Command.settings]
    have houtput : (withOperands (.convert input output comment) (settledBy [] ws)).path? .output =
        some output := by
      rw [Settled.path?, withOperands, Settled.values_add, hvalues]
      cases config <;> cases comment <;> simp [configSettings, Command.settings]
    have hcomment : ((withOperands (.convert input output comment) (settledBy [] ws)).texts
        .comment).head? = comment := by
      rw [Settled.texts, withOperands, Settled.values_add, hvalues]
      cases config <;> cases comment <;>
        simp [configSettings, Command.settings, Except.toOption]
    simp [commandOf, Command.level, hinput, houtput, hcomment]
  | list => rfl

/-- A configuration is no setting of a command of its own. -/
theorem config_not_own (c : Command) : c.settings.filter (·.opt == .config) = [] := by
  cases c with
  | generate targets => simp [Command.settings]
  | display target json => cases target <;> cases json <;> simp [Command.settings]
  | convert input output comment => cases comment <;> simp [Command.settings]
  | list => rfl

theorem path?_config_settings (c : Command)
    (order : Arranges ws (configSettings config ++ c.settings)) :
    (withOperands c (settledBy [] ws)).path? .config = config := by
  have hsettled : (settledBy [] ws).path? .config = config := by
    rw [Settled.path?, values_written order, List.filter_append, config_not_own]
    cases config <;> simp [configSettings]
  cases c with
  | generate | display | list => exact hsettled
  | convert =>
    rw [Settled.path?, withOperands, Settled.values_add]
    simpa [Settled.path?] using hsettled

theorem named?_level (c : Command) :
    (Octets.strict (.ofString c.level.name)).toOption.bind Level.named? = some c.level := by
  rw [Octets.strict_ofString]
  cases c <;> rfl

theorem once_config (config : Option Path) : Once .root [] (configSettings config) := by
  intro o _
  cases config <;> cases o <;> simp [configSettings, Settled.has]

/-- Before a subcommand only the configuration is settled. -/
theorem readArguments_root (c : Command) (hconfig : ∀ p ∈ config, p.octets ≠ [])
    (rest : List Octets) :
    readArguments .root .start ((configSettings config).map Setting.argument ++
        .ofString c.level.name :: rest) =
      .ok (⟨settledBy [] (configSettings config), none, false⟩, some (c.level, rest)) := by
  have hsuits : ∀ w ∈ configSettings config, Suits .root w := suits_config (by decide) hconfig
  rw [State.start, readArguments_settings hsuits (once_config config), readArguments,
    if_neg Bool.false_ne_true]
  simp only [State.awaits, and_self, if_true, named?_level]
  cases c <;> rfl

theorem path?_config_outer (config : Option Path) :
    (settledBy [] (configSettings config)).path? .config = config := by
  rw [Settled.path?, values_settledBy]
  cases config <;> simp [configSettings, Settled.values]

theorem arranges_refl (settings : List Setting) : Arranges settings settings := fun _ => rfl

theorem exists_written (v : Invocation) : ∃ args, Writes v args := by
  obtain ⟨config, command⟩ := v
  cases command with
  | none => exact ⟨_, .plain config⟩
  | some c => exact ⟨_, .before (arranges_refl _)⟩

theorem parse_plain (hconfig : ∀ p ∈ config, p.octets ≠ []) :
    parse ((configSettings config).map Setting.argument) = .ok ⟨config, none⟩ := by
  have hsuits : ∀ w ∈ configSettings config, Suits .root w := suits_config (by decide) hconfig
  have hread := readArguments_settings hsuits (once_config config) []
  rw [List.append_nil] at hread
  rw [parse, State.start, hread]
  simp only [readArguments, bind, Except.bind, State.flush, pure, Except.pure,
    path?_config_outer config]

theorem parse_before (c : Command) (hcommand : ∀ p ∈ c.paths, p.octets ≠ [])
    (hconfig : ∀ p ∈ config, p.octets ≠ []) (order : Arranges ws c.settings) :
    parse ((configSettings config).map Setting.argument ++
      .ofString c.level.name :: (ws.map Setting.argument ++ c.operands)) =
        .ok ⟨config, some c⟩ := by
  have horder : Arranges ws (configSettings none ++ c.settings) := order
  have hinner := readLevel_settings c hcommand horder fun _ hp => nomatch hp
  rw [parse, readArguments_root c hconfig]
  simp only [bind, Except.bind, hinner, State.flush, pure, Except.pure,
    path?_config_settings c horder, path?_config_outer config, commandOf_settings c horder]
  rfl

theorem parse_after (c : Command) (hcommand : ∀ p ∈ c.paths, p.octets ≠ [])
    (hconfig : ∀ p ∈ config, p.octets ≠ [])
    (order : Arranges ws (configSettings config ++ c.settings)) :
    parse (.ofString c.level.name :: (ws.map Setting.argument ++ c.operands)) =
      .ok ⟨config, some c⟩ := by
  have hinner := readLevel_settings c hcommand order hconfig
  -- nothing is settled before the subcommand
  have hnone : ∀ p ∈ (none : Option Path), p.octets ≠ [] := fun _ hp => nomatch hp
  have hroot := readArguments_root c hnone (ws.map Setting.argument ++ c.operands)
  have houter := path?_config_outer none
  rw [configSettings, Option.map_none, Option.toList_none, List.map_nil, List.nil_append] at hroot
  rw [configSettings, Option.map_none, Option.toList_none] at houter
  rw [parse, hroot]
  simp only [bind, Except.bind, hinner, State.flush, pure, Except.pure,
    path?_config_settings c order, houter, commandOf_settings c order]
  cases config <;> rfl

/-- Every command line has a written form, and is read back from each of them: the settings may
stand in any order, the configuration before the subcommand or after it, and values hold anything. -/
theorem parse_written {v : Invocation} (hpaths : ∀ p ∈ v.paths, p.octets ≠ []) :
    (∃ args, Writes v args) ∧ ∀ args, Writes v args → parse args = .ok v := by
  refine ⟨exists_written v, fun args hwrites => ?_⟩
  obtain ⟨hconfig, hcommand⟩ := List.forall_mem_append.mp hpaths
  have hconfig : ∀ p ∈ v.config, p.octets ≠ [] := fun p hp =>
    hconfig p (Option.mem_toList.mpr hp)
  cases hwrites with
  | plain => exact parse_plain hconfig
  | before order => exact parse_before _ hcommand hconfig order
  | after order => exact parse_after _ hcommand hconfig order

/-- A conversion whose input looks like a request for help, whose output is no text and whose
comment is empty. -/
def dashedConversion : Invocation where
  config := some (.ofString "generate")
  command := some (.convert (.ofString "--help") ⟨[dash, 0xFF, equals]⟩ (some ""))

def dashedArguments : List Octets :=
  [.ofString "extract", .ofString "--comment=", .ofString "--config=generate",
    .ofString "--output=" ++ [dash, 0xFF, equals], .ofString "--", .ofString "--help"]

theorem parse_written_dashed :
    (∀ p ∈ dashedConversion.paths, p.octets ≠ []) ∧ Writes dashedConversion dashedArguments ∧
      parse dashedArguments = .ok dashedConversion := by
  have hpaths : ∀ p ∈ dashedConversion.paths, p.octets ≠ [] := by decide
  have horder : Arranges
      [⟨.comment, some (.ofString "")⟩, ⟨.config, some (.ofString "generate")⟩,
        ⟨.output, some [dash, 0xFF, equals]⟩]
      (configSettings (some (.ofString "generate")) ++
        (Command.convert (.ofString "--help") ⟨[dash, 0xFF, equals]⟩ (some "")).settings) := by
    intro o
    cases o <;> decide
  have hwrites : Writes dashedConversion dashedArguments := .after horder
  exact ⟨hpaths, hwrites, (parse_written hpaths).2 _ hwrites⟩

end CommandLine

end IncludeRules
