import Mathlib.Data.List.Nodup
import Mathlib.Data.List.TakeWhile
import LineEditor.Options

/-!
# Reading back options

Options can be written down as arguments, and reading those arguments gives the options back, in
whatever order they stand.

* Settings.  `Setting` is one option as it is given; `Setting.argument` writes it down, and
  `ofText_argument` says that its name and its value are found again, whatever the value holds.
* Drafts and settings.  A draft is nothing but its settings (`Draft.ext_setting`), and
  `Draft.addAll_has` says which settings a draft has after settings have been added to it one by one.
* Reading settings.  `Reading.readAll_arguments` says that reading written settings is adding them.
* What is read.  `Draft.NoEmptyPath` is kept by every step of reading, and
  `Reading.readAll_noEmptyPath` says so of all arguments.
* The result.  `read_back_in_any_order` says that only consistent options are read, and that all of
  them are, from arguments in any order.
-/

namespace LineEditor

namespace Options

/-! ## Settings -/

/-- An option as it is given. -/
inductive Setting where
  | value (name : Valued) (value : Text)
  | flag (flag : Flag)
  deriving Repr, DecidableEq, Inhabited

namespace Setting

/-- The name of the option that is given. -/
def name : Setting → Name
  | .value option _ => .valued option
  | .flag option => .flag option

/-- The value that is given with it. -/
def value? : Setting → Option Text
  | .value _ text => some text
  | .flag _ => none

/-- The argument that gives the option: two dashes, its name, and its value after an equals sign. -/
def argument : Setting → Text
  | .value option text => '-' :: '-' :: (option.text ++ '=' :: text)
  | .flag option => '-' :: '-' :: option.text

end Setting

theorem Name.mem_all (name : Name) : name ∈ Name.all := by
  cases name with
  | valued name => cases name <;> decide
  | flag flag => cases flag <;> decide
  | help => decide
  | version => decide

theorem Name.ofText?_text (name : Name) : Name.ofText? name.text = some name :=
  (by decide : ∀ name ∈ Name.all, Name.ofText? name.text = some name) name name.mem_all

theorem Name.equals_notMem_text (name : Name) : '=' ∉ name.text :=
  (by decide : ∀ name ∈ Name.all, '=' ∉ name.text) name name.mem_all

theorem Name.text_ne_nil (name : Name) : name.text ≠ [] :=
  (by decide : ∀ name ∈ Name.all, name.text ≠ []) name name.mem_all

theorem Argument.ofText_long {rest : Text} (h : rest ≠ []) :
    Argument.ofText ('-' :: '-' :: rest) =
      .long (rest.takeWhile (· ≠ '=')) (rest.drop (rest.takeWhile (· ≠ '=')).length).tail? := by
  cases rest with
  | nil => exact absurd rfl h
  | cons c rest => rfl

/-- An argument is parted at its first equals sign, so nothing in a value is taken for a part of the
name. -/
theorem Argument.ofText_value {name : Text} (h : '=' ∉ name) (value : Text) :
    Argument.ofText ('-' :: '-' :: (name ++ '=' :: value)) = .long name (some value) := by
  have hname : ∀ c ∈ name, decide (c ≠ '=') = true := fun c hc =>
    decide_eq_true fun heq => h (heq ▸ hc)
  have htake : (name ++ '=' :: value).takeWhile (· ≠ '=') = name := by
    rw [List.takeWhile_append_of_pos hname]
    exact List.append_nil name
  rw [ofText_long (List.append_ne_nil_of_right_ne_nil _ (List.cons_ne_nil _ _)), htake,
    List.drop_left]
  rfl

theorem Argument.ofText_name {name : Text} (h : '=' ∉ name) (hne : name ≠ []) :
    Argument.ofText ('-' :: '-' :: name) = .long name none := by
  have htake : name.takeWhile (· ≠ '=') = name :=
    List.takeWhile_eq_self_iff.2 fun c hc => decide_eq_true fun heq => h (heq ▸ hc)
  rw [ofText_long hne, htake, List.drop_length]
  rfl

/-- The name and the value of a written setting are found again, whatever the value holds. -/
theorem Argument.ofText_argument (setting : Setting) :
    Argument.ofText setting.argument = .long setting.name.text setting.value? := by
  have hname := setting.name.equals_notMem_text
  cases setting with
  | value name value => exact ofText_value hname value
  | flag flag => exact ofText_name hname (Name.text_ne_nil (.flag flag))

/-! ## Drafts and settings -/

namespace Draft

/-- How an option is given in a draft, if it is. -/
def setting? (draft : Draft) : Name → Option Setting
  | .valued name => (draft.value? name).map (.value name)
  | .flag flag => if draft.isSet flag then some (.flag flag) else none
  | .help | .version => none

/-- The options that are given in a draft. -/
def settings (draft : Draft) : List Setting :=
  Name.all.filterMap draft.setting?

/-- Whether an option is given in a draft, and so. -/
def Has (draft : Draft) (setting : Setting) : Prop :=
  draft.setting? setting.name = some setting

/-- The path of a file is not empty, if one is given. -/
def NoEmptyPath (draft : Draft) : Prop :=
  draft.logFile ≠ some []

/-- The draft with one more option. -/
def add (draft : Draft) : Setting → Except Error Draft
  | .value name value => draft.addValue name value
  | .flag flag => draft.addFlag flag

theorem has_value_iff {draft : Draft} {name : Valued} {value : Text} :
    draft.Has (.value name value) ↔ draft.value? name = some value := by
  simp [Has, setting?, Setting.name]

theorem has_flag_iff {draft : Draft} {flag : Flag} :
    draft.Has (.flag flag) ↔ draft.isSet flag = true := by
  simp [Has, setting?, Setting.name]

theorem name_of_setting? {draft : Draft} {name : Name} {setting : Setting}
    (h : draft.setting? name = some setting) : setting.name = name := by
  cases name with
  | valued name =>
    obtain ⟨value, -, rfl⟩ := Option.map_eq_some_iff.1 h
    rfl
  | flag flag =>
    rw [setting?] at h
    split at h
    · cases h
      rfl
    · cases h
  | help => cases h
  | version => cases h

theorem mem_settings_iff {draft : Draft} {setting : Setting} :
    setting ∈ draft.settings ↔ draft.Has setting := by
  constructor
  · intro hmem
    obtain ⟨name, -, hname⟩ := List.mem_filterMap.1 hmem
    rwa [Has, name_of_setting? hname]
  · intro h
    exact List.mem_filterMap.2 ⟨setting.name, setting.name.mem_all, h⟩

/-- No option is given twice in a draft. -/
theorem nodup_names_settings (draft : Draft) : (draft.settings.map Setting.name).Nodup := by
  rw [settings, List.map_filterMap]
  refine List.Nodup.filterMap (fun first second name hfirst hsecond => ?_) (by decide)
  obtain ⟨setting, hsetting, rfl⟩ := Option.map_eq_some_iff.1 hfirst
  obtain ⟨setting', hsetting', heq⟩ := Option.map_eq_some_iff.1 hsecond
  rw [← name_of_setting? hsetting, ← name_of_setting? hsetting', heq]

/-- A draft is nothing but its settings. -/
theorem ext_setting {draft draft' : Draft} (h : ∀ setting, draft.Has setting ↔ draft'.Has setting) :
    draft = draft' := by
  have hvalue : ∀ name, draft.value? name = draft'.value? name := fun name =>
    Option.ext fun value => by simpa only [has_value_iff] using h (.value name value)
  have hset : ∀ flag, draft.isSet flag = draft'.isSet flag := fun flag =>
    Bool.eq_iff_iff.2 (by simpa only [has_flag_iff] using h (.flag flag))
  cases draft
  cases draft'
  simp only [mk.injEq]
  exact ⟨hvalue .prompt, hvalue .continuationPrompt, hset .emptyContinuationPrompt,
    hset .noMarkPrompts, hvalue .logFile, hvalue .logFilter, hset .logAppend⟩

theorem value?_setValue (draft : Draft) (value : Text) (name other : Valued) :
    (draft.setValue value name).value? other =
      if other = name then some value else draft.value? other := by
  cases name <;> cases other <;> rfl

theorem isSet_setValue (draft : Draft) (value : Text) (name : Valued) (flag : Flag) :
    (draft.setValue value name).isSet flag = draft.isSet flag := by
  cases name <;> cases flag <;> rfl

theorem value?_set (draft : Draft) (flag : Flag) (name : Valued) :
    (draft.set flag).value? name = draft.value? name := by
  cases flag <;> cases name <;> rfl

theorem isSet_set (draft : Draft) (flag other : Flag) :
    (draft.set flag).isSet other = (decide (other = flag) || draft.isSet other) := by
  cases flag <;> cases other <;> rfl

theorem addValue_eq_ok_iff {draft draft' : Draft} {name : Valued} {value : Text} :
    draft.addValue name value = .ok draft' ↔
      draft.value? name = none ∧ ¬(name = .logFile ∧ value = []) ∧
        draft.setValue value name = draft' := by
  rw [addValue, ← Option.not_isSome_iff_eq_none]
  by_cases hgiven : (draft.value? name).isSome
  · rw [if_pos hgiven]
    exact ⟨nofun, fun h => absurd hgiven h.1⟩
  · rw [if_neg hgiven]
    by_cases hpath : name = .logFile ∧ value = []
    · rw [if_pos (by simp [hpath])]
      exact ⟨nofun, fun h => absurd hpath h.2.1⟩
    · rw [if_neg (by simpa using hpath), Except.ok.injEq]
      exact ⟨fun h => ⟨hgiven, hpath, h⟩, fun h => h.2.2⟩

theorem addFlag_eq_ok_iff {draft draft' : Draft} {flag : Flag} :
    draft.addFlag flag = .ok draft' ↔ draft.isSet flag = false ∧ draft.set flag = draft' := by
  rw [addFlag, ← Bool.not_eq_true]
  by_cases hgiven : draft.isSet flag = true
  · rw [if_pos hgiven]
    exact ⟨nofun, fun h => absurd hgiven h.1⟩
  · rw [if_neg hgiven, Except.ok.injEq]
    exact ⟨fun h => ⟨hgiven, h⟩, fun h => h.2⟩

theorem setValue_has {draft : Draft} {name : Valued} (hnone : draft.value? name = none) (value : Text)
    (other : Setting) :
    (draft.setValue value name).Has other ↔ other = .value name value ∨ draft.Has other := by
  cases other with
  | value other text =>
    rw [has_value_iff, has_value_iff, value?_setValue]
    by_cases heq : other = name
    · rw [heq, if_pos rfl, hnone]
      simp [eq_comm]
    · simp [heq]
  | flag flag => simp [has_flag_iff, isSet_setValue]

theorem set_has {draft : Draft} (flag : Flag) (other : Setting) :
    (draft.set flag).Has other ↔ other = .flag flag ∨ draft.Has other := by
  cases other with
  | value name value => simp [has_value_iff, value?_set]
  | flag other => simp [has_flag_iff, isSet_set]

/-- An option that is not given yet can be added, unless it is the path of a file and empty. -/
theorem add_has {draft : Draft} {setting : Setting}
    (hnew : ∀ other, draft.Has other → other.name ≠ setting.name)
    (hpath : setting ≠ .value .logFile []) :
    ∃ draft', draft.add setting = .ok draft' ∧
      ∀ other, draft'.Has other ↔ other = setting ∨ draft.Has other := by
  cases setting with
  | value name value =>
    have hnone : draft.value? name = none := Option.eq_none_iff_forall_ne_some.2 fun old hold =>
      hnew (.value name old) (has_value_iff.2 hold) rfl
    have hfile : ¬(name = .logFile ∧ value = []) := fun ⟨hname, hvalue⟩ =>
      hpath (by rw [hname, hvalue])
    exact ⟨_, addValue_eq_ok_iff.2 ⟨hnone, hfile, rfl⟩, setValue_has hnone value⟩
  | flag flag =>
    have hfalse : draft.isSet flag = false := Bool.eq_false_iff.2 fun hset =>
      hnew (.flag flag) (has_flag_iff.2 hset) rfl
    exact ⟨_, addFlag_eq_ok_iff.2 ⟨hfalse, rfl⟩, set_has flag⟩

/-- Options with different names can be added one by one, in whatever order they stand. -/
theorem addAll_has {settings : List Setting} {draft : Draft}
    (hnames : (settings.map Setting.name).Nodup)
    (hnew : ∀ setting ∈ settings, ∀ other, draft.Has other → other.name ≠ setting.name)
    (hpath : .value .logFile [] ∉ settings) :
    ∃ draft', settings.foldlM add draft = .ok draft' ∧
      ∀ other, draft'.Has other ↔ other ∈ settings ∨ draft.Has other := by
  induction settings generalizing draft with
  | nil => exact ⟨draft, rfl, fun other => by simp⟩
  | cons setting settings ih =>
    obtain ⟨hfresh, hnames⟩ := List.nodup_cons.1 hnames
    obtain ⟨hsetting, hsettings⟩ := List.forall_mem_cons.1 hnew
    obtain ⟨hhead, htail⟩ := not_or.1 (fun h => hpath (List.mem_cons.2 h))
    obtain ⟨next, hadd, hnext⟩ := add_has hsetting (Ne.symm hhead)
    -- the option just added has another name than all that are still to come
    have hnew' : ∀ later ∈ settings, ∀ other, next.Has other → other.name ≠ later.name := by
      intro later hlater other hother
      rcases (hnext other).1 hother with rfl | hother
      · exact fun heq => hfresh (List.mem_map.2 ⟨later, hlater, heq.symm⟩)
      · exact hsettings later hlater other hother
    obtain ⟨last, hfold, hlast⟩ := ih hnames hnew' htail
    refine ⟨last, ?_, fun other => ?_⟩
    · rw [List.foldlM_cons, hadd]
      exact hfold
    · rw [hlast, hnext, List.mem_cons, or_left_comm, or_assoc]

/-- The settings of a draft make it up again, in whatever order they are added. -/
theorem addAll_settings {draft : Draft} (hpath : draft.NoEmptyPath) {settings : List Setting}
    (h : settings.Perm draft.settings) : settings.foldlM add {} = .ok draft := by
  have hempty : ∀ setting, ¬ ({} : Draft).Has setting := by
    rintro (name | flag)
    · cases name <;> simp [has_value_iff, value?]
    · cases flag <;> simp [has_flag_iff, isSet]
  have hnames : (settings.map Setting.name).Nodup :=
    (h.map Setting.name).nodup_iff.2 draft.nodup_names_settings
  have hfile : Setting.value .logFile [] ∉ settings := fun hmem =>
    hpath (has_value_iff.1 (mem_settings_iff.1 (h.subset hmem)))
  obtain ⟨last, hfold, hlast⟩ :=
    addAll_has hnames (fun _ _ other hother => absurd hother (hempty other)) hfile
  have heq : last = draft := ext_setting fun setting => by
    rw [hlast, h.mem_iff, mem_settings_iff]
    exact or_iff_left (hempty setting)
  rw [hfold, heq]

end Draft

/-! ## Reading settings -/

namespace Reading

theorem readArgument_argument (draft : Draft) (setting : Setting) :
    readArgument { draft } (Argument.ofText setting.argument) =
      (draft.add setting).map fun draft => { draft } := by
  rw [Argument.ofText_argument, readArgument, Name.ofText?_text]
  cases setting <;> rfl

/-- Reading written settings is adding them one by one. -/
theorem readAll_arguments (draft : Draft) (settings : List Setting) :
    readAll { draft } (settings.map Setting.argument) = settings.foldlM Draft.add draft := by
  induction settings generalizing draft with
  | nil => rfl
  | cons setting settings ih =>
    have hdash : Argument.ofText setting.argument ≠ .terminator := by
      rw [Argument.ofText_argument]
      exact Argument.noConfusion
    rw [List.map_cons, readAll, List.foldlM_cons]
    -- no option is open, so the argument is not taken for a value
    simp only [takeValue?, if_neg hdash, readArgument_argument]
    cases draft.add setting with
    | ok draft' => exact ih draft'
    | error error => rfl

end Reading

/-! ## What is read -/

/-- A computation that gives a result gives one in each of its two parts. -/
theorem Error.bind_eq_ok {α β : Type} {first : Except Error α} {rest : α → Except Error β}
    {result : β} (h : (first >>= rest) = .ok result) :
    ∃ a, first = .ok a ∧ rest a = .ok result := by
  cases first with
  | ok a => exact ⟨a, rfl, h⟩
  | error error => cases h

theorem Draft.NoEmptyPath.addValue {draft draft' : Draft} (h : draft.NoEmptyPath) {name : Valued}
    {value : Text} (hadd : draft.addValue name value = .ok draft') : draft'.NoEmptyPath := by
  obtain ⟨-, hpath, rfl⟩ := addValue_eq_ok_iff.1 hadd
  cases name with
  | logFile => exact fun hfile => hpath ⟨rfl, Option.some.inj hfile⟩
  | prompt => exact h
  | continuationPrompt => exact h
  | logFilter => exact h

theorem Draft.NoEmptyPath.addFlag {draft draft' : Draft} (h : draft.NoEmptyPath) {flag : Flag}
    (hadd : draft.addFlag flag = .ok draft') : draft'.NoEmptyPath := by
  obtain ⟨-, rfl⟩ := addFlag_eq_ok_iff.1 hadd
  cases flag <;> exact h

namespace Reading

variable {reading reading' : Reading}

theorem settle_noEmptyPath (h : reading.draft.NoEmptyPath) {draft : Draft}
    (hsettle : reading.settle = .ok draft) : draft.NoEmptyPath := by
  unfold settle at hsettle
  split at hsettle
  · cases hsettle
    exact h
  · cases hsettle
  · exact h.addValue hsettle

theorem readNamed_noEmptyPath (h : reading.draft.NoEmptyPath) {name : Name} {value : Option Text}
    (hread : reading.readNamed name value = .ok reading') : reading'.draft.NoEmptyPath := by
  cases value with
  | some value =>
    cases name with
    | valued name =>
      obtain ⟨settled, hsettle, hread⟩ := Error.bind_eq_ok hread
      obtain ⟨draft, hadd, hread⟩ := Error.bind_eq_ok hread
      cases hread
      exact (settle_noEmptyPath h hsettle).addValue hadd
    | flag flag => cases hread
    | help => cases hread
    | version => cases hread
  | none =>
    cases name with
    | valued name =>
      obtain ⟨settled, hsettle, hread⟩ := Error.bind_eq_ok hread
      cases hread
      exact settle_noEmptyPath h hsettle
    | flag flag =>
      obtain ⟨settled, hsettle, hread⟩ := Error.bind_eq_ok hread
      obtain ⟨draft, hadd, hread⟩ := Error.bind_eq_ok hread
      cases hread
      exact (settle_noEmptyPath h hsettle).addFlag hadd
    | help =>
      obtain ⟨_, -, hthrown⟩ := Error.bind_eq_ok hread
      cases hthrown
    | version =>
      obtain ⟨_, -, hthrown⟩ := Error.bind_eq_ok hread
      cases hthrown

theorem readArgument_noEmptyPath (h : reading.draft.NoEmptyPath) {argument : Argument}
    (hread : reading.readArgument argument = .ok reading') : reading'.draft.NoEmptyPath := by
  cases argument with
  | long text value =>
    simp only [readArgument] at hread
    split at hread
    · exact readNamed_noEmptyPath h hread
    · cases hread
  | short letter =>
    simp only [readArgument] at hread
    split_ifs at hread
    · exact readNamed_noEmptyPath h hread
    · exact readNamed_noEmptyPath h hread
  | terminator => cases hread
  | plain text => cases hread

/-- Taking a value settles nothing yet. -/
theorem draft_takeValue? {argument : Text} (h : reading.takeValue? argument = some reading') :
    reading'.draft = reading.draft := by
  unfold takeValue? at h
  split at h
  · cases h
    rfl
  · cases h

/-- Whatever is read, the path of a file is not empty. -/
theorem readAll_noEmptyPath (h : reading.draft.NoEmptyPath) {arguments : List Text} {draft : Draft}
    (hread : reading.readAll arguments = .ok draft) : draft.NoEmptyPath := by
  induction arguments generalizing reading with
  | nil => exact settle_noEmptyPath h hread
  | cons argument rest ih =>
    rw [readAll] at hread
    split at hread
    · next taken htake => exact ih (by rwa [draft_takeValue? htake]) hread
    · split at hread
      · split at hread
        · exact settle_noEmptyPath h hread
        · cases hread
      · obtain ⟨next, hnext, hread⟩ := Error.bind_eq_ok hread
        exact ih (readArgument_noEmptyPath h hnext) hread

end Reading

/-! ## The result -/

/-- No option excludes another one that is given, none needs one that is not, and the path of a file is
not empty. -/
structure Consistent (o : Options) : Prop where
  continuationPrompt : o.emptyContinuationPrompt = true → o.continuationPrompt = none
  logFilter : o.logFilter.isSome → o.logFile.isSome
  logAppend : o.logAppend = true → o.logFile.isSome
  logFile : o.logFile ≠ some []

/-- The draft in which every option is given that options tell of. -/
def draft (o : Options) : Draft :=
  { o with prompt := some o.prompt }

/-- Options as settings: the prompt, and then every other option that is given. -/
def settings (o : Options) : List Setting :=
  o.draft.settings

/-- Whether arguments write options down, in any order.  A prompt that is as it is without an argument
can be left out. -/
def WrittenAs (o : Options) (arguments : List Text) : Prop :=
  ∃ settings : List Setting, arguments = settings.map Setting.argument ∧
    (settings.Perm o.settings ∨
      o.prompt = ({} : Options).prompt ∧ settings.Perm o.settings.tail)

theorem Draft.NoEmptyPath.consistent {draft : Draft} (h : draft.NoEmptyPath) {o : Options}
    (hfinish : draft.finish = .ok o) : o.Consistent := by
  unfold Draft.finish at hfinish
  split at hfinish
  · cases hfinish
  · next hexcluded =>
    split at hfinish
    · cases hfinish
    · next hneeded =>
      cases hfinish
      simp only [Bool.and_eq_true, Bool.or_eq_true, Option.isNone_iff_eq_none, not_and,
        ← ne_eq, ← Option.isSome_iff_ne_none] at hexcluded hneeded
      exact
        { continuationPrompt := fun hset => Option.not_isSome_iff_eq_none.1 (hexcluded hset)
          logFilter := fun hfilter => hneeded (.inl hfilter)
          logAppend := fun happend => hneeded (.inr happend)
          logFile := h }

/-- Consistent options come out of a draft of them, whether the prompt is given in it or left out. -/
theorem Consistent.finish {o : Options} (h : o.Consistent) {prompt : Option Text}
    (hprompt : prompt.getD ({} : Options).prompt = o.prompt) :
    ({ o.draft with prompt } : Draft).finish = .ok o := by
  have hexcluded : ¬ (o.emptyContinuationPrompt && o.continuationPrompt.isSome) = true := by
    rw [Bool.and_eq_true]
    rintro ⟨hset, hsome⟩
    rw [h.continuationPrompt hset] at hsome
    cases hsome
  have hneeded : ¬ ((o.logFilter.isSome || o.logAppend) && o.logFile.isNone) = true := by
    rw [Bool.and_eq_true, Bool.or_eq_true, Option.isNone_iff_eq_none]
    rintro ⟨hsome | hset, hnone⟩
    · exact absurd hnone (Option.isSome_iff_ne_none.1 (h.logFilter hsome))
    · exact absurd hnone (Option.isSome_iff_ne_none.1 (h.logAppend hset))
  calc ({ o.draft with prompt } : Draft).finish
      = .ok { o with prompt := prompt.getD ({} : Options).prompt } :=
        (if_neg hexcluded).trans (if_neg hneeded)
    _ = .ok o := by rw [hprompt]

/-- Options that are read exclude each other nowhere and have what they need; and all options of which
this holds are read from the arguments that write them down, in whatever order these stand and whatever
the values hold. -/
theorem read_back_in_any_order :
    (∀ arguments o, ofArguments arguments = .ok o → o.Consistent) ∧
      ∀ o : Options, o.Consistent → ∀ arguments, o.WrittenAs arguments →
        ofArguments arguments = .ok o := by
  constructor
  · intro arguments o h
    obtain ⟨draft, hread, hfinish⟩ := Error.bind_eq_ok h
    have hstart : ({} : Reading).draft.NoEmptyPath := nofun
    exact (Reading.readAll_noEmptyPath hstart hread).consistent hfinish
  · rintro o h arguments ⟨settings, rfl, hperm⟩
    obtain ⟨prompt, hprompt, hperm⟩ : ∃ prompt : Option Text,
        prompt.getD ({} : Options).prompt = o.prompt ∧
          settings.Perm ({ o.draft with prompt } : Draft).settings := by
      rcases hperm with hperm | ⟨hdefault, hperm⟩
      · exact ⟨some o.prompt, rfl, hperm⟩
      · -- without its first setting the draft is the one without a prompt
        exact ⟨none, hdefault.symm, hperm⟩
    have hread : Reading.readAll {} (settings.map Setting.argument) =
        .ok { o.draft with prompt } := by
      have hpath : ({ o.draft with prompt } : Draft).NoEmptyPath := h.logFile
      rw [Reading.readAll_arguments]
      exact Draft.addAll_settings hpath hperm
    rw [ofArguments, hread]
    exact h.finish hprompt

/-- An empty prompt, a value that looks like an option, and values with equals signs. -/
theorem read_back_dashes_and_equals_signs :
    let o : Options :=
      { prompt := [], continuationPrompt := some "--log-append".toList,
        logFile := some "-x=y".toList, logFilter := some "=".toList, logAppend := true }
    let apart : List Text := ["--prompt", "", "--log-filter", "=", "--log-file=-x=y", "--log-append",
      "--continuation-prompt=--log-append"].map String.toList
    let written : List Text := ["--log-append", "--log-filter==", "--log-file=-x=y", "--prompt=",
      "--continuation-prompt=--log-append"].map String.toList
    (ofArguments apart = .ok o ∧ o.Consistent) ∧
      o.WrittenAs written ∧ ofArguments written = .ok o := by
  intro o apart written
  have hread : ofArguments apart = .ok o := by decide
  have hconsistent : o.Consistent := read_back_in_any_order.1 apart o hread
  have hwritten : o.WrittenAs written :=
    ⟨[.flag .logAppend, .value .logFilter "=".toList, .value .logFile "-x=y".toList,
      .value .prompt [], .value .continuationPrompt "--log-append".toList], by decide,
      .inl (by decide)⟩
  exact ⟨⟨hread, hconsistent⟩, hwritten,
    read_back_in_any_order.2 o hconsistent written hwritten⟩

end Options

end LineEditor
