import TagLint.Proofs.Command.Options
import TagLint.Proofs.Settings.Lax
import TagLint.Proofs.Settings.Options

/-! Each setting comes from the highest source that gives it. -/
namespace TagLint
open Text Json Command

variable {α : Type} {p : Package} {check : Json → Checked α} {default a : α} {given : Option Json}
  {name key : Text} {w : Surroundings} {g : Given} {s : Settings} {pairs low high file vars : Pairs}

namespace Settings

/-! ## Tables that pass -/

def Passes (check : Json → Checked α) (given : Option Json) : Prop :=
  ∀ v, given = some v → ∃ a, check v = .ok a

theorem exists_taken_iff : (∃ a, Taken check default given a) ↔ Passes check given := by
  cases given with
  | none =>
    constructor
    · rintro - v hv
      cases hv
    · exact fun _ => ⟨default, rfl⟩
  | some v => exact ⟨fun ⟨a, ha⟩ v' hv => ⟨a, Option.some.inj hv ▸ ha⟩, fun h => h v rfl⟩

/-- A table that gives settings on its own. -/
structure Passing (p : Package) (pairs : Pairs) : Prop where
  flags : ∀ f : Flag, Passes p.bool (lookup? f.name pairs)
  sections : ∀ name ∈ groups, IsSection name pairs
  keys : ∀ k : Key, Passes (k.check p) (gives k.group k.name pairs)
  known : ∀ key ∈ pairs.map Prod.fst, key ∈ topNames ++ groups

theorem exists_settings_iff (hp : p.Lawful) (root : Path) (path : Option Path) :
    (∃ s, p.settings root path pairs = .ok s) ↔ Passing p pairs := by
  simp only [Package.settings_eq_ok_iff hp]
  constructor
  · rintro ⟨s, -, -, hflags, hsections, hkeys, hknown⟩
    exact ⟨fun f => exists_taken_iff.mp ⟨_, hflags f⟩, hsections,
      fun k => exists_taken_iff.mp ⟨_, hkeys k⟩, hknown⟩
  · intro h
    have hflag : ∀ f : Flag, ∃ b, Taken p.bool false (lookup? f.name pairs) b :=
      fun f => exists_taken_iff.mpr (h.flags f)
    have hkey : ∀ k : Key, ∃ a, Taken (k.check p) k.default (gives k.group k.name pairs) a :=
      fun k => exists_taken_iff.mpr (h.keys k)
    choose flag hflag using hflag
    choose value hvalue using hkey
    refine ⟨⟨root, path, flag .jsonOutput, flag .quiet, flag .verbose, flag .logJson,
      ⟨⟨value .maxProblems, value .minSeverity, value .patterns, value .excludedDirs⟩,
        ⟨value .source, value .relatedInformation⟩, ⟨value .enabled, value .localDir⟩⟩⟩, ?_⟩
    refine ⟨rfl, rfl, fun f => ?_, h.sections, fun k => ?_, h.known⟩
    · cases f <;> exact hflag _
    · cases k <;> exact hvalue _

theorem Passes.or {low high : Option Json} (hhigh : Passes check high) (hlow : Passes check low) :
    Passes check (high.or low) := by
  cases high with
  | none => exact hlow
  | some v => exact hhigh

/-- Under a check that no table passes there is no table. -/
theorem Passes.ne_dict (hcheck : ∀ sub a, check (.dict sub) ≠ .ok a) (h : Passes check given)
    (sub : Pairs) : given ≠ some (.dict sub) := by
  intro hgiven
  obtain ⟨a, ha⟩ := h _ hgiven
  exact hcheck sub a ha

/-- Tables that pass alone pass when they lie on each other. -/
theorem Passing.layered (hp : p.Lawful) (hhigh : Passing p high) (hlow : Passing p low)
    (hdistinct : Distinct high) : Passing p (p.merged [high, low]) where
  flags f := by
    rw [Package.lookup?_layered hp low hdistinct ((hhigh.flags f).ne_dict hp.bool_dict)]
    exact (hhigh.flags f).or (hlow.flags f)
  sections name hname := (Package.isSection_layered_iff hp hdistinct).mpr
    ⟨hhigh.sections name hname, fun _ => hlow.sections name hname⟩
  keys k := by
    rw [Package.gives_layered hp low hdistinct (hhigh.sections _ k.group_mem)
      ((hhigh.keys k).ne_dict (k.check_dict_ne_ok hp))]
    exact (hhigh.keys k).or (hlow.keys k)
  known key hkey := by
    obtain hkey | hkey := (Package.mem_keys_layered_iff hp hdistinct).mp hkey
    · exact hhigh.known key hkey
    · exact hlow.known key hkey

/-! ## What the sources say -/

/-- The settings file: the one that the option names, as far as it is a file, and without the option
the one in effect. -/
def filePath? (w : Surroundings) (config : Option Text) (root : Option Path) : Option Path :=
  match config with
  | none | some [] => (Discovery.settingsFile? w root).1
  | some name => if w.tree.isFile (Path.ofText name) then some (Path.ofText name) else none

/-- What the settings file says; nothing when there is none. -/
def FileSays (w : Surroundings) (config : Option Text) (root : Option Path) (file : Pairs) : Prop :=
  match filePath? w config root with
  | some path => ∃ text, w.tree.read path path.toText = .ok text ∧ Toml.parse? text = some file
  | none => file = []

theorem FileSays.eq {config : Option Text} {root : Option Path} {other : Pairs}
    (h : FileSays w config root file) (hother : FileSays w config root other) : file = other := by
  unfold FileSays at h hother
  cases hpath : filePath? w config root with
  | none =>
    rw [hpath] at h hother
    exact h.trans hother.symm
  | some path =>
    rw [hpath] at h hother
    obtain ⟨text, hread, hparse⟩ := h
    obtain ⟨text', hread', hparse'⟩ := hother
    obtain rfl : text = text' := Except.ok.inj (hread.symm.trans hread')
    exact Option.some.inj (hparse.symm.trans hparse')

theorem chosenFile_eq (w : Surroundings) (g : Given) :
    (chosenFile w g).1 = filePath? w g.configPath g.projectRoot := by
  unfold chosenFile filePath?
  cases g.configPath with
  | none => rfl
  | some config => cases config <;> rfl

theorem readFile_eq_ok_iff {t : FileTree} {path : Path} :
    readFile t path = .ok file
      ↔ ∃ text, t.read path path.toText = .ok text ∧ Toml.parse? text = some file := by
  rw [readFile]
  cases t.read path path.toText with
  | error e => simp
  | ok text => cases htext : Toml.parse? text <;> simp [htext]

theorem gathered_eq_ok_iff {root : Path} {path : Option Path} {environment : List (Text × Text)}
    {options : Pairs} :
    p.gathered root path environment options file = .ok s
      ↔ ∃ vars, p.fromVariables declaredNames environment = some vars
        ∧ p.settings root path (p.merged [options, vars, file]) = .ok s := by
  rw [declaredNames_eq, Package.gathered]
  cases p.fromVariables variableNames environment with
  | none => simp
  | some vars => cases hs : p.settings root path (p.merged [options, vars, file]) <;> simp [hs]

/-- Loading reads the file and the variables and checks them together with the options. -/
theorem load_eq_ok_iff :
    (p.load w g).1 = .ok s ↔ ∃ file vars, FileSays w g.configPath g.projectRoot file
      ∧ p.fromVariables declaredNames w.environment = some vars
      ∧ p.settings (rootFor w g (chosenFile w g).1) (chosenFile w g).1
        (p.merged [Given.pairs g, vars, file]) = .ok s := by
  have hchosen := chosenFile_eq w g
  unfold Package.load FileSays
  rw [← hchosen]
  obtain ⟨path, log⟩ := chosenFile w g
  cases path with
  | none =>
    simp only [exists_and_left, exists_eq_left, ← gathered_eq_ok_iff]
    rfl
  | some path =>
    simp only [exists_and_left, ← gathered_eq_ok_iff, ← readFile_eq_ok_iff]
    cases readFile w.tree path with
    | error e => simp [bind, Except.bind]
    | ok file => simp [bind, Except.bind]

/-! ## A key of three sources -/

section Layers

variable (hp : p.Lawful) {options : Pairs} (hoptions : Distinct options) (hvars : Distinct vars)
include hp hoptions hvars

/-- What the options say of a switch is not looked for any further. -/
theorem lookup?_layers {b : Bool} (h : lookup? key options = some (.bool b)) :
    lookup? key (p.merged [options, vars, file]) = some (.bool b) := by
  have hupper : lookup? key (p.merged [options, vars]) = some (.bool b) := by
    rw [Package.lookup?_layered hp vars hoptions (by simp [h]), h, Option.some_or]
  have hdistinct := Package.distinct_merged hp hoptions hvars
  rw [hp.merged_cons, Package.lookup?_layered hp file hdistinct (by simp [hupper]), hupper,
    Option.some_or]

/-- Where a section is one and no key is a table, a key comes from the highest source. -/
theorem gives_layers (hsection : IsSection name options)
    (hall : IsSection name (p.merged [options, vars, file]))
    (hscalar : ∀ sub, gives name key (p.merged [options, vars, file]) ≠ some (.dict sub)) :
    gives name key (p.merged [options, vars, file])
      = (gives name key options).or ((gives name key vars).or (gives name key file)) := by
  rw [hp.merged_cons] at hall hscalar ⊢
  have hupper := Package.distinct_merged hp hoptions hvars
  have hscalarUpper : ∀ sub, gives name key (p.merged [options, vars]) ≠ some (.dict sub) := by
    intro sub h
    obtain ⟨sub', h'⟩ := Package.exists_gives_layered_eq_dict hp file hupper h
    exact hscalar sub' h'
  have hscalarOptions : ∀ sub, gives name key options ≠ some (.dict sub) := by
    intro sub h
    obtain ⟨sub', h'⟩ := Package.exists_gives_layered_eq_dict hp vars hoptions h
    exact hscalarUpper sub' h'
  rw [Package.gives_layered hp file hupper ((Package.isSection_layered_iff hp hupper).mp hall).1
      hscalarUpper, Package.gives_layered hp vars hoptions hsection hscalarOptions, Option.or_assoc]

end Layers

/-! ## The sources of a run -/

section Run

variable {r : Reader} {tree : FileTree} {args : List Text} {line : r.Line}

theorem passing_givenOf (hp : p.Lawful) (hr : r.Lawful) (h : r.Reads OptionSpec.ofProgram line) :
    Passing p (Given.pairs (givenOf r tree line)) where
  flags f v hv := by
    rw [lookup?_flag, lookup?_others] at hv
    exact ⟨r.flag line f.option, by rw [← Option.some.inj hv]; exact hp.bool_bool _⟩
  sections := isSection_pairs switchesOnly_givenOf
  keys k v hv := by
    rw [gives_pairs switchesOnly_givenOf, key?_givenOf] at hv
    exact k.exists_check_given? hr h hp hv
  known := known_pairs switchesOnly_givenOf

/-- Settings that are loaded take each key from the highest source that gives it, and each switch
from the options. -/
theorem taken_of_load (hp : p.Lawful) (h : (p.load w (givenOf r tree line)).1 = .ok s) :
    ∃ file vars, FileSays w (givenOf r tree line).configPath (givenOf r tree line).projectRoot file
      ∧ p.fromVariables declaredNames w.environment = some vars
      ∧ (∀ k : Key, Taken (k.check p) k.default
        ((k.given? r line).or ((gives k.group k.name vars).or (gives k.group k.name file)))
        (k.value s))
      ∧ ∀ f : Flag, f.value s = r.flag line f.option := by
  obtain ⟨file, vars, hfile, hsettings, hs⟩ := load_eq_ok_iff.mp h
  obtain ⟨-, -, hflags, hsections, hkeys, -⟩ := (Package.settings_eq_ok_iff hp).mp hs
  have hoptions : Distinct (Given.pairs (givenOf r tree line)) :=
    distinct_pairs switchesOnly_givenOf
  have hvars := hp.distinct_variables (by decide) hsettings
  refine ⟨file, vars, hfile, hsettings, fun k => ?_, fun f => ?_⟩
  · have hgiven : gives k.group k.name (Given.pairs (givenOf r tree line)) = k.given? r line :=
      (gives_pairs switchesOnly_givenOf k).trans (key?_givenOf k)
    have hscalar := (exists_taken_iff.mp ⟨_, hkeys k⟩).ne_dict (k.check_dict_ne_ok hp)
    rw [← hgiven, ← gives_layers hp hoptions hvars
      (isSection_pairs switchesOnly_givenOf _ k.group_mem) (hsections _ k.group_mem) hscalar]
    exact hkeys k
  · have hgiven : lookup? f.name (Given.pairs (givenOf r tree line))
        = some (.bool (r.flag line f.option)) := (lookup?_flag f).trans (lookup?_others f)
    have htaken := hflags f
    rw [lookup?_layers hp hoptions hvars hgiven, Taken, hp.bool_bool] at htaken
    exact (Except.ok.inj htaken).symm

/-- Sources that pass alone give settings together. -/
theorem exists_load (hp : p.Lawful) (hr : r.Lawful) (h : r.Reads OptionSpec.ofProgram line)
    (hfile : FileSays w (givenOf r tree line).configPath (givenOf r tree line).projectRoot file)
    (hvars : p.fromVariables declaredNames w.environment = some vars) (hfilePasses : Passing p file)
    (hvarsPass : Passing p vars) : ∃ s, (p.load w (givenOf r tree line)).1 = .ok s := by
  have hoptions : Distinct (Given.pairs (givenOf r tree line)) :=
    distinct_pairs switchesOnly_givenOf
  have hpassing : Passing p (Given.pairs (givenOf r tree line)) := passing_givenOf hp hr h
  have hupper := hpassing.layered hp hvarsPass hoptions
  have hall := hupper.layered hp hfilePasses
    (Package.distinct_merged hp hoptions (hp.distinct_variables (by decide) hvars))
  rw [← hp.merged_cons] at hall
  obtain ⟨s, hs⟩ := (exists_settings_iff hp _ _).mpr hall
  exact ⟨s, load_eq_ok_iff.mpr ⟨file, vars, hfile, hvars, hs⟩⟩

/-- A key of a section comes from its option if that stands on the command line, else from the
environment, else from the file, and else it has its default; sources that pass on their own give
settings. A switch is on if its option was given and off without it, so it comes from the highest
source if and only if the option was given or the sources below it leave the switch off. -/
theorem load_takes_highest (hr : r.Lawful) (hp : p.Lawful)
    (hread : r.read w.tree OptionSpec.ofProgram false args = .ok (.run line)) :
    let config := r.text? line .config
    let root := (r.text? line .projectRoot).map fun dir => .ofParts (w.tree.resolve (.ofText dir))
    let loaded := (p.load w (givenOf r w.tree line)).1
    (∀ k : Key, (k.given? r line).isSome = k.isGiven r line)
    ∧ (∀ file vars, FileSays w config root file →
      p.fromVariables declaredNames w.environment = some vars → Passing p file → Passing p vars →
      ∃ s, loaded = .ok s)
    ∧ ∀ s, loaded = .ok s → ∃ file vars, FileSays w config root file
      ∧ p.fromVariables declaredNames w.environment = some vars
      ∧ (∀ k : Key, Taken (k.check p) k.default
        ((k.given? r line).or ((gives k.group k.name vars).or (gives k.group k.name file)))
        (k.value s))
      ∧ ∀ f : Flag, f.value s = r.has line f.option
        ∧ (Taken p.bool false
            ((f.given? r line).or ((lookup? f.name vars).or (lookup? f.name file))) (f.value s)
          ↔ r.has line f.option = true
            ∨ Taken p.bool false ((lookup? f.name vars).or (lookup? f.name file)) false) := by
  intro config root loaded
  have hreads := reads_ofProgram hread
  refine ⟨fun k => k.isSome_given? hr hreads, fun file vars hfile hvars hfilePasses hvarsPass => ?_,
    fun s hs => ?_⟩
  · exact exists_load hp hr hreads hfile hvars hfilePasses hvarsPass
  · obtain ⟨file, vars, hfile, hvars, hkeys, hflags⟩ := taken_of_load hp hs
    refine ⟨file, vars, hfile, hvars, hkeys, fun f => ?_⟩
    have hvalue : f.value s = r.has line f.option :=
      (hflags f).trans (f.flag_eq_has hr hreads)
    refine ⟨hvalue, ?_⟩
    rw [hvalue, Flag.given?]
    cases r.has line f.option with
    | true => simp [Taken, hp.bool_bool]
    | false => simp

end Run

/-! ## A file, a variable and an option -/

theorem exists_passing {source : Option Pairs}
    (h : (source.bind fun pairs =>
      (Package.lax.settings Inhabited.default none pairs).toOption).isSome) :
    ∃ pairs, source = some pairs ∧ Passing .lax pairs := by
  obtain ⟨s, hs⟩ := Option.isSome_iff_exists.mp h
  obtain ⟨pairs, hpairs, hok⟩ := Option.bind_eq_some_iff.mp hs
  refine ⟨pairs, hpairs, (exists_settings_iff Package.lawful_lax Inhabited.default none).mp ⟨s, ?_⟩⟩
  cases hs' : Package.lax.settings Inhabited.default none pairs with
  | error issues => rw [hs'] at hok; cases hok
  | ok s' => rw [hs'] at hok; exact congrArg Except.ok (Option.some.inj hok)

theorem Taken.eq_of_bind {b : α} (h : Taken check default given a)
    (hgiven : (given.bind fun v => (check v).toOption) = some b) : a = b := by
  obtain ⟨v, rfl, hv⟩ := Option.bind_eq_some_iff.mp hgiven
  have hcheck : check v = .ok a := h
  rw [hcheck] at hv
  exact Option.some.inj hv

theorem Taken.eq_of_or {b : α} {upper lower : Option Json}
    (h : Taken check default (upper.or lower) a)
    (hupper : (upper.bind fun v => (check v).toOption) = some b) : a = b := by
  obtain ⟨v, rfl, -⟩ := Option.bind_eq_some_iff.mp hupper
  exact Taken.eq_of_bind h hupper

/-- From the root of the tree, the settings file is the one there. -/
theorem settingsFile?_of_cwd (hcwd : w.tree.cwd = [])
    (hvariable : w.environment.find? (·.1 = Discovery.variable_) = none) :
    (Discovery.settingsFile? w none).1
      = (Discovery.fileNames.find? (Discovery.holds w.tree [])).map fun name =>
        .ofParts [name] := by
  have hancestors : Discovery.ancestors [] = [[]] := rfl
  rw [Discovery.settingsFile?, hvariable]
  simp only [Option.map_none, Discovery.start, hcwd]
  rw [hancestors, Discovery.searchUp]
  cases Discovery.fileNames.find? (Discovery.holds w.tree []) with
  | some name => rfl
  | none =>
    dsimp only
    split
    · rfl
    · rfl

def settingsText : String := "[lint]\nmax_problems = 20\nexclude_dirs = ['gen']\n"

/-- The variable is for a key that the file has too, the option for one that neither has. -/
def threeSources : Surroundings where
  tree := ⟨[(["gormlint.toml".toList], .file settingsText.toUTF8.toList)], []⟩
  environment := [("GORMLINT_LINT__MAX_PROBLEMS".toList, "5".toList)]

def severityArgs : List Text := ["--min-severity".toList, "error".toList, "keys".toList]

def severityOption : Scanned :=
  ⟨[⟨OptionSpec.minSeverity, some "error".toList⟩], ["keys".toList]⟩

theorem stat_threeSources : threeSources.tree.stat (.ofParts ["gormlint.toml".toList])
    = .ok (["gormlint.toml".toList], .file settingsText.toUTF8.toList) := by
  rw [FileTree.stat, Path.ofParts, FileTree.follow, if_neg (by decide)]
  rfl

theorem fileSays_threeSources (hfile : Toml.parse? settingsText.toList = some file) :
    FileSays threeSources none none file := by
  have hholds : Discovery.holds threeSources.tree [] "gormlint.toml".toList = true := by
    rw [Discovery.holds, FileTree.isFile, List.nil_append, stat_threeSources]
  have hpath : filePath? threeSources none none = some (.ofParts ["gormlint.toml".toList]) := by
    refine (settingsFile?_of_cwd rfl (by decide)).trans ?_
    rw [Discovery.fileNames, List.find?_cons_of_pos hholds]
    rfl
  have hdecode : decode settingsText.toUTF8.toList = .ok settingsText.toList := by decide +kernel
  have hnewlines : unifyNewlines settingsText.toList = settingsText.toList := by decide +kernel
  rw [FileSays, hpath]
  exact ⟨settingsText.toList, by simp only [FileTree.read, stat_threeSources, hdecode, hnewlines],
    hfile⟩

theorem read_severityArgs :
    readProgram threeSources.tree severityArgs = .ok (.run severityOption) :=
  eq_run_of_ran? (by decide +kernel)

/-- Every source gives its own key of one section. -/
theorem load_takes_highest_threeSources :
    ∃ s, (load threeSources (givenOf .scanner threeSources.tree severityOption)).1 = .ok s
      ∧ s.sections.lint.maxProblems = 5 ∧ s.sections.lint.minSeverity = .error
      ∧ s.sections.lint.excludedDirs = ["gen".toList] ∧ s.quiet = false := by
  obtain ⟨-, hloads, htakes⟩ := load_takes_highest (w := threeSources) lawful_scanner
    Package.lawful_lax read_severityArgs
  have hfilePasses : ∃ file, Toml.parse? settingsText.toList = some file ∧ Passing .lax file :=
    exists_passing (by decide +kernel)
  have hvarsPass :
      ∃ vars, Package.lax.fromVariables declaredNames threeSources.environment = some vars
        ∧ Passing .lax vars := exists_passing (by decide +kernel)
  obtain ⟨file, hfile, hfilePasses⟩ := hfilePasses
  obtain ⟨vars, hvars, hvarsPass⟩ := hvarsPass
  have hsays := fileSays_threeSources hfile
  obtain ⟨s, hs⟩ := hloads file vars hsays hvars hfilePasses hvarsPass
  obtain ⟨file', vars', hsays', hvars', hkeys, hflags⟩ := htakes s hs
  obtain rfl : file = file' := hsays.eq hsays'
  have hfive : ((Package.lax.fromVariables declaredNames threeSources.environment).bind fun vars =>
      (gives "lint" "max_problems" vars).bind fun v => (Package.lax.atLeast 1 v).toOption)
      = some 5 := by
    decide +kernel
  have hnone : ((Package.lax.fromVariables declaredNames threeSources.environment).map fun vars =>
      (gives "lint" "exclude_dirs" vars).isNone) = some true := by
    decide +kernel
  have hgen : ((Toml.parse? settingsText.toList).bind fun file =>
      (gives "lint" "exclude_dirs" file).bind fun v => (Package.lax.texts v).toOption)
      = some ["gen".toList] := by
    decide +kernel
  rw [hvars', Option.bind_some] at hfive
  rw [hvars', Option.map_some, Option.some.injEq, Option.isNone_iff_eq_none] at hnone
  rw [hfile, Option.bind_some] at hgen
  have hproblems : Taken (Package.lax.atLeast 1) 1000
      ((gives "lint" "max_problems" vars').or (gives "lint" "max_problems" file))
      s.sections.lint.maxProblems := hkeys .maxProblems
  have hseverity : Taken (Key.check .lax .minSeverity) .warning ((some (.text "error".toList)).or
      ((gives "lint" "min_severity" vars').or (gives "lint" "min_severity" file)))
      s.sections.lint.minSeverity := hkeys .minSeverity
  have hexcluded : Taken Package.lax.texts (Key.default .excludedDirs)
      ((gives "lint" "exclude_dirs" vars').or (gives "lint" "exclude_dirs" file))
      s.sections.lint.excludedDirs := hkeys .excludedDirs
  rw [hnone, Option.none_or] at hexcluded
  exact ⟨s, hs, hproblems.eq_of_or hfive, hseverity.eq_of_or rfl, hexcluded.eq_of_bind hgen,
    (hflags .quiet).1.trans (by decide)⟩

/-! ## A switch that is on in the environment only -/

def quietVariable : Surroundings := { environment := [("GORMLINT_QUIET".toList, "true".toList)] }

def noOption : Scanned := ⟨[], ["keys".toList]⟩

theorem fileSays_quietVariable : FileSays quietVariable none none [] := by
  have hnone : ∀ name ∈ Discovery.fileNames,
      ¬ Discovery.holds quietVariable.tree [] name = true := by
    simp only [Discovery.fileNames, List.forall_mem_cons]
    refine ⟨?_, ?_, by simp⟩
    · rw [Discovery.holds, FileTree.isFile, FileTree.stat, List.nil_append, Path.ofParts,
        FileTree.follow, if_neg (by decide)]
      decide
    · rw [Discovery.holds, FileTree.isFile, FileTree.stat, List.nil_append, Path.ofParts,
        FileTree.follow, if_neg (by decide)]
      decide
  have hpath : filePath? quietVariable none none = none := by
    refine (settingsFile?_of_cwd rfl (by decide)).trans ?_
    rw [List.find?_eq_none.mpr hnone]
    rfl
  rw [FileSays, hpath]

/-- The environment says yes, there is no option and no file, and the switch is off. -/
theorem quietVariable_overruled :
    readProgram quietVariable.tree ["keys".toList] = .ok (.run noOption)
    ∧ FileSays quietVariable none none []
    ∧ ∃ s vars, (load quietVariable (givenOf .scanner quietVariable.tree noOption)).1 = .ok s
      ∧ Package.lax.fromVariables declaredNames quietVariable.environment = some vars
      ∧ ¬ Taken Package.lax.bool false ((Flag.quiet.given? .scanner noOption).or
        ((lookup? "quiet".toList vars).or (lookup? "quiet".toList []))) (Flag.quiet.value s) := by
  have hread : readProgram quietVariable.tree ["keys".toList] = .ok (.run noOption) :=
    eq_run_of_ran? (by decide +kernel)
  have hreads := reads_ofProgram (r := .scanner) hread
  have hvarsPass :
      ∃ vars, Package.lax.fromVariables declaredNames quietVariable.environment = some vars
        ∧ Passing .lax vars := exists_passing (by decide +kernel)
  have hfilePasses : Passing .lax [] := (exists_settings_iff Package.lawful_lax default none).mp
    ⟨⟨default, none, false, false, false, false, {}⟩, rfl⟩
  obtain ⟨vars, hvars, hvarsPass⟩ := hvarsPass
  obtain ⟨s, hs⟩ :=
    exists_load Package.lawful_lax lawful_scanner hreads fileSays_quietVariable hvars
    hfilePasses hvarsPass
  refine ⟨hread, fileSays_quietVariable, s, vars, hs, hvars, fun htaken => ?_⟩
  have hvariable : Taken Package.lax.bool false
      ((lookup? "quiet".toList vars).or (lookup? "quiet".toList [])) (Flag.quiet.value s) := htaken
  have hsays : ((Package.lax.fromVariables declaredNames quietVariable.environment).bind fun vars =>
      (lookup? "quiet".toList vars).bind fun v => (Package.lax.bool v).toOption) = some true := by
    decide +kernel
  rw [hvars, Option.bind_some] at hsays
  have hyes : Flag.quiet.value s = true := hvariable.eq_of_or hsays
  obtain ⟨_, _, -, -, -, hflags⟩ := taken_of_load Package.lawful_lax hs
  rw [hflags] at hyes
  cases hyes

end Settings
end TagLint
