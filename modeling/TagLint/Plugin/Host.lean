import TagLint.Plugin.Basic

/-! The plugin host: registration by name, loading, and the calls of hooks. -/
namespace TagLint
open Text

/-- Whether a plugin was given as a class, still to be started, or as an instance. -/
inductive PluginForm where
  | dormant
  | started
deriving DecidableEq, Repr

structure Registered where
  name : Text
  form : PluginForm
  plugin : Plugin

inductive HookFailure where
  | raised
  /-- A hook of a class was called without an instance. -/
  | unbound
deriving DecidableEq, Repr

/-- Plugins stand in the order of their registration. -/
structure Host where
  plugins : List Registered := []
  loaded : Bool := false
  addedKeys : List Text := []
  addedRules : List Text := []

/-- A plugin file in the local directory: its path, its name without the suffix, its content. -/
structure LocalFile where
  path : Text
  fileName : Text
  stem : Text
  content : PluginModule

namespace Host

def names (h : Host) : List Text := h.plugins.map (·.name)

def has (h : Host) (name : Text) : Bool := h.plugins.any (·.name = name)

/-- The state that loading threads: host, registry and log. -/
structure Load where
  host : Host
  registry : Registry
  log : List LogWarning := []

namespace Load

def warn (s : Load) (message : Text) : Load := { s with log := s.log ++ [⟨message⟩] }

/-- The pairs that a hook offers; anything else is logged and offers none. -/
def offered (s : Load) (plugin : Text) (form : PluginForm) (hook : Text)
    (offer : Option (Offer α)) :
    Load × List (Text × α) :=
  match form, offer with
  | _, none => (s, [])
  | .dormant, some _ => (s.warn ("Plugin " ++ plugin ++ " failed in " ++ hook), [])
  | .started, some .nothing => (s, [])
  | .started, some .unusable =>
    (s.warn ("Plugin " ++ plugin ++ " returned a non-dict from " ++ hook), [])
  | .started, some .fails => (s.warn ("Plugin " ++ plugin ++ " failed in " ++ hook), [])
  | .started, some (.pairs items) => (s, items)

def skip (s : Load) (key plugin : Text) : Load :=
  s.warn ("Skipping registration " ++ quoted key ++ " from plugin " ++ plugin)

def addKey (plugin : Text) (s : Load) (item : Text × ClassGiven) : Load :=
  match s.registry.vocabulary.addKey item.1 item.2 with
  | .ok v =>
    { s with
      registry := { s.registry with vocabulary := v }
      host := { s.host with addedKeys := s.host.addedKeys ++ [item.1] } }
  | .error _ => s.skip item.1 plugin

def addRule (plugin : Text) (s : Load) (item : Text × Option ValueRule) : Load :=
  match s.registry.rules.addRule item.1 item.2 with
  | .ok b =>
    { s with
      registry := { s.registry with rules := b }
      host := { s.host with addedRules := s.host.addedRules ++ [item.1] } }
  | .error _ => s.skip item.1 plugin

/-- Adds what a plugin offers, keys before rules, each pair on its own. -/
def apply (s : Load) (r : Registered) : Load :=
  let (s, keys) := s.offered r.name r.form "register_tag_keys" r.plugin.keys
  let s := keys.foldl (addKey r.name) s
  let (s, rules) := s.offered r.name r.form "register_value_rules" r.plugin.rules
  rules.foldl (addRule r.name) s

def drop (s : Load) (name : Text) : Load :=
  { s with host := { s.host with plugins := s.host.plugins.filter (·.name ≠ name) } }

def append (s : Load) (r : Registered) : Load :=
  { s with host := { s.host with plugins := s.host.plugins ++ [r] } }

/-- Replaces a class that has hooks by an instance, which goes to the end. -/
def start (s : Load) (r : Registered) : Load :=
  if r.form = .started ∨ !r.plugin.hasHooks then s
  else if r.plugin.failsToStart then
    (s.drop r.name).warn ("Failed to instantiate entry-point plugin " ++ r.name)
  else (s.drop r.name).append { r with form := .started }

/-- Registers a class of a local file, unless it fails to start or its name is taken. -/
def addLocalClass (file : LocalFile) (s : Load) (c : PluginClass) : Load :=
  let name := "gormlint_local_plugin_" ++ file.stem ++ "." ++ c.plugin.className
  if c.imported ∨ !c.plugin.hasHooks then s
  else if c.plugin.failsToStart ∨ s.host.has name then
    s.warn ("Failed to instantiate plugin class " ++ c.plugin.className ++ " from " ++ file.path)
  else s.append ⟨name, .started, c.plugin⟩

/-- Classes in the order of their names in the file; of two with one name the later counts. -/
def classesInOrder (items : List PluginClass) : List PluginClass :=
  let last := items.reverse.foldl (fun kept c =>
    if kept.any (·.binding = c.binding) then kept else c :: kept) []
  last.mergeSort fun a b => !decide (b.binding < a.binding)

/-- Files that start with an underscore are left out. -/
def addLocalFile (s : Load) (file : LocalFile) : Load :=
  if file.fileName.head? = some '_' then s
  else match file.content with
    | .broken => s.warn ("Failed to load local plugin " ++ file.path)
    | .classes items => (classesInOrder items).foldl (addLocalClass file) s

end Load

/-- Starts classes, adds local plugins, then applies every plugin in order. -/
def load (h : Host) (r : Registry) (locals : List LocalFile) : Load :=
  let s : Load := { host := h, registry := r }
  let s := h.plugins.foldl Load.start s
  let s := locals.foldl Load.addLocalFile s
  let s := s.host.plugins.foldl Load.apply s
  { s with host := { s.host with loaded := true } }

/-- Registers a plugin; on a loaded host it is applied at once. `none` when the name is taken. -/
def register? (h : Host) (r : Registry) (added : Registered) : Option Load :=
  if h.has added.name then none
  else
    let s := ({ host := h, registry := r } : Load).append added
    some (if h.loaded then s.apply added else s)

/-- `none` when no plugin of this name and form is registered. -/
def unregister? (h : Host) (name : Text) (form : PluginForm) : Option Host :=
  if h.plugins.any fun r => r.name = name ∧ r.form = form then
    some { h with plugins := h.plugins.filter (·.name ≠ name) }
  else none

/-- Takes back every key and rule that this host added. -/
def reset (h : Host) (r : Registry) : Host × Registry :=
  ({ h with addedKeys := [], addedRules := [] },
    { vocabulary := h.addedKeys.foldl Vocabulary.dropKey r.vocabulary
      rules := h.addedRules.foldl RuleBook.dropRule r.rules })

/-- Calls the plugins one after the other up to the first failure. -/
def callAll (path : Text) (errors warnings : Nat) :
    List Registered → List LintEvent × Option HookFailure
  | [] => ([], none)
  | r :: rest =>
    match r.plugin.postLint, r.form with
    | none, _ => callAll path errors warnings rest
    | some _, .dormant => ([], some .unbound)
    | some hook, .started =>
      let event : LintEvent := ⟨r.plugin.className, path, errors, warnings⟩
      if hook.failsOn path errors warnings then ([event], some .raised)
      else
        let (events, failure) := callAll path errors warnings rest
        (event :: events, failure)

/-- Tells the plugins about a linted document, the last registered first. -/
def postLint (h : Host) (path : Text) (errors warnings : Nat) :
    List LintEvent × Option HookFailure :=
  callAll path errors warnings h.plugins.reverse

end Host
end TagLint
