import TagLint.Plugin.Host

/-! Loading as a run in which hooks and registrations may raise: whatever they raise is caught, and
the run ends as loading does. -/
namespace TagLint
open Text Host

variable {α β : Type} {s s' s'' : Load} {a : α} {b : β}

/-- What may be raised while plugins are loaded. -/
inductive LoadFailure where
  /-- Whatever a hook raises. -/
  | hook
  | key (e : VocabularyError)
  | rule (e : RuleBookError)

/-- What a registration raises. -/
def LoadFailure.isRefusal : LoadFailure → Bool
  | hook => false
  | key _ => true
  | rule _ => true

/-- A run may give up half-way; what it has changed until then stays. -/
abbrev Loading := ExceptT LoadFailure (StateM Load)

namespace Loading

/-- A hook of a class has nothing to be called on. -/
def call (form : PluginForm) (offer : Offer α) : Loading (Offer α) :=
  match form, offer with
  | .dormant, _ => throw .hook
  | .started, .fails => throw .hook
  | .started, offer => pure offer

/-- Every failure of a hook is caught. -/
def collect (p : Registered) (hook : Text) : Option (Offer α) → Loading (List (Text × α))
  | none => pure []
  | some offer =>
    tryCatch (do
      match ← call p.form offer with
      | .pairs items => pure items
      | .unusable =>
        modify (·.warn ("Plugin " ++ p.name ++ " returned a non-dict from " ++ hook))
        pure []
      | _ => pure [])
    fun _ => do
      modify (·.warn ("Plugin " ++ p.name ++ " failed in " ++ hook))
      pure []

/-- Only what a registration raises is caught: another failure goes on. -/
def register (plugin key : Text) (add : Loading Unit) : Loading Bool :=
  tryCatch (do
    add
    pure true)
  fun e =>
    if e.isRefusal then do
      modify (·.skip key plugin)
      pure false
    else throw e

def addKey (item : Text × ClassGiven) : Loading Unit := do
  match (← get).registry.vocabulary.addKey item.1 item.2 with
  | .ok v => modify fun s => { s with registry := { s.registry with vocabulary := v } }
  | .error e => throw (.key e)

def addRule (item : Text × Option ValueRule) : Loading Unit := do
  match (← get).registry.rules.addRule item.1 item.2 with
  | .ok b => modify fun s => { s with registry := { s.registry with rules := b } }
  | .error e => throw (.rule e)

/-- A key is remembered when its registration has not raised. -/
def offerKey (plugin : Text) (item : Text × ClassGiven) : Loading Unit := do
  if ← register plugin item.1 (addKey item) then
    modify fun s => { s with host := { s.host with addedKeys := s.host.addedKeys ++ [item.1] } }

def offerRule (plugin : Text) (item : Text × Option ValueRule) : Loading Unit := do
  if ← register plugin item.1 (addRule item) then
    modify fun s => { s with host := { s.host with addedRules := s.host.addedRules ++ [item.1] } }

def apply (p : Registered) : Loading Unit := do
  (← collect p "register_tag_keys" p.plugin.keys).forM (offerKey p.name)
  (← collect p "register_value_rules" p.plugin.rules).forM (offerRule p.name)

/-- Gives the names of the plugins that are loaded. -/
def load (locals : List LocalFile) : Loading (List Text) := do
  modify fun s => s.host.plugins.foldl Load.start s
  modify fun s => locals.foldl Load.addLocalFile s
  (← get).host.plugins.forM apply
  modify fun s => { s with host := { s.host with loaded := true } }
  pure (← get).host.names

/-! ## Runs that end -/

/-- The run ends without a failure. -/
def Ends (m : Loading α) (s : Load) (a : α) (s' : Load) : Prop := m.run.run s = (.ok a, s')

def Raises (m : Loading α) (s : Load) (e : LoadFailure) (s' : Load) : Prop :=
  m.run.run s = (.error e, s')

theorem Ends.run_bind {m : Loading α} (h : Ends m s a s') (f : α → Loading β) :
    (m >>= f).run.run s = (f a).run.run s' := by
  change (ExceptT.bindCont f (m.run.run s).1 : StateM Load _).run (m.run.run s).2 = _
  rw [Ends] at h
  rw [h]
  rfl

theorem Ends.bind {m : Loading α} {f : α → Loading β} (h : Ends m s a s')
    (hf : Ends (f a) s' b s'') :
    Ends (m >>= f) s b s'' := (h.run_bind f).trans hf

theorem Ends.bind_raises {m : Loading α} {f : α → Loading β} {e : LoadFailure} (h : Ends m s a s')
    (hf : Raises (f a) s' e s'') : Raises (m >>= f) s e s'' := (h.run_bind f).trans hf

theorem Raises.bind {m : Loading α} {f : α → Loading β} {e : LoadFailure} (h : Raises m s e s') :
    Raises (m >>= f) s e s' := by
  change (ExceptT.bindCont f (m.run.run s).1 : StateM Load _).run (m.run.run s).2 = _
  rw [Raises] at h
  rw [h]
  rfl

theorem Ends.tryCatch {m : Loading α} {handle : LoadFailure → Loading α} (h : Ends m s a s') :
    Ends (tryCatch m handle) s a s' := by
  have hm : StateT.run (m : StateM Load _) s = (.ok a, s') := h
  simp only [Ends, MonadExcept.tryCatch, tryCatchThe, MonadExceptOf.tryCatch, ExceptT.tryCatch,
    ExceptT.run_mk, StateT.run_bind, hm]
  rfl

theorem Raises.tryCatch {m : Loading α} {handle : LoadFailure → Loading α} {e : LoadFailure}
    (h : Raises m s e s')
    (hcaught : Ends (handle e) s' a s'') : Ends (tryCatch m handle) s a s'' := by
  have hm : StateT.run (m : StateM Load _) s = (.error e, s') := h
  simp only [Ends, MonadExcept.tryCatch, tryCatchThe, MonadExceptOf.tryCatch, ExceptT.tryCatch,
    ExceptT.run_mk, StateT.run_bind, hm]
  exact hcaught

theorem ends_pure (a : α) (s : Load) : Ends (pure a) s a s := rfl

theorem ends_get (s : Load) : Ends get s s s := rfl

theorem ends_modify (f : Load → Load) (s : Load) : Ends (modify f) s () (f s) := rfl

theorem ends_forM {f : α → Loading Unit} {step : Load → α → Load}
    (hf : ∀ s x, Ends (f x) s () (step s x))
    (xs : List α) (s : Load) : Ends (xs.forM f) s () (xs.foldl step s) := by
  induction xs generalizing s with
  | nil => rfl
  | cons x xs ih => exact (hf s x).bind (ih _)

theorem ends_collect (s : Load) (p : Registered) (hook : Text) (offer : Option (Offer α)) :
    Ends (collect p hook offer) s (s.offered p.name p.form hook offer).2
      (s.offered p.name p.form hook offer).1 := by
  obtain ⟨name, form, plugin⟩ := p
  cases offer with
  | none => cases form <;> rfl
  | some offer =>
    cases form with
    | dormant => rfl
    | started => cases offer <;> rfl

theorem ends_register {add : Loading Unit} (plugin key : Text) (h : Ends add s () s') :
    Ends (register plugin key add) s true s' := (h.bind (ends_pure true s')).tryCatch

/-- What a registration raises is logged. -/
theorem ends_register_of_raises {add : Loading Unit} {e : LoadFailure} (plugin key : Text)
    (h : Raises add s e s')
    (he : e.isRefusal) : Ends (register plugin key add) s false (s'.skip key plugin) := by
  refine h.bind.tryCatch ?_
  rw [if_pos he]
  exact (ends_modify _ s').bind (ends_pure false _)

theorem ends_offerKey (plugin : Text) (s : Load) (item : Text × ClassGiven) :
    Ends (offerKey plugin item) s () (Load.addKey plugin s item) := by
  rw [Load.addKey]
  cases hadd : s.registry.vocabulary.addKey item.1 item.2 with
  | ok v =>
    have hends :
        Ends (addKey item) s () { s with registry := { s.registry with vocabulary := v } } := by
      refine (ends_get s).bind ?_
      rw [hadd]
      exact ends_modify _ s
    exact (ends_register plugin item.1 hends).bind (ends_modify _ _)
  | error e =>
    have hraises : Raises (addKey item) s (.key e) s := by
      refine (ends_get s).bind_raises ?_
      rw [hadd]
      rfl
    exact (ends_register_of_raises plugin item.1 hraises rfl).bind (ends_pure () _)

theorem ends_offerRule (plugin : Text) (s : Load) (item : Text × Option ValueRule) :
    Ends (offerRule plugin item) s () (Load.addRule plugin s item) := by
  rw [Load.addRule]
  cases hadd : s.registry.rules.addRule item.1 item.2 with
  | ok b =>
    have hends :
        Ends (addRule item) s () { s with registry := { s.registry with rules := b } } := by
      refine (ends_get s).bind ?_
      rw [hadd]
      exact ends_modify _ s
    exact (ends_register plugin item.1 hends).bind (ends_modify _ _)
  | error e =>
    have hraises : Raises (addRule item) s (.rule e) s := by
      refine (ends_get s).bind_raises ?_
      rw [hadd]
      rfl
    exact (ends_register_of_raises plugin item.1 hraises rfl).bind (ends_pure () _)

theorem ends_apply (s : Load) (p : Registered) : Ends (apply p) s () (s.apply p) :=
  (ends_collect s p _ _).bind <| (ends_forM (ends_offerKey p.name) _ _).bind <|
    (ends_collect _ p _ _).bind (ends_forM (ends_offerRule p.name) _ _)

/-- Whatever hooks and registrations raise, loading does not. -/
theorem ends_load (h : Host) (r : Registry) (locals : List LocalFile) :
    Ends (load locals) { host := h, registry := r } (h.load r locals).host.names
      (h.load r locals) :=
  (ends_modify _ _).bind <| (ends_modify _ _).bind <| (ends_get _).bind <|
    (ends_forM ends_apply _ _).bind <|
    (ends_modify _ _).bind <| (ends_get _).bind (ends_pure _ _)

end Loading
end TagLint
