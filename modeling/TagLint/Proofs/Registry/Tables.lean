import TagLint.Proofs.Registry.Listing

/-! The vocabulary as two dictionaries, written one after the other, that stay in step over every
run. -/
namespace TagLint
open Text Vocabulary

variable {α : Type} {v v' : Vocabulary} {key k : Text} {given : ClassGiven} {row : KeyRow}
  {rows : List KeyRow} {e : VocabularyError} {call : KeyCall}

/-! ## Columns -/

/-- One column of the rows, by key. -/
def column (f : KeyRow → α) (rows : List KeyRow) : List (Text × α) :=
  rows.map fun row => (row.folded, f row)

variable {f : KeyRow → α}

theorem get?_column (f : KeyRow → α) (k : Text) (rows : List KeyRow) :
    Dict.get? k (column f rows) = (rows.find? (·.folded = k)).map f := by
  simp [Dict.get?, column, List.find?_map, Function.comp_def]

theorem set_column (f : KeyRow → α) (row : KeyRow) (rows : List KeyRow) :
    Dict.set row.folded (f row) (column f rows) = column f (put row rows) := by
  induction rows with
  | nil => rfl
  | cons r rows ih =>
    change Dict.set row.folded (f row) ((r.folded, f r) :: column f rows) = _
    rw [Dict.set, put, ih]
    split <;> rfl

theorem pop_column (f : KeyRow → α) (k : Text) (rows : List KeyRow) :
    Dict.pop k (column f rows) = column f (rows.filter (·.folded ≠ k)) := by
  simp [Dict.pop, column, List.filter_map, Function.comp_def]

theorem map_fst_column (f : KeyRow → α) (rows : List KeyRow) :
    (column f rows).map Prod.fst = rows.map KeyRow.folded := by
  simp [column, Function.comp_def]

theorem mem_column {p : Text × α} : p ∈ column f rows ↔ ∃ row ∈ rows, (row.folded, f row) = p :=
  List.mem_map

/-! ## Two tables -/

/-- The class and the spelling of every key, in a dictionary each. -/
structure Tables where
  classes : List (Text × KeyClass)
  names : List (Text × Text)
deriving DecidableEq, Repr

namespace Tables

/-- An edit may give up half-way; what it has written until then stays. -/
abbrev Edit := ExceptT VocabularyError (StateM Tables)

def write (folded name : Text) (c : KeyClass) : Edit Unit := do
  modify fun t => { t with classes := Dict.set folded c t.classes }
  modify fun t => { t with names := Dict.set folded name t.names }

def register (key : Text) (given : ClassGiven) : Edit Unit := do
  let name := trim key
  if name = [] then
    throw .blankKey
  let folded := foldKey key
  if isBuiltin folded then
    throw (.builtinKey name)
  match given with
  | .other shown => throw (.notAClass shown)
  | .known c =>
    if c = .unknown then
      throw (.unknownClass name)
    match Dict.get? folded (← get).classes with
    | some old =>
      if old ≠ c then
        throw (.taken name old)
    | none => pure ()
    write folded name c

def unregister (key : Text) : Edit Unit := do
  let folded := foldKey key
  if isBuiltin folded then
    return
  modify fun t => { t with classes := Dict.pop folded t.classes }
  modify fun t => { t with names := Dict.pop folded t.names }

def edit : KeyCall → Edit Unit
  | .add key given => register key given
  | .drop key => unregister key

/-- What the call answers, and the tables it leaves. -/
def answer (t : Tables) (call : KeyCall) : Except VocabularyError Unit × Tables :=
  (edit call).run.run t

def after (t : Tables) (calls : List KeyCall) : Tables :=
  calls.foldl (fun t call => (t.answer call).2) t

def writeRow (t : Tables) (row : KeyRow) : Tables :=
  ((write row.folded row.name row.keyClass).run.run t).2

def start : Tables := builtin.foldl writeRow ⟨[], []⟩

def ofRows (rows : List KeyRow) : Tables := ⟨column KeyRow.keyClass rows, column KeyRow.name rows⟩

def classify (t : Tables) (key : Text) : KeyClass :=
  (Dict.get? (foldKey key) t.classes).getD .unknown

def canonicalName (t : Tables) (key : Text) : Text :=
  (Dict.get? (foldKey key) t.names).getD (trim key)

end Tables

/-- The two tables of a vocabulary. -/
def Vocabulary.tables (v : Vocabulary) : Tables := .ofRows v.rows

namespace Tables

variable {t : Tables}

theorem get?_classes_ofRows (k : Text) (rows : List KeyRow) :
    Dict.get? k (ofRows rows).classes = (rows.find? (·.folded = k)).map KeyRow.keyClass :=
  get?_column KeyRow.keyClass k rows

theorem get?_names_ofRows (k : Text) (rows : List KeyRow) :
    Dict.get? k (ofRows rows).names = (rows.find? (·.folded = k)).map KeyRow.name :=
  get?_column KeyRow.name k rows

theorem classify_tables (v : Vocabulary) (key : Text) : v.tables.classify key = v.classify key := by
  rw [classify, Vocabulary.tables, get?_classes_ofRows, Vocabulary.classify, row?]

theorem canonicalName_tables (v : Vocabulary) (key : Text) :
    v.tables.canonicalName key = v.canonicalName key := by
  rw [canonicalName, Vocabulary.tables, get?_names_ofRows, Vocabulary.canonicalName, row?]

theorem run_write (row : KeyRow) (rows : List KeyRow) :
    (write row.folded row.name row.keyClass).run.run (ofRows rows)
      = (.ok (), ofRows (put row rows)) := by
  change (Except.ok (), Tables.mk (Dict.set row.folded row.keyClass (column KeyRow.keyClass rows))
    (Dict.set row.folded row.name (column KeyRow.name rows))) = _
  rw [set_column KeyRow.keyClass, set_column KeyRow.name]
  rfl

/-- Different keys are written into the tables in their order. -/
theorem writeRows_eq {more : List KeyRow} (h : ((rows ++ more).map KeyRow.folded).Nodup) :
    more.foldl writeRow (ofRows rows) = ofRows (rows ++ more) := by
  induction more generalizing rows with
  | nil => simp
  | cons row more ih =>
    have hrow : ∀ r ∈ rows, r.folded ≠ row.folded := by
      intro r hr
      rw [List.map_append, List.nodup_append] at h
      exact h.2.2 _ (List.mem_map_of_mem hr) _ (List.mem_map_of_mem List.mem_cons_self)
    rw [List.foldl_cons, writeRow, run_write, put_of_fresh hrow, ih]
    · rw [List.append_assoc, List.singleton_append]
    · rwa [List.append_assoc, List.singleton_append]

theorem start_eq : start = ({} : Vocabulary).tables := by
  have h : builtin.foldl writeRow (ofRows []) = ofRows ([] ++ builtin) := writeRows_eq nodup_builtin
  rw [Vocabulary.tables, rows, List.append_nil]
  exact h

/-! ## One call -/

theorem get?_classes (h : isBuiltin k = false) :
    Dict.get? k v.tables.classes = (v.added? k).map KeyRow.keyClass := by
  rw [Vocabulary.tables, get?_classes_ofRows, find?_rows_of_fresh h]

theorem run_write_fresh (row : KeyRow) (h : isBuiltin row.folded = false) :
    (write row.folded row.name row.keyClass).run.run v.tables
      = (.ok (), (⟨put row v.added⟩ : Vocabulary).tables) := by
  rw [Vocabulary.tables, run_write, Vocabulary.rows, put_append fun r hr => folded_ne_of_fresh h hr]
  rfl

theorem run_get_bind (k : Tables → Edit Unit) (t : Tables) :
    (get >>= k).run.run t = (k t).run.run t := rfl

theorem run_register (v : Vocabulary) (key : Text) (given : ClassGiven) :
    (register key given).run.run v.tables = match v.addKey key given with
      | .ok v' => (.ok (), v'.tables)
      | .error e => (.error e, v.tables) := by
  -- One case per guard, in the order in which the edit makes them; only behind the last one is it
  -- written.
  by_cases hblank : trim key = []
  · simp only [addKey_blank hblank]
    simp only [register, hblank, reduceIte]
    rfl
  by_cases hbuiltin : isBuiltin (foldKey key)
  · simp only [addKey_builtin hblank hbuiltin]
    simp only [register, hblank, hbuiltin, reduceIte]
    rfl
  have hfresh : isBuiltin (foldKey key) = false := by simpa using hbuiltin
  cases given with
  | other shown =>
    simp only [addKey_other hblank hfresh]
    simp only [register, hblank, hbuiltin, reduceIte]
    rfl
  | known c =>
    by_cases hc : c = .unknown
    · subst c
      simp only [addKey_unknown hblank hfresh]
      simp only [register, hblank, hbuiltin, reduceIte]
      rfl
    have hget := get?_classes (v := v) hfresh
    have hwrite := run_write_fresh (v := v) ⟨foldKey key, trim key, c⟩ hfresh
    simp only [addKey_known hblank hfresh hc]
    cases hadded : v.added? (foldKey key) with
    | none =>
      have hnone : Dict.get? (foldKey key) v.tables.classes = none := by simp [hget, hadded]
      simp only [register, hblank, hbuiltin, hc, Bool.false_eq_true, reduceIte, run_get_bind, hnone]
      exact hwrite
    | some row =>
      have hsome : Dict.get? (foldKey key) v.tables.classes
          = some row.keyClass := by simp [hget, hadded]
      by_cases hsame : row.keyClass = c
      · simp only [register, hblank, hbuiltin, hc, Bool.false_eq_true, reduceIte, run_get_bind,
          hsome, hsame, ne_eq, not_true_eq_false]
        exact hwrite
      · simp only [register, hblank, hbuiltin, hc, Bool.false_eq_true, reduceIte, run_get_bind,
          hsome, hsame, ne_eq, not_false_eq_true]
        rfl

theorem run_unregister (h : Sound v) (key : Text) :
    (unregister key).run.run v.tables = (.ok (), (v.dropKey key).tables) := by
  by_cases hbuiltin : isBuiltin (foldKey key)
  · simp only [unregister, hbuiltin, reduceIte, h.dropKey_builtin]
    rfl
  · have hfresh : isBuiltin (foldKey key) = false := by simpa using hbuiltin
    have hrows : v.rows.filter (·.folded ≠ foldKey key) = (v.dropKey key).rows := by
      rw [rows, List.filter_append, filter_of_fresh fun row hrow => folded_ne_of_fresh hfresh hrow]
      rfl
    simp only [unregister, hbuiltin, Bool.false_eq_true, reduceIte]
    change (Except.ok (), Tables.mk (Dict.pop (foldKey key) (column KeyRow.keyClass v.rows))
      (Dict.pop (foldKey key) (column KeyRow.name v.rows))) = _
    rw [pop_column KeyRow.keyClass, pop_column KeyRow.name, hrows]
    rfl

/-- A call writes to both tables what it does to the vocabulary. -/
theorem answer_tables (h : Sound v) (call : KeyCall) :
    v.tables.answer call = match v.apply call with
    | .ok v' => (.ok (), v'.tables)
    | .error e => (.error e, v.tables) := by
  cases call with
  | add key given => exact run_register v key given
  | drop key => exact run_unregister h key

theorem answer_of_ok (h : Sound v) (hcall : v.apply call = .ok v') :
    v.tables.answer call = (.ok (), v'.tables) := by
  simp only [answer_tables h, hcall]

theorem answer_of_error (hcall : v.apply call = .error e) :
    v.tables.answer call = (.error e, v.tables) := by
  cases call with
  | add key given =>
    have hadd : v.addKey key given = .error e := hcall
    have hanswer := run_register v key given
    rw [hadd] at hanswer
    exact hanswer
  | drop key => cases hcall

theorem answer_step (h : Sound v) (call : KeyCall) :
    (v.tables.answer call).2 = (v.step call).tables := by
  cases hcall : v.apply call with
  | ok v' => simp only [answer_of_ok h hcall, Vocabulary.step, hcall]
  | error e => simp only [answer_of_error hcall, Vocabulary.step, hcall]

/-- The run on two tables is the run on rows. -/
theorem after_tables (h : Sound v) (calls : List KeyCall) :
    v.tables.after calls = (v.after calls).tables := by
  induction calls generalizing v with
  | nil => rfl
  | cons call calls ih =>
    change Tables.after (v.tables.answer call).2 calls
        = (Vocabulary.after (v.step call) calls).tables
    rw [answer_step h]
    exact ih (h.step call)

/-! ## What every run keeps -/

/-- The two tables have the same keys in the same order, each the lower case of its name. -/
structure Consistent (t : Tables) : Prop where
  sameKeys : t.classes.map Prod.fst = t.names.map Prod.fst
  nodup : (t.classes.map Prod.fst).Nodup
  named : ∀ p ∈ t.names, p.1 = lower p.2 ∧ trim p.2 = p.2 ∧ p.2 ≠ []
  builtin : ∀ row ∈ builtin, Dict.get? row.folded t.classes = some row.keyClass ∧
    Dict.get? row.folded t.names = some row.name
  classed : ∀ p ∈ t.classes, isBuiltin p.1 = false → p.2 ≠ .unknown

theorem consistent_tables (h : Sound v) : v.tables.Consistent := by
  constructor
  case sameKeys => simp only [Vocabulary.tables, ofRows, map_fst_column]
  case nodup =>
    simp only [Vocabulary.tables, ofRows, map_fst_column]
    exact h.nodup_rows
  case named =>
    intro p hp
    obtain ⟨row, hrow, rfl⟩ := mem_column.mp hp
    have hnamed := h.named_rows row hrow
    exact ⟨hnamed.folded, hnamed.trimmed, hnamed.ne_nil⟩
  case builtin =>
    intro row hrow
    have hfind : v.rows.find? (·.folded = row.folded) = some row :=
      find?_of_mem KeyRow.folded h.nodup_rows (List.mem_append_left _ hrow)
    constructor
    · simp only [Vocabulary.tables, get?_classes_ofRows, hfind, Option.map_some]
    · simp only [Vocabulary.tables, get?_names_ofRows, hfind, Option.map_some]
  case classed =>
    intro p hp hfresh
    obtain ⟨row, hrow, rfl⟩ := mem_column.mp hp
    rcases List.mem_append.mp hrow with hrow | hrow
    · exact absurd rfl (folded_ne_of_fresh hfresh hrow)
    · exact h.classed row hrow

/-- A key that was not there is gone again when it is dropped. -/
theorem dropKey_of_addKey (hadd : v.addKey key given = .ok v')
    (habsent : v.added? (foldKey key) = none)
    (hk : foldKey k = foldKey key) : v'.dropKey k = v := by
  obtain ⟨-, -, c, -, -, -, rfl⟩ := addKey_eq_ok_iff.mp hadd
  have hall : ∀ row ∈ v.added, row.folded ≠ foldKey key := by simpa [added?] using habsent
  have hput : put ⟨foldKey key, trim key, c⟩ v.added = v.added ++ [⟨foldKey key, trim key, c⟩] :=
    put_of_fresh hall
  rw [dropKey, hput, hk, List.filter_append, filter_of_fresh hall]
  simp

theorem answer_drop_of_add (h : Sound v) (hadd : v.tables.answer (.add key given) = (.ok (), t))
    (habsent : Dict.get? (foldKey key) v.tables.classes = none) (hk : foldKey k = foldKey key) :
    t.answer (.drop k) = (.ok (), v.tables) := by
  cases hcall : v.apply (.add key given) with
  | error e =>
    rw [answer_of_error hcall] at hadd
    simp at hadd
  | ok v' =>
    rw [answer_of_ok h hcall] at hadd
    obtain ⟨-, rfl⟩ := Prod.mk.inj hadd
    have hadded : v.added? (foldKey key) = none := by
      obtain ⟨-, hfresh, -⟩ := addKey_eq_ok_iff.mp hcall
      simpa [get?_classes hfresh] using habsent
    have hdrop : v'.apply (.drop k) = .ok v := by
      rw [Vocabulary.apply, dropKey_of_addKey hcall hadded hk]
    exact answer_of_ok (h.apply hcall) hdrop

/-- A refused call has written nothing. -/
theorem eq_of_answer_error (hcall : v.tables.answer call = (.error e, t)) : t = v.tables := by
  cases call with
  | add key given =>
    change (register key given).run.run v.tables = _ at hcall
    rw [run_register] at hcall
    cases hadd : v.addKey key given with
    | ok v' =>
      simp only [hadd] at hcall
      cases hcall
    | error e' =>
      simp only [hadd] at hcall
      exact (Prod.mk.inj hcall).2.symm
  | drop key =>
    by_cases hbuiltin : isBuiltin (foldKey key)
    · simp only [answer, edit, unregister, hbuiltin, reduceIte] at hcall
      cases hcall
    · simp only [answer, edit, unregister, hbuiltin, Bool.false_eq_true, reduceIte] at hcall
      cases hcall

/-- Whatever calls come, the two tables stay in step: they are the two columns of one vocabulary, a
refused call leaves both alone, and adding a new key can be taken back. So a name has the class of
its key, is written as it is, and is listed once, under that class. -/
theorem consistent_after (calls : List KeyCall) :
    let v := ({} : Vocabulary).after calls
    let t := start.after calls
    t = v.tables ∧ t.Consistent ∧
    (∀ call e t', t.answer call = (.error e, t') → t' = t) ∧
    (∀ key given t', t.answer (.add key given) = (.ok (), t') →
      Dict.get? (foldKey key) t.classes = none →
      ∀ k, foldKey k = foldKey key → t'.answer (.drop k) = (.ok (), t)) ∧
    (∀ k, t.classify k = v.classify k ∧ t.canonicalName k = v.canonicalName k) ∧
    (∀ k, v.classify (v.canonicalName k) = v.classify k) ∧
    (∀ k, v.canonicalName (v.canonicalName k) = v.canonicalName k) ∧
    v.Groups (t.names.map Prod.snd) v.byClass ∧
    ∀ s : Service, s.registry.vocabulary = v → ∀ kind c, KeyClass.ofName? (lower kind) = some c →
      s.keys none = s.withSpan { name := "LintService.keys" } (Service.keysOutcome v.byClass) ∧
      s.keys (some kind) = s.withSpan { name := "LintService.keys" }
        (Service.keysOutcome (v.byClass.filter (·.1 = c))) := by
  intro v t
  have hsound : Sound v := sound_empty.after calls
  have htables : t = v.tables := by
    change start.after calls = _
    rw [start_eq]
    exact after_tables sound_empty calls
  have hnames : t.names.map Prod.snd = v.rows.map KeyRow.name := by
    simp [htables, Vocabulary.tables, ofRows, column, Function.comp_def]
  rw [hnames]
  clear_value t
  subst t
  refine ⟨rfl, consistent_tables hsound, ?_, ?_, ?_, hsound.classify_canonicalName,
    hsound.canonicalName_canonicalName, hsound.groups_byClass, ?_⟩
  · exact fun call e t' hcall => eq_of_answer_error hcall
  · exact fun key given t' hadd habsent k hk => answer_drop_of_add hsound hadd habsent hk
  · exact fun k => ⟨classify_tables v k, canonicalName_tables v k⟩
  · intro s hs kind c hkind
    rw [← hs]
    exact ⟨rfl, s.keys_of_class hkind⟩

/-- Calls in several casings, some of them refused. -/
def mixedCalls : List KeyCall := [
  .add " Tenant " (.known .caution), .add "TENANT" (.known .caution), .add "Size" (.known .caution),
  .add " " (.known .deprecated), .add "Region" (.known .recommended), .drop "tenant ", .drop "size"]

theorem consistent_after_mixedCalls :
    let v := ({} : Vocabulary).after mixedCalls
    let t := start.after mixedCalls
    let s : Service := { registry := { vocabulary := v } }
    t.Consistent ∧ (t.answer (.add "region" (.known .caution))).2 = t ∧
      (t.answer (.add "Owner" (.known .caution))).2.answer (.drop " OWNER ") = (.ok (), t) ∧
      s.keys (some "Caution".toList) = s.withSpan { name := "LintService.keys" }
        (Service.keysOutcome (v.byClass.filter (·.1 = .caution))) := by
  intro v t s
  have hsound : Sound v := sound_empty.after mixedCalls
  obtain ⟨htables, hconsistent, hrefused, htaken, -, -, -, -, hkeys⟩ := consistent_after mixedCalls
  change t = v.tables at htables
  have hregion : t.answer (.add "region" (.known .caution))
      = (.error (.taken "region" .recommended), t) := by
    rw [htables]
    exact answer_of_error (by decide +kernel)
  have howner : t.answer (.add "Owner" (.known .caution)) =
      (.ok (), (⟨v.added ++ [⟨"owner", "Owner", .caution⟩]⟩ : Vocabulary).tables) := by
    rw [htables]
    exact answer_of_ok hsound (by decide +kernel)
  have habsent : Dict.get? (foldKey "Owner") t.classes = none := by
    rw [htables, get?_classes (by decide +kernel)]
    decide +kernel
  refine ⟨hconsistent, ?_, ?_, ?_⟩
  · exact hrefused _ (.taken "region" .recommended) _ (by rw [hregion])
  · rw [howner]
    exact htaken "Owner" (.known .caution) _ howner habsent " OWNER " (by decide +kernel)
  · exact (hkeys s rfl "Caution" .caution (by decide +kernel)).2

end Tables
end TagLint
