import TagLint.Proofs.Registry.Dict
import TagLint.Proofs.Text.Pieces
import TagLint.Vocabulary

/-! The calls that change a vocabulary, and what holds of it after any run of them. -/
namespace TagLint
open Text

/-- A call that changes the vocabulary. -/
inductive KeyCall where
  | add (key : Text) (given : ClassGiven)
  | drop (key : Text)
deriving DecidableEq, Repr

namespace Vocabulary

variable {v v' : Vocabulary} {key k folded : Text} {given : ClassGiven} {c : KeyClass}
  {row r : KeyRow} {rows : List KeyRow} {call : KeyCall} {calls : List KeyCall}

def apply (v : Vocabulary) : KeyCall → Except VocabularyError Vocabulary
  | .add key given => v.addKey key given
  | .drop key => .ok (v.dropKey key)

/-- A refused call changes nothing. -/
def step (v : Vocabulary) (call : KeyCall) : Vocabulary :=
  match v.apply call with
  | .ok v' => v'
  | .error _ => v

def after (v : Vocabulary) (calls : List KeyCall) : Vocabulary := calls.foldl step v

/-- The row that was added for a key. -/
def added? (v : Vocabulary) (folded : Text) : Option KeyRow := v.added.find? (·.folded = folded)

/-! ## Rows -/

theorem find?_put_self (row : KeyRow) (rows : List KeyRow) :
    (put row rows).find? (·.folded = row.folded) = some row := by
  induction rows with
  | nil => simp [put]
  | cons r rows ih =>
    rw [put]
    split
    · simp
    · rename_i hne
      simp [hne, ih]

theorem find?_put_of_ne (h : row.folded ≠ k) (rows : List KeyRow) :
    (put row rows).find? (·.folded = k) = rows.find? (·.folded = k) := by
  induction rows with
  | nil => simp [put, h]
  | cons r rows ih =>
    rw [put]
    split
    · rename_i heq
      have hr : r.folded ≠ k := heq ▸ h
      simp [h, hr]
    · simp only [List.find?_cons, ih]

theorem mem_put (h : r ∈ put row rows) : r = row ∨ r ∈ rows := by
  induction rows with
  | nil => exact Or.inl (List.mem_singleton.mp h)
  | cons s rows ih =>
    rw [put] at h
    split at h
    · rcases List.mem_cons.mp h with h | h
      · exact Or.inl h
      · exact Or.inr (List.mem_cons_of_mem _ h)
    · rcases List.mem_cons.mp h with rfl | h
      · exact Or.inr List.mem_cons_self
      · exact (ih h).imp_right (List.mem_cons_of_mem _)

theorem nodup_put (h : (rows.map KeyRow.folded).Nodup) (row : KeyRow) :
    ((put row rows).map KeyRow.folded).Nodup := by
  induction rows with
  | nil => simp [put]
  | cons r rows ih =>
    rw [List.map_cons, List.nodup_cons] at h
    rw [put]
    split
    · rename_i heq
      rw [List.map_cons, List.nodup_cons, ← heq]
      exact h
    · rename_i hne
      rw [List.map_cons, List.nodup_cons]
      refine ⟨?_, ih h.2⟩
      intro hmem
      obtain ⟨s, hs, heq⟩ := List.mem_map.mp hmem
      rcases mem_put hs with rfl | hs
      · exact hne heq.symm
      · exact h.1 (List.mem_map.mpr ⟨s, hs, heq⟩)

/-- A row for a new key goes behind all rows before it. -/
theorem put_append (h : ∀ r ∈ rows, r.folded ≠ row.folded) (added : List KeyRow) :
    put row (rows ++ added) = rows ++ put row added := by
  induction rows with
  | nil => rfl
  | cons r rows ih =>
    obtain ⟨hne, hrest⟩ := List.forall_mem_cons.mp h
    rw [List.cons_append, put, if_neg hne, ih hrest, List.cons_append]

theorem put_of_fresh (h : ∀ r ∈ rows, r.folded ≠ row.folded) : put row rows = rows ++ [row] := by
  simpa [put] using put_append h []

theorem filter_of_fresh (h : ∀ r ∈ rows, r.folded ≠ k) : rows.filter (·.folded ≠ k) = rows := by
  simpa [List.filter_eq_self] using h

theorem isBuiltin_iff : isBuiltin k ↔ k ∈ builtin.map KeyRow.folded := by
  simp [isBuiltin]

theorem folded_ne_of_fresh (h : isBuiltin k = false) (hrow : row ∈ builtin) : row.folded ≠ k := by
  intro heq
  have hbuiltin : isBuiltin k := isBuiltin_iff.mpr (List.mem_map.mpr ⟨row, hrow, heq⟩)
  simp [h] at hbuiltin

/-- Under a key that is not built in, the rows hold what was added. -/
theorem find?_rows_of_fresh (h : isBuiltin k = false) :
    v.rows.find? (·.folded = k) = v.added? k := by
  have hnone : builtin.find? (·.folded = k) = none := by
    simpa using fun row hrow => folded_ne_of_fresh h hrow
  rw [rows, List.find?_append, hnone, Option.none_or, added?]

/-! ## Calls -/

theorem addKey_known (hblank : trim key ≠ []) (hfresh : isBuiltin (foldKey key) = false)
    (hc : c ≠ .unknown) :
    v.addKey key (.known c) = match v.added? (foldKey key) with
      | some row =>
        if row.keyClass = c then .ok ⟨put ⟨foldKey key, trim key, c⟩ v.added⟩
        else .error (.taken (trim key) row.keyClass)
      | none => .ok ⟨put ⟨foldKey key, trim key, c⟩ v.added⟩ := by
  have hlower : isBuiltin (lower (trim key)) = false := hfresh
  cases c with
  | unknown => exact absurd rfl hc
  | recommended => simp only [addKey, hblank, hlower, added?, foldKey]; rfl
  | caution => simp only [addKey, hblank, hlower, added?, foldKey]; rfl
  | deprecated => simp only [addKey, hblank, hlower, added?, foldKey]; rfl

theorem addKey_blank (h : trim key = []) : v.addKey key given = .error .blankKey := by
  simp [addKey, h]

theorem addKey_builtin (hblank : trim key ≠ []) (h : isBuiltin (foldKey key)) :
    v.addKey key given = .error (.builtinKey (trim key)) := by
  have hlower : isBuiltin (lower (trim key)) := h
  simp [addKey, hblank, hlower]

theorem addKey_other (hblank : trim key ≠ []) (hfresh : isBuiltin (foldKey key) = false)
    (shown : Text) :
    v.addKey key (.other shown) = .error (.notAClass shown) := by
  have hlower : isBuiltin (lower (trim key)) = false := hfresh
  simp [addKey, hblank, hlower]

theorem addKey_unknown (hblank : trim key ≠ []) (hfresh : isBuiltin (foldKey key) = false) :
    v.addKey key (.known .unknown) = .error (.unknownClass (trim key)) := by
  have hlower : isBuiltin (lower (trim key)) = false := hfresh
  simp [addKey, hblank, hlower]

/-- Adding a key succeeds in one way. -/
theorem addKey_eq_ok_iff : v.addKey key given = .ok v' ↔
    trim key ≠ [] ∧ isBuiltin (foldKey key) = false ∧
      ∃ c, given = .known c ∧ c ≠ .unknown ∧
      (∀ row, v.added? (foldKey key) = some row → row.keyClass = c) ∧
        v' = ⟨put ⟨foldKey key, trim key, c⟩ v.added⟩ := by
  by_cases hblank : trim key = []
  · simp [addKey_blank hblank, hblank]
  by_cases hbuiltin : isBuiltin (foldKey key)
  · simp [addKey_builtin hblank hbuiltin, hbuiltin]
  have hfresh : isBuiltin (foldKey key) = false := by simpa using hbuiltin
  cases given with
  | other shown => simp [addKey_other hblank hfresh]
  | known c =>
    by_cases hc : c = .unknown
    · subst c
      simp [addKey_unknown hblank hfresh]
    · rw [addKey_known hblank hfresh hc]
      cases hrow : v.added? (foldKey key) with
      | none => simp [hblank, hfresh, hc, eq_comm]
      | some row =>
        by_cases hsame : row.keyClass = c
        · simp [hblank, hfresh, hc, hsame, eq_comm]
        · simp [hsame]

/-! ## Until a key is dropped -/

/-- A key that is not built in was added with a class. -/
def Holds (v : Vocabulary) (folded : Text) (c : KeyClass) : Prop :=
  isBuiltin folded = false ∧ ∃ row, v.added? folded = some row ∧ row.keyClass = c

theorem holds_of_addKey (h : v.addKey key (.known c) = .ok v') : v'.Holds (foldKey key) c := by
  obtain ⟨-, hfresh, c', hc, -, -, rfl⟩ := addKey_eq_ok_iff.mp h
  obtain rfl := ClassGiven.known.inj hc
  exact ⟨hfresh, _, find?_put_self ⟨foldKey key, trim key, c⟩ v.added, rfl⟩

theorem Holds.classify (h : v.Holds folded c) (hk : foldKey k = folded) : v.classify k = c := by
  obtain ⟨hfresh, row, hrow, hclass⟩ := h
  rw [Vocabulary.classify, row?, hk, find?_rows_of_fresh hfresh, hrow]
  exact hclass

/-- Adding a key again leaves its class alone, whatever casing it comes in. -/
theorem Holds.addKey (h : v.Holds folded c) (hadd : v.addKey key given = .ok v') :
    v'.Holds folded c := by
  obtain ⟨hfresh, row, hrow, hclass⟩ := h
  obtain ⟨-, -, c', -, -, hsame, rfl⟩ := addKey_eq_ok_iff.mp hadd
  refine ⟨hfresh, ?_⟩
  by_cases hkey : foldKey key = folded
  · subst folded
    have hc : c' = c := (hsame row hrow).symm.trans hclass
    exact ⟨_, find?_put_self ⟨foldKey key, trim key, c'⟩ v.added, hc⟩
  · refine ⟨row, ?_, hclass⟩
    have hother : added? ⟨put ⟨foldKey key, trim key, c'⟩ v.added⟩ folded = v.added? folded :=
      find?_put_of_ne hkey v.added
    exact hother.trans hrow

theorem Holds.dropKey (h : v.Holds folded c) (hkey : foldKey key ≠ folded) :
    (v.dropKey key).Holds folded c := by
  obtain ⟨hfresh, row, hrow, hclass⟩ := h
  exact ⟨hfresh, row, (find?_filter_of_ne KeyRow.folded hkey v.added).trans hrow, hclass⟩

theorem Holds.step (h : v.Holds folded c) (hdrop : ∀ key, call = .drop key → foldKey key ≠ folded) :
    (v.step call).Holds folded c := by
  cases call with
  | add key given =>
    rw [Vocabulary.step]
    split
    · rename_i hadd
      exact h.addKey hadd
    · exact h
  | drop key => exact h.dropKey (hdrop key rfl)

theorem Holds.after (h : v.Holds folded c)
    (hdrop : ∀ key, KeyCall.drop key ∈ calls → foldKey key ≠ folded) :
    (v.after calls).Holds folded c := by
  induction calls generalizing v with
  | nil => exact h
  | cons call calls ih =>
    have hcall : ∀ key, call = .drop key → foldKey key ≠ folded := by
      rintro key rfl
      exact hdrop key List.mem_cons_self
    exact ih (h.step hcall) fun key hmem => hdrop key (List.mem_cons_of_mem _ hmem)

/-! ## What every run keeps -/

/-- A row stands under the lower case of its name, which is trimmed and not empty. -/
structure Named (row : KeyRow) : Prop where
  folded : row.folded = lower row.name
  trimmed : trim row.name = row.name
  ne_nil : row.name ≠ []

theorem Named.foldKey_name (h : Named row) : foldKey row.name = row.folded := by
  rw [foldKey, h.trimmed, h.folded]

/-- The rows that were added are new keys, each once, with a class of their own. -/
structure Sound (v : Vocabulary) : Prop where
  fresh : ∀ row ∈ v.added, isBuiltin row.folded = false
  nodup : (v.added.map KeyRow.folded).Nodup
  named : ∀ row ∈ v.added, Named row
  classed : ∀ row ∈ v.added, row.keyClass ≠ .unknown

theorem sound_empty : Sound {} := by
  constructor <;> simp

theorem Sound.put (h : Sound v) (hrow : Named row) (hfresh : isBuiltin row.folded = false)
    (hclass : row.keyClass ≠ .unknown) : Sound ⟨Vocabulary.put row v.added⟩ := by
  constructor
  · intro r hr
    rcases mem_put hr with rfl | hr
    · exact hfresh
    · exact h.fresh r hr
  · exact nodup_put h.nodup row
  · intro r hr
    rcases mem_put hr with rfl | hr
    · exact hrow
    · exact h.named r hr
  · intro r hr
    rcases mem_put hr with rfl | hr
    · exact hclass
    · exact h.classed r hr

theorem Sound.dropKey (h : Sound v) (key : Text) : Sound (v.dropKey key) := by
  constructor
  · exact fun row hrow => h.fresh row (List.mem_filter.mp hrow).1
  · exact h.nodup.sublist (List.filter_sublist.map KeyRow.folded)
  · exact fun row hrow => h.named row (List.mem_filter.mp hrow).1
  · exact fun row hrow => h.classed row (List.mem_filter.mp hrow).1

/-- Built-in keys are not dropped: no row was added for them. -/
theorem Sound.dropKey_builtin (h : Sound v) (hbuiltin : isBuiltin (foldKey key)) :
    v.dropKey key = v := by
  have hall : ∀ row ∈ v.added, row.folded ≠ foldKey key := by
    intro row hrow heq
    have hfresh := h.fresh row hrow
    simp [heq, hbuiltin] at hfresh
  rw [Vocabulary.dropKey, filter_of_fresh hall]

theorem Sound.apply (h : Sound v) (hcall : v.apply call = .ok v') : Sound v' := by
  cases call with
  | add key given =>
    obtain ⟨hblank, hfresh, c, rfl, hc, -, rfl⟩ := addKey_eq_ok_iff.mp hcall
    exact h.put ⟨rfl, trim_trim key, hblank⟩ hfresh hc
  | drop key =>
    obtain rfl := Except.ok.inj hcall
    exact h.dropKey key

theorem Sound.step (h : Sound v) (call : KeyCall) : Sound (v.step call) := by
  rw [Vocabulary.step]
  split
  · rename_i hcall
    exact h.apply hcall
  · exact h

theorem Sound.after (h : Sound v) (calls : List KeyCall) : Sound (v.after calls) := by
  induction calls generalizing v with
  | nil => exact h
  | cons call calls ih => exact ih (h.step call)

/-! ## The rows of a sound vocabulary -/

theorem named_builtin : ∀ row ∈ builtin, row.folded = lower row.name ∧ trim row.name = row.name ∧
    row.name ≠ [] := by
  decide +kernel

theorem nodup_builtin : (builtin.map KeyRow.folded).Nodup := by decide +kernel

theorem Sound.named_rows (h : Sound v) : ∀ row ∈ v.rows, Named row := by
  intro row hrow
  rcases List.mem_append.mp hrow with hrow | hrow
  · obtain ⟨hfolded, htrimmed, hne⟩ := named_builtin row hrow
    exact ⟨hfolded, htrimmed, hne⟩
  · exact h.named row hrow

theorem Sound.nodup_rows (h : Sound v) : (v.rows.map KeyRow.folded).Nodup := by
  rw [rows, List.map_append, List.nodup_append]
  refine ⟨nodup_builtin, h.nodup, ?_⟩
  intro a ha b hb
  obtain ⟨r, hr, rfl⟩ := List.mem_map.mp ha
  obtain ⟨row, hrow, rfl⟩ := List.mem_map.mp hb
  exact folded_ne_of_fresh (h.fresh row hrow) hr

theorem row?_congr (h : foldKey key = foldKey k) : v.row? key = v.row? k := by
  rw [row?, row?, h]

theorem row?_builtin (hrow : row ∈ builtin) (hk : foldKey k = row.folded) :
    v.row? k = some row := by
  rw [row?, rows, hk, List.find?_append, find?_of_mem KeyRow.folded nodup_builtin hrow]
  rfl

theorem Sound.foldKey_canonicalName (h : Sound v) (k : Text) :
    foldKey (v.canonicalName k) = foldKey k := by
  rw [canonicalName]
  cases hrow : v.row? k with
  | none =>
    change lower (trim (trim k)) = lower (trim k)
    rw [trim_trim]
  | some row =>
    have hfolded : row.folded = foldKey k := by simpa using List.find?_some hrow
    rw [← hfolded]
    exact (h.named_rows row (List.mem_of_find?_eq_some hrow)).foldKey_name

/-- The documented spelling differs from the key in its case alone. -/
theorem Sound.lower_canonicalName (h : Sound v) (k : Text) :
    lower (v.canonicalName k) = foldKey k := by
  rw [canonicalName]
  cases hrow : v.row? k with
  | none => rfl
  | some row =>
    have hfolded : row.folded = foldKey k := by simpa using List.find?_some hrow
    exact (h.named_rows row (List.mem_of_find?_eq_some hrow)).folded.symm.trans hfolded

theorem Sound.classify_canonicalName (h : Sound v) (k : Text) :
    v.classify (v.canonicalName k) = v.classify k := by
  rw [classify, classify, row?_congr (h.foldKey_canonicalName k)]

theorem Sound.canonicalName_canonicalName (h : Sound v) (k : Text) :
    v.canonicalName (v.canonicalName k) = v.canonicalName k := by
  cases hrow : v.row? k with
  | none =>
    have hname : v.canonicalName k = trim k := by rw [canonicalName, hrow]; rfl
    have hfold : foldKey (trim k) = foldKey k := by simp [foldKey]
    rw [hname, canonicalName, row?_congr hfold, hrow]
    exact trim_trim k
  | some row =>
    rw [canonicalName, row?_congr (h.foldKey_canonicalName k), hrow, canonicalName, hrow]
    rfl

theorem Sound.classify_name (h : Sound v) (hrow : row ∈ v.rows) :
    v.classify row.name = row.keyClass := by
  rw [classify, row?, (h.named_rows row hrow).foldKey_name,
    find?_of_mem KeyRow.folded h.nodup_rows hrow]
  rfl

end Vocabulary
end TagLint
