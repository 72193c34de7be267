import TagLint.Proofs.Registry.Dict
import TagLint.Proofs.Rule.Mentions
import TagLint.Proofs.Text.Search

/-! Keys that the fields of a struct share: primary keys, and the names of indexes. -/
namespace TagLint.StructRule
open Text

variable {s : StructDecl} {scanned : List ScannedField} {ms acc : List Mention} {m : Mention}
  {name : Text} {q : Placed} {qs : List Placed} {name? : TagEntry → Option Text}

/-- What an entry calls its index: under the key `index` or `uniqueindex`, the text before the first
comma of the value, without blanks around it, if anything is left of it. -/
def namedIndex? (e : TagEntry) : Option Text :=
  let name := trim (e.value.takeWhile (· ≠ ','))
  if (e.lowered = "index".toList ∨ e.lowered = "uniqueindex".toList) ∧ name ≠ [] then some name
    else none

/-- A field that shares an index name, with the entry that names it first. -/
structure SharedIndex where
  mention : Mention
  names : List Text
deriving DecidableEq, Repr

def SharedIndex.diagnostic (s : StructDecl) (w : SharedIndex) : Diagnostic :=
  let message : Text :=
    "Index '" ++ w.mention.name ++ "' is used by multiple fields: " ++ join ", " w.names
    ++ ". Ensure this is intended for composite index."
  ⟨s.name, w.mention.field.name, w.mention.field.tag, message, .warning, some w.mention.entry.token⟩

/-- A field joins a group once. -/
def addMember (members : List Mention) (m : Mention) : List Mention :=
  if members.all (·.place ≠ m.place) then members ++ [m] else members

def joinGroup (groups : List (Text × List Mention)) (m : Mention) : List (Text × List Mention) :=
  Dict.set m.name (addMember ((Dict.get? m.name groups).getD []) m) groups

/-- The groups of fields by index name, names in the order in which the loop meets them. -/
def indexGroups (scanned : List ScannedField) : List (Text × List Mention) :=
  eachMention namedIndex? joinGroup [] scanned

def warnings (members : List Mention) : List SharedIndex :=
  if members.length < 2 then [] else members.map (⟨·, members.map (·.field.name)⟩)

/-- The names of indexes, in the order in which they first appear. -/
def namedIndexes (scanned : List ScannedField) : List Text :=
  ((mentions namedIndex? scanned).map (·.name)).eraseDups

def indexWarnings (scanned : List ScannedField) : List SharedIndex :=
  (indexGroups scanned).flatMap fun (_, members) => warnings members

/-! ## The loop groups the mentions by name -/

/-- The group of a name, as the mentions so far make it. -/
def gathered (ms : List Mention) (name : Text) : List Mention :=
  (ms.filter (·.name = name)).foldl addMember []

theorem gathered_concat (ms : List Mention) (m : Mention) (name : Text) :
    gathered (ms ++ [m]) name = if name = m.name then addMember (gathered ms name) m
      else gathered ms name := by
  by_cases hm : m.name = name
  · simp [gathered, hm]
  · simp [gathered, hm, Ne.symm hm]

theorem gathered_of_not_mem (h : name ∉ ms.map (·.name)) : gathered ms name = [] := by
  have hnone : ms.filter (·.name = name) = [] := by
    rw [List.filter_eq_nil_iff]
    intro m hm heq
    exact h (List.mem_map.mpr ⟨m, hm, by simpa using heq⟩)
  rw [gathered, hnone]
  rfl

theorem foldl_joinGroup (ms : List Mention) :
    ms.foldl joinGroup [] = (ms.map (·.name)).eraseDups.map fun name =>
      (name, gathered ms name) := by
  induction ms using List.reverseRecOn with
  | nil => rfl
  | append_singleton ms m ih =>
    have hold :
        ((if m.name ∈ (ms.map (·.name)).eraseDups then some (gathered ms m.name) else none).getD [])
        = gathered ms m.name := by
      split
      · rfl
      · rename_i hnew
        rw [gathered_of_not_mem fun h => hnew (List.mem_eraseDups.mpr h)]
        rfl
    have hnames : ((ms ++ [m]).map (·.name)).eraseDups = (ms.map (·.name)).eraseDups
        ++ if m.name ∈ (ms.map (·.name)).eraseDups then [] else [m.name] := by
      rw [List.map_append, List.map_singleton, eraseDups_concat]
      simp only [List.mem_eraseDups]
    rw [List.foldl_concat, ih, joinGroup, Dict.get?_map, hold,
      Dict.set_map (nodup_eraseDups _) (gathered ms), hnames]
    refine List.map_congr_left fun name _ => ?_
    rw [gathered_concat]
    split
    · rename_i hname
      rw [hname]
    · rfl

/-- Of the mentions in one field only the first one counts. -/
theorem foldl_addMember_mentionsOf (hq : q.place ∉ acc.map (·.place)) :
    (q.mentionsOf name? name).foldl addMember acc
      = acc ++ (q.mentionsOf name? name).head?.toList := by
  have hplace : ∀ m ∈ q.mentionsOf name? name, m.place = q.place :=
    fun m hm => (field_of_mem_mentionsOf hm).2.1
  cases hms : q.mentionsOf name? name with
  | nil => simp
  | cons m ms =>
    rw [hms, List.forall_mem_cons] at hplace
    have hadd : addMember acc m = acc ++ [m] := by
      rw [addMember, if_pos]
      rw [List.all_eq_true]
      intro m' hm'
      have hne : m'.place ≠ q.place := fun heq => hq (heq ▸ List.mem_map_of_mem hm')
      simpa [hplace.1] using hne
    have hrest : ms.foldl addMember (acc ++ [m]) = acc ++ [m] := by
      refine List.foldlRecOn (motive := (· = acc ++ [m])) ms addMember rfl ?_
      rintro _ rfl m' hm'
      rw [addMember, if_neg]
      simp [hplace.1, hplace.2 m' hm']
    rw [List.foldl_cons, hadd, hrest]
    rfl

/-- The fields still to come are not in the group yet, so each of them joins with its first
mention. -/
theorem foldl_addMember (hnodup : (qs.map Placed.place).Nodup)
    (hacc : ∀ q ∈ qs, q.place ∉ acc.map (·.place)) :
    (qs.flatMap (·.mentionsOf name? name)).foldl addMember acc
      = acc ++ qs.filterMap fun q => (q.mentionsOf name? name).head? := by
  induction qs generalizing acc with
  | nil => simp
  | cons q qs ih =>
    obtain ⟨hq, hnodup⟩ := List.nodup_cons.mp hnodup
    obtain ⟨hqAcc, hacc⟩ := List.forall_mem_cons.mp hacc
    have hacc' :
        ∀ q' ∈ qs, q'.place ∉ (acc ++ (q.mentionsOf name? name).head?.toList).map (·.place) := by
      intro q' hq' hmem
      rw [List.map_append, List.mem_append] at hmem
      rcases hmem with hmem | hmem
      · exact hacc q' hq' hmem
      · obtain ⟨m, hm, hplace⟩ := List.mem_map.mp hmem
        have hm : m ∈ q.mentionsOf name? name := List.mem_of_mem_head? (Option.mem_toList.mp hm)
        have hsame : q'.place = q.place := hplace.symm.trans (field_of_mem_mentionsOf hm).2.1
        exact hq (hsame ▸ List.mem_map_of_mem hq')
    rw [List.flatMap_cons, List.foldl_append, foldl_addMember_mentionsOf hqAcc, ih hnodup hacc',
      List.append_assoc]
    cases hhead : (q.mentionsOf name? name).head? with
    | none => simp [hhead]
    | some m => simp [hhead]

/-- The group of a name holds its fields in order, each with its first entry that has the name. -/
theorem gathered_mentions (scanned : List ScannedField) (name : Text) :
    gathered (mentions name? scanned) name = members name? scanned name := by
  have hnodup := nodup_places_users name? scanned name
  rw [gathered, filter_mentions, foldl_addMember hnodup (by simp), members, List.nil_append]

theorem indexGroups_eq (scanned : List ScannedField) :
    indexGroups scanned = (namedIndexes scanned).map fun name =>
      (name, members namedIndex? scanned name) := by
  rw [indexGroups, eachMention_eq, foldl_joinGroup, namedIndexes]
  exact List.map_congr_left fun name _ => by rw [gathered_mentions]

theorem indexWarnings_eq (scanned : List ScannedField) :
    indexWarnings scanned
      = (namedIndexes scanned).flatMap fun name => warnings (members namedIndex? scanned name) := by
  rw [indexWarnings, indexGroups_eq, List.flatMap_map]

/-! ## The rule does as the loop -/

theorem before_comma (t : Text) : before "," t = t.takeWhile (· ≠ ',') := by
  rw [before]
  induction t with
  | nil => rfl
  | cons c t ih =>
    rw [find?_cons]
    by_cases hc : c = ','
    · subst hc
      rfl
    · have hstart : ¬ ",".toList <+: c :: t := fun h => hc (List.cons_prefix_cons.mp h).1.symm
      rw [if_neg hstart, List.takeWhile_cons_of_pos (by simpa using hc), ← ih]
      cases find? "," t <;> rfl

/-- The rule finds the name of an index where it stands. -/
theorem indexName?_eq : indexName? = namedIndex? := by
  funext e
  have hkeys : indexKeys.contains e.lowered = true
      ↔ e.lowered = "index".toList ∨ e.lowered = "uniqueindex".toList := by
    simp only [indexKeys, List.contains_iff_mem, List.mem_cons, List.not_mem_nil, or_false]
  rw [indexName?, indexName, before_comma]
  simp only [hkeys]
  rfl

theorem indexNames_eq (scanned : List ScannedField) :
    indexNames scanned = namedIndexes scanned := by
  rw [namedIndexes, map_name_mentions, indexNames, indexName?_eq]

/-- The loop warns of what the rule does. -/
theorem sharedIndexes_eq (s : StructDecl) (scanned : List ScannedField) :
    sharedIndexes s scanned = (indexWarnings scanned).map (·.diagnostic s) := by
  rw [sharedIndexes, indexWarnings_eq, List.map_flatMap, indexNames_eq]
  refine List.flatMap_congr fun name _ => ?_
  have hmembers : indexMembers scanned name
      = (members namedIndex? scanned name).map fun m => (m.field, m.entry.token) := by
    rw [indexMembers, indexName?_eq, filterMap_first]
  simp only [hmembers, warnings, List.length_map]
  split
  · rfl
  · rw [List.map_map, List.map_map, List.map_map]
    refine List.map_congr_left fun m hm => ?_
    simp only [Function.comp_apply, SharedIndex.diagnostic, name_of_mem_members hm]
    rfl

/-! ## One group -/

theorem mem_namedIndexes_iff :
    name ∈ namedIndexes scanned ↔ users namedIndex? scanned name ≠ [] := by
  rw [namedIndexes, List.mem_eraseDups, ← not_iff_not, not_not]
  have hfilter : _ = (users namedIndex? scanned name).flatMap _ := filter_mentions scanned name
  constructor
  · intro hnone
    rw [List.eq_nil_iff_forall_not_mem]
    intro q hq
    obtain ⟨m, ms, hms⟩ := List.exists_cons_of_ne_nil (mentionsOf_ne_nil hq)
    have hm : m ∈ (mentions namedIndex? scanned).filter (·.name = name) := by
      rw [hfilter, List.mem_flatMap]
      exact ⟨q, hq, hms ▸ List.mem_cons_self⟩
    obtain ⟨hm, hname⟩ := List.mem_filter.mp hm
    exact hnone (List.mem_map.mpr ⟨m, hm, by simpa using hname⟩)
  · intro hnil hmem
    obtain ⟨m, hm, hname⟩ := List.mem_map.mp hmem
    rw [hnil, List.flatMap_nil, List.filter_eq_nil_iff] at hfilter
    exact hfilter m hm (by simpa using hname)

theorem members_fieldNames (scanned : List ScannedField) (name : Text) :
    (members name? scanned name).map (·.field.name)
      = (users name? scanned name).map (·.field.name) := by
  have hfirst := forall₂_members name? scanned name
  generalize members name? scanned name = ms at hfirst ⊢
  generalize users name? scanned name = qs at hfirst ⊢
  induction hfirst with
  | nil => rfl
  | cons hhead _ ih =>
    rw [List.map_cons, List.map_cons, ih, (field_of_mem_mentionsOf (List.mem_of_mem_head? hhead)).1]

theorem members_eq_nil (h : users name? scanned name = []) : members name? scanned name = [] := by
  rw [members, h]
  rfl

theorem filter_warnings (name other : Text) :
    (warnings (members namedIndex? scanned name)).filter (·.mention.name = other)
      = if name = other then warnings (members namedIndex? scanned name) else [] := by
  have hname : ∀ w ∈ warnings (members namedIndex? scanned name), w.mention.name = name := by
    intro w hw
    rw [warnings] at hw
    split at hw
    · simp at hw
    · obtain ⟨m, hm, rfl⟩ := List.mem_map.mp hw
      exact name_of_mem_members hm
  split
  · rename_i hsame
    exact List.filter_eq_self.mpr fun w hw => by simp [hname w hw, hsame]
  · rename_i hne
    exact List.filter_eq_nil_iff.mpr fun w hw => by simp [hname w hw, hne]

/-- What is said over one name is said of its group, wherever it stands. -/
theorem warnings_over (scanned : List ScannedField) (name : Text) :
    (indexWarnings scanned).filter (·.mention.name = name)
      = warnings (members namedIndex? scanned name) := by
  have hnil : ∀ other, decide (other = name) = false →
      (warnings (members namedIndex? scanned other)).filter (·.mention.name = name) = [] := by
    intro other hne
    rw [filter_warnings, if_neg (of_decide_eq_false hne)]
  rw [indexWarnings_eq, List.filter_flatMap, ← flatMap_filter_of_nil hnil]
  by_cases hmem : name ∈ namedIndexes scanned
  · have hnodup : (namedIndexes scanned).Nodup := nodup_eraseDups _
    rw [filter_eq_singleton hnodup hmem, List.flatMap_singleton, filter_warnings, if_pos rfl]
  · have hnone : (namedIndexes scanned).filter (· = name) = [] := by
      rw [List.filter_eq_nil_iff]
      intro other hother heq
      obtain rfl : other = name := by simpa using heq
      exact hmem hother
    rw [hnone, members_eq_nil (not_not.mp fun h => hmem (mem_namedIndexes_iff.mpr h))]
    rfl

/-! ## Primary keys -/

def primaryName : Text := "primarykey"

def primaryKey? (e : TagEntry) : Option Text :=
  if e.lowered = primaryName then some primaryName else none

def multiplicity (s : StructDecl) (m : Mention) : Diagnostic :=
  ⟨s.name, m.field.name, m.field.tag,
    "Multiple primary keys found in struct. Only one primary key is allowed.", .error,
    some m.entry.token⟩

theorem multiplePrimaryKeys_eq (s : StructDecl) (scanned : List ScannedField) :
    multiplePrimaryKeys s scanned
      = if 2 ≤ (users primaryKey? scanned primaryName).length then
          (members primaryKey? scanned primaryName).map (multiplicity s)
        else [] := by
  have hkey : ∀ e : TagEntry, (e.lowered = primaryName) = (primaryKey? e = some primaryName) := by
    intro e
    simp [primaryKey?]
  have hkeys : primaryKeys scanned
      = (members primaryKey? scanned primaryName).map fun m => (m.field, m.entry.token) := by
    rw [← filterMap_first]
    simp only [primaryKeys, ← hkey]
    rfl
  have hlength := (forall₂_members primaryKey? scanned primaryName).length_eq
  simp only [multiplePrimaryKeys, hkeys, List.length_map, hlength, List.map_map]
  split
  · rw [if_neg (by omega)]
  · rw [if_pos (by omega)]
    rfl

/-- Of the fields with a primary key each one is an error when there are two or more; then, for each
index name that two or more fields use, each of these is warned once, at its first key with the
name, and told the names of all of them. The groups come in the order in which their names first
appear. -/
theorem sharedKeys_exact (s : StructDecl) (scanned : List ScannedField) :
    findings s scanned = columnNames s scanned
        ++ (if 2 ≤ (users primaryKey? scanned primaryName).length then
            (members primaryKey? scanned primaryName).map (multiplicity s) else [])
        ++ (indexWarnings scanned).map (·.diagnostic s) ∧
    (∀ name? name,
      (users name? scanned name).Forall₂ (fun q m => (q.mentionsOf name? name).head? = some m)
      (members name? scanned name)) ∧
    (∀ name, (indexWarnings scanned).filter (·.mention.name = name)
      = if 2 ≤ (users namedIndex? scanned name).length then
          (members namedIndex? scanned name).map
            (⟨·, (users namedIndex? scanned name).map (·.field.name)⟩)
        else []) ∧
    indexWarnings scanned
      = (namedIndexes scanned).flatMap (fun name =>
        (indexWarnings scanned).filter (·.mention.name = name)) ∧
    (namedIndexes scanned).Pairwise (fun a b =>
      ((mentions namedIndex? scanned).map (·.name)).idxOf a
      < ((mentions namedIndex? scanned).map (·.name)).idxOf b) ∧
    ∀ name, name ∈ namedIndexes scanned ↔ users namedIndex? scanned name ≠ [] := by
  refine ⟨?_, fun name? name => forall₂_members name? scanned name, ?_, ?_, ?_, fun name =>
    mem_namedIndexes_iff⟩
  · rw [findings, multiplePrimaryKeys_eq, sharedIndexes_eq]
  · intro name
    rw [warnings_over, warnings, (forall₂_members namedIndex? scanned name).length_eq.symm,
      members_fieldNames]
    by_cases hshared : 2 ≤ (users namedIndex? scanned name).length
    · rw [if_pos hshared, if_neg (by omega)]
    · rw [if_neg hshared, if_pos (by omega)]
  · simp only [warnings_over]
    exact indexWarnings_eq scanned
  · exact pairwise_eraseDups _

end TagLint.StructRule
