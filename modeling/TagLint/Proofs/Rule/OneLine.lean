import TagLint.Proofs.Service.LineEnds

/-! What the built-in rules say of a text stands on one line each, however the text is broken into
lines. -/
namespace TagLint
open Text

variable {a b t sep segment part template message : Text} {ts lines : List Text} {e : TagEntry}
  {scan : FieldScan} {s : StructDecl} {f : FieldDecl} {d : Diagnostic} {scanned : List ScannedField}

namespace Text

/-- No line ends in the text. -/
def OneLine (t : Text) : Prop := '\n' ∉ t

instance (t : Text) : Decidable (OneLine t) := inferInstanceAs (Decidable ('\n' ∉ t))

/-- A text that is written out is looked through character by character. -/
theorem OneLine.literal {cs : List Char} (h : cs.all (· != '\n') = true) :
    OneLine (String.ofList cs).toList := by
  rw [String.toList_ofList]
  intro hmem
  simpa using List.all_eq_true.mp h _ hmem

theorem OneLine.of_subset (hb : OneLine b) (h : a ⊆ b) : OneLine a := fun hmem => hb (h hmem)

theorem oneLine_append : OneLine (a ++ b) ↔ OneLine a ∧ OneLine b := by simp [OneLine, not_or]

theorem OneLine.join (hsep : OneLine sep) (hts : ∀ t ∈ ts, OneLine t) :
    OneLine (Text.join sep ts) :=
  not_mem_join hsep hts

theorem oneLine_ofNat (n : Nat) : OneLine (ofNat n) := not_mem_ofNat (by decide) n

end Text

/-! ## Fields -/

/-- What a field shows stands on one line. -/
structure FieldDecl.OneLine (f : FieldDecl) : Prop where
  name : f.name.OneLine
  tag : f.tag.OneLine

theorem FieldDecl.oneLine_of_within (h : f.Within t) (ht : t.OneLine) : f.OneLine :=
  ⟨ht.of_subset h.name, ht.of_subset (List.Subset.trans f.tag_subset h.rawTag)⟩

/-- A field is read from lines alone, and its tag from one of them. -/
theorem Body.oneLine_of_mem_fields {body : Text} (hf : f ∈ fields body) : f.OneLine := by
  have hlines : ∀ l ∈ ((Text.lines body).map trim).filter isContent,
      l ⊆ body.filter (· ≠ '\n') := by
    intro l hl c hc
    obtain ⟨line, hline, rfl⟩ := List.mem_map.mp (List.mem_filter.mp hl).1
    have hmem : c ∈ line := (trim_isInfix line).subset hc
    have hne : c ≠ '\n' := fun heq => not_mem_of_mem_split hline (heq ▸ hmem)
    exact List.mem_filter.mpr ⟨(infix_of_mem_split hline).subset hmem, by simpa using hne⟩
  exact f.oneLine_of_within (within_of_mem_fieldsOfLines hlines hf) (by simp [OneLine])

theorem oneLine_of_mem_structs (hs : s ∈ structs t) :
    s.name.OneLine ∧ ∀ f ∈ s.fields, f.OneLine := by
  have hname : s.name.OneLine :=
    fun hmem => absurd ((within_of_mem_structs hs).1 _ hmem) (by decide)
  refine ⟨hname, ?_⟩
  obtain ⟨p, hdeclares⟩ := exists_declares_of_mem hs
  cases hdeclares with
  | closed hheader hn => exact fun f hf => Body.oneLine_of_mem_fields hf
  | unclosed hheader hn => simp

/-! ## Entries -/

/-- Key and value stand on one line. -/
structure TagEntry.OneLine (e : TagEntry) : Prop where
  token : e.token.OneLine
  value : e.value.OneLine

theorem TagEntry.value_splitPart_subset (part : Text) : (splitPart part).2 ⊆ part := by
  rw [splitPart]
  split
  · exact List.Subset.trans (trim_isInfix _).subset (List.drop_subset _ part)
  · exact List.nil_subset part

theorem FieldDecl.OneLine.entries (hf : f.OneLine) (v : Vocabulary) :
    ∀ e ∈ f.entries v, e.OneLine := by
  intro e he
  obtain ⟨part, hpart, -, -, -, hs⟩ := TagEntry.exists_part_of_mem he
  refine ⟨hf.tag.of_subset (TagEntry.keyIn_of_mem_ofSegment he).stands.subset, ?_⟩
  rw [← hpart]
  exact hf.tag.of_subset (List.Subset.trans (TagEntry.value_splitPart_subset part) hs.subset)

/-! ## Rules for values -/

/-- The messages on one line that a list of findings has. -/
def OneLiners (fs : List Finding) : Prop := ∀ f ∈ fs, f.message.OneLine

theorem oneLiners_nil : OneLiners [] := by simp [OneLiners]

theorem oneLiners_singleton {severity : Severity} {key : Option Text} (h : message.OneLine) :
    OneLiners [⟨severity, message, key⟩] := List.forall_mem_singleton.mpr h

theorem OneLiners.append {fs gs : List Finding} (hfs : OneLiners fs) (hgs : OneLiners gs) :
    OneLiners (fs ++ gs) :=
  List.forall_mem_append.mpr ⟨hfs, hgs⟩

theorem oneLiners_guarded {guard : Bool} {severity : Severity} {key : Option Text}
    (h : guard → message.OneLine) :
    OneLiners (if guard then [⟨severity, message, key⟩] else []) := by
  cases guard with
  | false => exact oneLiners_nil
  | true => exact oneLiners_singleton (h rfl)

namespace ValueRule

/-- Of a value on one line the rule speaks on one line. -/
def KeepsLine (check : Check) : Prop :=
  ∀ e : TagEntry, e.value.OneLine → ∀ fs, check e = .ok fs → OneLiners fs

theorem keepsLine_digits {label : Text} (hlabel : label.OneLine) {noun : Option Text}
    (hnoun : ∀ n ∈ noun, n.OneLine) :
    KeepsLine (digits label noun) := by
  intro e hvalue fs hfs
  rw [digits.eq_def] at hfs
  split at hfs
  · obtain rfl := Except.ok.inj hfs
    exact oneLiners_nil
  · obtain rfl := Except.ok.inj hfs
    refine oneLiners_singleton ?_
    simp only [oneLine_append, and_assoc]
    refine ⟨.literal rfl, hlabel, .literal rfl, hvalue, .literal rfl, ?_, .literal rfl⟩
    split
    · rename_i n
      split
      · decide
      · exact oneLine_append.mpr ⟨hnoun n rfl, .literal rfl⟩
    · decide

theorem oneLine_fill (h : Template.AsksOnce template) (ht : template.OneLine) (hvalue : a.OneLine)
    (hm : Template.fill a template = .ok message) : message.OneLine := by
  obtain ⟨b, heq, hfill⟩ := Template.AsksOnce.exists_fill h a
  obtain rfl := Except.ok.inj (hfill.symm.trans hm)
  rw [heq] at ht
  simp only [oneLine_append] at ht ⊢
  exact ⟨ht.1, hvalue, ht.2.2⟩

theorem keepsLine_choice (h : Template.AsksOnce template) (ht : template.OneLine)
    (choices : List Text) :
    KeepsLine (choice template choices) := by
  intro e hvalue fs hfs
  rw [choice] at hfs
  split at hfs
  · obtain rfl := Except.ok.inj hfs
    exact oneLiners_nil
  · cases hm : Template.fill e.value template with
    | error failure => simp [hm, Except.map] at hfs
    | ok m =>
      rw [hm] at hfs
      obtain rfl := Except.ok.inj hfs
      exact oneLiners_singleton (oneLine_fill h ht hvalue hm)

theorem keepsLine_required (h : message.OneLine) (severity : Severity) :
    KeepsLine (required message severity) := by
  intro e _ fs hfs
  obtain rfl := Except.ok.inj hfs
  split
  · exact oneLiners_singleton h
  · exact oneLiners_nil

theorem keepsLine_constraint : KeepsLine constraint := by
  intro e hvalue fs hfs
  rw [constraint] at hfs
  split at hfs
  · obtain rfl := Except.ok.inj hfs
    exact oneLiners_singleton (.literal rfl)
  · obtain rfl := Except.ok.inj hfs
    rintro f hf
    obtain ⟨o, ho, rfl⟩ := List.mem_map.mp hf
    obtain ⟨part, hpart, rfl⟩ := List.mem_map.mp (List.mem_filter.mp ho).1
    have hoption : constraintOption part ⊆ e.value := List.Subset.trans (trim_isInfix _).subset
      (List.Subset.trans (before_subset _ part) (infix_of_mem_split hpart).subset)
    refine oneLine_append.mpr ⟨oneLine_append.mpr ⟨.literal rfl, hvalue.of_subset hoption⟩,
      .literal rfl⟩

theorem oneLine_kind (kind : QuoteKind) : kind.name.OneLine := by
  cases kind <;> decide

theorem keepsLine_comment : KeepsLine comment := by
  intro e _ fs hfs
  rw [comment] at hfs
  split at hfs
  · obtain rfl := Except.ok.inj hfs
    exact oneLiners_singleton (.literal rfl)
  · obtain rfl := Except.ok.inj hfs
    refine OneLiners.append ?_ (oneLiners_guarded fun _ =>
      oneLine_append.mpr ⟨.literal rfl, .literal rfl⟩)
    rw [unmatchedQuotes]
    split
    · exact oneLiners_nil
    · rename_i kind _
      have hkind := oneLine_kind kind
      refine oneLiners_singleton ?_
      simp only [oneLine_append, and_assoc]
      exact ⟨.literal rfl, hkind, .literal rfl, oneLine_ofNat _, .literal rfl, hkind, .literal rfl⟩

theorem keepsLine_default : KeepsLine default := by
  intro e _ fs hfs
  obtain rfl := Except.ok.inj hfs
  exact oneLiners_guarded fun _ => .literal rfl

theorem keepsLine_builtinChecks : ∀ p ∈ builtinChecks, KeepsLine p.2 := by
  simp only [builtinChecks, List.forall_mem_cons]
  have hsome {cs : List Char} (h : cs.all (· != '\n') = true) :
      ∀ n ∈ some (String.ofList cs).toList, OneLine n := by
    intro n hn
    obtain rfl := Option.some.inj hn
    exact .literal h
  iterate 3 refine ⟨keepsLine_digits (.literal rfl) (hsome rfl), ?_⟩
  refine ⟨keepsLine_digits (.literal rfl) (by simp), ?_⟩
  iterate 2 refine ⟨keepsLine_digits (.literal rfl) (hsome rfl), ?_⟩
  iterate 7 refine ⟨keepsLine_choice (.literal (by decide +kernel)) (.literal rfl) _, ?_⟩
  iterate 9 refine ⟨keepsLine_required (.literal rfl) _, ?_⟩
  exact ⟨keepsLine_constraint, keepsLine_comment, keepsLine_default, by simp⟩

end ValueRule

/-! ## Rules on the keys of a field -/

theorem FieldScan.oneLine_token (hscan : ∀ e ∈ scan, e.OneLine) {key : Text} (hkey : key.OneLine) :
    (scan.token key).OneLine := by
  rw [token]
  cases hfind : scan.find? key with
  | none => exact hkey
  | some e => exact (hscan e (List.mem_of_find?_eq_some hfind)).token

namespace Combination

theorem oneLiners_pairConflicts (hscan : ∀ e ∈ scan, e.OneLine) (he : e.OneLine) :
    OneLiners (pairConflicts scan e) := by
  rw [pairConflicts]
  split
  · exact oneLiners_nil
  · rename_i other hrival
    split
    · have hother : other.OneLine := by
        rcases FieldPass.rival?_eq_some_iff.mp hrival with ⟨rfl, -⟩ | ⟨rfl, -⟩ <;> decide
      have hearlier := FieldScan.oneLine_token hscan hother
      have htoken := he.token
      refine List.forall_mem_cons.mpr ⟨?_, oneLiners_singleton ?_⟩
      all_goals
        simp only [Finding.error, oneLine_append, and_assoc]
        exact ⟨.literal rfl, by assumption, .literal rfl, by assumption, .literal rfl⟩
    · exact oneLiners_nil

theorem oneLiners_rule (hscan : ∀ e ∈ scan, e.OneLine) : ∀ rule ∈ rules, OneLiners (rule scan) := by
  intro rule hrule
  simp only [rules, List.mem_cons, List.not_mem_nil, or_false] at hrule
  rcases hrule with rfl | rfl | rfl | rfl | rfl | rfl | rfl | rfl
  case inl =>
    refine oneLiners_guarded fun _ => ?_
    simp only [oneLine_append, and_assoc]
    exact ⟨.literal rfl, FieldScan.oneLine_token hscan (.literal rfl), .literal rfl⟩
  case inr.inl =>
    refine oneLiners_guarded fun _ => ?_
    simp only [oneLine_append, and_assoc]
    refine ⟨.literal rfl, OneLine.join (.literal rfl) ?_, .literal rfl⟩
    intro token htoken
    obtain ⟨e, he, rfl⟩ := List.mem_map.mp (List.mem_filter.mp htoken).1
    exact (hscan e he).token
  case inr.inr.inl =>
    rw [conflictingPermissions]
    split
    · refine oneLiners_singleton ?_
      simp only [oneLine_append, and_assoc]
      refine ⟨.literal rfl, OneLine.join (.literal rfl) ?_, .literal rfl⟩
      have hpermissions : ∀ p ∈ permissions, p.OneLine := by decide
      exact fun p hp => hpermissions p (List.mem_filter.mp hp).1
    · exact oneLiners_nil
  case inr.inr.inr.inr.inl | inr.inr.inr.inr.inr.inl =>
    exact oneLiners_guarded fun _ => oneLine_append.mpr ⟨.literal rfl, .literal rfl⟩
  all_goals exact oneLiners_guarded fun _ => .literal rfl

theorem oneLiners_findings (hscan : ∀ e ∈ scan, e.OneLine) : OneLiners (findings scan) := by
  intro f hf
  obtain ⟨rule, hrule, hf⟩ := List.mem_flatMap.mp hf
  exact oneLiners_rule hscan rule hrule f hf

end Combination

/-! ## The pass over a field -/

namespace FieldPass

theorem oneLiners_verdict (he : e.OneLine) (c : KeyClass) : OneLiners (verdict c e) := by
  cases c with
  | recommended => exact oneLiners_nil
  | unknown =>
    exact oneLiners_singleton
      (oneLine_append.mpr ⟨oneLine_append.mpr ⟨.literal rfl, he.token⟩, .literal rfl⟩)
  | caution | deprecated =>
    exact oneLiners_singleton
      (oneLine_append.mpr ⟨oneLine_append.mpr ⟨.literal rfl, he.token⟩, .literal rfl⟩)

theorem oneLiners_valueFindings (he : e.OneLine) {fs : List Finding}
    (hfs : valueFindings {} e = .ok fs) :
    OneLiners fs := by
  rw [valueFindings] at hfs
  split at hfs
  · rename_i rule hrule
    obtain ⟨p, hp, hcheck⟩ := ValueRule.exists_check_of_get? hrule
    rw [hcheck] at hfs
    exact ValueRule.keepsLine_builtinChecks p hp e he.value fs hfs
  · obtain rfl := Except.ok.inj hfs
    exact oneLiners_nil

/-- One entry behind others on one line adds findings on one line. -/
theorem oneLine_of_ofEntry (hscan : ∀ e ∈ scan, e.OneLine) (he : e.OneLine) {found : List Anchored}
    (hfound : ofEntry {} scan e = .ok found) : ∀ x ∈ found, x.1.message.OneLine := by
  simp only [ofEntry] at hfound
  cases hvalues : valueFindings {} e with
  | error failure => simp [hvalues, bind, Except.bind] at hfound
  | ok values =>
    rw [hvalues] at hfound
    obtain rfl := Except.ok.inj hfound
    have hrepeated : OneLiners (if !scan.has e.lowered then [] else [duplicate e]) := by
      split
      · exact oneLiners_nil
      · exact oneLiners_singleton
          (oneLine_append.mpr ⟨oneLine_append.mpr ⟨.literal rfl, he.token⟩, .literal rfl⟩)
    have hpairs :
        OneLiners (if !scan.has e.lowered then Combination.pairConflicts scan e else []) := by
      split
      · exact Combination.oneLiners_pairConflicts hscan he
      · exact oneLiners_nil
    have hall :=
      ((hrepeated.append (oneLiners_verdict he (({} : Vocabulary).classify e.key))).append
      (oneLiners_valueFindings he hvalues)).append hpairs
    intro x hx
    obtain ⟨f, hf, rfl⟩ := List.mem_map.mp hx
    exact hall f hf

theorem oneLine_of_ofEntries {entries : List TagEntry} (hscan : ∀ e ∈ scan, e.OneLine)
    (hentries : ∀ e ∈ entries, e.OneLine) {found : List Anchored}
    (hfound : ofEntries {} scan entries = .ok found) :
    ∀ x ∈ found, x.1.message.OneLine := by
  induction entries generalizing scan found with
  | nil =>
    obtain rfl := Except.ok.inj hfound
    intro x hx
    obtain ⟨f, hf, rfl⟩ := List.mem_map.mp hx
    exact Combination.oneLiners_findings hscan f hf
  | cons e entries ih =>
    obtain ⟨he, hentries⟩ := List.forall_mem_cons.mp hentries
    have hobserved : ∀ e' ∈ scan.observe e, e'.OneLine := by
      rw [FieldScan.observe]
      split
      · exact hscan
      · exact List.forall_mem_append.mpr ⟨hscan, List.forall_mem_singleton.mpr he⟩
    rw [ofEntries] at hfound
    cases hfirst : ofEntry {} scan e with
    | error failure => simp [hfirst, bind, Except.bind] at hfound
    | ok first =>
      cases hrest : ofEntries {} (scan.observe e) entries with
      | error failure => simp [hfirst, hrest, bind, Except.bind] at hfound
      | ok rest =>
        rw [hfirst, hrest] at hfound
        obtain rfl := Except.ok.inj hfound
        exact List.forall_mem_append.mpr ⟨oneLine_of_ofEntry hscan he hfirst,
          ih hobserved hentries hrest⟩

end FieldPass

/-! ## Diagnostics -/

/-- Every text of the diagnostic stands on one line. -/
structure Diagnostic.OneLine (d : Diagnostic) : Prop where
  structName : d.structName.OneLine
  fieldName : d.fieldName.OneLine
  tag : d.tag.OneLine
  message : d.message.OneLine
  key : ∀ k ∈ d.key, k.OneLine

theorem oneLine_of_mem_validateField (hs : s.name.OneLine) (hf : f.OneLine)
    (hd : d ∈ validateField {} s f) :
    d.OneLine := by
  obtain ⟨e, he, hpoints⟩ := pointsAt_of_mem_validateField hd
  have hentries := hf.entries {}
  refine ⟨hpoints.structName ▸ hs, hpoints.fieldName ▸ hf.name, hpoints.tag ▸ hf.tag, ?_, ?_⟩
  · obtain ⟨found, hfound, -⟩ := FieldPass.forall_token_of_writtenIn f.writtenIn_of_mem_entries
    have hfindings : FieldPass.findings {} (f.entries ({} : Registry).vocabulary) = .ok found :=
      hfound
    rw [validateField, hfindings] at hd
    obtain ⟨x, hx, rfl⟩ := List.mem_map.mp hd
    exact FieldPass.oneLine_of_ofEntries (by simp) hentries hfound x hx
  · rw [hpoints.key]
    intro k hk
    obtain rfl := Option.some.inj hk
    exact (hentries e he).token

namespace StructRule

/-- The fields and their entries show what stands on one line. -/
def OneLineFields (scanned : List ScannedField) : Prop :=
  ∀ p ∈ scanned, p.1.OneLine ∧ ∀ e ∈ p.2, e.OneLine

theorem oneLine_diagnostic (hs : s.name.OneLine) (hf : f.OneLine) {finding : Finding}
    (hfinding : finding.message.OneLine) {key : Text} (hkey : key.OneLine) :
    (diagnostic s f finding key).OneLine := by
  refine ⟨hs, hf.name, hf.tag, hfinding, ?_⟩
  intro k hk
  obtain rfl := Option.some.inj hk
  exact hkey

theorem oneLine_of_mem_columnClaims (h : OneLineFields scanned) {claim : FieldDecl × TagEntry}
    (hclaim : claim ∈ columnClaims scanned) : claim.1.OneLine ∧ claim.2.OneLine := by
  obtain ⟨p, hp, hclaim⟩ := List.mem_flatMap.mp hclaim
  obtain ⟨e, he, rfl⟩ := List.mem_map.mp hclaim
  exact ⟨(h p hp).1, (h p hp).2 e (List.mem_filter.mp he).1⟩

theorem oneLine_of_mem_columnNames (hs : s.name.OneLine) (h : OneLineFields scanned)
    (hd : d ∈ columnNames s scanned) :
    d.OneLine := by
  obtain ⟨⟨f, e⟩, hclaim, hd⟩ := List.mem_filterMap.mp hd
  obtain ⟨hf, he⟩ := oneLine_of_mem_columnClaims h hclaim
  simp only at hd
  split at hd
  · rename_i owner howner
    obtain ⟨claim, hfind, rfl⟩ := Option.map_eq_some_iff.mp howner
    have hname := (oneLine_of_mem_columnClaims h (List.mem_of_find?_eq_some hfind)).1.name
    split at hd
    · cases hd
    · obtain rfl := Option.some.inj hd
      refine oneLine_diagnostic hs hf ?_ he.token
      simp only [Finding.error, oneLine_append, and_assoc]
      exact ⟨.literal rfl, he.value, .literal rfl, hname, .literal rfl⟩
  · cases hd

/-- The fields with an entry of some kind, each with the key of the first such entry. -/
theorem oneLine_of_mem_firsts (h : OneLineFields scanned) {p : TagEntry → Bool}
    {member : FieldDecl × Text}
    (hmember : member ∈ scanned.filterMap fun (f, entries) => (entries.find? p).map fun e =>
      (f, e.token)) :
    member.1.OneLine ∧ member.2.OneLine := by
  obtain ⟨q, hq, hmember⟩ := List.mem_filterMap.mp hmember
  obtain ⟨e, hfind, rfl⟩ := Option.map_eq_some_iff.mp hmember
  exact ⟨(h q hq).1, ((h q hq).2 e (List.mem_of_find?_eq_some hfind)).token⟩

theorem oneLine_of_mem_multiplePrimaryKeys (hs : s.name.OneLine) (h : OneLineFields scanned)
    (hd : d ∈ multiplePrimaryKeys s scanned) : d.OneLine := by
  simp only [multiplePrimaryKeys] at hd
  split at hd
  · cases hd
  · obtain ⟨member, hmember, rfl⟩ := List.mem_map.mp hd
    obtain ⟨hf, hkey⟩ := oneLine_of_mem_firsts h hmember
    exact oneLine_diagnostic hs hf (.literal rfl) hkey

theorem oneLine_of_mem_indexNames (h : OneLineFields scanned) {name : Text}
    (hname : name ∈ indexNames scanned) :
    name.OneLine := by
  obtain ⟨p, hp, hname⟩ := List.mem_flatMap.mp (List.mem_eraseDups.mp hname)
  obtain ⟨e, he, hname⟩ := List.mem_filterMap.mp hname
  obtain ⟨-, heq⟩ := Option.ite_none_right_eq_some.mp hname
  obtain rfl := Option.some.inj heq
  exact ((h p hp).2 e he).value.of_subset
    (List.Subset.trans (trim_isInfix _).subset (before_subset _ e.value))

theorem oneLine_of_mem_sharedIndexes (hs : s.name.OneLine) (h : OneLineFields scanned)
    (hd : d ∈ sharedIndexes s scanned) : d.OneLine := by
  obtain ⟨name, hname, hd⟩ := List.mem_flatMap.mp hd
  simp only at hd
  split at hd
  · cases hd
  · obtain ⟨member, hmember, rfl⟩ := List.mem_map.mp hd
    obtain ⟨hf, hkey⟩ := oneLine_of_mem_firsts h hmember
    refine oneLine_diagnostic hs hf ?_ hkey
    simp only [Finding.warning, oneLine_append, and_assoc]
    refine ⟨.literal rfl, oneLine_of_mem_indexNames h hname, .literal rfl,
      OneLine.join (.literal rfl) ?_, .literal rfl⟩
    intro t ht
    obtain ⟨other, hother, rfl⟩ := List.mem_map.mp ht
    exact (oneLine_of_mem_firsts h hother).1.name

theorem oneLine_of_mem_findings (hs : s.name.OneLine) (h : OneLineFields scanned)
    (hd : d ∈ findings s scanned) :
    d.OneLine := by
  rcases List.mem_append.mp hd with hd | hd
  · rcases List.mem_append.mp hd with hd | hd
    · exact oneLine_of_mem_columnNames hs h hd
    · exact oneLine_of_mem_multiplePrimaryKeys hs h hd
  · exact oneLine_of_mem_sharedIndexes hs h hd

end StructRule

theorem oneLine_of_mem_validateStruct (hs : s.name.OneLine) (hfields : ∀ f ∈ s.fields, f.OneLine)
    (hd : d ∈ validateStruct {} s) : d.OneLine := by
  simp only [validateStruct, List.mem_append, List.mem_flatMap] at hd
  rcases hd with ⟨f, hf, hd⟩ | hd
  · exact oneLine_of_mem_validateField hs (hfields f (List.mem_filter.mp hf).1) hd
  · refine StructRule.oneLine_of_mem_findings hs ?_ hd
    intro p hp
    obtain ⟨f, hf, rfl⟩ := List.mem_map.mp hp
    have hline := hfields f (List.mem_filter.mp hf).1
    exact ⟨hline, hline.entries _⟩

/-- Whatever text is validated, every diagnostic is told on one line. -/
theorem oneLine_of_mem_validateStructs (hd : d ∈ validateStructs {} (structs t)) : d.OneLine := by
  obtain ⟨s, hs, hd⟩ := List.mem_flatMap.mp hd
  obtain ⟨hname, hfields⟩ := oneLine_of_mem_structs hs
  exact oneLine_of_mem_validateStruct hname hfields hd

end TagLint
