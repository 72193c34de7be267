import TagLint.Proofs.Render.Printer
import TagLint.Proofs.Service.SpanTotals
import TagLint.Render.Telemetry

/-! Span trees have a text if and only if the names in them do: nothing else in their lines holds
brackets, the style tags apart. -/
namespace TagLint.Render
open Text

/-- No key or note of a span tree holds brackets or backslashes. -/
inductive Plain : Span → Prop
  | span {name : Text} {counts : List (Text × Int)} {annotations : List (Text × Json)}
      {children : List Span} (hcounts : ∀ p ∈ counts, p.1.Bare)
      (hnotes : ∀ p ∈ annotations, p.1.Bare ∧ p.2.display.Bare)
      (hchildren : ∀ s ∈ children, Plain s) : Plain ⟨name, counts, annotations, children⟩

variable {pr : Printer} {s : Span} {pairs kept : List (Text × Json)}

/-! ## Details -/

theorem forall_put {P : Text × Json → Prop} {k : Text} {v : Json} (hkept : ∀ p ∈ kept, P p)
    (hp : P (k, v)) : ∀ p ∈ Json.put k v kept, P p := by
  induction kept with
  | nil => simpa [Json.put] using hp
  | cons p kept ih =>
    obtain ⟨hfirst, hkept⟩ := List.forall_mem_cons.mp hkept
    rw [Json.put]
    split
    · rename_i hk
      exact List.forall_mem_cons.mpr ⟨hk ▸ hp, hkept⟩
    · exact List.forall_mem_cons.mpr ⟨hfirst, ih hkept⟩

theorem forall_foldl_put {P : Text × Json → Prop} (hkept : ∀ p ∈ kept, P p)
    (hpairs : ∀ p ∈ pairs, P p) :
    ∀ p ∈ pairs.foldl (fun kept (k, v) => Json.put k v kept) kept, P p := by
  induction pairs generalizing kept with
  | nil => exact hkept
  | cons p pairs ih =>
    obtain ⟨hp, hpairs⟩ := List.forall_mem_cons.mp hpairs
    exact ih (forall_put hkept hp) hpairs

theorem toJsons_eq_map (ss : List Span) : Span.toJsons ss = ss.map Span.toJson := by
  induction ss with
  | nil => rfl
  | cons s ss ih => rw [Span.toJsons, ih, List.map_cons]

/-- The document of a span gives its counts, with its notes laid over them. -/
theorem details_toJson (s : Span) :
    details s.toJson = .ok (s.annotations.foldl (fun kept (k, v) => Json.put k v kept)
      (s.counts.map fun (k, n) => (k, .int n))) := by
  obtain ⟨name, counts, annotations, children⟩ := s
  rw [Span.toJson]
  -- Each of the three parts is there or left out.
  cases counts <;> cases annotations <;> cases children <;> rfl

theorem bare_details (h : Plain s) {found : List (Text × Json)}
    (hfound : details s.toJson = .ok found) : ∀ p ∈ found, p.1.Bare ∧ p.2.display.Bare := by
  rw [details_toJson] at hfound
  obtain rfl := Except.ok.inj hfound
  cases h with
  | span hcounts hnotes hchildren =>
    refine forall_foldl_put ?_ hnotes
    intro p hp
    obtain ⟨q, hq, rfl⟩ := List.mem_map.mp hp
    exact ⟨hcounts q hq, bare_ofInt q.2⟩

/-! ## Lines -/

theorem succeeds_treeLines_iff {spans : List Json} {indent : Nat} :
    Succeeds (treeLines pr indent spans) ↔ ∀ span ∈ spans, Succeeds (spanLines pr indent span) := by
  induction spans with
  | nil => simp [treeLines]
  | cons span spans ih =>
    rw [treeLines, List.forall_mem_cons, ← ih]
    exact succeeds_bind_iff fun own => succeeds_map_iff

/-- The lines below a span are those of its children. -/
theorem childLines_toJson (s : Span) {own : List (Text × Json)} (hown : s.toJson = .dict own)
    (indent : Nat) :
    childLines pr indent own = treeLines pr indent (s.children.map Span.toJson) := by
  obtain ⟨name, counts, annotations, children⟩ := s
  rw [Span.toJson] at hown
  obtain rfl := Json.dict.inj hown
  rw [← toJsons_eq_map]
  -- Each of the three parts is there or left out.
  cases counts <;> cases annotations <;> cases children <;> rfl

section Lines

variable (hpr : pr.Lawful)
include hpr

/-- A name between bare texts, behind a text in one of the styles. -/
theorem succeeds_styledLine_iff {style before duration notes : Text}
    (hstyle : style ∈ Printer.styles) (hbefore : before.Bare) (hduration : duration.Bare)
    (hnotes : notes.Bare) (name : Text) :
    Succeeds (pr.lines [.marked (before ++ "[" ++ style ++ "]" ++ duration ++ "ms[/" ++ style
      ++ "]  " ++ name ++ notes)]) ↔ Succeeds (pr.shown name) := by
  have hunit : Bare "ms" := by decide
  have hgap : Bare "  " := by decide
  have hline : before ++ "[" ++ style ++ "]" ++ duration ++ "ms[/" ++ style ++ "]  " ++ name
      ++ notes = before ++ ("[" ++ style ++ "]" ++ (duration ++ "ms") ++ "[/" ++ style ++ "]"
        ++ ("  " ++ name ++ notes)) ++ ([] : Text) := by
    have hopen : "ms[/".toList = "ms".toList ++ "[/".toList := rfl
    have hclose : "]  ".toList = "]".toList ++ "  ".toList := rfl
    simp only [hopen, hclose, List.append_assoc, List.append_nil]
  rw [hpr.succeeds_marked_iff, hline, hpr.bare _ hbefore bare_nil,
    hpr.styled _ hstyle (bare_append.mpr ⟨hduration, hunit⟩), hpr.bare _ hgap hnotes]

theorem succeeds_spanLine_iff (h : Plain s) (indent : Nat) :
    Succeeds (spanLine pr indent s.toJson) ↔ Succeeds (pr.shown s.name) := by
  have hheader : optional "duration_ms" s.toJson = .ok (some Span.zeroDuration)
      ∧ optional "name" s.toJson = .ok (some (.text s.name)) := by
    obtain ⟨name, counts, annotations, children⟩ := s
    rw [Span.toJson]
    exact ⟨rfl, rfl⟩
  obtain ⟨found, hfound⟩ : ∃ found, details s.toJson = .ok found := ⟨_, details_toJson s⟩
  have hnotes : (join ", ".toList (found.map fun (k, v) => k ++ ['='] ++ v.display)).Bare := by
    apply bare_join (by decide)
    intro t ht
    obtain ⟨p, hp, rfl⟩ := List.mem_map.mp ht
    obtain ⟨hkey, hvalue⟩ := bare_details h hfound p hp
    have hsign : Bare ['='] := by decide
    exact bare_append.mpr ⟨bare_append.mpr ⟨hkey, hsign⟩, hvalue⟩
  have hindent : (spaces indent).Bare := by simp [Bare, spaces]
  have hduration : (durationText ⟨false, 0, -1⟩).Bare := by decide +kernel
  have hstyle : durationStyle ⟨false, 0, -1⟩ ∈ Printer.styles := by decide +kernel
  simp only [spanLine, hheader.1, hheader.2, hfound]
  refine succeeds_styledLine_iff hpr hstyle hindent hduration ?_ s.name
  split
  · exact bare_nil
  · have hopen : Bare "  (" := by decide
    have hclose : Bare ")" := by decide
    exact bare_append.mpr ⟨bare_append.mpr ⟨hopen, hnotes⟩, hclose⟩

/-- A span tree has lines if and only if every name in it shows something. -/
theorem succeeds_spanLines_iff (h : Plain s) (indent : Nat) :
    Succeeds (spanLines pr indent s.toJson) ↔ ∀ t ∈ s.spans, Succeeds (pr.shown t.name) := by
  induction h generalizing indent with
  | @span name counts annotations children hcounts hnotes hchildren ih =>
    have hself : Plain ⟨name, counts, annotations, children⟩ := .span hcounts hnotes hchildren
    have hown := succeeds_spanLine_iff hpr hself indent
    obtain ⟨own, hpairs⟩ : ∃ own, Span.toJson ⟨name, counts, annotations, children⟩ = .dict own :=
      ⟨_, by rw [Span.toJson]⟩
    have hbelow : Succeeds (childLines pr (indent + 4) own)
        ↔ ∀ c ∈ children, ∀ t ∈ c.spans, Succeeds (pr.shown t.name) := by
      rw [childLines_toJson _ hpairs, succeeds_treeLines_iff, List.forall_mem_map]
      exact forall₂_congr fun c hc => ih c hc (indent + 4)
    rw [Span.spans, Span.spansOf_eq, List.forall_mem_cons, List.forall_mem_flatMap, ← hbelow,
      ← hown, hpairs, spanLines]
    exact succeeds_bind_iff fun lines => succeeds_map_iff

end Lines

end TagLint.Render
