import TagLint.Command.Line
import TagLint.Proofs.Command.Reader
import TagLint.Proofs.Render.Succeeds
import Mathlib.Data.List.Nodup

/-! Options that were given: each that takes a value has one, and the value passed its check. -/
namespace TagLint.Command
open Text Render

variable {specs : List OptionSpec} {spec : OptionSpec} {kind : ValueKind} {form arg t : Text}
  {attached next : Option Text} {mixed used : Bool} {args : List Text} {given : List GivenOption}
  {g : GivenOption} {s : Scanned} {tree : FileTree} {name : OptionName}

/-- An option of the list, with a value if it takes one. -/
def GivenOption.Complete (specs : List OptionSpec) (g : GivenOption) : Prop :=
  g.spec ∈ specs ∧ g.value.isSome = g.spec.takes.isSome

theorem complete_takeValue (hmem : spec ∈ specs) (htakes : spec.takes = some kind)
    (h : takeValue spec form attached next = .ok (g, used)) : g.Complete specs := by
  unfold takeValue at h
  split at h
  · obtain ⟨rfl, -⟩ := Prod.mk.inj (Except.ok.inj h)
    exact ⟨hmem, by simp [htakes]⟩
  · obtain ⟨rfl, -⟩ := Prod.mk.inj (Except.ok.inj h)
    exact ⟨hmem, by simp [htakes]⟩
  · cases h

theorem complete_one (hmem : spec ∈ specs) (htakes : spec.takes = some kind)
    (h : (takeValue spec form attached next).map (fun (g, used) => ([g], used)) = .ok (given, used))
      :
    ∀ g ∈ given, g.Complete specs := by
  obtain ⟨⟨g, used'⟩, hvalue, heq⟩ := map_eq_ok_iff.mp h
  obtain ⟨rfl, -⟩ := Prod.mk.inj heq
  exact List.forall_mem_singleton.mpr (complete_takeValue hmem htakes hvalue)

theorem complete_readShort (h : readShort specs next t = .ok (given, used)) :
    ∀ g ∈ given, g.Complete specs := by
  induction t generalizing given used with
  | nil =>
    obtain ⟨rfl, -⟩ := Prod.mk.inj (Except.ok.inj h)
    simp
  | cons c t ih =>
    rw [readShort] at h
    split at h
    · cases h
    · next spec hspec =>
      have hmem := List.mem_of_find?_eq_some hspec
      split at h
      · next kind hkind => exact complete_one hmem hkind h
      · next hflag =>
        obtain ⟨⟨rest, used'⟩, hrest, heq⟩ := map_eq_ok_iff.mp h
        obtain ⟨rfl, -⟩ := Prod.mk.inj heq
        exact List.forall_mem_cons.mpr ⟨⟨hmem, by simp [hflag]⟩, ih hrest⟩

theorem complete_readOption (h : readOption specs arg next = .ok (given, used)) :
    ∀ g ∈ given, g.Complete specs := by
  unfold readOption at h
  split at h
  split at h
  · next spec hspec =>
    have hmem := List.mem_of_find?_eq_some hspec
    split at h
    · next kind _ => exact complete_one hmem ‹spec.takes = some _› h
    · cases h
    · next hflag _ =>
      obtain ⟨rfl, -⟩ := Prod.mk.inj (Except.ok.inj h)
      exact List.forall_mem_singleton.mpr ⟨hmem, by simp [hflag]⟩
  · split at h
    · cases h
    · exact complete_readShort h

theorem fault?_positive_eq_none_iff :
    ValueKind.positive.fault? tree t = none ↔ ∃ n, wholeOfText? t = some n ∧ 1 ≤ n := by
  rw [ValueKind.fault?]
  cases wholeOfText? t with
  | none => simp
  | some n => simp

/-- Reading arguments gives options of the list only, each with its value. -/
theorem complete_scan (h : scan specs mixed args = .ok s) : ∀ g ∈ s.options, g.Complete specs := by
  fun_induction scan specs mixed args generalizing s with
  | case1 =>
    obtain rfl := Except.ok.inj h
    simp
  | case2 =>
    obtain rfl := Except.ok.inj h
    simp
  | case3 => cases h
  | case4 arg rest _ _ given used hoption ih =>
    obtain ⟨s', hs', rfl⟩ := map_eq_ok_iff.mp h
    exact List.forall_mem_append.mpr ⟨complete_readOption hoption, ih hs'⟩
  | case5 arg rest _ _ _ ih =>
    obtain ⟨s', hs', rfl⟩ := map_eq_ok_iff.mp h
    exact fun g hg => ih hs' g hg
  | case6 =>
    obtain rfl := Except.ok.inj h
    simp

namespace Scanned

/-- A value is the one of a given option of that name. -/
theorem value?_eq_some (h : s.value? name = some t) :
    ∃ g ∈ s.options, g.spec.name = name ∧ g.value = some t := by
  obtain ⟨g, hg, hvalue⟩ := Option.bind_eq_some_iff.mp h
  exact ⟨g, List.mem_reverse.mp (List.mem_of_find?_eq_some hg), by simpa using List.find?_some hg,
    hvalue⟩

theorem value?_eq_none (h : s.has name = false) : s.value? name = none := by
  rw [value?, Option.bind_eq_none_iff]
  intro g hg
  have hname : g.spec.name = name := by simpa using List.find?_some hg
  have hmem := List.mem_reverse.mp (List.mem_of_find?_eq_some hg)
  simp only [has, List.any_eq_false, decide_eq_true_eq] at h
  exact (h g hmem hname).elim

/-- An option that takes a value has one as soon as it is given. -/
theorem isSome_value? (hs : ∀ g ∈ s.options, g.Complete specs)
    (htakes : ∀ spec ∈ specs, spec.name = name → spec.takes.isSome) :
    (s.value? name).isSome = s.has name := by
  cases hhas : s.has name with
  | false => simp [value?_eq_none hhas]
  | true =>
    obtain ⟨g, hg, hname⟩ := List.any_eq_true.mp hhas
    have hfind : ((s.options.reverse.find? (·.spec.name = name))).isSome := by
      rw [List.find?_isSome]
      exact ⟨g, List.mem_reverse.mpr hg, hname⟩
    obtain ⟨g', hg'⟩ := Option.isSome_iff_exists.mp hfind
    have hname' : g'.spec.name = name := by simpa using List.find?_some hg'
    obtain ⟨hspec, hvalue⟩ := hs g' (List.mem_reverse.mp (List.mem_of_find?_eq_some hg'))
    rw [value?, hg', Option.bind_some, hvalue]
    exact htakes _ hspec hname'

/-- What is checked without a fault has passed the check of its option. -/
theorem passed_of_fault? (h : s.fault? tree = none) (hg : g ∈ s.options)
    (hkind : g.spec.takes = some kind)
    (ht : s.value? g.spec.name = some t) : kind.fault? tree t = none := by
  rw [fault?, List.findSome?_eq_none_iff] at h
  have hspec : g.spec ∈ s.specs := List.mem_eraseDups.mpr (List.mem_map_of_mem hg)
  have hnone := h g.spec hspec
  rw [hkind, ht] at hnone
  cases hfault : kind.fault? tree t with
  | none => rfl
  | some fault => simp [hfault] at hnone

/-- One of the two options was given. -/
theorem isSome_either? (s : Scanned) (on off : OptionName) :
    (s.either? on off).isSome = (s.has on || s.has off) := by
  rw [Bool.eq_iff_iff, either?, Option.isSome_map, List.find?_isSome, Bool.or_eq_true, has, has,
    List.any_eq_true, List.any_eq_true]
  simp only [List.mem_reverse, decide_eq_true_eq, ← exists_or, ← and_or_left]

end Scanned

/-! ## Lines that were read -/

/-- What is to be run, if that was asked for. -/
def ran? {α : Type} : Scan (Asked α) → Option α
  | .ok (.run what) => some what
  | _ => none

theorem eq_run_of_ran? {α : Type} {x : Scan (Asked α)} {what : α} (h : ran? x = some what) :
    x = .ok (.run what) := by
  unfold ran? at h
  split at h
  · rw [Option.some.inj h]
  · cases h

/-- What is read without a page or a fault is complete and checked. -/
theorem complete_of_read (h : Reader.scanner.read tree specs mixed args = .ok (.run s)) :
    (∀ g ∈ s.options, g.Complete specs) ∧ s.fault? tree = none := by
  cases hscan : scan specs mixed args with
  | error fault => simp [Reader.scanner, hscan, bind, Except.bind] at h
  | ok s' =>
    simp only [Reader.scanner, hscan, bind, Except.bind, Scanned.checked] at h
    split at h
    · cases h
    · split at h
      · cases h
      · next hfault =>
        obtain rfl := Asked.run.inj (Except.ok.inj h)
        exact ⟨complete_scan hscan, hfault⟩

namespace Scanned

variable (h : Reader.scanner.Reads specs s) (hspec : spec ∈ specs) (hkind : spec.takes = some kind)
include h hspec hkind

/-- An option that takes a value has one as soon as it is given. -/
theorem isSome_value?_of_reads : (s.value? spec.name).isSome = s.has spec.name := by
  obtain ⟨tree, mixed, args, hread⟩ := h.read
  refine isSome_value? (complete_of_read hread).1 fun spec' hspec' hname => ?_
  rw [List.inj_on_of_nodup_map h.names hspec' hspec hname, hkind, Option.isSome_some]

theorem passed_of_reads (ht : s.value? spec.name = some t) :
    ∃ tree, kind.fault? tree t = none := by
  obtain ⟨tree, mixed, args, hread⟩ := h.read
  obtain ⟨hcomplete, hfault⟩ := complete_of_read hread
  obtain ⟨g, hg, hname, -⟩ := value?_eq_some ht
  have hsame : g.spec = spec := List.inj_on_of_nodup_map h.names (hcomplete g hg).1 hspec hname
  exact ⟨tree, passed_of_fault? hfault hg (hsame ▸ hkind) (hname.symm ▸ ht)⟩

end Scanned

theorem exists_whole? (h : Reader.scanner.Reads specs s) (hspec : spec ∈ specs)
    (hkind : spec.takes = some .positive) (ht : s.value? spec.name = some t) :
    ∃ n, s.whole? spec.name = some n ∧ 1 ≤ n := by
  obtain ⟨tree, hpassed⟩ := Scanned.passed_of_reads h hspec hkind ht
  obtain ⟨n, hn, hle⟩ := fault?_positive_eq_none_iff.mp hpassed
  exact ⟨n, by rw [Scanned.whole?, ht, Option.bind_some, hn], hle⟩

theorem lawful_scanner : Reader.scanner.Lawful where
  flag _ _ _ := rfl
  isSome_whole? {specs line spec} h hspec hkind := by
    have hvalue := Scanned.isSome_value?_of_reads h hspec hkind
    change (Scanned.whole? line spec.name).isSome = Scanned.has line spec.name
    rw [← hvalue]
    cases ht : Scanned.value? line spec.name with
    | none => simp [Scanned.whole?, ht]
    | some t =>
      obtain ⟨n, hn, -⟩ := exists_whole? h hspec hkind ht
      simp [hn]
  positive {specs line spec n} h hspec hkind hn := by
    obtain ⟨t, ht, -⟩ := Option.bind_eq_some_iff.mp hn
    obtain ⟨n', hn', hle⟩ := exists_whole? h hspec hkind ht
    obtain rfl : n' = n := Option.some.inj (hn'.symm.trans hn)
    exact hle
  isSome_choice h hspec hkind := Scanned.isSome_value?_of_reads h hspec hkind
  choice h hspec hkind ht := by
    obtain ⟨tree, hpassed⟩ := Scanned.passed_of_reads h hspec hkind ht
    simpa [ValueKind.fault?] using hpassed
  isSome_either? {_ line _ _} _ _ _ _ _ := Scanned.isSome_either? line _ _

end TagLint.Command
