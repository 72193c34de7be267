import TagLint.Proofs.Text.Pieces
import TagLint.Struct.Body

/-! The names and tags of fields are made of the characters of the body. -/
namespace TagLint
open Text

variable {cs rest t line tag name declared : Text} {words : List Text} {f : FieldDecl}
  {fs : List FieldDecl}

/-- The name and the tag of the field use no other characters than the text. -/
structure FieldDecl.Within (f : FieldDecl) (t : Text) : Prop where
  name : f.name ⊆ t
  rawTag : f.rawTag ⊆ t

theorem FieldDecl.Within.trans {s : Text} (h : f.Within s) (hs : s ⊆ t) : f.Within t :=
  ⟨List.Subset.trans h.name hs, List.Subset.trans h.rawTag hs⟩

namespace Text

theorem trimLeft_subset (t : Text) : trimLeft t ⊆ t := (List.dropWhile_sublist isBlank).subset

theorem before_subset (needle t : Text) : before needle t ⊆ t := by
  rw [before]
  split
  · exact List.take_subset _ t
  · exact List.Subset.refl t

theorem afterBlanks?_subset (h : afterBlanks? t = some rest) : rest ⊆ t := by
  obtain ⟨-, rfl⟩ : _ ∧ trimLeft t = rest := by simpa [afterBlanks?] using h
  exact trimLeft_subset t

end Text

namespace FieldLine

theorem names?_subset (h : names? cs = some (words, rest)) : (∀ w ∈ words, w ⊆ cs) ∧ rest ⊆ cs := by
  have hword : ∀ t : Text, t.takeWhile isWord ⊆ t := fun t => (List.takeWhile_sublist isWord).subset
  have hrest : ∀ t : Text, t.dropWhile isWord ⊆ t := fun t => (List.dropWhile_sublist isWord).subset
  fun_induction names? cs generalizing words rest with
  | case1 => simp at h
  | case2 cs word after hne more hmore ws r =>
    rename_i hws ih
    obtain ⟨rfl, rfl⟩ := Prod.mk.inj (Option.some.inj h)
    obtain ⟨hwords, hr⟩ := ih hws
    have hafter : ',' :: more ⊆ cs := hmore ▸ List.Subset.trans (trimLeft_subset _) (hrest cs)
    have hmore : trimLeft more ⊆ cs :=
      List.Subset.trans (trimLeft_subset more)
        (List.Subset.trans (List.subset_cons_self ',' more) hafter)
    exact ⟨List.forall_mem_cons.mpr ⟨hword cs, fun w hw => List.Subset.trans (hwords w hw) hmore⟩,
      List.Subset.trans hr hmore⟩
  | case3 cs | case4 cs =>
    obtain ⟨rfl, rfl⟩ := Prod.mk.inj (Option.some.inj h)
    exact ⟨by simpa using hword cs, hrest cs⟩

theorem tag?_subset (h : tag? rest = some tag) : tag ⊆ rest := by
  rw [tag?] at h
  split at h
  · rename_i c cs hcs
    obtain ⟨-, n, -, rfl⟩ : c = backtick ∧ ∃ n, cs.findIdx? (· == backtick) = some n ∧
        cs.take n = tag := by
      simpa using h
    have hsubset := trimLeft_subset rest
    rw [hcs] at hsubset
    exact List.Subset.trans (List.take_subset n cs)
      (List.Subset.trans (List.subset_cons_self c cs) hsubset)
  · simp at h

theorem ending?_subset (h : ending? rest = some tag) : tag ⊆ rest := by
  rw [ending?] at h
  cases htag : tag? rest with
  | none =>
    obtain ⟨-, rfl⟩ : allBlank rest ∧ [] = tag := by simpa [htag] using h
    exact List.nil_subset rest
  | some t =>
    obtain rfl : t = tag := by simpa [htag] using h
    exact tag?_subset htag

theorem declaration?_subset (h : declaration? cs = some (words, declared, rest)) :
    (∀ w ∈ words, w ⊆ cs) ∧ rest ⊆ cs := by
  simp only [declaration?, Option.bind_eq_bind, Option.bind_eq_some_iff] at h
  obtain ⟨⟨ws, tail⟩, hnames, t, ht, h⟩ := h
  obtain ⟨hwords, htail⟩ := names?_subset hnames
  split at h
  · simp at h
  · obtain ⟨rfl, -, rfl⟩ : ws = words ∧ _ ∧ t.dropWhile isTypeChar = rest := by simpa using h
    have hdrop : t.dropWhile isTypeChar ⊆ t := (List.dropWhile_sublist isTypeChar).subset
    exact ⟨hwords, List.Subset.trans hdrop (List.Subset.trans (afterBlanks?_subset ht) htail)⟩

theorem embedded?_subset (h : embedded? cs = some (name, rest)) : name ⊆ cs ∧ rest ⊆ cs := by
  have hname : ∀ t : Text, t.takeWhile isPathChar ⊆ t := fun t => (List.takeWhile_sublist _).subset
  have hrest : ∀ t : Text, t.dropWhile isPathChar ⊆ t := fun t => (List.dropWhile_sublist _).subset
  have hread : ∀ (star t : Text), star ++ t ⊆ cs →
      (if t.takeWhile isPathChar = [] then none
        else some (star ++ t.takeWhile isPathChar, t.dropWhile isPathChar)) = some (name, rest) →
      name ⊆ cs ∧ rest ⊆ cs := by
    intro star t hsub h
    obtain ⟨hstar, ht⟩ := List.append_subset.mp hsub
    split at h
    · simp at h
    · obtain ⟨rfl, rfl⟩ := Prod.mk.inj (Option.some.inj h)
      exact ⟨List.append_subset.mpr ⟨hstar, List.Subset.trans (hname t) ht⟩,
        List.Subset.trans (hrest t) ht⟩
  rw [embedded?.eq_def] at h
  split at h
  rename_i star path hpath
  refine hread star path ?_ h
  split at hpath
  · obtain ⟨rfl, rfl⟩ := Prod.mk.inj hpath
    exact List.Subset.refl _
  · obtain ⟨rfl, rfl⟩ := Prod.mk.inj hpath
    exact List.Subset.refl _

theorem within_of_named? (h : named? line = some fs) : ∀ f ∈ fs, f.Within line := by
  simp only [named?, Option.bind_eq_bind, Option.bind_eq_some_iff] at h
  obtain ⟨⟨words, declared, rest⟩, hdeclaration, tag, htag, hfs⟩ := h
  obtain ⟨hwords, hrest⟩ := declaration?_subset hdeclaration
  obtain rfl := Option.some.inj hfs
  intro f hf
  obtain ⟨w, hw, rfl⟩ := List.mem_map.mp hf
  exact ⟨hwords w hw, List.Subset.trans (ending?_subset htag) hrest⟩

theorem within_of_unnamed? (h : unnamed? line = some fs) : ∀ f ∈ fs, f.Within line := by
  simp only [unnamed?, Option.bind_eq_bind, Option.bind_eq_some_iff] at h
  obtain ⟨⟨name, rest⟩, hembedded, tag, htag, hfs⟩ := h
  obtain ⟨hname, hrest⟩ := embedded?_subset hembedded
  obtain rfl := Option.some.inj hfs
  intro f hf
  obtain rfl := List.mem_singleton.mp hf
  exact ⟨hname, List.Subset.trans (ending?_subset htag) hrest⟩

theorem declarationPart_subset (line : Text) : declarationPart line ⊆ line := by
  rw [declarationPart]
  split
  · exact List.Subset.refl line
  · exact fun c hc => before_subset _ _ (mem_of_mem_trimRight hc)

theorem within_of_mem_fields (h : f ∈ fields line) : f.Within line := by
  refine FieldDecl.Within.trans ?_ (declarationPart_subset line)
  rw [fields] at h
  cases hnamed : named? (declarationPart line) with
  | some fs =>
    simp only [hnamed] at h
    exact within_of_named? hnamed f h
  | none =>
    cases hunnamed : unnamed? (declarationPart line) with
    | some fs =>
      simp only [hnamed, hunnamed] at h
      exact within_of_unnamed? hunnamed f h
    | none =>
      simp only [hnamed, hunnamed] at h
      exact absurd h (by simp)

end FieldLine

namespace Body

variable {lines after : List Text} {closing : Text} {d : Int}

theorem group_fst_subset (d : Int) (lines : List Text) : (group d lines).1 ⊆ lines := by
  induction lines generalizing d with
  | nil => simp [group]
  | cons line lines ih =>
    rw [group]
    simp only
    split
    · exact List.cons_subset_cons line (ih _)
    · simp

theorem group_snd_subset (h : (group d lines).2 = some (closing, after)) :
    closing ∈ lines ∧ after ⊆ lines := by
  induction lines generalizing d with
  | nil => simp [group] at h
  | cons line lines ih =>
    rw [group] at h
    simp only at h
    split at h
    · obtain ⟨hclosing, hafter⟩ := ih h
      exact ⟨List.mem_cons_of_mem _ hclosing, List.Subset.trans hafter (List.subset_cons_self _ _)⟩
    · obtain ⟨rfl, rfl⟩ := Prod.mk.inj (Option.some.inj h)
      exact ⟨List.mem_cons_self, List.subset_cons_self _ _⟩

theorem opener?_subset (h : opener? line = some name) : name ⊆ line := by
  simp only [opener?, Option.bind_eq_bind, Option.bind_eq_some_iff] at h
  obtain ⟨kind, -, rest, -, h⟩ := h
  split at h
  · obtain ⟨-, heq⟩ := Option.ite_none_right_eq_some.mp h
    obtain rfl := Option.some.inj heq
    exact (List.takeWhile_sublist isWord).subset
  · simp at h

theorem closer?_subset (h : closer? line = some tag) : tag ⊆ line := by
  rw [closer?.eq_def] at h
  split at h
  · rename_i rest
    obtain rfl := Option.some.inj h
    cases htag : FieldLine.tag? rest with
    | none => simp
    | some tag => exact List.Subset.trans (FieldLine.tag?_subset htag) (List.subset_cons_self _ _)
  · simp at h

theorem within_of_mem_fieldsOfLines (hlines : ∀ l ∈ lines, l ⊆ t) (h : f ∈ fieldsOfLines lines) :
    f.Within t := by
  fun_induction fieldsOfLines lines with
  | case1 => simp at h
  | case2 line lines hnone ih =>
    obtain ⟨hline, hlines⟩ := List.forall_mem_cons.mp hlines
    rcases List.mem_append.mp h with h | h
    · exact (FieldLine.within_of_mem_fields h).trans hline
    · exact ih hlines h
  | case3 line lines name hname inner hgroup ih =>
    obtain ⟨-, hlines⟩ := List.forall_mem_cons.mp hlines
    exact ih (fun l hl => hlines l (group_fst_subset 1 lines hl)) h
  | case4 line lines name hname inner closing after hgroup holder ihInner ihAfter =>
    obtain ⟨hline, hlines⟩ := List.forall_mem_cons.mp hlines
    obtain ⟨hclosing, hafter⟩ := group_snd_subset hgroup
    rcases List.mem_append.mp h with h | h
    · rcases List.mem_append.mp h with h | h
      · exact ihInner (fun l hl => hlines l (group_fst_subset 1 lines hl)) h
      · obtain ⟨tag, htag, rfl⟩ := List.mem_map.mp h
        exact ⟨List.Subset.trans (opener?_subset hname) hline,
          List.Subset.trans (closer?_subset (Option.mem_toList.mp htag)) (hlines closing hclosing)⟩
    · exact ihAfter (fun l hl => hlines l (hafter hl)) h

theorem within_of_mem_fields {body : Text} (h : f ∈ fields body) : f.Within body := by
  refine within_of_mem_fieldsOfLines ?_ h
  intro l hl
  obtain ⟨line, hline, rfl⟩ := List.mem_map.mp (List.mem_filter.mp hl).1
  exact ((trim_isInfix line).trans (infix_of_mem_split hline)).subset

end Body
end TagLint
