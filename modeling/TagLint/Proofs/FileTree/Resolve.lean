import TagLint.FileTree.Basic

/-! Where a path leads. What is found behind it, and what it resolves to, is one place. -/
namespace TagLint.FileTree
open Text

variable {t : FileTree} {links i j m n : Nat} {here rest names place place' real : List Text}
  {node : Node} {opened : List (List Text)} {p : Path}

/-- The components lead from one place to another, over this many links. -/
inductive Leads (t : FileTree) : Nat → List Text → List Text → List Text → Prop
  | stay (here : List Text) : Leads t 0 here [] here
  | up {n : Nat} {here rest place : List Text} (hrest : Leads t n here.dropLast rest place) :
    Leads t n here ("..".toList :: rest) place
  | into {n : Nat} {here rest place : List Text} {name : Text} (hname : name ≠ "..".toList)
    (hnode : ∀ target, t.lookup? (here ++ [name]) ≠ some (.link target))
    (hrest : Leads t n (here ++ [name]) rest place) : Leads t n here (name :: rest) place
  | link {m n : Nat} {here rest real place : List Text} {name target : Text}
    (hname : name ≠ "..".toList) (hnode : t.lookup? (here ++ [name]) = some (.link target))
    (htarget : Leads t m (linkBase here target) (Path.components target) real)
    (hrest : Leads t n real rest place) :
    Leads t (m + n + 1) here (name :: rest) place

theorem Leads.deterministic (h : t.Leads m here rest place) (h' : t.Leads n here rest place') :
    m = n ∧ place = place' := by
  induction h generalizing n place' with
  | stay here =>
    cases h'
    exact ⟨rfl, rfl⟩
  | up hrest ih =>
    cases h' with
    | up hrest' => exact ih hrest'
    | into hname _ _ => exact absurd rfl hname
    | link hname _ _ _ => exact absurd rfl hname
  | into hname hnode hrest ih =>
    cases h' with
    | up hrest' => exact absurd rfl hname
    | into _ _ hrest' => exact ih hrest'
    | link _ hnode' _ _ => exact absurd hnode' (hnode _)
  | link hname hnode htarget hrest ihTarget ihRest =>
    cases h' with
    | up hrest' => exact absurd rfl hname
    | into _ hnode' _ => exact absurd hnode (hnode' _)
    | link _ hnode' htarget' hrest' =>
      obtain rfl : _ = _ := Node.link.inj (Option.some.inj (hnode.symm.trans hnode'))
      obtain ⟨rfl, rfl⟩ := ihTarget htarget'
      obtain ⟨rfl, rfl⟩ := ihRest hrest'
      exact ⟨rfl, rfl⟩

/-- What leads somewhere leads over each place on the way. -/
theorem Leads.split (h : t.Leads n here (names ++ rest) place) :
    ∃ i j middle, t.Leads i here names middle ∧ t.Leads j middle rest place ∧ i + j = n := by
  induction names generalizing n here with
  | nil => exact ⟨0, n, here, .stay here, h, Nat.zero_add n⟩
  | cons name names ih =>
    cases h with
    | up hrest =>
      obtain ⟨i, j, middle, hi, hj, rfl⟩ := ih hrest
      exact ⟨i, j, middle, .up hi, hj, rfl⟩
    | into hname hnode hrest =>
      obtain ⟨i, j, middle, hi, hj, rfl⟩ := ih hrest
      exact ⟨i, j, middle, .into hname hnode hi, hj, rfl⟩
    | link hname hnode htarget hrest =>
      obtain ⟨i, j, middle, hi, hj, rfl⟩ := ih hrest
      exact ⟨_, j, middle, .link hname hnode htarget hi, hj, by omega⟩

/-- What is found behind components is where they lead. -/
theorem exists_leads_of_follow (h : t.follow links here rest = .ok (place, node)) :
    ∃ n ≤ links, t.Leads n here rest place := by
  induction links, here, rest using follow.induct t with
  | case1 links here node' hnode =>
    rw [follow, hnode] at h
    obtain ⟨rfl, -⟩ := Prod.mk.inj (Except.ok.inj h)
    exact ⟨0, Nat.zero_le links, .stay here⟩
  | case2 links here hnode =>
    rw [follow, hnode] at h
    cases h
  | case3 links here rest ih =>
    rw [follow, if_pos rfl] at h
    obtain ⟨n, hn, hrest⟩ := ih h
    exact ⟨n, hn, .up hrest⟩
  | case4 links here name rest hname hnode =>
    rw [follow, if_neg hname, hnode] at h
    cases h
  | case5 links here name rest hname hnode ih =>
    rw [follow, if_neg hname, hnode] at h
    obtain ⟨n, hn, hrest⟩ := ih h
    exact ⟨n, hn, .into hname (by simp [hnode]) hrest⟩
  | case6 links here name hname bytes hnode =>
    simp only [follow, if_neg hname, hnode] at h
    obtain ⟨rfl, -⟩ := Prod.mk.inj (Except.ok.inj h)
    exact ⟨0, Nat.zero_le links, .into hname (by simp [hnode]) (.stay _)⟩
  | case7 links here name rest hname bytes hnode hrest =>
    simp only [follow, if_neg hname, hnode, if_neg hrest] at h
    cases h
  | case8 here name rest hname target hnode =>
    rw [follow, if_neg hname, hnode] at h
    cases h
  | case9 here name rest hname target hnode links ih =>
    rw [follow, if_neg hname, hnode] at h
    obtain ⟨n, hn, hboth⟩ := ih h
    obtain ⟨i, j, real, htarget, hrest, hsum⟩ := hboth.split
    exact ⟨i + j + 1, by omega, .link hname hnode htarget hrest⟩

/-! ## Resolving -/

theorem realFrom_into {name : Text} (hname : name ≠ "..".toList)
    (hnode : ∀ target, t.lookup? (here ++ [name]) ≠ some (.link target)) (opened : List (List Text))
    (rest : List Text) :
    t.realFrom opened here (name :: rest) = t.realFrom opened (here ++ [name]) rest := by
  rw [realFrom, if_neg hname]
  split
  · rename_i target hlink
    exact absurd hlink (hnode target)
  · rfl

theorem realFrom_link {name target : Text} (hname : name ≠ "..".toList)
    (hnode : t.lookup? (here ++ [name]) = some (.link target)) (hopened : here ++ [name] ∉ opened)
    (rest : List Text) :
    t.realFrom opened here (name :: rest) = t.realFrom opened
      (t.realFrom ((here ++ [name]) :: opened) (linkBase here target) (Path.components target))
        rest := by
  rw [realFrom, if_neg hname]
  split
  · rename_i target' hlink
    obtain rfl := Node.link.inj (Option.some.inj (hlink.symm.trans hnode))
    rw [dif_neg (by simpa using hopened)]
  · rename_i hnone
    exact absurd hnode (hnone target)

/-- The target of the link leads somewhere over no fewer links than these. -/
def Outlasts (t : FileTree) (n : Nat) (parts : List Text) : Prop :=
  ∀ target m place, t.lookup? parts = some (.link target) →
    t.Leads m (linkBase parts.dropLast target) (Path.components target) place → n ≤ m

/-- Where components lead, there they resolve to, as long as all open links have as many links to
come as these: then none of them is met again. -/
theorem realFrom_of_leads (h : t.Leads n here rest place)
    (hopened : ∀ parts ∈ opened, t.Outlasts n parts) :
    t.realFrom opened here rest = place := by
  induction h generalizing opened with
  | stay here => rw [realFrom]
  | up hrest ih =>
    rw [realFrom, if_pos rfl]
    exact ih hopened
  | into hname hnode hrest ih =>
    rw [realFrom_into hname hnode]
    exact ih hopened
  | @link m n here rest real place name target hname hnode htarget hrest ihTarget ihRest =>
    have hbase : (here ++ [name]).dropLast = here := List.dropLast_concat
    have hself {k : Nat} (hle : t.Outlasts k (here ++ [name])) : k ≤ m :=
      hle target m real hnode (hbase.symm ▸ htarget)
    have hnew : here ++ [name] ∉ opened := fun hmem => by
      have := hself (hopened _ hmem)
      omega
    have hweaker {k : Nat} (hk : k ≤ m + n + 1) : ∀ parts ∈ opened, t.Outlasts k parts :=
      fun parts hparts target' m' place' hlink hleads =>
        Nat.le_trans hk (hopened parts hparts target' m' place' hlink hleads)
    rw [realFrom_link hname hnode hnew, ihTarget, ihRest (hweaker (by omega))]
    refine List.forall_mem_cons.mpr ⟨?_, hweaker (by omega)⟩
    intro target' m' place' hlink hleads
    obtain rfl := Node.link.inj (Option.some.inj (hlink.symm.trans hnode))
    rw [hbase] at hleads
    exact Nat.le_of_eq (htarget.deterministic hleads).1

/-- A path resolves to the place where something is found behind it. -/
theorem resolve_of_stat (h : t.stat p = .ok (place, node)) : t.resolve p = place := by
  obtain ⟨n, -, hleads⟩ := exists_leads_of_follow h
  exact realFrom_of_leads hleads (by simp)

end TagLint.FileTree
