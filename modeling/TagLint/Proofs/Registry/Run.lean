import TagLint.Proofs.Registry.RuleTable
import TagLint.Proofs.Registry.Tables

/-! Runs of calls on both registries: what was registered stays until it is dropped. -/
namespace TagLint
open Text

/-- A call on one of the two registries. -/
inductive RegistryCall where
  | key (call : KeyCall)
  | rule (call : RuleCall)

inductive RegistryError where
  | key (e : VocabularyError)
  | rule (e : RuleBookError)
deriving DecidableEq, Repr

namespace RegistryCall

def key? : RegistryCall → Option KeyCall
  | .key call => some call
  | .rule _ => none

def rule? : RegistryCall → Option RuleCall
  | .key _ => none
  | .rule call => some call

theorem mem_filterMap_key? {calls : List RegistryCall} {call : KeyCall} :
    call ∈ calls.filterMap key? ↔ .key call ∈ calls := by
  constructor
  · intro h
    obtain ⟨c, hc, heq⟩ := List.mem_filterMap.mp h
    cases c with
    | key call' => exact Option.some.inj heq ▸ hc
    | rule => cases heq
  · exact fun h => List.mem_filterMap.mpr ⟨_, h, rfl⟩

theorem mem_filterMap_rule? {calls : List RegistryCall} {call : RuleCall} :
    call ∈ calls.filterMap rule? ↔ .rule call ∈ calls := by
  constructor
  · intro h
    obtain ⟨c, hc, heq⟩ := List.mem_filterMap.mp h
    cases c with
    | key => cases heq
    | rule call' => exact Option.some.inj heq ▸ hc
  · exact fun h => List.mem_filterMap.mpr ⟨_, h, rfl⟩

end RegistryCall

namespace Registry

variable {r r' : Registry} {call : RegistryCall} {calls before rest : List RegistryCall}
  {e : RegistryError} {key : Text} {given : ClassGiven} {offered : Option ValueRule}

def apply (r : Registry) : RegistryCall → Except RegistryError Registry
  | .key call =>
    match r.vocabulary.apply call with
    | .ok v => .ok { r with vocabulary := v }
    | .error e => .error (.key e)
  | .rule call =>
    match r.rules.apply call with
    | .ok b => .ok { r with rules := b }
    | .error e => .error (.rule e)

/-- A refused call changes nothing. -/
def step (r : Registry) (call : RegistryCall) : Registry :=
  match r.apply call with
  | .ok r' => r'
  | .error _ => r

def after (r : Registry) (calls : List RegistryCall) : Registry := calls.foldl step r

/-! ## Neither registry sees the calls on the other -/

theorem step_key (r : Registry) (call : KeyCall) :
    r.step (.key call) = { r with vocabulary := r.vocabulary.step call } := by
  rw [step, apply, Vocabulary.step]
  cases r.vocabulary.apply call with
  | ok v => rfl
  | error e => rfl

theorem step_rule (r : Registry) (call : RuleCall) :
    r.step (.rule call) = { r with rules := r.rules.step call } := by
  rw [step, apply, RuleBook.step]
  cases r.rules.apply call with
  | ok b => rfl
  | error e => rfl

theorem vocabulary_after (r : Registry) (calls : List RegistryCall) :
    (r.after calls).vocabulary = r.vocabulary.after (calls.filterMap RegistryCall.key?) := by
  induction calls generalizing r with
  | nil => rfl
  | cons call calls ih =>
    cases call with
    | key call =>
      change (after (r.step (.key call)) calls).vocabulary = _
      rw [ih, step_key]
      rfl
    | rule call =>
      change (after (r.step (.rule call)) calls).vocabulary = _
      rw [ih, step_rule]
      rfl

theorem rules_after (r : Registry) (calls : List RegistryCall) :
    (r.after calls).rules = r.rules.after (calls.filterMap RegistryCall.rule?) := by
  induction calls generalizing r with
  | nil => rfl
  | cons call calls ih =>
    cases call with
    | key call =>
      change (after (r.step (.key call)) calls).rules = _
      rw [ih, step_key]
      rfl
    | rule call =>
      change (after (r.step (.rule call)) calls).rules = _
      rw [ih, step_rule]
      rfl

/-! ## Refused calls -/

theorem after_append (r : Registry) (before rest : List RegistryCall) :
    r.after (before ++ rest) = (r.after before).after rest := List.foldl_append

/-- A refused call might as well not have been made. -/
theorem after_of_refused (h : (r.after before).apply call = .error e) :
    r.after (before ++ call :: rest) = r.after (before ++ rest) := by
  have hstep : (r.after before).step call = r.after before := by rw [step, h]
  rw [after_append, after_append]
  change after ((r.after before).step call) rest = _
  rw [hstep]

/-! ## Until the next drop -/

theorem classify_after (hadd : r.apply (.key (.add key given)) = .ok r')
    (hdrop : ∀ d, .key (.drop d) ∈ calls → foldKey d ≠ foldKey key) :
    ∃ c, given = .known c ∧ ∀ k, foldKey k = foldKey key →
    (r'.after calls).vocabulary.classify k = c := by
  cases hv : r.vocabulary.addKey key given with
  | error e => simp [apply, Vocabulary.apply, hv] at hadd
  | ok v =>
    obtain rfl : { r with vocabulary := v } = r' := by simpa [apply, Vocabulary.apply, hv]
      using hadd
    obtain ⟨-, -, c, rfl, -⟩ := Vocabulary.addKey_eq_ok_iff.mp hv
    refine ⟨c, rfl, fun k hk => ?_⟩
    rw [vocabulary_after]
    refine ((Vocabulary.holds_of_addKey hv).after ?_).classify hk
    exact fun d hd => hdrop d (RegistryCall.mem_filterMap_key?.mp hd)

theorem get?_after (hadd : r.apply (.rule (.add key offered)) = .ok r')
    (hdrop : ∀ d, .rule (.drop d) ∈ calls → foldKey d ≠ foldKey key) :
    ∃ rule kept, offered = some rule ∧ kept.Is rule ∧ (r.rules.Names rule → kept = rule) ∧
      ∀ k, lower k = foldKey key → (r'.after calls).rules.get? k = some kept := by
  cases hb : r.rules.addRule key offered with
  | error e => simp [apply, RuleBook.apply, hb] at hadd
  | ok b =>
    obtain rfl : { r with rules := b } = r' := by simpa [apply, RuleBook.apply, hb] using hadd
    obtain ⟨-, -, rule, rfl, -⟩ := RuleBook.addRule_eq_ok_iff.mp hb
    obtain ⟨kept, hkept, his, hnames⟩ := RuleBook.exists_holds_of_addRule hb
    refine ⟨rule, kept, rfl, his, hnames, fun k hk => ?_⟩
    rw [rules_after]
    refine (hkept.after ?_).get? hk
    exact fun d hd => hdrop d (RegistryCall.mem_filterMap_rule?.mp hd)

/-- Over any run, a key keeps the class it was added with, in every casing, and the rule that was
added for it, until the key is dropped from that registry; what is built in stays for good; the
calls on one registry do not touch the other. A refused call might as well not have been made: it
has written to no dictionary. The dictionary of rules that is written in place has the rules of the
book after every run. -/
theorem registrations_last (r : Registry) (calls : List RegistryCall) :
    (∀ key given r', r.apply (.key (.add key given)) = .ok r' →
      (∀ d, .key (.drop d) ∈ calls → foldKey d ≠ foldKey key) →
      ∃ c, given = .known c ∧ ∀ k, foldKey k = foldKey key →
      (r'.after calls).vocabulary.classify k = c) ∧
    (∀ key offered r', r.apply (.rule (.add key offered)) = .ok r' →
      (∀ d, .rule (.drop d) ∈ calls → foldKey d ≠ foldKey key) →
      ∃ rule kept, offered = some rule ∧ kept.Is rule ∧ (r.rules.Names rule → kept = rule) ∧
        ∀ k, lower k = foldKey key → (r'.after calls).rules.get? k = some kept) ∧
    (∀ row ∈ Vocabulary.builtin, ∀ k, foldKey k = row.folded →
      (r.after calls).vocabulary.classify k = row.keyClass ∧
      (r.after calls).vocabulary.canonicalName k = row.name) ∧
    (∀ p ∈ ValueRule.builtin, ∀ k, lower k = p.1 → (r.after calls).rules.get? k = some p.2) ∧
    (r.after calls).vocabulary = r.vocabulary.after (calls.filterMap RegistryCall.key?) ∧
    (r.after calls).rules = r.rules.after (calls.filterMap RegistryCall.rule?) ∧
    (∀ before call rest e, calls = before ++ call :: rest → (r.after before).apply call = .error e →
      r.after calls = r.after (before ++ rest)) ∧
    (∀ call e t, (r.after calls).vocabulary.tables.answer call = (.error e, t) →
      t = (r.after calls).vocabulary.tables) ∧
    (∀ call e d, RuleTable.answer (r.after calls).rules.rules call = (.error e, d) →
      d = (r.after calls).rules.rules) ∧
    RuleTable.Agrees (RuleTable.after r.rules.rules (calls.filterMap RegistryCall.rule?))
      (r.after calls).rules := by
  refine ⟨fun key given r' => classify_after, fun key offered r' => get?_after, ?_, ?_,
    vocabulary_after r calls, rules_after r calls, ?_, ?_, ?_, ?_⟩
  · intro row hrow k hk
    have hfound := Vocabulary.row?_builtin (v := (r.after calls).vocabulary) hrow hk
    constructor
    · rw [Vocabulary.classify, hfound]
      rfl
    · rw [Vocabulary.canonicalName, hfound]
      rfl
  · exact fun p hp k hk => RuleBook.get?_builtin hp hk
  · rintro before call rest e rfl h
    exact after_of_refused h
  · exact fun call e t hcall => Tables.eq_of_answer_error hcall
  · exact fun call e d hcall => RuleTable.eq_of_answer_error (RuleTable.agrees_rules _) hcall
  · rw [rules_after]
    exact (RuleTable.agrees_rules r.rules).after _

/-- A rule that says nothing. -/
def silent (name : Text) : ValueRule := ⟨.shared name, fun _ => .ok []⟩

def owned : Registry := ⟨⟨[⟨"owner", "Owner", .caution⟩]⟩, ⟨[("owner", silent "first")]⟩⟩

/-- Other casings, another class, another rule, no rule at all, built-in names, other keys
dropped. -/
def rivalCalls : List RegistryCall := [
  .key (.add " OWNER" (.known .recommended)), .key (.add "owner" (.known .caution)),
    .key (.drop "tenant"),
  .rule (.add "OWNER " (some (silent "second"))), .rule (.add "owner" (some (silent "first"))),
  .rule (.add "owner" none), .rule (.drop "size"), .key (.add "Size" (.known .caution))]

theorem registrations_last_owned :
    (owned.after rivalCalls).vocabulary.classify " oWNER" = .caution ∧
    (owned.after rivalCalls).rules.get? "OWNER" = some (silent "first") ∧
    (owned.after rivalCalls).vocabulary.canonicalName " PRIMARYKEY" = "primaryKey".toList ∧
    owned.after rivalCalls = owned.after rivalCalls.tail ∧
    ((owned.after rivalCalls).vocabulary.tables.answer (.add " " (.known .caution))).2
      = (owned.after rivalCalls).vocabulary.tables ∧
    (RuleTable.answer (owned.after rivalCalls).rules.rules (.add "owner" none)).2
      = (owned.after rivalCalls).rules.rules := by
  have hfold : foldKey "Owner" = "owner".toList := by decide +kernel
  have hkey : ({} : Vocabulary).addKey "Owner" (.known .caution)
      = .ok owned.vocabulary := by decide +kernel
  have hrule : ({} : RuleBook).addRule "Owner" (some (silent "first")) = .ok owned.rules := by
    refine RuleBook.addRule_eq_ok_iff.mpr ⟨by decide +kernel, by decide +kernel, _, rfl,
      Or.inl ⟨rfl, ?_⟩⟩
    rw [hfold]
    rfl
  have hrefused : owned.vocabulary.addKey " OWNER" (.known .recommended)
      = .error (.taken "OWNER" .caution) := by
    decide +kernel
  refine ⟨?_, ?_, ?_, ?_, ?_, ?_⟩
  · obtain ⟨hkeeps, -⟩ := registrations_last ⟨{}, owned.rules⟩ rivalCalls
    have hdrop : ∀ d, .key (.drop d) ∈ rivalCalls → foldKey d ≠ foldKey "Owner" := by
      intro d hd
      obtain rfl : d = "tenant".toList := by simpa [rivalCalls] using hd
      decide +kernel
    obtain ⟨c, hc, hclass⟩ := hkeeps "Owner" (.known .caution) owned
      (by simp only [apply, Vocabulary.apply, hkey]) hdrop
    obtain rfl := ClassGiven.known.inj hc
    exact hclass " oWNER" (by decide +kernel)
  · obtain ⟨-, hkeeps, -⟩ := registrations_last ⟨owned.vocabulary, {}⟩ rivalCalls
    have hdrop : ∀ d, .rule (.drop d) ∈ rivalCalls → foldKey d ≠ foldKey "Owner" := by
      intro d hd
      obtain rfl : d = "size".toList := by simpa [rivalCalls] using hd
      decide +kernel
    obtain ⟨rule, kept, hgiven, -, hsame, hget⟩ := hkeeps "Owner" (some (silent "first")) owned
      (by simp only [apply, RuleBook.apply, hrule]) hdrop
    obtain rfl := Option.some.inj hgiven
    obtain rfl := hsame (by simp [RuleBook.Names])
    exact hget "OWNER" (by decide +kernel)
  · obtain ⟨-, -, hbuiltin, -⟩ := registrations_last owned rivalCalls
    exact (hbuiltin ⟨"primarykey", "primaryKey", .recommended⟩ (by decide +kernel) " PRIMARYKEY"
      (by decide +kernel)).2
  · obtain ⟨-, -, -, -, -, -, hskip, -⟩ := registrations_last owned rivalCalls
    refine hskip [] _ _ (.key (.taken "OWNER" .caution)) rfl ?_
    simp only [after, List.foldl_nil, apply, Vocabulary.apply, hrefused]
  · obtain ⟨-, -, -, -, -, -, -, hkeys, -⟩ := registrations_last owned rivalCalls
    have hblank : (owned.after rivalCalls).vocabulary.apply (.add " " (.known .caution))
        = .error .blankKey := by
      rw [Vocabulary.apply, Vocabulary.addKey_blank (by decide +kernel)]
    exact hkeys _ .blankKey _ (by rw [Tables.answer_of_error hblank])
  · obtain ⟨-, -, -, -, -, -, -, -, hrules, -⟩ := registrations_last owned rivalCalls
    have hnone : (owned.after rivalCalls).rules.apply (.add "owner" none)
        = .error (.notARule "owner") := by
      rw [RuleBook.apply, RuleBook.addRule_none (by decide +kernel)]
    exact hrules _ (.notARule "owner") _
      (by rw [RuleTable.answer_of_error (RuleTable.agrees_rules _) hnone])

end Registry
end TagLint
