import Std.Data.TreeMap
import Backchain.Rule

/-! Rulebooks: rules in the order of their declaration, found by their name and by the family that
they conclude. The two indices always agree with the rules.
-/

namespace Backchain

/-- The indices of a rulebook agree with its rules: a name leads to the one rule of that name, and a
family to the positions of its rules in order.
-/
structure Indexed (rules : Array Rule) (byName : Std.TreeMap Symbol Nat)
    (byFamily : Std.TreeMap Family (Array Nat)) : Prop where
  name : ∀ (name : Symbol) (i : Nat),
    byName[name]? = some i ↔ ∃ rule, rules[i]? = some rule ∧ rule.name = name
  position : ∀ (family : Family), ∀ i ∈ byFamily.getD family #[], i < rules.size
  family : ∀ (family : Family),
    (byFamily.getD family #[]).toList.filterMap (fun i => rules[i]?)
      = rules.toList.filter (fun rule => rule.family = family)
  known : ∀ (family : Family), family ∈ byFamily ↔ ∃ rule ∈ rules, rule.family = family

/-- Rules in declaration order with an index by name and one by family. -/
structure Rulebook where
  rules : Array Rule
  byName : Std.TreeMap Symbol Nat
  byFamily : Std.TreeMap Family (Array Nat)
  indexed : Indexed rules byName byFamily

/-- Lookups that agree at every listed position find the same rules, by list induction. -/
theorem lookups_congr {positions : List Nat} {lookup other : Nat → Option Rule}
    (h : ∀ i ∈ positions, lookup i = other i)
    : positions.filterMap lookup = positions.filterMap other := by
  induction positions with
  | nil => rfl
  | cons i rest ih =>
      simp only [List.filterMap_cons, h i List.mem_cons_self,
        ih fun j hm => h j (List.mem_cons_of_mem _ hm)]

/-- The empty indices fit the empty list of rules. -/
theorem Indexed.empty : Indexed #[] ∅ ∅ where
  name name i := by simp
  position family i hm := by simp at hm
  family family := by simp
  known family := by simp

/-- Declaring a rule of a new name keeps the indices in agreement, by comparing each lookup with the
one before.
-/
theorem Indexed.push {rules : Array Rule} {byName : Std.TreeMap Symbol Nat}
    {byFamily : Std.TreeMap Family (Array Nat)} (h : Indexed rules byName byFamily)
    (rule : Rule) (fresh : byName[rule.name]? = none)
    : Indexed (rules.push rule) (byName.insert rule.name rules.size)
        (byFamily.insert rule.family
          ((byFamily.getD rule.family #[]).push rules.size)) where
  name name i := by
    rw [Std.TreeMap.getElem?_insert, Array.getElem?_push]
    simp only [Std.LawfulEqOrd.compare_eq_iff_eq]
    by_cases hn : rule.name = name
    · subst hn
      simp only [if_true, Option.some.injEq]
      constructor
      · intro e
        exact ⟨rule, by simp [e], rfl⟩
      · rintro ⟨found, hf, same⟩
        split at hf
        · rename_i last
          exact last.symm
        · have := (h.name rule.name i).mpr ⟨found, hf, same⟩
          simp [fresh] at this
    · simp only [hn, if_false]
      rw [h.name]
      constructor
      · rintro ⟨found, hf, same⟩
        have bound : i < rules.size := by
          rw [Array.getElem?_eq_some_iff] at hf
          exact hf.1
        exact ⟨found, by simp [Nat.ne_of_lt bound, hf], same⟩
      · rintro ⟨found, hf, same⟩
        split at hf
        · cases hf
          exact absurd same hn
        · exact ⟨found, hf, same⟩
  position family i hm := by
    rw [Std.TreeMap.getD_insert] at hm
    simp only [Array.size_push]
    split at hm
    · rcases Array.mem_push.mp hm with hm | rfl
      · exact Nat.lt_succ_of_lt (h.position rule.family i hm)
      · exact Nat.lt_succ_self _
    · exact Nat.lt_succ_of_lt (h.position family i hm)
  family family := by
    have old : ∀ f : Family,
        (byFamily.getD f #[]).toList.filterMap (fun i => (rules.push rule)[i]?)
          = rules.toList.filter (fun rule => rule.family = f) := by
      intro f
      rw [← h.family f]
      refine lookups_congr fun i hm => ?_
      have bound := h.position f i (Array.mem_toList_iff.mp hm)
      simp [Array.getElem?_push, Nat.ne_of_lt bound]
    rw [Std.TreeMap.getD_insert]
    simp only [Std.LawfulEqOrd.compare_eq_iff_eq]
    by_cases hf : rule.family = family
    · subst hf
      simp only [if_true, Array.toList_push, List.filterMap_append, old]
      simp
    · simp only [hf, if_false, old]
      simp [hf]
  known family := by
    rw [Std.TreeMap.mem_insert]
    simp only [Std.LawfulEqOrd.compare_eq_iff_eq, h.known, Array.mem_push]
    constructor
    · rintro (rfl | ⟨found, hm, same⟩)
      · exact ⟨rule, Or.inr rfl, rfl⟩
      · exact ⟨found, Or.inl hm, same⟩
    · rintro ⟨found, hm | rfl, same⟩
      · exact Or.inr ⟨found, hm, same⟩
      · exact Or.inl same

namespace Rulebook

/-- The rulebook without rules. -/
def empty : Rulebook := ⟨#[], ∅, ∅, Indexed.empty⟩

instance : Inhabited Rulebook := ⟨empty⟩

/-- Declares a rule after all others, unless its name is taken. The rulebook after that is returned
beside the result.
-/
def add (book : Rulebook) (rule : Rule) : Rulebook × Except RuleError Unit :=
  match fresh : book.byName[rule.name]? with
  | some _ => (book, .error (.duplicateRule rule.name))
  | none =>
      ({
        rules := book.rules.push rule,
        byName := book.byName.insert rule.name book.rules.size,
        byFamily := book.byFamily.insert rule.family
          ((book.byFamily.getD rule.family #[]).push book.rules.size),
        indexed := book.indexed.push rule fresh
      }, .ok ())

/-- The rulebook with a rule declared, if it is not refused. -/
def extend (book : Rulebook) (rule : Rule) : Except RuleError Rulebook :=
  match book.add rule with
  | (next, .ok ()) => .ok next
  | (_, .error e) => .error e

/-- Declares the rules of a list in order, none of which may be refused. -/
def addAll (book : Rulebook) (rules : List Rule) : Except RuleError Rulebook :=
  rules.foldlM extend book

/-- The rulebook that declares the rules of a list in order. -/
def ofRules (rules : List Rule) : Except RuleError Rulebook := empty.addAll rules

/-- Builds the rules of drafts, up to the first draft that is malformed. -/
def build (drafts : List RuleDraft) : Except RuleError (List Rule) := drafts.mapM Rule.ofDraft

/-- Builds all drafts and then declares their rules in order. -/
def declare? (book : Rulebook) (drafts : List RuleDraft) : Except RuleError Rulebook :=
  (build drafts).bind book.addAll

/-- Declares drafts that are known to be well-formed and to have new names. -/
def declare (book : Rulebook) (drafts : List RuleDraft)
    (accepted : (book.declare? drafts).toOption.isSome := by decide)
    : Rulebook :=
  (book.declare? drafts).toOption.get accepted

/-- The rule of a name. -/
def get? (book : Rulebook) (name : Symbol) : Option Rule :=
  book.byName[name]?.bind (fun i => book.rules[i]?)

/-- Whether a rule of the name is declared. -/
def contains (book : Rulebook) (name : Symbol) : Bool := book.byName.contains name

/-- The rules that conclude a family, in declaration order. -/
def candidates (book : Rulebook) (family : Family) : List Rule :=
  (book.byFamily.getD family #[]).toList.filterMap (fun i => book.rules[i]?)

/-- The families that some rule concludes, in order. -/
def families (book : Rulebook) : List Family := book.byFamily.keys

/-- The rules in declaration order. -/
def toList (book : Rulebook) : List Rule := book.rules.toList

/-- The number of rules. -/
def size (book : Rulebook) : Nat := book.rules.size

/-- Whether no rule is declared. -/
def isEmpty (book : Rulebook) : Bool := book.rules.isEmpty

-----------------------------------------------------------------------------------------
-- What declarations write to the log
-----------------------------------------------------------------------------------------

/-- What is logged when a rule is declared as the next one of a rulebook. -/
def addRecord (book : Rulebook) (rule : Rule) : Log.Record :=
  ⟨.debug, "Declaring rule `" ++ rule.name ++ "` (#" ++ toString book.size ++ ") for family `"
    ++ rule.family.display ++ "`"⟩

/-- What is logged while rules are declared, up to the first whose name is taken. -/
def addAllRecords (book : Rulebook) : List Rule → List Log.Record
  | [] => []
  | rule :: rest =>
      match book.add rule with
      | (_, .error _) => []
      | (next, .ok ()) => book.addRecord rule :: next.addAllRecords rest

/-- What is logged while drafts are built, up to the first that is malformed. -/
def buildRecords : List RuleDraft → List Log.Record
  | [] => []
  | draft :: rest =>
      match Rule.ofDraft draft with
      | .error _ => []
      | .ok rule => rule.records ++ buildRecords rest

/-- What is logged while drafts are built and then declared. -/
def declareRecords (book : Rulebook) (drafts : List RuleDraft) : List Log.Record :=
  buildRecords drafts
    ++ match build drafts with
      | .error _ => []
      | .ok rules => book.addAllRecords rules

end Rulebook

end Backchain
