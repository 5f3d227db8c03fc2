import Mathlib.Data.List.Nodup
import Backchain.Proofs.Derivations

/-! Rulebooks as they come about: rules are declared one after the other, and a rule whose name is
taken is refused. The list of rules, the index by name and the index by family are updated apart
from each other, and yet all of them tell of the first rule of each name and of no other.
-/

namespace Backchain

/-- The rules of a list that are the first of their name, in order. -/
def Rule.firstOfName : List Rule → List Rule
  | [] => []
  | rule :: rest => rule :: (firstOfName rest).filter (fun other => other.name ≠ rule.name)

/-- A draft whose judgments all have the shape of their families. -/
structure RuleDraft.Valid (draft : RuleDraft) : Prop where
  conclusion : draft.conclusion.Valid
  premises : ∀ premise ∈ draft.premises, premise.Valid

theorem Rule.firstMalformed?_of_valid {premises : List Judgment} (index : Nat)
    (valid : ∀ premise ∈ premises, premise.Valid)
    : firstMalformed? premises index = none := by
  induction premises generalizing index with
  | nil => rfl
  | cons premise rest ih =>
      have first : premise.validate = .ok () := valid premise List.mem_cons_self
      rw [firstMalformed?, first]
      exact ih (index + 1) fun other member => valid other (List.mem_cons_of_mem _ member)

theorem RuleDraft.Valid.exists_ofDraft {draft : RuleDraft} (valid : draft.Valid)
    : ∃ rule, Rule.ofDraft draft = .ok rule ∧ rule.toRuleDraft = draft := by
  have conclusion : draft.conclusion.validate = .ok () := valid.conclusion
  have premises := Rule.firstMalformed?_of_valid 0 valid.premises
  unfold Rule.ofDraft
  split
  · rename_i malformed
    rw [conclusion] at malformed
    cases malformed
  · split
    · rename_i malformed
      rw [premises] at malformed
      cases malformed
    · exact ⟨_, rfl, rfl⟩

namespace Rulebook

-----------------------------------------------------------------------------------------
-- One declaration
-----------------------------------------------------------------------------------------

theorem contains_iff {book : Rulebook} {name : Symbol}
    : book.contains name = true ↔ ∃ rule ∈ book.toList, rule.name = name := by
  rw [contains, Std.TreeMap.contains_eq_isSome_getElem?, Option.isSome_iff_exists]
  constructor
  · intro known
    obtain ⟨i, position⟩ := known
    obtain ⟨rule, found, named⟩ := (book.indexed.name name i).mp position
    exact ⟨rule, Array.mem_toList_iff.mpr (Array.mem_of_getElem? found), named⟩
  · intro declared
    obtain ⟨rule, member, named⟩ := declared
    obtain ⟨i, found⟩ := Array.mem_iff_getElem?.mp (Array.mem_toList_iff.mp member)
    exact ⟨i, (book.indexed.name name i).mpr ⟨rule, found, named⟩⟩

/-- No two rules of a rulebook have one name, since the name leads to one position. -/
theorem names_nodup (book : Rulebook) : (book.toList.map (fun rule => rule.name)).Nodup := by
  rw [List.nodup_iff_getElem?_ne_getElem?]
  intro i j before bound same
  rw [List.length_map, toList, Array.length_toList] at bound
  have first : book.rules[i]? = some book.rules[i] := Array.getElem?_eq_getElem (by omega)
  have second : book.rules[j]? = some book.rules[j] := Array.getElem?_eq_getElem bound
  simp only [toList, List.getElem?_map, Array.getElem?_toList, first, second, Option.map_some,
    Option.some.injEq] at same
  have left := (book.indexed.name _ i).mpr ⟨_, first, rfl⟩
  have right := (book.indexed.name _ j).mpr ⟨_, second, rfl⟩
  rw [same, right, Option.some.injEq] at left
  omega

/-- A rule is refused if its name is taken, which changes nothing, and becomes the last one
otherwise.
-/
theorem add_cases (book : Rulebook) (rule : Rule)
    : (book.contains rule.name = true ∧ book.add rule = (book, .error (.duplicateRule rule.name)))
      ∨ (book.contains rule.name = false
        ∧ ∃ next, book.add rule = (next, .ok ()) ∧ next.toList = book.toList ++ [rule]) := by
  have known : book.contains rule.name = book.byName[rule.name]?.isSome :=
    Std.TreeMap.contains_eq_isSome_getElem?
  unfold add
  split
  · rename_i i taken
    rw [taken] at known
    exact Or.inl ⟨known, rfl⟩
  · rename_i free
    rw [free] at known
    exact Or.inr ⟨known, _, rfl, by simp [toList]⟩

/-- Rules of different names that a rulebook does not know yet are all declared, by induction on the
rules.
-/
theorem exists_addAll {book : Rulebook} {rules : List Rule}
    (distinct : ((book.toList ++ rules).map (fun rule => rule.name)).Nodup)
    : ∃ next, book.addAll rules = .ok next ∧ next.toList = book.toList ++ rules := by
  induction rules generalizing book with
  | nil => exact ⟨book, rfl, (List.append_nil _).symm⟩
  | cons rule rest ih =>
      rcases book.add_cases rule with ⟨known, _⟩ | ⟨_, next, added, listed⟩
      · obtain ⟨declared, member, named⟩ := contains_iff.mp known
        rw [List.map_append, List.nodup_append] at distinct
        have apart := distinct.2.2 declared.name (List.mem_map.mpr ⟨declared, member, rfl⟩)
          rule.name (List.mem_map.mpr ⟨rule, List.mem_cons_self, rfl⟩)
        exact absurd named apart
      · have moved : book.toList ++ rule :: rest = next.toList ++ rest := by simp [listed]
        rw [moved] at distinct ⊢
        obtain ⟨last, declared, all⟩ := ih distinct
        refine ⟨last, ?_, all⟩
        rw [addAll, List.foldlM_cons, extend, added]
        exact declared

theorem exists_ofRules {rules : List Rule}
    (distinct : (rules.map (fun rule => rule.name)).Nodup)
    : ∃ book, ofRules rules = .ok book ∧ book.toList = rules := by
  have all : ((empty.toList ++ rules).map (fun rule => rule.name)).Nodup := distinct
  exact exists_addAll all

/-- Drafts of well-formed judgments are all built, by induction on the drafts. -/
theorem exists_build {drafts : List RuleDraft} (valid : ∀ draft ∈ drafts, draft.Valid)
    : ∃ rules, build drafts = .ok rules ∧ rules.map Rule.toRuleDraft = drafts := by
  induction drafts with
  | nil => exact ⟨[], rfl, rfl⟩
  | cons draft rest ih =>
      obtain ⟨rule, first, kept⟩ := (valid draft List.mem_cons_self).exists_ofDraft
      obtain ⟨rules, built, all⟩ :=
        ih fun other member => valid other (List.mem_cons_of_mem _ member)
      rw [build] at built
      refine ⟨rule :: rules, ?_, by simp [kept, all]⟩
      rw [build, List.mapM_cons, first, built]
      rfl

/-- Drafts of well-formed judgments and of different names make up a rulebook. -/
theorem exists_declare? {drafts : List RuleDraft} (valid : ∀ draft ∈ drafts, draft.Valid)
    (distinct : (drafts.map RuleDraft.name).Nodup)
    : ∃ book, empty.declare? drafts = .ok book ∧ book.toList.map Rule.toRuleDraft = drafts := by
  obtain ⟨rules, built, kept⟩ := exists_build valid
  have names : (rules.map (fun rule => rule.name)).Nodup := by
    rw [← kept, List.map_map] at distinct
    exact distinct
  obtain ⟨book, declared, listed⟩ := exists_ofRules names
  rw [ofRules] at declared
  exact ⟨book, by rw [declare?, built, Except.bind, declared], by rw [listed, kept]⟩

-----------------------------------------------------------------------------------------
-- What a rulebook tells
-----------------------------------------------------------------------------------------

/-- A rulebook tells of exactly the accepted rules, by its list, by both ways to look rules up, and
by its families in order. No index holds a position that is out of range.
-/
structure Represents (book : Rulebook) (accepted : List Rule) : Prop where
  listed : book.toList = accepted
  distinct : (accepted.map (fun rule => rule.name)).Nodup
  get? : ∀ name rule, book.get? name = some rule ↔ rule ∈ accepted ∧ rule.name = name
  contains : ∀ name, book.contains name = true ↔ ∃ rule ∈ accepted, rule.name = name
  candidates
    : ∀ family, book.candidates family = accepted.filter (fun rule => rule.family = family)
  sorted : book.families.Pairwise (fun f g => compare f g = .lt)
  families : ∀ family, family ∈ book.families ↔ ∃ rule ∈ accepted, rule.family = family
  named : ∀ (name : Symbol) (i : Nat), book.byName[name]? = some i → i < book.rules.size
  grouped
    : ∀ (family : Family) (positions : Array Nat), book.byFamily[family]? = some positions
      → ∀ i ∈ positions, i < book.rules.size

theorem represents_toList (book : Rulebook) : book.Represents book.toList where
  listed := rfl
  distinct := book.names_nodup
  get? _ _ := get?_eq_some_iff
  contains _ := contains_iff
  candidates := book.candidates_eq
  sorted := Std.TreeMap.ordered_keys
  families family := by
    rw [Rulebook.families, Std.TreeMap.mem_keys, book.indexed.known]
    simp [toList]
  named name i position := by
    obtain ⟨rule, found, _⟩ := (book.indexed.name name i).mp position
    exact (Array.getElem?_eq_some_iff.mp found).1
  grouped family positions stored i member := by
    refine book.indexed.position family i ?_
    rw [Std.TreeMap.getD_eq_getD_getElem?, stored]
    exact member

-----------------------------------------------------------------------------------------
-- Sequences of declarations
-----------------------------------------------------------------------------------------

/-- The rulebook after an attempt to declare a rule, whatever came of it. -/
def offer (book : Rulebook) (rule : Rule) : Rulebook := (book.add rule).1

/-- The rulebook after attempts to declare the rules of a list in order. -/
def offerAll (book : Rulebook) (rules : List Rule) : Rulebook := rules.foldl offer book

theorem offer_of_known {book : Rulebook} {rule : Rule} (known : book.contains rule.name = true)
    : book.offer rule = book := by
  rcases book.add_cases rule with ⟨_, refused⟩ | ⟨unknown, _⟩
  · rw [offer, refused]
  · rw [known] at unknown
    cases unknown

theorem toList_offer_of_unknown {book : Rulebook} {rule : Rule}
    (unknown : book.contains rule.name = false)
    : (book.offer rule).toList = book.toList ++ [rule] := by
  rcases book.add_cases rule with ⟨known, _⟩ | ⟨_, next, added, listed⟩
  · rw [unknown] at known
    cases known
  · rw [offer, added]
    exact listed

theorem contains_offer (book : Rulebook) (rule : Rule) (name : Symbol)
    : (book.offer rule).contains name = (book.contains name || rule.name = name) := by
  cases known : book.contains rule.name with
  | true =>
      rw [offer_of_known known]
      by_cases same : rule.name = name
      · rw [← same, known, Bool.true_or]
      · simp [same]
  | false =>
      rw [Bool.eq_iff_iff, Bool.or_eq_true, decide_eq_true_eq, contains_iff, contains_iff,
        toList_offer_of_unknown known]
      simp [or_and_right, exists_or]

/-- Of the rules offered to a rulebook, those are added that are the first of their name and whose
name was not taken before, by induction on the offers.
-/
theorem toList_offerAll (book : Rulebook) (rules : List Rule)
    : (book.offerAll rules).toList
      = book.toList ++ (Rule.firstOfName rules).filter (fun rule => !book.contains rule.name) := by
  induction rules generalizing book with
  | nil => simp [offerAll, Rule.firstOfName]
  | cons rule rest ih =>
      have step : book.offerAll (rule :: rest) = (book.offer rule).offerAll rest := rfl
      have unknown : ∀ other : Rule,
          (!(book.offer rule).contains other.name)
          = (!book.contains other.name && decide (other.name ≠ rule.name)) := by
        intro other
        simp [contains_offer, eq_comm]
      rw [step, ih, Rule.firstOfName, List.filter_cons, List.filter_filter]
      simp only [unknown]
      cases known : book.contains rule.name with
      | true => simp [offer_of_known known]
      | false => simp [toList_offer_of_unknown known]

/-- Whatever rules are offered to an empty rulebook, it tells of the first rule of each name. The
next rule offered is refused exactly when a rule of its name has been accepted, and then the
rulebook stays as it is; any other rule becomes the last one.
-/
theorem offerAll_represents (rules : List Rule)
    : let book := empty.offerAll rules
      let accepted := Rule.firstOfName rules
      book.Represents accepted
      ∧ ∀ rule,
          ((∃ earlier ∈ accepted, earlier.name = rule.name)
            ∧ book.add rule = (book, .error (.duplicateRule rule.name))
            ∧ empty.offerAll (rules ++ [rule]) = book)
          ∨ ((∀ earlier ∈ accepted, earlier.name ≠ rule.name)
            ∧ ∃ next,
                book.add rule = (next, .ok ())
                ∧ empty.offerAll (rules ++ [rule]) = next
                ∧ next.Represents (accepted ++ [rule])) := by
  intro book accepted
  have listed : book.toList = accepted := by
    have none : empty.toList = [] := rfl
    have unknown : ∀ name, empty.contains name = false := fun _ => rfl
    rw [toList_offerAll, none, List.nil_append]
    simp [unknown, accepted]
  have represents : book.Represents accepted := listed ▸ book.represents_toList
  refine ⟨represents, fun rule => ?_⟩
  have offered : empty.offerAll (rules ++ [rule]) = book.offer rule := by
    simp [book, offerAll]
  rcases book.add_cases rule with ⟨known, refused⟩ | ⟨unknown, next, added, extended⟩
  · refine Or.inl ⟨(represents.contains rule.name).mp known, refused, ?_⟩
    rw [offered, offer_of_known known]
  · refine Or.inr ⟨fun earlier member named => ?_, next, added, ?_, ?_⟩
    · rw [(represents.contains rule.name).mpr ⟨earlier, member, named⟩] at unknown
      cases unknown
    · rw [offered, offer, added]
    · rw [← listed, ← extended]
      exact next.represents_toList

end Rulebook

end Backchain
